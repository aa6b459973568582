import ControlPlane.Autonomy.ExternalSessions

/-!
# Whose session a frame can touch

Sessions have two keys: the worker, and the session id that the worker chooses. Opening
a session under the id of another worker's row replaces that row.
-/

namespace ControlPlane.Autonomy

open Data Interleaving

/-- Every check of `authenticate_session`: the frame is well formed, its worker is trusted, its
challenge is open and answered, it is signed, and no other session of the worker is alive. -/
structure SessionPasses (crypto : Crypto) (g : ExternalGateway) (db : ExternalDb) (frame : Frame) (n : ℚ)
    (p : VerifiedProfile) (session cid : Identifier) (limit : Int) : Prop where
  keys : (∀ entry ∈ frame, entry.1 ∈ sessionKeys) ∧ ∀ k ∈ sessionKeys, ∃ entry ∈ frame, entry.1 = k
  worker : frame.get "worker_id" = .str p.workerId.1
  key : frame.get "key_id" = .str p.keyId.1
  sessionId : frame.get "session_id" = .str session.1
  challengeId : frame.get "challenge_id" = .str cid.1
  trusted : Trusted g db p
  protocol : frame.states "protocol_version" af05Protocol
  profileDigest : frame.states "profile_digest" p.digest
  capacity : frame.get "capacity" = .int limit ∧ 0 ≤ limit ∧ limit ≤ p.maxCapacity
  challenge : ∃ c nonce, db.challenges.find? cid.1 = some c ∧
    (frame.get "nonce").str?.bind crypto.decodeBase64 = some nonce ∧ c.answered crypto p.workerId p.keyId p frame nonce n
  signed : verify crypto p .session frame = .ok ()
  untaken : ¬ ∃ s ∈ db.sessions.find? p.workerId.1, s.sessionId ≠ session.1 ∧ s.state = .authenticated ∧
    n - s.lastHeartbeat ≤ p.heartbeatSla

/-- The frame passes the checks of `authenticate_session`, and its session id is that of
another worker's row. -/
def Displaces (crypto : Crypto) (w : ExternalWorld) (c : ExternalCall) : Prop :=
  ∃ frame now g n p session cid limit, c = .authenticateSession (.dict frame) now ∧ w.gateway = some g ∧ now.clock? = some n ∧
    SessionPasses crypto g w.db frame n p session cid limit ∧
    ∃ s ∈ w.db.sessions.rows, s.workerId ≠ p.workerId.1 ∧ s.sessionId = session.1

section

variable {crypto : Crypto} {g : ExternalGateway} {db db' : ExternalDb} {frame : Frame} {n : ℚ} {p : VerifiedProfile}
  {session cid : Identifier} {limit : Int} {now : PyFloat} {value : Json} {r : SessionRequest}

/-! ### The checks let through what they say -/

theorem frameOf_dict {keys : List String} {e : Err}
    (exactly : (∀ entry ∈ frame, entry.1 ∈ keys) ∧ ∀ k ∈ keys, ∃ entry ∈ frame, entry.1 = k) :
    frameOf (.dict frame) keys e = .ok frame := if_pos exactly

theorem Trusted.get (trusted : Trusted g db p) : g.registry.get (.str p.workerId.1) = .ok p := by
  have known : (g.registry.profiles.find? fun q => q.workerId = p.workerId).isSome := by
    rw [List.find?_isSome]
    exact ⟨p, trusted.enrolled, by simp⟩
  obtain ⟨q, found⟩ := Option.isSome_iff_exists.mp known
  have same : q.workerId = p.workerId := by simpa using List.find?_some found
  obtain rfl := List.inj_on_of_nodup_map g.registry.unique (List.mem_of_find?_eq_some found) trusted.enrolled same
  unfold Registry.get
  refine bind_ok.mpr ⟨q.workerId, identifier_str .., found_bind_ok.mpr ⟨q, found, require_bind_ok.mpr ⟨?_, rfl⟩⟩⟩
  exact ⟨trusted.enabled, Bool.eq_false_iff.mp trusted.unrevoked⟩

theorem Trusted.returns (trusted : Trusted g db p) : externals.Returns (g.trusted (.str p.workerId.1)) db db p := by
  simp only [ExternalGateway.trusted, Machine.returns_bind, Machine.returns_lift, returns_sql, GatewayStmt.perform,
    Machine.returns_pure, Prod.mk.injEq, Except.ok.injEq, and_assoc, exists_const, exists_and_left, exists_eq_left,
    exists_eq_left', require_ok, trusted.get]
  obtain ⟨row, found, enabled, unrevoked, digest, key⟩ := trusted.durable
  exact ⟨⟨row, found, enabled, Bool.eq_false_iff.mp unrevoked, digest, key⟩, trivial, trivial⟩

theorem SessionPasses.returns (passes : SessionPasses crypto g db frame n p session cid limit) (clock : now.clock? = some n) :
    ∃ r, externals.Returns (g.requestSession crypto (.dict frame) now) db db r ∧ r.challengeId = cid ∧ r.time = n ∧
      r.row.workerId = p.workerId.1 ∧ r.row.sessionId = session.1 ∧ r.worker.heartbeatSla = .fin p.heartbeatSla := by
  simp only [ExternalGateway.requestSession, Machine.returns_bind, Machine.returns_lift, returns_external_now, returns_sql,
    GatewayStmt.perform, Machine.returns_pure, Prod.mk.injEq, Except.ok.injEq, and_assoc, exists_const, exists_and_left,
    exists_eq_left, exists_eq_left', require_ok, found_ok]
  obtain ⟨c, nonce, found, decoded, answered⟩ := passes.challenge
  refine ⟨_, ⟨frame, frameOf_dict passes.keys, n, clock, p.workerId, ?_, p.keyId, ?_, session, ?_, cid, ?_, db, p,
    passes.trusted.returns, rfl, passes.protocol, passes.profileDigest, limit, ?_, passes.capacity.2.1, passes.capacity.2.2,
    nonce, decoded, ⟨c, found, answered⟩, (), passes.signed, passes.untaken, rfl, rfl⟩, rfl, rfl, rfl, rfl, rfl⟩
  · rw [passes.worker, identifier_str]
  · rw [passes.key, identifier_str]
  · rw [passes.sessionId, identifier_str]
  · rw [passes.challengeId, identifier_str]
  · rw [passes.capacity.1]
    rfl

theorem passes_of_returns (returned : externals.Returns (g.requestSession crypto value now) db db' r) :
    db' = db ∧ ∃ frame n p session limit, value = .dict frame ∧ now.clock? = some n ∧
      SessionPasses crypto g db frame n p session r.challengeId limit ∧ r.time = n ∧ r.row.workerId = p.workerId.1 ∧
      r.row.sessionId = session.1 := by
  simp only [ExternalGateway.requestSession, Machine.returns_bind, Machine.returns_lift, returns_external_now, returns_sql,
    GatewayStmt.perform, Machine.returns_pure, Prod.mk.injEq, Except.ok.injEq, and_assoc, exists_const, exists_and_left,
    exists_eq_left, exists_eq_left', require_ok, found_ok] at returned
  obtain ⟨frame, shape, n, clock, worker, named, key, keyed, session, sided, challengeId, cided, db₁, p, trusted, rfl,
    protocol, profileDigest, capacity, counted, positive, bounded, nonce, decoded, ⟨c, found, answered⟩, _, signed, untaken,
    rfl, rfl⟩ := returned
  obtain ⟨rfl, rfl, known⟩ := returns_trusted_id trusted
  refine ⟨rfl, frame, n, p, session, capacity, frameOf_ok shape, clock, ?_, rfl, rfl, rfl⟩
  exact {
    keys := frameOf_keys shape
    worker := identifier_ok named, key := identifier_ok keyed, sessionId := identifier_ok sided
    challengeId := identifier_ok cided, trusted := known, protocol, profileDigest
    capacity := ⟨Json.int?_some counted, positive, bounded⟩, challenge := ⟨c, nonce, found, decoded, answered⟩
    signed, untaken }

/-! ### What the call then does -/

theorem steady_sql {α : Type} {s : GatewayStmt α} (h : ∀ x y db, s.perform x db = s.perform y db) :
    externals.Steady (External.sql s) := Procedure.all_ask h

theorem steady_trusted {worker : Json} : externals.Steady (g.trusted worker) :=
  .bind (Procedure.all_lift _) fun _ => .bind (steady_sql fun _ _ _ => rfl) fun _ =>
    .bind (Procedure.all_lift _) fun _ => Procedure.all_pure _

theorem steady_requestSession : externals.Steady (g.requestSession crypto value now) := by
  unfold ExternalGateway.requestSession External.now
  repeat' first
    | exact Procedure.all_lift _
    | exact Procedure.all_pure _
    | exact steady_trusted
    | exact steady_sql fun _ _ _ => rfl
    | refine Procedure.All.bind ?_ fun _ => ?_

/-- Once the checks have passed, the transaction commits. -/
theorem SessionPasses.commits (passes : SessionPasses crypto g db frame n p session cid limit) (row : SessionRow)
    {worker : WorkerRow} (sla : worker.heartbeatSla = .fin p.heartbeatSla) :
    ∃ after, db.authenticate cid.1 n row worker = .ok after ∧
      after.sessions = db.sessions.replace row fun s => s.sessionId = row.sessionId := by
  obtain ⟨c, nonce, found, _, answered⟩ := passes.challenge
  have counted : db.challenges.rowcount (ExternalDb.open_ cid.1 n) = 1 := by
    rw [Table.rowcount_key fun r open_ => open_.1, if_pos]
    exact ⟨c, found, (Table.find?_some.mp found).2, answered.1, answered.2.1, answered.2.2.2.2.2.2.2.2.2.1⟩
  have number : worker.heartbeatSla ≠ .nan := by
    rw [sla]
    exact nofun
  have registered : ∃ store, upsertWorker worker db.store = .ok (store, .ok ()) := ⟨_, require_bind_ok.mpr ⟨number, rfl⟩⟩
  obtain ⟨store, registered⟩ := registered
  exact ⟨_, require_bind_ok.mpr ⟨counted, bind_ok.mpr ⟨_, registered, rfl⟩⟩, rfl⟩

/-- However the call ends, it has replaced the rows of its worker and of its session id. -/
theorem SessionPasses.replaces {answer : Answer Unit} (passes : SessionPasses crypto g db frame n p session cid limit)
    (clock : now.clock? = some n) (ends : externals.Ends (g.authenticateSession crypto (.dict frame) now).run db db' answer) :
    ∃ row : SessionRow, row.workerId = p.workerId.1 ∧ row.sessionId = session.1 ∧
      db'.sessions = db.sessions.replace row fun s => s.sessionId = row.sessionId := by
  obtain ⟨r, returned, sameChallenge, sameTime, worker, sid, sla⟩ := passes.returns clock
  obtain ⟨after, committed, sessions⟩ := passes.commits r.row sla
  refine ⟨r.row, worker, sid, ?_⟩
  obtain ⟨db₁, r', first, rest⟩ := Machine.ends_bind.mp ends
  obtain ⟨rfl, rfl⟩ := steady_requestSession.unique first returned
  obtain ⟨x, ran⟩ := Machine.ends_ask.mp rest
  change update db₁ (db₁.authenticate r.challengeId.1 r.time r.row r.worker) = _ at ran
  rw [sameChallenge, sameTime, committed] at ran
  rw [← (Prod.mk.inj ran).1, sessions]

/-- A frame of a worker touches the session of another only by the id it asks for. -/
theorem call_apart {c : ExternalCall} {next : Pending ExternalStmt} {other : String} (sent : c.frame? = some value)
    (apart : value.field "worker_id" ≠ .str other) (cut : externals.Cut (c.procedure crypto g) db db' next) :
    db'.sessions.find? other = db.sessions.find? other ∨ ∃ frame now n p session cid limit,
      c = .authenticateSession (.dict frame) now ∧ now.clock? = some n ∧
      SessionPasses crypto g db frame n p session cid limit ∧
      ∃ s ∈ db.sessions.rows, s.workerId ≠ p.workerId.1 ∧ s.sessionId = session.1 := by
  cases c with
  | authenticateSession value' now =>
    cases sent
    rcases reads_requestSession.cut_write (Machine.cut_then_pure.mp cut) with rfl | ⟨r, returned, _, written⟩
    · exact .inl rfl
    obtain ⟨_, frame, n, p, session, limit, rfl, clock, passes, _, worker, sid⟩ := passes_of_returns returned
    obtain ⟨_, store, _, rfl⟩ := written
    rw [Table.find?_replace, worker, if_neg fun same => apart (passes.worker.trans (congrArg Json.str same))]
    cases found : db.sessions.find? other with
    | none => exact .inl rfl
    | some s =>
      obtain ⟨member, named⟩ := Table.find?_some.mp found
      rw [Option.filter_some]
      split
      · exact .inl rfl
      · rename_i clash
        refine .inr ⟨frame, now, n, p, session, r.challengeId, limit, rfl, clock, passes, s, member, ?_, ?_⟩
        · exact fun same => apart (passes.worker.trans (congrArg Json.str (same.symm.trans named)))
        · rw [← sid]
          simpa using clash
  | acceptProviderStatus => exact .inl (by rw [(confined_call _).sessions cut (by simp [ExternalCall.writes])])
  | heartbeat | acknowledge | result =>
    cases sent
    have move := call_session cut other
    generalize db'.sessions.find? other = after at move ⊢
    cases move with
    | kept => exact .inl rfl
    | advanced same admitted own =>
      cases same
      refine absurd ?_ apart
      rw [admitted.shape, ← own]
      exact admitted.worker
    | opened impossible => cases impossible
    | dropped impossible => cases impossible
    | revoked impossible => cases impossible
  | _ => cases sent

/-- A frame leaves the session of every other worker alone, exactly when it does not pass the
checks of `authenticate_session` under the session id of another worker's row. -/
theorem sessions_isolated {w w' : ExternalWorld} {c : ExternalCall} {answer : Answer Reply}
    (step : ExternalStep crypto w (.call c answer) w') (sent : c.frame? = some value) :
    (∀ other, value.field "worker_id" ≠ .str other → w'.db.sessions.find? other = w.db.sessions.find? other) ↔
      ¬ Displaces crypto w c := by
  cases step with
  | @call g db db' c answer ends =>
    constructor
    · rintro untouched ⟨frame, now, g', n, p, session, cid, limit, rfl, running, clock, passes, s, member, other, clash⟩
      cases sent
      cases running
      obtain ⟨r, ends, _⟩ := ends_done ends
      obtain ⟨row, worker, sid, sessions⟩ := passes.replaces clock ends
      have same : db'.sessions.find? s.workerId = db.sessions.find? s.workerId :=
        untouched s.workerId fun same => other (Json.str.inj (same.symm.trans passes.worker))
      rw [sessions, Table.find?_replace, worker, if_neg (Ne.symm other), Table.find?_some.mpr ⟨member, rfl⟩,
        Option.filter_some, if_neg (by simp [clash, sid])] at same
      cases same
    · intro alone other apart
      rcases call_apart sent apart ends.stops with same | ⟨frame, now, n, p, session, cid, limit, rfl, clock, passes, displaced⟩
      · exact same
      · exact absurd ⟨frame, now, g, n, p, session, cid, limit, rfl, rfl, clock, passes, displaced⟩ alone

end

namespace Sample

/-- Worker `v` opens a session under the id of worker `w`'s. -/
def rivals : List (Option ExternalAct) :=
  connect ++
  [some <| .call (.issueChallenge (.str "v") (.str "l") (.fin 12)) [{}, { nonce := nonce 'd' }],
   some <| .call (.authenticateSession (answerFrame "v" "l" "7335c405b97bc48a298d5718e3a54cd5127797d68849bd92db7686c4d6b30562"
     "ZGRkZGRkZGRkZGRkZGRkZGRkZGRkZGRkZGRkZGRkZGQ=" "86868d12ef32364b4d218c9de84b7abd1fc4cccbdd354219161d973a553a7143"
     "s" 12 "vI6cXpyRC/ryVAbFTIoexZXUg9oJ4OHpG46lloqUMHquA8CwCgNs7w4lvDEUZKi9qjEGBSlTjoDadbyXLmRgDQ==")
     (.fin 13)) []]

/-- The step is a frame of worker `v`, and the session of worker `w` is another after it. -/
def displacesW (t : ExternalTransition) : Bool :=
  match t.label with
  | .call c _ => c.frame?.any (fun value => (value.field "worker_id").str? = some "v") ∧
      t.after.db.sessions.find? "w" ≠ t.before.db.sessions.find? "w"
  | _ => false

theorem displaces_w {t : ExternalTransition} (displaces : displacesW t = true) : ∃ c answer value, t.label = .call c answer ∧
    c.frame? = some value ∧ value.field "worker_id" = .str "v" ∧
    t.after.db.sessions.find? "w" ≠ t.before.db.sessions.find? "w" := by
  unfold displacesW at displaces
  split at displaces
  · rename_i c answer label
    obtain ⟨sent, moved⟩ := of_decide_eq_true displaces
    obtain ⟨value, sent, own⟩ := (Option.any_eq_true _ _).mp sent
    exact ⟨c, answer, value, label, sent, Json.str?_some (of_decide_eq_true own), moved⟩
  · cases displaces

theorem rivals_displace : ∃ t ∈ (played rivals).1, displacesW t = true := by
  have last : (played rivals).1.any displacesW = true := by decide +kernel
  exact List.any_eq_true.mp last

end Sample

theorem sessions_isolated_rivals : ∃ t ∈ (Sample.played Sample.rivals).1, ∃ c answer value,
    t.label = .call c answer ∧ c.frame? = some value ∧
      ((∀ other, value.field "worker_id" ≠ .str other → t.after.db.sessions.find? other = t.before.db.sessions.find? other) ↔
        ¬ Displaces Sample.crypto t.before c) := by
  obtain ⟨t, member, displaces⟩ := Sample.rivals_displace
  obtain ⟨c, answer, value, label, sent, _⟩ := Sample.displaces_w displaces
  have step := (Sample.played_history Sample.rivals).moved t member
  rw [label] at step
  exact ⟨t, member, c, answer, value, label, sent, sessions_isolated step sent⟩

theorem sessions_not_isolated : ∃ past w, ExternalHistory Sample.crypto ⟨.empty, none⟩ past w ∧ ∃ t ∈ past, ∃ c answer value,
    t.label = .call c answer ∧ c.frame? = some value ∧
      ¬ ∀ other, value.field "worker_id" ≠ .str other → t.after.db.sessions.find? other = t.before.db.sessions.find? other := by
  obtain ⟨t, member, displaces⟩ := Sample.rivals_displace
  obtain ⟨c, answer, value, label, sent, own, moved⟩ := Sample.displaces_w displaces
  refine ⟨_, _, Sample.played_history Sample.rivals, t, member, c, answer, value, label, sent, fun isolated => ?_⟩
  exact moved (isolated "w" (by rw [own]; simp))

end ControlPlane.Autonomy
