import ControlPlane.Autonomy.ExternalCalls

/-!
# What a call of the external gateways has done

Wherever a call ends or is cut: the checks it has passed, and the statements it has
run since. What its checks looked at is the database it started from.
-/

namespace ControlPlane.Autonomy

open Data Interleaving

section

variable {α β : Type} {db db' : ExternalDb} {next : Pending ExternalStmt} {roles : List Role} {p : External α} {now : PyFloat}
  {n : ℚ}

/-! ### Statements and prefixes -/

theorem cut_sql {s : GatewayStmt α} (cut : externals.Cut (External.sql s) db db' next) :
    db' = db ∨ next = none ∧ Written db s db' := by
  rcases Machine.cut_ask.mp cut with ⟨same, _⟩ | ⟨ended, x, performedAs⟩
  · exact .inl same
  · have written := performed s x db
    rw [show (s.perform x db).1 = db' from performedAs] at written
    exact written.imp_right fun written => ⟨ended, written⟩

/-- A call that reads, and then writes once. -/
theorem Reads.cut_write {s : α → GatewayStmt β} (reads : Reads p)
    (cut : externals.Cut (p >>= fun a => External.sql (s a)) db db' next) :
    db' = db ∨ ∃ a, externals.Returns p db db a ∧ next = none ∧ Written db (s a) db' := by
  rcases reads.still.cut_bind cut with same | ⟨a, returned, last⟩
  · exact .inl same
  · exact (cut_sql last).imp_right fun ⟨ended, written⟩ => ⟨a, returned, ended, written⟩

/-- A statement that may write, and what follows it. -/
theorem cut_sql_bind {s : GatewayStmt α} {k : α → External β} (cut : externals.Cut (External.sql s >>= k) db db' next) :
    ∃ db₁, (db₁ = db ∨ Written db s db₁) ∧ (db' = db₁ ∨ ∃ a, externals.Cut (k a) db₁ db' next) := by
  rcases Machine.cut_bind.mp cut with ⟨_, rfl, within⟩ | ⟨_, _, raised⟩ | ⟨db₁, a, returned, rest⟩
  · exact ⟨db', (cut_sql within).imp_right And.right, .inl rfl⟩
  · exact ⟨db', (cut_sql raised.stops).imp_right And.right, .inl rfl⟩
  · exact ⟨db₁, (cut_sql returned.stops).imp_right And.right, .inr ⟨a, rest⟩⟩

/-- A statement whose failure is caught, with nothing written after it. -/
theorem cut_attempt {s : GatewayStmt α} {k : Answer α → External β}
    (quiet : ∀ r db db', externals.Cut (k r) db db' next → db' = db)
    (cut : externals.Cut ((External.sql s).attempt >>= k) db db' next) : db' = db ∨ Written db s db' := by
  rcases Machine.cut_bind.mp cut with ⟨_, rfl, within⟩ | ⟨_, _, raised⟩ | ⟨db₁, r, ⟨x, rfl, _⟩, rest⟩
  · rcases within with ⟨same, _⟩ | ⟨_, _, impossible⟩
    · exact .inl same
    · cases impossible
  · obtain ⟨_, _, impossible⟩ := raised
    cases impossible
  · obtain rfl := quiet r _ _ rest
    exact performed s x db

@[simp] theorem returns_sql {s : GatewayStmt α} {a : α} :
    externals.Returns (External.sql s) db db' a ↔ ∃ x, s.perform x db = (db', .ok a) := Machine.returns_ask

@[simp] theorem returns_external_now : externals.Returns (External.now now) db db' n ↔ db' = db ∧ now.clock? = some n := by
  unfold External.now
  rw [Machine.returns_lift, found_ok]

/-- A method of the store, run on the gateway's connection. -/
theorem ends_store {p : Store α} {r : Answer α} (ends : externals.Ends (External.store p).run db db' r) :
    connections.Ends p.run db.store db'.store r ∧ db' = { db with store := db'.store } := by
  suffices general : ∀ (q : Program Err Stmt (Answer α)) (db : ExternalDb),
      externals.Ends (q.interp fun s => (Procedure.ask (.inl s) : External _).run) db db' r →
        connections.Ends q db.store db'.store r ∧ db' = { db with store := db'.store } from general p.run db ends
  intro q
  induction q with
  | pure a =>
    rintro db ⟨rfl, rfl⟩
    exact ⟨⟨rfl, rfl⟩, rfl⟩
  | call s next ih =>
    rintro db ⟨x, ends⟩
    obtain ⟨stored, same⟩ := ih _ _ ends
    refine ⟨⟨{ x.toInput with busy := false }, ?_⟩, same⟩
    have free : connections.exec s { x.toInput with busy := false } db.store = perform s x.toInput db.store := by
      cases s <;> rfl
    rw [free]
    exact stored

end

/-! ### What the checks say -/

/-- `_trusted` knows the worker, in memory and in the database. -/
structure Trusted (g : ExternalGateway) (db : ExternalDb) (p : VerifiedProfile) : Prop where
  enrolled : p ∈ g.registry.profiles
  enabled : p.enabled = true
  unrevoked : p.revoked = false
  durable : ∃ row, db.profiles.find? p.workerId.1 = some row ∧ row.enabled = true ∧ row.revoked = false ∧
    row.profileDigest = p.digest ∧ row.keyId = p.keyId.1

section

variable {crypto : Crypto} {g : ExternalGateway} {db db' : ExternalDb} {now : PyFloat} {value : Json} {d : Domain}

theorem registry_get {r : Registry} {worker : Json} {p : VerifiedProfile} (got : r.get worker = .ok p) :
    p ∈ r.profiles ∧ worker = .str p.workerId.1 ∧ p.enabled = true ∧ p.revoked = false := by
  simp only [Registry.get] at got
  obtain ⟨id, named, got⟩ := bind_ok.mp got
  simp only [found_bind_ok, require_bind_ok, pure_ok] at got
  obtain ⟨p', there, ⟨enabled, unrevoked⟩, rfl⟩ := got
  have same : p'.workerId = id := by simpa using List.find?_some there
  exact ⟨List.mem_of_find?_eq_some there, same ▸ identifier_ok named, enabled, Bool.eq_false_iff.mpr unrevoked⟩

theorem returns_trusted {worker : Json} {p : VerifiedProfile}
    (returned : externals.Returns (g.trusted worker) db db' p) :
    db' = db ∧ worker = .str p.workerId.1 ∧ Trusted g db p := by
  simp only [ExternalGateway.trusted, Machine.returns_bind, Machine.returns_lift, returns_sql, GatewayStmt.perform,
    Machine.returns_pure, Prod.mk.injEq, Except.ok.injEq, and_assoc, exists_const, exists_and_left, exists_eq_left,
    exists_eq_left', require_ok] at returned
  obtain ⟨p', got, ⟨row, found, enabled, unrevoked, digest, key⟩, rfl, rfl⟩ := returned
  obtain ⟨enrolled, same, active, open_⟩ := registry_get got
  exact ⟨rfl, same, enrolled, active, open_, row, found, enabled, Bool.eq_false_iff.mpr unrevoked, digest, key⟩

/-- The same of a worker id that was read already. -/
theorem returns_trusted_id {worker : Identifier} {p : VerifiedProfile}
    (returned : externals.Returns (g.trusted (.str worker.1)) db db' p) : db' = db ∧ p.workerId = worker ∧ Trusted g db p := by
  obtain ⟨same, named, known⟩ := returns_trusted returned
  exact ⟨same, Subtype.ext (Json.str.inj named).symm, known⟩

theorem frameOf_ok {keys : List String} {e : Err} {frame : Frame} (read : frameOf value keys e = .ok frame) :
    value = .dict frame := by
  unfold frameOf at read
  split at read
  · split at read
    · cases read
      rfl
    · cases read
  · cases read

theorem frameOf_keys {keys : List String} {e : Err} {frame : Frame} (read : frameOf value keys e = .ok frame) :
    (∀ entry ∈ frame, entry.1 ∈ keys) ∧ ∀ k ∈ keys, ∃ entry ∈ frame, entry.1 = k := by
  obtain rfl := frameOf_ok read
  by_contra missing
  cases (if_neg missing).symm.trans read

/-- A frame that `_message` has let through. -/
structure Admitted (crypto : Crypto) (g : ExternalGateway) (d : Domain) (db : ExternalDb) (value : Json) (now : PyFloat)
    (m : Message) : Prop where
  shape : value = .dict m.frame
  keys : (∀ entry ∈ m.frame, entry.1 ∈ messageKeys d) ∧ ∀ k ∈ messageKeys d, ∃ entry ∈ m.frame, entry.1 = k
  clock : now.clock? = some m.time
  worker : m.frame.get "worker_id" = .str m.profile.workerId.1
  sessionId : m.frame.get "session_id" = .str m.session.sessionId
  messageId : m.frame.get "message_id" = .str m.messageId.1
  key : m.frame.get "key_id" = .str m.session.keyId
  protocol : m.frame.states "protocol_version" af05Protocol
  sequence : m.frame.get "sequence" = .int m.sequence
  observed : messageTime (m.frame.get "observed_at") (.blocked "invalid message time") = .ok m.observed
  past : ¬ m.observed > m.time + 1
  trusted : Trusted g db m.profile
  current : db.sessions.find? m.profile.workerId.1 = some m.session
  authenticated : m.session.state = .authenticated
  profileDigest : m.session.profileDigest = m.profile.digest
  newer : m.session.lastSequence < m.sequence
  fresh : db.messages.find? m.messageId.1 = none
  signed : verify crypto m.profile d m.frame = .ok ()

theorem returns_message {m : Message} (returned : externals.Returns (g.message crypto d value now) db db' m) :
    db' = db ∧ Admitted crypto g d db value now m := by
  simp only [ExternalGateway.message, Machine.returns_bind, Machine.returns_lift, returns_external_now, returns_sql,
    GatewayStmt.perform, Machine.returns_pure, Prod.mk.injEq, Except.ok.injEq, and_assoc, exists_const, exists_and_left,
    exists_eq_left, exists_eq_left', require_ok, found_ok] at returned
  obtain ⟨frame, shape, n, clock, worker, named, key, keyed, sid, sided, mid, mided, db₁, p, trusted, observed, timed, session,
    current, authenticated, same, sameKey, profileDigest, protocol, sequence, counted, newer, past, fresh, _, signed, rfl,
    rfl⟩ := returned
  obtain ⟨rfl, rfl, known⟩ := returns_trusted_id trusted
  exact ⟨rfl, {
    shape := frameOf_ok shape, keys := frameOf_keys shape, clock, worker := identifier_ok named
    sessionId := same ▸ identifier_ok sided, messageId := identifier_ok mided, key := sameKey ▸ identifier_ok keyed, protocol
    sequence := Json.int?_some counted, observed := timed, past, trusted := known, current, authenticated, profileDigest, newer
    fresh := by simpa using fresh, signed }⟩

/-- A session frame that has passed the checks before the transaction. -/
structure Requested (crypto : Crypto) (g : ExternalGateway) (db : ExternalDb) (value : Json) (now : PyFloat)
    (r : SessionRequest) (frame : Frame) (p : VerifiedProfile) : Prop where
  shape : value = .dict frame
  clock : now.clock? = some r.time
  worker : frame.get "worker_id" = .str p.workerId.1
  sessionId : frame.get "session_id" = .str r.row.sessionId
  challengeId : frame.get "challenge_id" = .str r.challengeId.1
  trusted : Trusted g db p
  challenge : ∃ c nonce, db.challenges.find? r.challengeId.1 = some c ∧
    c.answered crypto p.workerId p.keyId p frame nonce r.time
  signed : verify crypto p .session frame = .ok ()
  row : ∃ capacity, r.row = {
    workerId := p.workerId.1, workerKind := p.workerKind.1, sessionId := r.row.sessionId, keyId := p.keyId.1
    fingerprint := p.fingerprint, profileDigest := p.digest, scope := authenticationScope, authenticatedAt := r.time
    lastSequence := 0, lastHeartbeat := r.time, capacity, state := .authenticated, lastMessageId := none }
  registered : r.worker.heartbeatSla = .fin p.heartbeatSla

theorem returns_requestSession {r : SessionRequest}
    (returned : externals.Returns (g.requestSession crypto value now) db db' r) :
    db' = db ∧ ∃ frame p, Requested crypto g db value now r frame p := by
  simp only [ExternalGateway.requestSession, Machine.returns_bind, Machine.returns_lift, returns_external_now, returns_sql,
    GatewayStmt.perform, Machine.returns_pure, Prod.mk.injEq, Except.ok.injEq, and_assoc, exists_const, exists_and_left,
    exists_eq_left, exists_eq_left', require_ok, found_ok] at returned
  obtain ⟨frame, shape, n, clock, worker, named, key, _, session, sided, challengeId, cided, db₁, p, trusted, rfl, _, _,
    capacity, _, _, _, nonce, _, ⟨c, found, answered⟩, _, signed, _, rfl, rfl⟩ := returned
  obtain ⟨rfl, rfl, known⟩ := returns_trusted_id trusted
  exact ⟨rfl, frame, p, {
    shape := frameOf_ok shape, clock, worker := identifier_ok named, sessionId := identifier_ok sided
    challengeId := identifier_ok cided, trusted := known, challenge := ⟨c, nonce, found, answered⟩, signed
    row := ⟨capacity, rfl⟩, registered := rfl }⟩

theorem oneOf_ok {texts : List String} {e : Err} {text : String} (known : oneOf value texts e = .ok text) :
    value = .str text ∧ text ∈ texts := by
  unfold oneOf at known
  split at known
  · split at known
    · rename_i listed
      obtain rfl := Except.ok.inj known
      exact ⟨rfl, listed⟩
    · cases known
  all_goals cases known

/-- A report that has passed the checks before the transaction. -/
structure Reported (crypto : Crypto) (g : ExternalGateway) (db : ExternalDb) (value : Json) (now : PyFloat)
    (row : ProviderRow) (n : ℚ) (frame : Frame) : Prop where
  shape : value = .dict frame
  keys : (∀ entry ∈ frame, entry.1 ∈ providerKeys) ∧ ∀ k ∈ providerKeys, ∃ entry ∈ frame, entry.1 = k
  clock : now.clock? = some n
  worker : frame.get "worker_id" = .str row.workerId
  key : frame.get "key_id" = .str row.keyId
  sessionId : frame.get "session_id" = .str row.sessionId
  messageId : frame.get "message_id" = .str row.lastMessageId
  observed : messageTime (frame.get "observed_at") (.blocked "invalid provider timestamp") = .ok row.observedAt
  sequence : frame.get "sequence" = .int row.sequence ∧ 0 < row.sequence
  protocol : frame.states "protocol_version" af06Protocol
  kind : frame.get "provider_kind" = .str row.providerKind ∧ row.providerKind ∈ [openaiKind, codexKind]
  model : frame.get "model" = .str row.model ∧ row.model ∈ allowedModels row.providerKind
  connection : frame.get "connection_state" = .str row.connectionState ∧ row.connectionState ∈ connectionStates
  scope : frame.states "attestation_scope" attestationScope ∧ row.attestationScope = attestationScope
  response : responseId (frame.get "provider_response_id") = .ok row.providerResponseId ∧
    (row.connectionState = connectedUnattested → row.providerResponseId ≠ none)
  trusted : ∃ p, p.workerId.1 = row.workerId ∧ p.keyId.1 = row.keyId ∧ Trusted g db p ∧
    (¬ row.observedAt > n + 1 ∧ ¬ n - row.observedAt > p.heartbeatSla) ∧ verifySignature crypto p.publicKey providerStatusDomain
      frame (.blocked "missing provider signature") (.blocked "invalid provider signature") = .ok ()
  current : ∃ s, db.sessions.find? row.workerId = some s ∧ s.state = .authenticated ∧ s.sessionId = row.sessionId ∧
    s.keyId = row.keyId

theorem returns_providerStatus {row : ProviderRow} {n : ℚ}
    (returned : externals.Returns (g.providerStatus crypto value now) db db' (row, n)) :
    db' = db ∧ ∃ frame, Reported crypto g db value now row n frame := by
  simp only [ExternalGateway.providerStatus, Machine.returns_bind, Machine.returns_lift, returns_external_now, returns_sql,
    GatewayStmt.perform, Machine.returns_pure, Prod.mk.injEq, Except.ok.injEq, and_assoc, exists_const, exists_and_left,
    exists_eq_left, exists_eq_left', require_ok, found_ok] at returned
  obtain ⟨frame, shape, n', clock, worker, named, key, keyed, session, sided, mid, mided, observed, timed, sequence, counted,
    positive, protocol, kind, kinded, model, modelled, connection, connected, scope, response, answered, proven, db₁, p,
    trusted, sameKey, ⟨s, current, authenticated, same, sessionKey⟩, future, stale, _, signed, rfl, rfl, rfl⟩ := returned
  obtain ⟨rfl, rfl, known⟩ := returns_trusted_id trusted
  exact ⟨rfl, frame, {
    shape := frameOf_ok shape, keys := frameOf_keys shape, clock, worker := identifier_ok named, key := identifier_ok keyed
    sessionId := identifier_ok sided, messageId := identifier_ok mided, observed := timed
    sequence := ⟨Json.int?_some counted, positive⟩, protocol, kind := oneOf_ok kinded, model := oneOf_ok modelled
    connection := oneOf_ok connected, scope := ⟨scope, rfl⟩, response := ⟨answered, proven⟩
    trusted := ⟨p, rfl, congrArg Subtype.val sameKey.symm, known, ⟨future, stale⟩, signed⟩
    current := ⟨s, current, authenticated, same, sessionKey⟩ }⟩

/-- The dispatch that a frame names, and is bound to. -/
structure Bound (db : ExternalDb) (frame : Frame) (row : DispatchRow) : Prop where
  found : db.dispatches.find? row.dispatchId = some row
  dispatchId : frame.get "dispatch_id" = .str row.dispatchId
  taskId : frame.get "task_id" = .str row.taskId
  workerId : frame.get "worker_id" = .str row.workerId
  sessionId : frame.get "session_id" = .str row.sessionId
  leaseId : frame.get "lease_id" = .str row.leaseId

theorem returns_bound {frame : Frame} {row : DispatchRow}
    (returned : externals.Returns (ExternalGateway.bound frame) db db' row) : db' = db ∧ Bound db frame row := by
  simp only [ExternalGateway.bound, Machine.returns_bind, Machine.returns_lift, returns_sql, GatewayStmt.perform,
    Machine.returns_pure, Prod.mk.injEq, Except.ok.injEq, and_assoc, exists_const, exists_and_left, exists_eq_left,
    exists_eq_left', require_ok, found_ok] at returned
  obtain ⟨id, named, row, known, task, worker, session, lease, rfl, rfl⟩ := returned
  obtain ⟨_, same⟩ := Table.find?_some.mp known
  refine ⟨rfl, same ▸ known, same ▸ identifier_ok named, Json.str?_some task, Json.str?_some worker, Json.str?_some session,
    Json.str?_some lease⟩

/-- A result that has passed its own checks. -/
structure Checked (crypto : Crypto) (db : ExternalDb) (m : Message) (row : DispatchRow) (evidenceId : Identifier)
    (digest : String) : Prop where
  acknowledged : row.acknowledged = true
  awaited : row.resultReceived = false
  ahead : ¬ row.leaseExpiresAt ≤ .fin m.time
  named : m.frame.get "evidence_id" = .str evidenceId.1
  bytes : ∃ bytes, db.spool evidenceId.1 = some bytes ∧ crypto.sha256 bytes = digest

theorem returns_checkResult {m : Message} {row : DispatchRow} {evidenceId : Identifier} {digest : String}
    (returned : externals.Returns (ExternalGateway.checkResult crypto m row) db db' (evidenceId, digest)) :
    db' = db ∧ Checked crypto db m row evidenceId digest := by
  simp only [ExternalGateway.checkResult, Machine.returns_bind, Machine.returns_lift, returns_sql, GatewayStmt.perform,
    Machine.returns_pure, Prod.mk.injEq, and_assoc, exists_const, exists_and_left, exists_eq_left, require_ok,
    found_ok, readEvidence, found_bind_ok, require_bind_ok, pure_ok] at returned
  obtain ⟨acknowledged, awaited, ahead, _, eid, named, text, _, _, _, rfl, bytes, ⟨_, file, _, same⟩, hashed, rfl, rfl,
    rfl⟩ := returned
  exact ⟨rfl, acknowledged, Bool.eq_false_iff.mpr awaited, ahead, identifier_ok named, bytes, same ▸ file, hashed⟩

end

/-! ### Accepting a frame -/

/-- The ledger's row of an accepted frame. -/
def Message.row (m : Message) (d : Domain) : MessageRow :=
  ⟨m.messageId.1, m.profile.workerId.1, m.session.sessionId, m.sequence, d, m.time⟩

/-- The session after `_accept`. -/
def Message.advance (m : Message) (beat : Option (ℚ × Int)) (s : SessionRow) : SessionRow :=
  { s with
    lastSequence := m.sequence, lastMessageId := some m.messageId.1
    lastHeartbeat := (beat.map (·.1)).getD s.lastHeartbeat, capacity := (beat.map (·.2)).getD s.capacity }

/-- The tables after `_accept`. -/
def ExternalDb.accept (db : ExternalDb) (m : Message) (beat : Option (ℚ × Int)) (messages : Table MessageRow MessageRow.messageId) :
    ExternalDb :=
  ExternalDb.updateSessions { db with messages } (fun s => s.workerId = m.profile.workerId.1) (m.advance beat) fun _ => rfl

/-- Between the two statements of `_accept`. -/
def advancing (m : Message) (beat : Option (ℚ × Int)) : Pending ExternalStmt :=
  some ⟨Unit, .inr (.advanceSession m.profile.workerId.1 m.sequence m.messageId.1 beat)⟩

section

variable {crypto : Crypto} {g : ExternalGateway} {db db' : ExternalDb} {now : PyFloat} {value : Json} {d : Domain}
  {m : Message} {beat : Option (ℚ × Int)} {next : Pending ExternalStmt} {u : Unit}

theorem ends_insertMessage {r : Answer Unit} (ends : externals.Ends (External.sql (.insertMessage (m.row d))).run db db' r) :
    (db' = db ∧ ∃ e, r = .error e) ∨
      ∃ messages, db.messages.insert? (m.row d) = some messages ∧ db' = { db with messages } ∧ r = .ok () := by
  obtain ⟨x, ran⟩ := Machine.ends_ask.mp ends
  change update db (db.insertMessage (m.row d)) = _ at ran
  cases r with
  | error e =>
    refine .inl ⟨?_, e, rfl⟩
    cases inserted : db.insertMessage (m.row d) with
    | error e =>
      rw [inserted] at ran
      exact (Prod.mk.inj ran).1.symm
    | ok after =>
      rw [inserted] at ran
      cases (Prod.mk.inj ran).2
  | ok u =>
    obtain ⟨_, messages, inserted, rfl⟩ := insertMessage_ok (update_ok.mp ran)
    exact .inr ⟨messages, inserted, rfl, rfl⟩

theorem cut_accept (cut : externals.Cut (ExternalGateway.accept m d beat) db db' next) :
    db' = db ∨ ∃ messages, db.messages.insert? (m.row d) = some messages ∧
      (db' = { db with messages } ∧ next = advancing m beat ∨ db' = db.accept m beat messages ∧ next = none) := by
  rcases Machine.cut_bind.mp cut with ⟨st, rfl, within⟩ | ⟨e, _, raised⟩ | ⟨db₁, _, returned, rest⟩
  · exact (cut_sql within).imp_right fun ⟨impossible, _⟩ => nomatch impossible
  · rcases ends_insertMessage raised with ⟨same, _⟩ | ⟨_, _, _, impossible⟩
    · exact .inl same
    · cases impossible
  · rcases ends_insertMessage returned with ⟨_, _, impossible⟩ | ⟨messages, inserted, rfl, _⟩
    · cases impossible
    · refine .inr ⟨messages, inserted, ?_⟩
      rcases Machine.cut_ask.mp rest with ⟨rfl, about⟩ | ⟨ended, _, advanced⟩
      · exact .inl ⟨rfl, about⟩
      · exact .inr ⟨advanced.symm, ended⟩

theorem returns_accept (returned : externals.Returns (ExternalGateway.accept m d beat) db db' u) :
    ∃ messages, db.messages.insert? (m.row d) = some messages ∧ db' = db.accept m beat messages := by
  obtain ⟨db₁, _, first, advanced⟩ := Machine.returns_bind.mp returned
  rcases ends_insertMessage first with ⟨_, _, impossible⟩ | ⟨messages, inserted, rfl, _⟩
  · cases impossible
  · obtain ⟨_, advanced⟩ := Machine.returns_ask.mp advanced
    exact ⟨messages, inserted, (Prod.mk.inj advanced).1.symm⟩

theorem raises_accept {e : Err} (raised : externals.Raises (ExternalGateway.accept m d beat) db db' e) : db' = db := by
  rcases Machine.raises_bind.mp raised with refused | ⟨db₁, _, _, refused⟩
  · rcases ends_insertMessage refused with ⟨same, _⟩ | ⟨_, _, _, impossible⟩
    · exact same
    · cases impossible
  · obtain ⟨_, refused⟩ := Machine.raises_ask.mp refused
    cases (Prod.mk.inj refused).2

/-- What is left of `acknowledge` and `result` once they have passed their checks: the
frame is accepted, the store's own statement runs, and the dispatch is marked. -/
inductive Settling (m : Message) (d : Domain) (st : Stmt Unit) (mark : GatewayStmt Unit) (db : ExternalDb) :
    ExternalDb → Pending ExternalStmt → Prop
  | untouched {next : Pending ExternalStmt} : Settling m d st mark db db next
  | recorded {messages} (inserted : db.messages.insert? (m.row d) = some messages) :
      Settling m d st mark db { db with messages } (advancing m none)
  | accepted {messages} (inserted : db.messages.insert? (m.row d) = some messages) :
      Settling m d st mark db (db.accept m none messages) (some ⟨Unit, .inl st⟩)
  | refused {messages x store e} (inserted : db.messages.insert? (m.row d) = some messages)
      (refused : perform st x db.store = (store, .error e)) :
      Settling m d st mark db { db.accept m none messages with store } none
  | stored {messages x store} (inserted : db.messages.insert? (m.row d) = some messages)
      (performed : perform st x db.store = (store, .ok ())) :
      Settling m d st mark db { db.accept m none messages with store } (some ⟨Unit, .inr mark⟩)
  | settled {messages x store} {db' : ExternalDb} (inserted : db.messages.insert? (m.row d) = some messages)
      (performed : perform st x db.store = (store, .ok ()))
      (marked : Written { db.accept m none messages with store } mark db') : Settling m d st mark db db' none

/-- A last statement that marks the dispatch; it never fails. -/
structure Marking (mark : GatewayStmt Unit) : Prop where
  role : mark.role = .acknowledged ∨ mark.role = .resultReceived
  written : ∀ db db' x, (mark.perform x db).1 = db' → Written db mark db'
  sure : ∀ x db, (mark.perform x db).2 = .ok ()

theorem marking_acknowledged {id : String} {observed : ℚ} : Marking (.markAcknowledged id observed) :=
  ⟨.inl rfl, fun _ _ _ marked => marked.symm, fun _ _ => rfl⟩

theorem marking_resultReceived {id : String} : Marking (.markResultReceived id) :=
  ⟨.inr rfl, fun _ _ _ marked => marked.symm, fun _ _ => rfl⟩

/-- What it writes is the dispatch alone. -/
theorem Marking.same {mark : GatewayStmt Unit} (marking : Marking mark) (written : Written db mark db') :
    db'.messages = db.messages ∧ db'.sessions = db.sessions ∧ db'.store = db.store := by
  have same := written.untouched
  rcases marking.role with role | role <;> rw [role] at same <;>
    exact ⟨same.messages (by decide), same.sessions (by decide) (by decide) (by decide) (by decide),
      same.store (by decide) (by decide)⟩

/-- The procedure that `Settling` is about. -/
def settle (m : Message) (d : Domain) (st : Stmt Unit) (mark : GatewayStmt Unit) : External Unit := do
  ExternalGateway.accept m d none
  Procedure.ask (.inl st)
  External.sql mark

theorem cut_settle {st : Stmt Unit} {mark : GatewayStmt Unit} (marking : Marking mark)
    (cut : externals.Cut (settle m d st mark) db db' next) : Settling m d st mark db db' next := by
  rcases Machine.cut_bind.mp cut with ⟨pending, rfl, within⟩ | ⟨e, _, raised⟩ | ⟨db₁, _, returned, rest⟩
  · rcases cut_accept within with rfl | ⟨messages, inserted, ⟨rfl, about⟩ | ⟨_, impossible⟩⟩
    · exact .untouched
    · exact about ▸ .recorded inserted
    · cases impossible
  · obtain rfl := raises_accept raised
    exact .untouched
  · obtain ⟨messages, inserted, rfl⟩ := returns_accept returned
    rcases Machine.cut_bind.mp rest with ⟨pending, rfl, within⟩ | ⟨e, rfl, raised⟩ | ⟨db₂, _, returned, last⟩
    · rcases Machine.cut_ask.mp within with ⟨rfl, about⟩ | ⟨impossible, _⟩
      · exact about ▸ .accepted inserted
      · cases impossible
    · obtain ⟨x, raised⟩ := Machine.raises_ask.mp raised
      obtain ⟨rfl, refused⟩ := Prod.mk.inj raised
      exact .refused inserted (Prod.ext rfl refused)
    · obtain ⟨x, performed⟩ := Machine.returns_ask.mp returned
      obtain ⟨rfl, done⟩ := Prod.mk.inj performed
      rcases Machine.cut_ask.mp last with ⟨rfl, rfl⟩ | ⟨rfl, y, marked⟩
      · exact .stored inserted (Prod.ext rfl done)
      · exact .settled inserted (Prod.ext rfl done) (marking.written _ _ y marked)

theorem returns_settle {st : Stmt Unit} {mark : GatewayStmt Unit} (marking : Marking mark)
    (returned : externals.Returns (settle m d st mark) db db' u) :
    ∃ messages x store, db.messages.insert? (m.row d) = some messages ∧ perform st x db.store = (store, .ok ()) ∧
      Written { db.accept m none messages with store } mark db' := by
  obtain ⟨db₁, _, first, rest⟩ := Machine.returns_bind.mp returned
  obtain ⟨messages, inserted, rfl⟩ := returns_accept first
  obtain ⟨db₂, _, second, last⟩ := Machine.returns_bind.mp rest
  obtain ⟨x, second⟩ := Machine.returns_ask.mp second
  obtain ⟨rfl, done⟩ := Prod.mk.inj second
  obtain ⟨y, last⟩ := Machine.returns_ask.mp last
  exact ⟨messages, x.toInput, _, inserted, Prod.ext rfl done, marking.written _ _ y (Prod.mk.inj last).1⟩

theorem raises_settle {st : Stmt Unit} {mark : GatewayStmt Unit} {e : Err} (marking : Marking mark)
    (raised : externals.Raises (settle m d st mark) db db' e) :
    db' = db ∨ ∃ messages x store, db.messages.insert? (m.row d) = some messages ∧
      perform st x db.store = (store, .error e) ∧ db' = { db.accept m none messages with store } := by
  rcases Machine.raises_bind.mp raised with refused | ⟨db₁, _, first, rest⟩
  · exact .inl (raises_accept refused)
  obtain ⟨messages, inserted, rfl⟩ := returns_accept first
  rcases Machine.raises_bind.mp rest with refused | ⟨db₂, _, _, refused⟩
  · obtain ⟨x, refused⟩ := Machine.raises_ask.mp refused
    obtain ⟨rfl, answer⟩ := Prod.mk.inj refused
    exact .inr ⟨messages, x.toInput, _, inserted, Prod.ext rfl answer, rfl⟩
  · obtain ⟨y, impossible⟩ := Machine.raises_ask.mp refused
    cases (marking.sure y db₂).symm.trans (Prod.mk.inj impossible).2

/-! ### The calls of a worker -/

theorem store_ask (st : ℚ → Stmt Unit) {n : ℚ} (clock : (PyFloat.fin n).clock? = some n) :
    External.store (do Procedure.ask (st (← Store.now (.fin n)))) = Procedure.ask (.inl (st n)) := by
  unfold Store.now External.store
  rw [clock]
  exact Procedure.interp_ask

/-- The store's statement of an acknowledgement. -/
def ackStart (m : Message) (row : DispatchRow) : Stmt Unit :=
  .start (some s!"signed_session={m.session.sessionId}") row.taskId m.profile.workerId.1 row.leaseId m.time

/-- An acknowledgement that has passed the gateway's checks. -/
structure AckAdmitted (crypto : Crypto) (g : ExternalGateway) (db : ExternalDb) (value : Json) (now : PyFloat) (m : Message)
    (row : DispatchRow) : Prop where
  admitted : Admitted crypto g .ack db value now m
  bound : Bound db m.frame row
  awaited : row.acknowledged = false

abbrev AckSettling (m : Message) (row : DispatchRow) :=
  Settling m .ack (ackStart m row) (.markAcknowledged row.dispatchId m.observed)

/-- How a procedure is run: to a normal end, to an exception, or cut. Behind a prefix
that only reads, it either has `Stopped` there or goes on. -/
structure Running (run : External Unit → ExternalDb → ExternalDb → Prop) (Stopped : ExternalDb → ExternalDb → Prop) : Prop where
  behind : ∀ {β : Type} {q : External β} {k : β → External Unit} {db db' : ExternalDb}, Reads q → run (q >>= k) db db' →
    Stopped db db' ∨ ∃ b, externals.Returns q db db b ∧ run (k b) db db'

theorem running_cut : Running (fun p db db' => externals.Cut p db db' next) fun db db' => db' = db :=
  ⟨fun reads cut => reads.still.cut_bind cut⟩

theorem running_raises {e : Err} : Running (fun p db db' => externals.Raises p db db' e) fun db db' => db' = db :=
  ⟨fun reads raised => reads.still.raises_bind raised⟩

theorem running_returns : Running (fun p db db' => externals.Returns p db db' u) fun _ _ => False :=
  ⟨fun reads returned => by
    obtain ⟨db₁, b, first, rest⟩ := Machine.returns_bind.mp returned
    obtain rfl := reads.still.ends first
    exact .inr ⟨b, first, rest⟩⟩

/-- To any end: a prefix that stops it raises. -/
theorem running_ends {r : Answer Unit} :
    Running (fun p db db' => externals.Ends p.run db db' r) fun db db' => db' = db ∧ ∃ e, r = .error e := by
  cases r with
  | ok u => exact ⟨fun reads ends => (running_returns.behind reads ends).imp_left False.elim⟩
  | error e => exact ⟨fun reads ends => (running_raises.behind reads ends).imp_left fun same => ⟨same, e, rfl⟩⟩

/-- A call that returns nothing. -/
theorem ends_done {p : External Unit} {reply : Reply} {answer : Answer Reply}
    (ends : externals.Ends (p >>= fun _ => pure reply : External Reply).run db db' answer) :
    ∃ r : Answer Unit, externals.Ends p.run db db' r ∧ answer = r.map fun _ => reply := by
  cases answer with
  | ok b =>
    obtain ⟨rfl, u, returned⟩ := Machine.returns_then_pure.mp ends
    exact ⟨.ok u, returned, rfl⟩
  | error e => exact ⟨.error e, Machine.raises_then_pure.mp ends, rfl⟩

variable {run : External Unit → ExternalDb → ExternalDb → Prop} {Stopped : ExternalDb → ExternalDb → Prop}

theorem runs_acknowledge (running : Running run Stopped) (ran : run (g.acknowledge crypto value now) db db') :
    Stopped db db' ∨ ∃ m row, AckAdmitted crypto g db value now m row ∧
      run (settle m .ack (ackStart m row) (.markAcknowledged row.dispatchId m.observed)) db db' := by
  rcases running.behind reads_message ran with done | ⟨m, admitted, ran⟩
  · exact .inl done
  obtain ⟨_, admitted⟩ := returns_message admitted
  rcases running.behind reads_bound ran with done | ⟨row, bound, ran⟩
  · exact .inl done
  obtain ⟨_, bound⟩ := returns_bound bound
  rcases running.behind (Procedure.all_lift _) ran with done | ⟨_, awaited, ran⟩
  · exact .inl done
  refine .inr ⟨m, row, ⟨admitted, bound, ?_⟩, ?_⟩
  · exact Bool.eq_false_iff.mpr (require_ok.mp (Machine.returns_lift.mp awaited).2)
  · rwa [Store.startWithAck, store_ask (fun n => .start (some _) _ _ _ n) (clock?_fin admitted.clock)] at ran

/-- The store's statement of a result. -/
def resultSubmit (m : Message) (row : DispatchRow) (evidenceId : Identifier) (digest : String) : Stmt Unit :=
  .submitResult row.taskId m.profile.workerId.1 row.leaseId evidenceId.1 digest m.time

/-- A result that has passed the gateway's checks. -/
structure ResultAdmitted (crypto : Crypto) (g : ExternalGateway) (db : ExternalDb) (value : Json) (now : PyFloat)
    (m : Message) (row : DispatchRow) (evidenceId : Identifier) (digest : String) : Prop where
  admitted : Admitted crypto g .result db value now m
  bound : Bound db m.frame row
  checked : Checked crypto db m row evidenceId digest

theorem runs_result (running : Running run Stopped) (ran : run (g.result crypto value now) db db') :
    Stopped db db' ∨ ∃ m row evidenceId digest, ResultAdmitted crypto g db value now m row evidenceId digest ∧
      run (settle m .result (resultSubmit m row evidenceId digest) (.markResultReceived row.dispatchId)) db db' := by
  rcases running.behind reads_message ran with done | ⟨m, admitted, ran⟩
  · exact .inl done
  obtain ⟨_, admitted⟩ := returns_message admitted
  rcases running.behind reads_bound ran with done | ⟨row, bound, ran⟩
  · exact .inl done
  obtain ⟨_, bound⟩ := returns_bound bound
  rcases running.behind reads_checkResult ran with done | ⟨⟨evidenceId, digest⟩, checked, ran⟩
  · exact .inl done
  obtain ⟨_, checked⟩ := returns_checkResult checked
  refine .inr ⟨m, row, evidenceId, digest, ⟨admitted, bound, checked⟩, ?_⟩
  dsimp only at ran
  rwa [Store.submitResult, store_ask (fun n => .submitResult _ _ _ _ _ n) (clock?_fin admitted.clock)] at ran

theorem cut_store {α : Type} {p : Store α} (cut : externals.Cut (External.store p) db db' next) :
    ∃ store, db' = { db with store } := by
  refine Machine.Stops.keeps (I := fun u => ∃ store, u = { db with store }) cut
    (Program.All.interp (fun s => Procedure.all_ask ?_) p.run) ⟨db.store, rfl⟩
  rintro x _ ⟨store, rfl⟩
  exact ⟨_, rfl⟩

theorem ends_store_only {α : Type} {p : Store α} {r : Answer α} (ends : externals.Ends (External.store p).run db db' r) :
    ∃ store, db' = { db with store } := cut_store ends.stops

/-- What is left of `heartbeat` after its checks. -/
def recordBeat (m : Message) (capacity : Int) : External Unit := do
  External.store (Store.heartbeatWithCapacity m.profile.workerId.1 capacity (.fin m.time) (some (.fin m.observed)))
  ExternalGateway.accept m .heartbeat (some (m.observed, capacity))

theorem runs_heartbeat (running : Running run Stopped) (ran : run (g.heartbeat crypto value now) db db') :
    Stopped db db' ∨ ∃ m capacity, Admitted crypto g .heartbeat db value now m ∧ run (recordBeat m capacity) db db' := by
  rcases running.behind reads_message ran with done | ⟨m, admitted, ran⟩
  · exact .inl done
  obtain ⟨_, admitted⟩ := returns_message admitted
  rcases running.behind (Procedure.all_lift _) ran with done | ⟨_, _, ran⟩
  · exact .inl done
  rcases running.behind (Procedure.all_lift _) ran with done | ⟨capacity, _, ran⟩
  · exact .inl done
  rcases running.behind (Procedure.all_lift _) ran with done | ⟨_, _, ran⟩
  · exact .inl done
  exact .inr ⟨m, capacity, admitted, ran⟩

theorem cut_recordBeat {capacity : Int} (cut : externals.Cut (recordBeat m capacity) db db' next) :
    ∃ store, db' = { db with store } ∨ ∃ messages, db.messages.insert? (m.row .heartbeat) = some messages ∧
      (db' = { db with store, messages } ∧ next = advancing m (some (m.observed, capacity)) ∨
        db' = ExternalDb.accept { db with store } m (some (m.observed, capacity)) messages ∧ next = none) := by
  rcases Machine.cut_bind.mp cut with ⟨st, _, within⟩ | ⟨e, _, raised⟩ | ⟨db₁, _, returned, rest⟩
  · exact (cut_store within).imp fun _ => .inl
  · exact (ends_store_only raised).imp fun _ => .inl
  · obtain ⟨store, rfl⟩ := ends_store_only returned
    exact ⟨store, cut_accept rest⟩

theorem ends_recordBeat {capacity : Int} {r : Answer Unit} (ends : externals.Ends (recordBeat m capacity).run db db' r) :
    ∃ store, (db' = { db with store } ∧ ∃ e, r = .error e) ∨ ∃ messages, db.messages.insert? (m.row .heartbeat) = some messages ∧
      db' = ExternalDb.accept { db with store } m (some (m.observed, capacity)) messages := by
  cases r with
  | ok u =>
    obtain ⟨db₁, _, returned, rest⟩ := Machine.returns_bind.mp ends
    obtain ⟨store, rfl⟩ := ends_store_only returned
    exact ⟨store, .inr (returns_accept rest)⟩
  | error e =>
    rcases Machine.raises_bind.mp ends with raised | ⟨db₁, _, returned, rest⟩
    · exact (ends_store_only raised).imp fun _ same => .inl ⟨same, e, rfl⟩
    · obtain ⟨store, rfl⟩ := ends_store_only returned
      exact ⟨store, .inl ⟨raises_accept rest, e, rfl⟩⟩

/-! ### The other calls that write -/

theorem cut_authenticateSession (cut : externals.Cut (g.authenticateSession crypto value now) db db' next) :
    db' = db ∨ ∃ r frame p, Requested crypto g db value now r frame p ∧ next = none ∧
      Written db (.authenticate r.challengeId.1 r.time r.row r.worker) db' := by
  rcases reads_requestSession.cut_write cut with same | ⟨r, returned, ended, written⟩
  · exact .inl same
  · obtain ⟨_, frame, p, requested⟩ := returns_requestSession returned
    exact .inr ⟨r, frame, p, requested, ended, written⟩

theorem cut_acceptProviderStatus (cut : externals.Cut (g.acceptProviderStatus crypto value now) db db' next) :
    db' = db ∨ ∃ row n frame, Reported crypto g db value now row n frame ∧ next = none ∧
      Written db (.acceptProviderStatus row n) db' := by
  change externals.Cut (g.providerStatus crypto value now >>= fun report =>
    External.sql (.acceptProviderStatus report.1 report.2)) db db' next at cut
  rcases reads_providerStatus.cut_write cut with same | ⟨⟨row, n⟩, returned, ended, written⟩
  · exact .inl same
  · obtain ⟨_, frame, reported⟩ := returns_providerStatus returned
    exact .inr ⟨row, n, frame, reported, ended, written⟩

theorem cut_revoke (cut : externals.Cut (ExternalGateway.revoke value) db db' next) :
    db' = db ∨ ∃ worker : Identifier, value = .str worker.1 ∧
      (db' = db.revokeProfile worker.1 ∧ (next = none → ∀ p ∈ db.profiles.rows, p.workerId ≠ worker.1) ∨
        next = none ∧ Written (db.revokeProfile worker.1) (.revokeSession worker.1) db') := by
  rcases Machine.Still.cut_bind (Procedure.all_lift _) cut with same | ⟨worker, named, cut⟩
  · exact .inl same
  have named := identifier_ok (Machine.returns_lift.mp named).2
  rcases Machine.cut_bind.mp cut with ⟨st, rfl, within⟩ | ⟨e, _, raised⟩ | ⟨db₁, count, returned, rest⟩
  · rcases Machine.cut_ask.mp within with ⟨rfl, _⟩ | ⟨impossible, _⟩
    · exact .inl rfl
    · cases impossible
  · obtain ⟨_, impossible⟩ := Machine.raises_ask.mp raised
    cases (Prod.mk.inj impossible).2
  · obtain ⟨_, returned⟩ := Machine.returns_ask.mp returned
    obtain ⟨rfl, counted⟩ := Prod.mk.inj returned
    cases counted
    refine .inr ⟨worker, named, ?_⟩
    rcases Machine.cut_bind.mp rest with ⟨st, rfl, within⟩ | ⟨e, rfl, raised⟩ | ⟨db₂, _, returned, last⟩
    · exact .inl ⟨(Machine.cut_lift.mp within).1, fun impossible => (Option.some_ne_none _ impossible).elim⟩
    · obtain ⟨rfl, unknown⟩ := Machine.raises_lift.mp raised
      refine .inl ⟨rfl, fun _ p member same => ?_⟩
      unfold require at unknown
      split at unknown
      · cases unknown
      · rename_i none_
        refine none_ (Nat.ne_of_gt ?_)
        exact List.countP_pos_iff.mpr ⟨p, member, by simpa using same⟩
    · obtain ⟨rfl, _⟩ := Machine.returns_lift.mp returned
      rcases Machine.cut_ask.mp last with ⟨rfl, rfl⟩ | ⟨rfl, _, revoked⟩
      · exact .inl ⟨rfl, fun impossible => (Option.some_ne_none _ impossible).elim⟩
      · exact .inr ⟨rfl, revoked.symm⟩

/-- A challenge is only ever written for a worker that is trusted. -/
theorem cut_issueChallenge {workerId keyId : Json} (cut : externals.Cut (g.issueChallenge crypto workerId keyId now) db db' next) :
    db' = db ∨ ∃ p row challenges, Trusted g db p ∧ row.workerId = p.workerId.1 ∧ row.consumed = false ∧
      db.challenges.insert? row = some challenges ∧ db' = { db with challenges } := by
  rcases Machine.Still.cut_bind (Procedure.all_lift _) cut with same | ⟨n, _, cut⟩
  · exact .inl same
  rcases reads_trusted.still.cut_bind cut with same | ⟨p, trusted, cut⟩
  · exact .inl same
  obtain ⟨_, _, known⟩ := returns_trusted trusted
  rcases Machine.Still.cut_bind (Procedure.all_lift _) cut with same | ⟨_, _, cut⟩
  · exact .inl same
  rcases (reads_sql (s := .nonce) rfl).still.cut_bind cut with same | ⟨nonce, _, cut⟩
  · exact .inl same
  rcases cut_attempt (fun r db db' cut => by cases r <;> exact cut.1) cut with same | ⟨challenges, inserted, written⟩
  · exact .inl same
  · exact .inr ⟨p, _, challenges, known, rfl, rfl, inserted, written⟩

theorem still_task {id : String} : externals.Still (External.store (Store.task id)) := by
  unfold Store.task External.store
  rw [Procedure.interp_bind, Procedure.interp_ask]
  refine .bind (Procedure.all_ask fun x s => rfl) fun r => ?_
  cases r with
  | none => exact Procedure.all_throw _
  | some _ => exact Procedure.all_pure _

/-- A dispatch is only ever written for an authenticated session. -/
structure Sent (db : ExternalDb) (row : DispatchRow) : Prop where
  acknowledged : row.acknowledged = false
  resultReceived : row.resultReceived = false
  session : ∃ s, db.sessions.find? row.workerId = some s ∧ s.state = .authenticated

theorem cut_dispatch {task lease : Frame} {sessionId : Json}
    (cut : externals.Cut (ExternalGateway.dispatch crypto task lease sessionId now) db db' next) :
    db'.dispatches = db.dispatches ∨ ∃ row, Sent db row ∧ db.dispatches.insert? row = some db'.dispatches := by
  have same_of (h : db' = db) : db'.dispatches = db.dispatches := congrArg _ h
  rcases Machine.Still.cut_bind (Procedure.all_lift _) cut with same | ⟨n, _, cut⟩
  · exact .inl (same_of same)
  rcases Machine.Still.cut_bind (Procedure.all_lift _) cut with same | ⟨worker, _, cut⟩
  · exact .inl (same_of same)
  rcases Machine.Still.cut_bind (Procedure.all_lift _) cut with same | ⟨taskId, _, cut⟩
  · exact .inl (same_of same)
  rcases Machine.Still.cut_bind (Procedure.all_lift _) cut with same | ⟨leaseId, _, cut⟩
  · exact .inl (same_of same)
  rcases (reads_sql (s := .selectSession worker.1) rfl).still.cut_bind cut with same | ⟨found, selected, cut⟩
  · exact .inl (same_of same)
  obtain ⟨_, selected⟩ := returns_sql.mp selected
  rcases still_task.cut_bind cut with same | ⟨current, _, cut⟩
  · exact .inl (same_of same)
  rcases Machine.Still.cut_bind (Procedure.all_lift _) cut with same | ⟨session, known, cut⟩
  · exact .inl (same_of same)
  rcases Machine.Still.cut_bind (Procedure.all_lift _) cut with same | ⟨_, live, cut⟩
  · exact .inl (same_of same)
  have authenticated := (require_ok.mp (Machine.returns_lift.mp live).2).1
  have known := found_ok.mp (Machine.returns_lift.mp known).2
  rcases Machine.Still.cut_bind (Procedure.all_lift _) cut with same | ⟨expires, _, cut⟩
  · exact .inl (same_of same)
  rcases Machine.Still.cut_bind (Procedure.all_lift _) cut with same | ⟨_, _, cut⟩
  · exact .inl (same_of same)
  rcases (reads_sql (s := .selectDispatch _) rfl).still.cut_bind cut with same | ⟨existing, _, cut⟩
  · exact .inl (same_of same)
  cases existing with
  | some d => exact .inl (same_of cut.1)
  | none =>
    rcases (reads_sql (s := .writeOutbound _) rfl).still.cut_bind cut with same | ⟨_, _, cut⟩
    · exact .inl (same_of same)
    obtain ⟨db₁, inserted, rest⟩ := cut_sql_bind cut
    have same : db'.dispatches = db₁.dispatches := by
      rcases rest with rfl | ⟨_, rest⟩
      · rfl
      · obtain ⟨store, rfl⟩ := cut_store (Machine.cut_then_pure.mp rest)
        rfl
    rcases inserted with rfl | ⟨dispatches, inserted, rfl⟩
    · exact .inl same
    · refine .inr ⟨_, ⟨rfl, rfl, session, ?_, authenticated⟩, inserted.trans (congrArg some same.symm)⟩
      exact (Except.ok.inj (Prod.mk.inj selected).2).trans known

/-! ### A restart -/

theorem returns_create {c : Configuration} (returned : externals.Returns (ExternalGateway.create crypto c) db db' g) :
    ∀ s ∈ db'.sessions.rows, s.state ≠ .authenticated := by
  simp only [ExternalGateway.create, Machine.returns_bind, Machine.returns_lift, returns_sql, Machine.returns_pure] at returned
  obtain ⟨_, _, _, _, _, _, _, _, _, _, _, _, db₁, _, _, db₂, _, ⟨_, downgraded⟩, rfl, _⟩ := returned
  obtain rfl := (Prod.mk.inj downgraded).1
  intro s member
  obtain ⟨old, _, rfl⟩ := List.mem_map.mp member
  split
  · simp
  · assumption

end

end ControlPlane.Autonomy
