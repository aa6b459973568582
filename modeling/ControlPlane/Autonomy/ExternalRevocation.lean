import ControlPlane.Autonomy.ExternalDispatches
import ControlPlane.Autonomy.ExternalEligible
import ControlPlane.Autonomy.ExternalSessions

/-!
# Revocation is permanent

The revoked flag of a profile's row is never cleared, and every path back to trust reads
it: all but `dispatch`, which only looks at the session. So the session of a revoked
worker must never be left open while a gateway runs.
-/

namespace ControlPlane.Autonomy

open Data Interleaving

/-- The worker is revoked in the database. -/
def Revoked (worker : String) (db : ExternalDb) : Prop :=
  ∃ row, db.profiles.find? worker = some row ∧ row.revoked = true

/-- No gateway that runs finds the worker's session open. -/
def Closed (worker : String) (w : ExternalWorld) : Prop :=
  ∀ g s, w.gateway = some g → w.db.sessions.find? worker = some s → s.state ≠ .authenticated

/-- `revoke` of the worker, ended or cut, has committed its first update. -/
def Revokes (worker : String) (t : ExternalTransition) : Prop :=
  t.label.call? = some (.revoke (.str worker)) ∧ Revoked worker t.after.db

/-- What a step can no longer do for the worker. -/
structure Excluded (worker : String) (t : ExternalTransition) : Prop where
  challenges : ∀ workerId keyId now c, t.label = .call (.issueChallenge workerId keyId now) (.ok (.challenge c)) →
    c.workerId ≠ worker
  challengeRows : ∀ c ∈ t.after.db.challenges.rows, c.workerId = worker →
    ∃ c' ∈ t.before.db.challenges.rows, c'.challengeId = c.challengeId
  frames : ∀ c frame, t.label.call? = some c → c.frame? = some frame → frame.field "worker_id" = .str worker →
    t.after.db = t.before.db ∧ ∀ reply, t.label ≠ .call c (.ok reply)
  eligible : ∀ c pairs, t.label = .call c (.ok (.sessions pairs)) → ∀ pair ∈ pairs, pair.1 ≠ worker
  dispatches : ∀ d ∈ t.after.db.dispatches.rows, d.workerId = worker →
    ∃ d' ∈ t.before.db.dispatches.rows, d'.dispatchId = d.dispatchId

section

variable {crypto : Crypto} {g : ExternalGateway} {db db' : ExternalDb} {c : ExternalCall} {next : Pending ExternalStmt}
  {worker : String} {w w' : ExternalWorld} {e : ExternalEvent} {frame : Json} {p : VerifiedProfile}

theorem revoked_stays (kept : Kept db db') (revoked : Revoked worker db) : Revoked worker db' := by
  obtain ⟨row, found, revoked⟩ := revoked
  obtain ⟨member, named⟩ := Table.find?_some.mp found
  obtain ⟨row', there, rfl | rfl⟩ := kept.profiles row member
  · exact ⟨_, Table.find?_some.mpr ⟨there, named⟩, revoked⟩
  · exact ⟨_, Table.find?_some.mpr ⟨there, named⟩, rfl⟩

theorem Trusted.unrevoked_row (trusted : Trusted g db p) : ¬ Revoked p.workerId.1 db := by
  rintro ⟨row, found, revoked⟩
  obtain ⟨row', found', _, unrevoked, _⟩ := trusted.durable
  cases found.symm.trans found'
  cases revoked.symm.trans unrevoked

/-! ### Sessions -/

/-- While a worker is revoked no call opens its session. -/
theorem call_closed (cut : externals.Cut (c.procedure crypto g) db db' next) (revoked : Revoked worker db)
    (closed : ∀ s, db.sessions.find? worker = some s → s.state ≠ .authenticated) :
    ∀ s, db'.sessions.find? worker = some s → s.state ≠ .authenticated := by
  intro s found
  have move := call_session cut worker
  rw [found] at move
  generalize same : some s = after at move
  cases move with
  | kept => exact closed s same.symm
  | advanced _ admitted own => exact absurd (own ▸ revoked) admitted.trusted.unrevoked_row
  | opened _ requested own => exact absurd (own ▸ revoked) requested.trusted.unrevoked_row
  | dropped => cases same
  | revoked =>
    cases same
    exact nofun

theorem revokeProfile_revoked {id : String} (revoked : Revoked worker (db.revokeProfile id)) :
    Revoked worker db ∨ id = worker ∧ ∃ row ∈ db.profiles.rows, row.workerId = id := by
  obtain ⟨row, found, up⟩ := revoked
  have known := (Table.find?_update_key (t := db.profiles) (f := fun p => { p with revoked := true }) fun _ => rfl).symm.trans found
  split at known
  · rename_i own
    obtain ⟨before, found, _⟩ := Option.map_eq_some_iff.mp known
    obtain ⟨member, named⟩ := Table.find?_some.mp found
    exact .inr ⟨own, before, member, named.trans own.symm⟩
  · exact .inl ⟨row, known, up⟩

/-- `revoke` closes the session of the worker it revokes. -/
theorem revoke_closed {value : Json} (cut : externals.Cut (ExternalGateway.revoke value) db db' none)
    (fresh : ¬ Revoked worker db) (revoked : Revoked worker db') :
    ∀ s, db'.sessions.find? worker = some s → s.state ≠ .authenticated := by
  rcases cut_revoke cut with rfl | ⟨id, _, ⟨rfl, unknown⟩ | ⟨_, written⟩⟩
  · exact absurd revoked fresh
  · rcases revokeProfile_revoked revoked with before | ⟨_, row, member, named⟩
    · exact absurd before fresh
    · exact absurd named (unknown rfl row member)
  · obtain rfl := written
    rcases revokeProfile_revoked (show Revoked worker (db.revokeProfile id.1) from revoked) with before | ⟨rfl, _⟩
    · exact absurd before fresh
    intro s found
    have known := (Table.find?_update_key (t := db.sessions) (f := fun s => { s with state := .revoked }) fun _ => rfl).symm.trans found
    rw [if_pos rfl] at known
    obtain ⟨_, _, rfl⟩ := Option.map_eq_some_iff.mp known
    exact nofun

/-- A revoked worker has no open session while a gateway runs: kept by every step. -/
theorem step_closed (step : ExternalStep crypto w e w') (before : Revoked worker w.db → Closed worker w)
    (revoked : Revoked worker w'.db) : Closed worker w' := by
  cases step.cases with
  | @called g c answer running label stays ends =>
    rintro _ s _ found
    by_cases already : Revoked worker w.db
    · exact call_closed ends.stops already (fun s => before already g s running) s found
    cases c with
    | revoke value =>
      cases answer with
      | ok reply =>
        obtain ⟨_, _, returned⟩ := Machine.returns_then_pure.mp ends
        exact revoke_closed returned.stops already revoked s found
      | error x => exact revoke_closed (Machine.raises_then_pure.mp ends).stops already revoked s found
    | _ =>
      have same := (confined_call _).profiles ends.stops (by simp [ExternalCall.writes])
      unfold Revoked at already revoked
      rw [same] at revoked
      exact absurd revoked already
  | crashed _ _ died => exact fun _ _ runs => (Option.some_ne_none _ (runs.symm.trans died)).elim
  | failed _ died => exact fun _ _ runs => (Option.some_ne_none _ (runs.symm.trans died)).elim
  | restarted _ _ returned => exact fun _ s _ found => returns_create returned s (Table.find?_some.mp found).1
  | outside _ gateway tables =>
    obtain ⟨store, spool, same⟩ := tables
    rw [same] at revoked
    intro g s running found
    rw [same] at found
    exact before revoked g s (gateway.symm.trans running) found

/-! ### Frames -/

/-- A frame that has done anything is a trusted worker's. -/
theorem cut_frame (sent : c.frame? = some frame) (cut : externals.Cut (c.procedure crypto g) db db' next) :
    db' = db ∨ ∃ p, Trusted g db p ∧ frame.field "worker_id" = .str p.workerId.1 := by
  cases c with
  | authenticateSession value now =>
    cases sent
    refine (cut_authenticateSession (Machine.cut_then_pure.mp cut)).imp_right ?_
    rintro ⟨r, entries, p, requested, _⟩
    exact ⟨p, requested.trusted, requested.shape ▸ requested.worker⟩
  | heartbeat value now =>
    cases sent
    refine (runs_heartbeat running_cut (Machine.cut_then_pure.mp cut)).imp_right ?_
    rintro ⟨m, _, admitted, _⟩
    exact ⟨m.profile, admitted.trusted, admitted.shape ▸ admitted.worker⟩
  | acknowledge value now =>
    cases sent
    refine (runs_acknowledge running_cut (Machine.cut_then_pure.mp cut)).imp_right ?_
    rintro ⟨m, _, admitted, _⟩
    exact ⟨m.profile, admitted.admitted.trusted, admitted.admitted.shape ▸ admitted.admitted.worker⟩
  | result value now =>
    cases sent
    refine (runs_result running_cut (Machine.cut_then_pure.mp cut)).imp_right ?_
    rintro ⟨m, _, _, _, admitted, _⟩
    exact ⟨m.profile, admitted.admitted.trusted, admitted.admitted.shape ▸ admitted.admitted.worker⟩
  | acceptProviderStatus value now =>
    cases sent
    refine (cut_acceptProviderStatus (Machine.cut_then_pure.mp cut)).imp_right ?_
    rintro ⟨row, _, entries, reported, _⟩
    obtain ⟨p, named, _, trusted, _⟩ := reported.trusted
    exact ⟨p, trusted, by rw [reported.shape, named]; exact reported.worker⟩
  | _ => cases sent

theorem returns_frame {reply : Reply} (sent : c.frame? = some frame) (returned : externals.Returns (c.procedure crypto g) db db' reply) :
    ∃ p, Trusted g db p ∧ frame.field "worker_id" = .str p.workerId.1 := by
  cases c with
  | authenticateSession value now =>
    cases sent
    obtain ⟨_, _, through⟩ := Machine.returns_then_pure.mp returned
    obtain ⟨r, entries, p, requested, _⟩ := returns_authenticateSession through
    exact ⟨p, requested.trusted, requested.shape ▸ requested.worker⟩
  | heartbeat value now =>
    cases sent
    obtain ⟨_, _, through⟩ := Machine.returns_then_pure.mp returned
    obtain ⟨m, _, admitted, _⟩ := (runs_heartbeat running_returns through).resolve_left id
    exact ⟨m.profile, admitted.trusted, admitted.shape ▸ admitted.worker⟩
  | acknowledge value now =>
    cases sent
    obtain ⟨_, _, through⟩ := Machine.returns_then_pure.mp returned
    obtain ⟨m, _, admitted, _⟩ := (runs_acknowledge running_returns through).resolve_left id
    exact ⟨m.profile, admitted.admitted.trusted, admitted.admitted.shape ▸ admitted.admitted.worker⟩
  | result value now =>
    cases sent
    obtain ⟨_, _, through⟩ := Machine.returns_then_pure.mp returned
    obtain ⟨m, _, _, _, admitted, _⟩ := (runs_result running_returns through).resolve_left id
    exact ⟨m.profile, admitted.admitted.trusted, admitted.admitted.shape ▸ admitted.admitted.worker⟩
  | acceptProviderStatus value now =>
    cases sent
    obtain ⟨_, _, through⟩ := Machine.returns_then_pure.mp returned
    obtain ⟨_, ⟨row, n⟩, checked, _⟩ := Machine.returns_bind.mp through
    obtain ⟨rfl, entries, reported⟩ := returns_providerStatus checked
    obtain ⟨p, named, _, trusted, _⟩ := reported.trusted
    exact ⟨p, trusted, by rw [reported.shape, named]; exact reported.worker⟩
  | _ => cases sent

/-! ### Challenges and dispatches -/

theorem returns_issueChallenge {workerId keyId : Json} {now : PyFloat} {challenge : SessionChallenge}
    (returned : externals.Returns (g.issueChallenge crypto workerId keyId now) db db' challenge) :
    ∃ p, Trusted g db p ∧ challenge.workerId = p.workerId.1 := by
  obtain ⟨_, n, read, rest₁⟩ := Machine.returns_bind.mp returned
  obtain ⟨rfl, _⟩ := returns_external_now.mp read
  obtain ⟨_, p, known, rest₂⟩ := Machine.returns_bind.mp rest₁
  obtain ⟨rfl, _, trusted⟩ := returns_trusted known
  obtain ⟨_, _, _, rest₃⟩ := Machine.returns_bind.mp rest₂
  obtain ⟨_, nonce, _, rest₄⟩ := Machine.returns_bind.mp rest₃
  obtain ⟨_, answer, _, last⟩ := Machine.returns_bind.mp rest₄
  cases answer with
  | ok u =>
    obtain ⟨_, rfl⟩ := Machine.returns_pure.mp last
    exact ⟨p, trusted, rfl⟩
  | error x => exact absurd last Machine.returns_throw

/-- A challenge is new only for a trusted worker. -/
theorem call_challenges (cut : externals.Cut (c.procedure crypto g) db db' next) {row : ChallengeRow}
    (member : row ∈ db'.challenges.rows) : (∃ row' ∈ db.challenges.rows, row'.challengeId = row.challengeId) ∨
      ∃ p, Trusted g db p ∧ row.workerId = p.workerId.1 := by
  have known (same : db'.challenges = db.challenges) : ∃ row' ∈ db.challenges.rows, row'.challengeId = row.challengeId :=
    ⟨row, same ▸ member, rfl⟩
  cases c with
  | issueChallenge workerId keyId now =>
    have cut : externals.Cut (g.issueChallenge crypto workerId keyId now >>= fun c => pure (Reply.challenge c)) db db' next := cut
    have inner : ∃ next, externals.Cut (g.issueChallenge crypto workerId keyId now) db db' next := by
      rcases Machine.cut_bind.mp cut with ⟨st, _, within⟩ | ⟨e, _, raised⟩ | ⟨_, a, returned, rfl, _⟩
      · exact ⟨_, within⟩
      · exact ⟨_, raised.stops⟩
      · exact ⟨_, returned.stops⟩
    obtain ⟨_, inner⟩ := inner
    rcases cut_issueChallenge inner with rfl | ⟨p, new, challenges, trusted, named, _, inserted, rfl⟩
    · exact .inl (known rfl)
    · rcases (Table.mem_inserted inserted).mp member with there | rfl
      · exact .inl ⟨row, there, rfl⟩
      · exact .inr ⟨p, trusted, named⟩
  | authenticateSession value now =>
    rcases cut_authenticateSession (Machine.cut_then_pure.mp cut) with rfl | ⟨r, entries, p, requested, _, written⟩
    · exact .inl (known rfl)
    · obtain ⟨_, store, _, rfl⟩ := written
      obtain ⟨row', there, rfl⟩ := List.mem_map.mp member
      refine .inl ⟨row', there, ?_⟩
      split <;> rfl
  | _ => exact .inl (known ((confined_call _).challenges cut (by simp [ExternalCall.writes])))

/-- A dispatch is new only for a worker whose session is open. -/
theorem call_new_dispatch (cut : externals.Cut (c.procedure crypto g) db db' next) {row : DispatchRow}
    (member : row ∈ db'.dispatches.rows) : (∃ row' ∈ db.dispatches.rows, row'.dispatchId = row.dispatchId) ∨
      ∃ s, db.sessions.find? row.workerId = some s ∧ s.state = .authenticated := by
  have found := Table.find?_some.mpr ⟨member, rfl⟩
  -- a table whose rows were only marked has no new key
  have marked {f : DispatchRow → DispatchRow} {id : String} (same : db'.dispatches.find? row.dispatchId =
      if id = row.dispatchId then (db.dispatches.find? row.dispatchId).map f else db.dispatches.find? row.dispatchId) :
      ∃ row' ∈ db.dispatches.rows, row'.dispatchId = row.dispatchId := by
    have known := same.symm.trans found
    split at known
    · obtain ⟨row', there, _⟩ := Option.map_eq_some_iff.mp known
      exact ⟨row', Table.find?_some.mp there⟩
    · exact ⟨row, Table.find?_some.mp known⟩
  cases call_dispatches cut with
  | kept same => exact .inl ⟨row, same ▸ member, rfl⟩
  | @sent _ new sent inserted =>
    rcases (Table.mem_inserted inserted).mp member with there | rfl
    · exact .inl ⟨row, there, rfl⟩
    · exact .inr sent.session
  | acknowledged _ marks => exact .inl (marked (AckMarked.find? marks _))
  | resulted _ marks => exact .inl (marked (ResultMarked.find? marks _))

/-! ### Every later step -/

theorem step_excluded {t : ExternalTransition} (step : ExternalStep crypto t.before t.label t.after)
    (revoked : Revoked worker t.before.db) (closed : Closed worker t.before) : Excluded worker t := by
  -- a step that is no call has left the gateways' own tables alone
  have idle (none_ : t.label.call? = none) (challenges : t.after.db.challenges = t.before.db.challenges)
      (dispatches : t.after.db.dispatches = t.before.db.dispatches) : Excluded worker t := by
    have uncalled {c : ExternalCall} {answer : Answer Reply} (label : t.label = .call c answer) : False := by
      rw [label] at none_
      cases none_
    constructor
    · exact fun _ _ _ _ label => (uncalled label).elim
    · exact fun c member _ => ⟨c, challenges ▸ member, rfl⟩
    · intro c frame called
      cases none_.symm.trans called
    · exact fun _ _ label => (uncalled label).elim
    · exact fun d member _ => ⟨d, dispatches ▸ member, rfl⟩
  have distrusted {g : ExternalGateway} {p : VerifiedProfile} (trusted : Trusted g t.before.db p) : p.workerId.1 ≠ worker :=
    fun same => trusted.unrevoked_row (same ▸ revoked)
  have challengeRows {g : ExternalGateway} {c : ExternalCall} {next : Pending ExternalStmt}
      (cut : externals.Cut (c.procedure crypto g) t.before.db t.after.db next) : ∀ row ∈ t.after.db.challenges.rows,
        row.workerId = worker → ∃ row' ∈ t.before.db.challenges.rows, row'.challengeId = row.challengeId := by
    intro row member own
    rcases call_challenges cut member with known | ⟨p, trusted, named⟩
    · exact known
    · exact absurd (named.symm.trans own) (distrusted trusted)
  have dispatches {g : ExternalGateway} {c : ExternalCall} {next : Pending ExternalStmt} (running : t.before.gateway = some g)
      (cut : externals.Cut (c.procedure crypto g) t.before.db t.after.db next) : ∀ row ∈ t.after.db.dispatches.rows,
        row.workerId = worker → ∃ row' ∈ t.before.db.dispatches.rows, row'.dispatchId = row.dispatchId := by
    intro row member own
    rcases call_new_dispatch cut member with known | ⟨s, found, authenticated⟩
    · exact known
    · exact absurd authenticated (closed g s running (own ▸ found))
  have frames {g : ExternalGateway} {c : ExternalCall} {next : Pending ExternalStmt} {frame : Json} (sent : c.frame? = some frame)
      (own : frame.field "worker_id" = .str worker) (cut : externals.Cut (c.procedure crypto g) t.before.db t.after.db next) :
      t.after.db = t.before.db := by
    rcases cut_frame sent cut with same | ⟨p, trusted, named⟩
    · exact same
    · exact absurd (Json.str.inj (named.symm.trans own)) (distrusted trusted)
  cases step.cases with
  | @called g c answer running label stays ends =>
    refine ⟨?_, challengeRows ends.stops, ?_, ?_, dispatches running ends.stops⟩
    · rintro workerId keyId now challenge asked same
      cases label.symm.trans asked
      obtain ⟨_, issued, returned, last⟩ := Machine.returns_bind.mp ends
      cases (Machine.returns_pure.mp last).2
      obtain ⟨p, trusted, named⟩ := returns_issueChallenge returned
      exact distrusted trusted (named.symm.trans same)
    · intro c' frame called sent own
      rw [label] at called
      cases called
      refine ⟨frames sent own ends.stops, fun reply accepted => ?_⟩
      cases label.symm.trans accepted
      obtain ⟨p, trusted, named⟩ := returns_frame sent ends
      exact distrusted trusted (Json.str.inj (named.symm.trans own))
    · rintro c' pairs listed pair member rfl
      cases label.symm.trans listed
      obtain ⟨p, _, _, _, named, eligible⟩ := returns_sessions ends pair member
      obtain ⟨row, found, unrevoked⟩ := eligible.durable
      obtain ⟨row', found', up⟩ := revoked
      rw [named] at found'
      cases found.symm.trans found'
      cases up.symm.trans unrevoked
  | @crashed g c next running label died cut =>
    have uncalled {c' : ExternalCall} {answer : Answer Reply} (ended : t.label = .call c' answer) : False :=
      nomatch label.symm.trans ended
    refine ⟨fun _ _ _ _ ended => (uncalled ended).elim, challengeRows cut, ?_, fun _ _ ended => (uncalled ended).elim,
      dispatches running cut⟩
    intro c' frame called sent own
    rw [label] at called
    cases called
    exact ⟨frames sent own cut, fun reply ended => uncalled ended⟩
  | restarted label _ returned =>
    exact idle (by rw [label]; rfl) (confined_create.challenges returned.stops (by simp [writesOfRestart]))
      (confined_create.dispatches returned.stops (by simp [writesOfRestart]))
  | failed label _ cut =>
    exact idle (by rw [label]; rfl) (confined_create.challenges cut (by simp [writesOfRestart]))
      (confined_create.dispatches cut (by simp [writesOfRestart]))
  | outside none_ _ tables =>
    obtain ⟨store, spool, same⟩ := tables
    exact idle none_ (by rw [same]) (by rw [same])

/-- Over every history: once `revoke` of a worker has committed its first update, nothing
that follows lets the worker back in, whatever is configured at a restart. -/
theorem revocation_permanent {later earlier : List ExternalTransition} {t : ExternalTransition}
    (history : ExternalHistory crypto ⟨.empty, none⟩ (later ++ t :: earlier) w) (revokes : Revokes worker t) :
    ∀ u ∈ later, Excluded worker u := by
  have closes (v : ExternalTransition) (member : v ∈ later ++ t :: earlier) :
      (Revoked worker v.before.db → Closed worker v.before) → Revoked worker v.after.db → Closed worker v.after :=
    step_closed (history.moved v member)
  have closed := (history.invariant (I := fun v => Revoked worker v.db → Closed worker v) (fun _ _ _ runs => nomatch runs) closes).2
  have revoked := (history.ever_after (I := fun v => Revoked worker v.db) revokes.2
    fun v member => revoked_stays (history.moved v (List.mem_append_left _ member)).kept).2
  intro u member
  have inHistory : u ∈ later ++ t :: earlier := List.mem_append_left _ member
  have already := (revoked u member).1
  exact step_excluded (history.moved u inHistory) already ((closed u inHistory).1 already)

end

namespace Sample

/-- A worker is revoked, and asks for a challenge after a restart. -/
def revoked : List (Option ExternalAct) :=
  [none, some <| .call (.revoke (.str "w")) [], none,
   some <| .call (.issueChallenge (.str "w") (.str "k") (.fin 10)) [{}, { nonce := nonce 'a' }]]

/-- The step is a revocation of worker `w`. -/
def revokesW (t : ExternalTransition) : Bool :=
  match t.label with
  | .call (.revoke (.str worker)) _ => worker = "w" ∧ ((t.after.db.profiles.find? "w").any (·.revoked))
  | _ => false

theorem revokes_w {t : ExternalTransition} (revokes : revokesW t = true) : Revokes "w" t := by
  unfold revokesW at revokes
  split at revokes
  · rename_i label
    obtain ⟨rfl, found⟩ := of_decide_eq_true revokes
    obtain ⟨row, found, flag⟩ := (Option.any_eq_true _ _).mp found
    exact ⟨by rw [label]; rfl, row, found, flag⟩
  · cases revokes

end Sample

theorem revocation_permanent_restarted : ∃ later t earlier,
    (Sample.played Sample.revoked).1 = later ++ t :: earlier ∧ later.length = 2 ∧ Revokes "w" t ∧
      ∀ u ∈ later, Excluded "w" u := by
  have history := Sample.played_history Sample.revoked
  have third : ((Sample.played Sample.revoked).1[2]?).any Sample.revokesW = true := by decide +kernel
  generalize (Sample.played Sample.revoked).1 = past at history third ⊢
  rcases past with _ | ⟨a, _ | ⟨b, _ | ⟨t, earlier⟩⟩⟩
  · cases third
  · cases third
  · cases third
  · have revokes := Sample.revokes_w third
    have permanent : ∀ u ∈ [a, b], Excluded "w" u := revocation_permanent history revokes
    exact ⟨[a, b], t, earlier, rfl, rfl, revokes, permanent⟩

end ControlPlane.Autonomy
