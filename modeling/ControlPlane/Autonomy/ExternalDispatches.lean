import ControlPlane.Autonomy.ExternalOutcomes
import ControlPlane.Autonomy.ExternalRuns

/-!
# A dispatch is acknowledged once and ends once

What one call can do to the dispatches, wherever it is cut. The flags of a dispatch only
go up, each behind a statement of the store that checks the lease; so whatever other
connections do in between, and wherever the process dies, the store has the last word.
-/

namespace ControlPlane.Autonomy

open Data Interleaving

/-- The store's statement of a frame has committed and the dispatch is marked. -/
structure Marked (st : Stmt Unit) (mark : GatewayStmt Unit) (db db' : ExternalDb) : Prop where
  stored : ∃ x, perform st x db.store = (db'.store, .ok ())
  written : ∃ db₀ : ExternalDb, db₀.dispatches = db.dispatches ∧ Written db₀ mark db'

abbrev AckMarked (m : Message) (row : DispatchRow) := Marked (ackStart m row) (.markAcknowledged row.dispatchId m.observed)

abbrev ResultMarked (m : Message) (row : DispatchRow) (evidenceId : Identifier) (digest : String) :=
  Marked (resultSubmit m row evidenceId digest) (.markResultReceived row.dispatchId)

/-- How a call can change the dispatches, wherever it ends or is cut. -/
inductive DispatchesChange (crypto : Crypto) (g : ExternalGateway) (db db' : ExternalDb) : ExternalCall → Prop
  | kept {c} (same : db'.dispatches = db.dispatches) : DispatchesChange crypto g db db' c
  | sent {c row} (new : Sent db row) (inserted : db.dispatches.insert? row = some db'.dispatches) :
      DispatchesChange crypto g db db' c
  | acknowledged {value now m row} (admitted : AckAdmitted crypto g db value now m row) (marked : AckMarked m row db db') :
      DispatchesChange crypto g db db' (.acknowledge value now)
  | resulted {value now m row evidenceId digest} (admitted : ResultAdmitted crypto g db value now m row evidenceId digest)
      (marked : ResultMarked m row evidenceId digest db db') : DispatchesChange crypto g db db' (.result value now)

section

variable {crypto : Crypto} {g : ExternalGateway} {db db' : ExternalDb} {c : ExternalCall} {next : Pending ExternalStmt}
  {value : Json} {now : PyFloat} {m : Message} {row : DispatchRow} {d : Domain} {st : Stmt Unit} {mark : GatewayStmt Unit}
  {u : Unit} {evidenceId : Identifier} {digest : String}

/-! ### One call -/

theorem Settling.dispatches (settling : Settling m d st mark db db' next) (marking : Marking mark) :
    db'.dispatches = db.dispatches ∨ Marked st mark db db' := by
  cases settling with
  | @settled messages x store db' inserted performed marked =>
    refine .inr ⟨⟨x, ?_⟩, { db.accept m none messages with store }, rfl, marked⟩
    rw [performed, (marking.same marked).2.2]
  | _ => exact .inl rfl

/-- A call that raises has marked nothing. -/
theorem raises_settle_dispatches {e : Err} (marking : Marking mark) (raised : externals.Raises (settle m d st mark) db db' e) :
    db'.dispatches = db.dispatches := by
  rcases raises_settle marking raised with rfl | ⟨_, _, _, _, _, rfl⟩ <;> rfl

theorem returns_settle_marked (marking : Marking mark) (returned : externals.Returns (settle m d st mark) db db' u) :
    Marked st mark db db' := by
  obtain ⟨messages, x, store, _, performed, marked⟩ := returns_settle marking returned
  refine ⟨⟨x, ?_⟩, { db.accept m none messages with store }, rfl, marked⟩
  rw [performed, (marking.same marked).2.2]

theorem returns_acknowledge_marked (returned : externals.Returns (g.acknowledge crypto value now) db db' u) :
    ∃ m row, AckAdmitted crypto g db value now m row ∧ AckMarked m row db db' := by
  rcases runs_acknowledge running_returns returned with impossible | ⟨m, row, admitted, ran⟩
  · exact impossible.elim
  · exact ⟨m, row, admitted, returns_settle_marked marking_acknowledged ran⟩

theorem returns_result_marked (returned : externals.Returns (g.result crypto value now) db db' u) :
    ∃ m row evidenceId digest, ResultAdmitted crypto g db value now m row evidenceId digest ∧
      ResultMarked m row evidenceId digest db db' := by
  rcases runs_result running_returns returned with impossible | ⟨m, row, evidenceId, digest, admitted, ran⟩
  · exact impossible.elim
  · exact ⟨m, row, evidenceId, digest, admitted, returns_settle_marked marking_resultReceived ran⟩

theorem raises_acknowledge_dispatches {e : Err} (raised : externals.Raises (g.acknowledge crypto value now) db db' e) :
    db'.dispatches = db.dispatches := by
  rcases runs_acknowledge running_raises raised with rfl | ⟨m, row, admitted, ran⟩
  · rfl
  · exact raises_settle_dispatches marking_acknowledged ran

theorem raises_result_dispatches {e : Err} (raised : externals.Raises (g.result crypto value now) db db' e) :
    db'.dispatches = db.dispatches := by
  rcases runs_result running_raises raised with rfl | ⟨m, row, evidenceId, digest, admitted, ran⟩
  · rfl
  · exact raises_settle_dispatches marking_resultReceived ran

/-- What one call does to the dispatches. -/
theorem call_dispatches (cut : externals.Cut (c.procedure crypto g) db db' next) : DispatchesChange crypto g db db' c := by
  cases c with
  | dispatch task lease sessionId now =>
    have cut : externals.Cut (ExternalGateway.dispatch crypto task lease sessionId now >>= fun e => pure (Reply.envelope e))
        db db' next := cut
    have inner : ∃ next, externals.Cut (ExternalGateway.dispatch crypto task lease sessionId now) db db' next := by
      rcases Machine.cut_bind.mp cut with ⟨st, _, within⟩ | ⟨e, _, raised⟩ | ⟨db₁, a, returned, rfl, _⟩
      · exact ⟨_, within⟩
      · exact ⟨_, raised.stops⟩
      · exact ⟨_, returned.stops⟩
    obtain ⟨_, inner⟩ := inner
    rcases cut_dispatch inner with same | ⟨row, new, inserted⟩
    · exact .kept same
    · exact .sent new inserted
  | acknowledge value now =>
    rcases runs_acknowledge running_cut (Machine.cut_then_pure.mp cut) with rfl | ⟨m, row, admitted, ran⟩
    · exact .kept rfl
    · exact ((cut_settle marking_acknowledged ran).dispatches marking_acknowledged).elim .kept (.acknowledged admitted)
  | result value now =>
    rcases runs_result running_cut (Machine.cut_then_pure.mp cut) with rfl | ⟨m, row, evidenceId, digest, admitted, ran⟩
    · exact .kept rfl
    · exact ((cut_settle marking_resultReceived ran).dispatches marking_resultReceived).elim .kept (.resulted admitted)
  | _ => exact .kept ((confined_call _).dispatches cut (by simp [ExternalCall.writes]))

/-- The dispatches behind an acknowledgement. -/
theorem AckMarked.find? (marked : AckMarked m row db db') (id : String) : db'.dispatches.find? id =
    if row.dispatchId = id then (db.dispatches.find? id).map fun d => { d with acknowledged := true, ackAt := some m.observed }
    else db.dispatches.find? id := by
  obtain ⟨db₀, same, written⟩ := marked.written
  obtain rfl := written
  rw [← same]
  exact Table.find?_update_key (t := db₀.dispatches) (f := fun d => { d with acknowledged := true, ackAt := some m.observed })
    fun _ => rfl

theorem ResultMarked.find? (marked : ResultMarked m row evidenceId digest db db') (id : String) :
    db'.dispatches.find? id =
      if row.dispatchId = id then (db.dispatches.find? id).map fun d => { d with resultReceived := true }
      else db.dispatches.find? id := by
  obtain ⟨db₀, same, written⟩ := marked.written
  obtain rfl := written
  rw [← same]
  exact Table.find?_update_key (t := db₀.dispatches) (f := fun d => { d with resultReceived := true }) fun _ => rfl

end

/-! ### What is promised -/

/-- A frame that carries a signature of the dispatch's worker, and names the dispatch
with its task, session and lease. -/
structure Vouched (crypto : Crypto) (d : Domain) (frame : Json) (w : ExternalWorld) (row : DispatchRow) : Prop where
  signed : ∃ g p entries, w.gateway = some g ∧ Trusted g w.db p ∧ p.workerId.1 = row.workerId ∧ frame = .dict entries ∧
    verify crypto p d entries = .ok ()
  dispatchId : frame.field "dispatch_id" = .str row.dispatchId
  taskId : frame.field "task_id" = .str row.taskId
  workerId : frame.field "worker_id" = .str row.workerId
  sessionId : frame.field "session_id" = .str row.sessionId
  leaseId : frame.field "lease_id" = .str row.leaseId

/-- The task of the dispatch is its worker's, under its lease, which is not past. -/
def Holds (row : DispatchRow) (n : ℚ) (w : ExternalWorld) : Prop :=
  ∃ r, w.db.store.tasks.find? row.taskId = some r ∧ r.assignedWorkerId = some row.workerId ∧ r.leaseId = some row.leaseId ∧
    r.Live n

/-- The flag of the dispatch is up. -/
def Raised (flag : DispatchRow → Bool) (id : String) (w : ExternalWorld) : Prop :=
  ∃ x, w.db.dispatches.find? id = some x ∧ flag x = true

/-- An acknowledgement of the dispatch has returned. -/
def AckReturned (id : String) (t : ExternalTransition) : Prop :=
  ∃ frame now reply, t.label = .call (.acknowledge frame now) (.ok reply) ∧ frame.field "dispatch_id" = .str id

/-- A result of the dispatch has returned. -/
def ResultReturned (id : String) (t : ExternalTransition) : Prop :=
  ∃ frame now reply, t.label = .call (.result frame now) (.ok reply) ∧ frame.field "dispatch_id" = .str id

/-- The call returned, or the process died in it. -/
def Ended (c : ExternalCall) (t : ExternalTransition) : Prop :=
  (∃ reply, t.label = .call c (.ok reply)) ∨ ∃ next, t.label = .crash c next

/-- The acknowledgement returned, or the process died in it after it had raised the flag. -/
def AckThrough (id : String) (frame : Json) (now : PyFloat) (t : ExternalTransition) : Prop :=
  (∃ reply, t.label = .call (.acknowledge frame now) (.ok reply)) ∨ (∃ next, t.label = .crash (.acknowledge frame now) next) ∧
    ¬ Raised DispatchRow.acknowledged id t.before ∧ Raised DispatchRow.acknowledged id t.after

/-- How a step can change the dispatches. -/
inductive DispatchesStep (crypto : Crypto) (t : ExternalTransition) : Prop
  | kept (same : t.after.db.dispatches = t.before.db.dispatches)
  | sent {row} (new : Sent t.before.db row) (inserted : t.before.db.dispatches.insert? row = some t.after.db.dispatches)
  | acknowledged {g frame now m row} (running : t.before.gateway = some g) (ended : Ended (.acknowledge frame now) t)
      (admitted : AckAdmitted crypto g t.before.db frame now m row) (marked : AckMarked m row t.before.db t.after.db)
  | resulted {g frame now m row evidenceId digest} (running : t.before.gateway = some g) (ended : Ended (.result frame now) t)
      (admitted : ResultAdmitted crypto g t.before.db frame now m row evidenceId digest)
      (marked : ResultMarked m row evidenceId digest t.before.db t.after.db)

/-- What is true when an acknowledgement raises the flag of its dispatch. -/
structure AckJustified (crypto : Crypto) (row : DispatchRow) (frame : Json) (now : PyFloat) (w : ExternalWorld) : Prop where
  vouched : Vouched crypto .ack frame w row
  held : ∃ n, now.clock? = some n ∧ Holds row n w

/-- What is true when a result returns. -/
structure ReportJustified (crypto : Crypto) (past : List ExternalTransition) (t : ExternalTransition) (row : DispatchRow)
    (frame : Json) (n : ℚ) : Prop where
  found : t.before.db.dispatches.find? row.dispatchId = some row
  vouched : Vouched crypto .result frame t.before row
  held : Holds row n t.before
  acknowledged : ∃ u ∈ past, ∃ ack now, AckThrough row.dispatchId ack now u ∧ AckJustified crypto row ack now u.before
  evidence : ∃ id bytes, frame.field "evidence_id" = .str id ∧ t.before.db.spool id = some bytes ∧
    t.after.db.store.evidence.rows = t.before.db.store.evidence.rows ++ [⟨row.taskId, id, crypto.sha256 bytes, n⟩]

/-- What is promised of a history, newest first. -/
structure ExternalDispatchesSafe (crypto : Crypto) (past : List ExternalTransition) : Prop where
  acks_once : past.Pairwise fun later earlier => ∀ id, ¬ (AckReturned id later ∧ AckReturned id earlier)
  results_once : past.Pairwise fun later earlier => ∀ id, ¬ (ResultReturned id later ∧ ResultReturned id earlier)
  results : ∀ later t older, past = later ++ t :: older → ∀ frame now reply, t.label = .call (.result frame now) (.ok reply) →
    ∃ row n, now.clock? = some n ∧ ReportJustified crypto older t row frame n

section

variable {crypto : Crypto} {w w' : ExternalWorld} {e : ExternalEvent} {t : ExternalTransition} {past : List ExternalTransition}
  {m : Message} {row : DispatchRow} {frame : Json} {now : PyFloat} {g : ExternalGateway} {d : Domain} {db db' : ExternalDb}

/-! ### What the checks of a frame say about the dispatch -/

theorem vouched_of (running : w.gateway = some g) (admitted : Admitted crypto g d w.db frame now m)
    (bound : Bound w.db m.frame row) : Vouched crypto d frame w row := by
  have worker : m.profile.workerId.1 = row.workerId := Json.str.inj (admitted.worker.symm.trans bound.workerId)
  have field (key : String) : frame.field key = m.frame.get key := by rw [admitted.shape]; rfl
  refine ⟨⟨g, m.profile, m.frame, running, admitted.trusted, worker, admitted.shape, admitted.signed⟩, ?_, ?_, ?_, ?_, ?_⟩
  · rw [field, bound.dispatchId]
  · rw [field, bound.taskId]
  · rw [field, bound.workerId]
  · rw [field, bound.sessionId]
  · rw [field, bound.leaseId]

theorem ack_held (admitted : AckAdmitted crypto g w.db frame now m row) (marked : AckMarked m row w.db db') :
    Holds row m.time w := by
  have worker : m.profile.workerId.1 = row.workerId := Json.str.inj (admitted.admitted.worker.symm.trans admitted.bound.workerId)
  obtain ⟨x, started⟩ := marked.stored
  obtain ⟨⟨r, member, named, assigned, lease, _, live⟩, _⟩ := startTask_ok (transaction_ok.mp started)
  exact ⟨r, Table.find?_some.mpr ⟨member, named⟩, assigned.trans (congrArg some worker), lease, live⟩

theorem ack_justified (running : w.gateway = some g) (admitted : AckAdmitted crypto g w.db frame now m row)
    (marked : AckMarked m row w.db db') : AckJustified crypto row frame now w :=
  ⟨vouched_of running admitted.admitted admitted.bound, m.time, admitted.admitted.clock, ack_held admitted marked⟩

/-! ### The flags -/

/-- No step lowers a flag. -/
theorem raised_stays {flag : DispatchRow → Bool} (rises : flag = DispatchRow.acknowledged ∨ flag = DispatchRow.resultReceived)
    (kept : Kept w.db w'.db) {id : String} (up : Raised flag id w) : Raised flag id w' := by
  obtain ⟨x, found, up⟩ := up
  obtain ⟨member, named⟩ := Table.find?_some.mp found
  obtain ⟨x', there, later⟩ := kept.dispatches x member
  have same : x'.dispatchId = x.dispatchId := (congrArg DispatchRow.dispatchId later.same :)
  refine ⟨x', Table.find?_some.mpr ⟨there, same.trans named⟩, ?_⟩
  rcases rises with rfl | rfl
  · exact later.acknowledged up
  · exact later.resultReceived up

theorem ackReturned_raises (step : ExternalStep crypto t.before t.label t.after) {id : String} (returned : AckReturned id t) :
    ¬ Raised DispatchRow.acknowledged id t.before ∧ Raised DispatchRow.acknowledged id t.after := by
  obtain ⟨frame, now, reply, label, named⟩ := returned
  rw [label] at step
  obtain ⟨g, running, returned⟩ := step.returned
  obtain ⟨_, u, returned⟩ := Machine.returns_then_pure.mp returned
  obtain ⟨m, row, admitted, marked⟩ := returns_acknowledge_marked returned
  have vouched := vouched_of running admitted.admitted admitted.bound
  obtain rfl := Json.str.inj (vouched.dispatchId.symm.trans named)
  constructor
  · rintro ⟨x, found, up⟩
    obtain rfl := Option.some.inj (admitted.bound.found.symm.trans found)
    cases admitted.awaited.symm.trans up
  · refine ⟨{ row with acknowledged := true, ackAt := some m.observed }, ?_, rfl⟩
    rw [marked.find?, if_pos rfl, admitted.bound.found, Option.map_some]

theorem resultReturned_raises (step : ExternalStep crypto t.before t.label t.after) {id : String}
    (returned : ResultReturned id t) :
    ¬ Raised DispatchRow.resultReceived id t.before ∧ Raised DispatchRow.resultReceived id t.after := by
  obtain ⟨frame, now, reply, label, named⟩ := returned
  rw [label] at step
  obtain ⟨g, running, returned⟩ := step.returned
  obtain ⟨_, u, returned⟩ := Machine.returns_then_pure.mp returned
  obtain ⟨m, row, evidenceId, digest, admitted, marked⟩ := returns_result_marked returned
  have vouched := vouched_of running admitted.admitted admitted.bound
  obtain rfl := Json.str.inj (vouched.dispatchId.symm.trans named)
  constructor
  · rintro ⟨x, found, up⟩
    obtain rfl := Option.some.inj (admitted.bound.found.symm.trans found)
    cases admitted.checked.awaited.symm.trans up
  · refine ⟨{ row with resultReceived := true }, ?_, rfl⟩
    rw [marked.find?, if_pos rfl, admitted.bound.found, Option.map_some]

theorem step_dispatches_external (step : ExternalStep crypto t.before t.label t.after) : DispatchesStep crypto t := by
  cases step.cases with
  | @called g c answer running label stays ends =>
    cases answer with
    | ok reply =>
      cases call_dispatches ends.stops with
      | kept same => exact .kept same
      | sent new inserted => exact .sent new inserted
      | acknowledged admitted marked => exact .acknowledged running (.inl ⟨reply, label⟩) admitted marked
      | resulted admitted marked => exact .resulted running (.inl ⟨reply, label⟩) admitted marked
    | error e =>
      cases call_dispatches ends.stops with
      | kept same => exact .kept same
      | sent new inserted => exact .sent new inserted
      | acknowledged => exact .kept (raises_acknowledge_dispatches (Machine.raises_then_pure.mp ends))
      | resulted => exact .kept (raises_result_dispatches (Machine.raises_then_pure.mp ends))
  | @crashed g c next running label died cut =>
    cases call_dispatches cut with
    | kept same => exact .kept same
    | sent new inserted => exact .sent new inserted
    | acknowledged admitted marked => exact .acknowledged running (.inr ⟨next, label⟩) admitted marked
    | resulted admitted marked => exact .resulted running (.inr ⟨next, label⟩) admitted marked
  | restarted _ _ returned => exact .kept (confined_create.dispatches returned.stops (by simp [writesOfRestart]))
  | failed _ _ cut => exact .kept (confined_create.dispatches cut (by simp [writesOfRestart]))
  | outside _ _ tables =>
    obtain ⟨store, spool, same⟩ := tables
    exact .kept (by rw [same])

/-- A step that raises the flag of an acknowledgement is one. -/
theorem raises_acknowledged (step : ExternalStep crypto t.before t.label t.after) {x : DispatchRow}
    (down : ¬ ∃ y, t.before.db.dispatches.find? x.dispatchId = some y ∧ y.acknowledged = true)
    (found : t.after.db.dispatches.find? x.dispatchId = some x) (up : x.acknowledged = true) :
    ∃ g frame now m row, t.before.gateway = some g ∧ Ended (.acknowledge frame now) t ∧
      AckAdmitted crypto g t.before.db frame now m row ∧ AckMarked m row t.before.db t.after.db ∧
      x = { row with acknowledged := true, ackAt := some m.observed } := by
  cases step_dispatches_external step with
  | kept same => exact absurd ⟨x, same ▸ found, up⟩ down
  | @sent row new inserted =>
    obtain ⟨member, _⟩ := Table.find?_some.mp found
    rcases (Table.mem_inserted inserted).mp member with there | rfl
    · exact absurd ⟨x, Table.find?_some.mpr ⟨there, rfl⟩, up⟩ down
    · cases new.acknowledged.symm.trans up
  | @acknowledged g frame now m row running ended admitted marked =>
    rw [AckMarked.find? marked] at found
    split at found
    · rename_i own
      rw [← own, admitted.bound.found] at found
      exact ⟨g, frame, now, m, row, running, ended, admitted, marked, (Option.some.inj found).symm⟩
    · exact absurd ⟨x, found, up⟩ down
  | @resulted g frame now m row evidenceId digest running ended admitted marked =>
    rw [ResultMarked.find? marked] at found
    split at found
    · rename_i own
      rw [← own, admitted.bound.found] at found
      obtain rfl := Option.some.inj found
      exact absurd ⟨row, admitted.bound.found, up⟩ down
    · exact absurd ⟨x, found, up⟩ down

/-- A step that raises the flag of a result is one. -/
theorem raises_received (step : ExternalStep crypto t.before t.label t.after) {x : DispatchRow}
    (down : ¬ ∃ y, t.before.db.dispatches.find? x.dispatchId = some y ∧ y.resultReceived = true)
    (found : t.after.db.dispatches.find? x.dispatchId = some x) (up : x.resultReceived = true) :
    ∃ g frame now m row evidenceId digest, t.before.gateway = some g ∧ Ended (.result frame now) t ∧
      ResultAdmitted crypto g t.before.db frame now m row evidenceId digest ∧
      ResultMarked m row evidenceId digest t.before.db t.after.db ∧ x = { row with resultReceived := true } := by
  cases step_dispatches_external step with
  | kept same => exact absurd ⟨x, same ▸ found, up⟩ down
  | @sent row new inserted =>
    obtain ⟨member, _⟩ := Table.find?_some.mp found
    rcases (Table.mem_inserted inserted).mp member with there | rfl
    · exact absurd ⟨x, Table.find?_some.mpr ⟨there, rfl⟩, up⟩ down
    · cases new.resultReceived.symm.trans up
  | @acknowledged g frame now m row running ended admitted marked =>
    rw [AckMarked.find? marked] at found
    split at found
    · rename_i own
      rw [← own, admitted.bound.found] at found
      obtain rfl := Option.some.inj found
      exact absurd ⟨row, admitted.bound.found, up⟩ down
    · exact absurd ⟨x, found, up⟩ down
  | @resulted g frame now m row evidenceId digest running ended admitted marked =>
    rw [ResultMarked.find? marked] at found
    split at found
    · rename_i own
      rw [← own, admitted.bound.found] at found
      exact ⟨g, frame, now, m, row, evidenceId, digest, running, ended, admitted, marked, (Option.some.inj found).symm⟩
    · exact absurd ⟨x, found, up⟩ down

/-- The columns of a dispatch that never change. -/
def DispatchRow.SameAs (d d' : DispatchRow) : Prop :=
  { d with acknowledged := false, resultReceived := false, ackAt := none } =
    { d' with acknowledged := false, resultReceived := false, ackAt := none }

theorem DispatchRow.SameAs.dispatchId {d d' : DispatchRow} (same : d.SameAs d') : d.dispatchId = d'.dispatchId :=
  (congrArg DispatchRow.dispatchId same :)

theorem DispatchRow.Later.sameAs {d d' : DispatchRow} (later : d.Later d') : d.SameAs d' := by
  unfold DispatchRow.SameAs
  rw [← later.same]

/-- A flag that goes up on a dispatch was down on the same dispatch before. -/
theorem lowered {flag : DispatchRow → Bool} {id : String} {x : DispatchRow} (kept : Kept db db')
    (down : ¬ ∃ y, db.dispatches.find? id = some y ∧ flag y = true ∧ y.SameAs row) (after : db'.dispatches.find? id = some x)
    (same : x.SameAs row) : ¬ ∃ y, db.dispatches.find? x.dispatchId = some y ∧ flag y = true := by
  obtain ⟨there, named⟩ := Table.find?_some.mp after
  rintro ⟨y, before, was⟩
  obtain ⟨member, key⟩ := Table.find?_some.mp before
  obtain ⟨y', after, later⟩ := kept.dispatches y member
  obtain rfl := Table.eq_of_key after there (later.sameAs.dispatchId.symm.trans key)
  exact down ⟨y, named ▸ before, was, later.sameAs.trans same⟩

theorem AckJustified.same {row' : DispatchRow} (justified : AckJustified crypto row frame now w) (same : row.SameAs row') :
    AckJustified crypto row' frame now w := by
  obtain ⟨⟨signed, dispatchId, taskId, workerId, sessionId, leaseId⟩, held⟩ := justified
  simp only [DispatchRow.SameAs, DispatchRow.mk.injEq, and_true] at same
  obtain ⟨same₁, same₂, same₃, same₄, same₅, _⟩ := same
  constructor
  · constructor
    · rwa [← same₃]
    · rwa [← same₁]
    · rwa [← same₂]
    · rwa [← same₃]
    · rwa [← same₄]
    · rwa [← same₅]
  · unfold Holds at held ⊢
    rwa [← same₂, ← same₃, ← same₅]

/-- The step of the acknowledgement that put the dispatch's flag up. -/
structure AckStep (crypto : Crypto) (row : DispatchRow) (frame : Json) (now : PyFloat) (t : ExternalTransition) : Prop where
  through : AckThrough row.dispatchId frame now t
  done : ∃ g m row₀, row₀.SameAs row ∧ t.before.gateway = some g ∧ AckAdmitted crypto g t.before.db frame now m row₀ ∧
    AckMarked m row₀ t.before.db t.after.db

theorem AckStep.justified (acked : AckStep crypto row frame now t) : AckJustified crypto row frame now t.before := by
  obtain ⟨g, m, row₀, same, running, admitted, marked⟩ := acked.done
  exact (ack_justified running admitted marked).same same

/-- An acknowledged dispatch was acknowledged by a frame. -/
theorem acknowledged_before (history : ExternalHistory crypto ⟨.empty, none⟩ past w)
    (found : w.db.dispatches.find? row.dispatchId = some row) (up : row.acknowledged = true) :
    ∃ u ∈ past, ∃ frame now, AckStep crypto row frame now u := by
  let Up (v : ExternalWorld) : Prop :=
    ∃ x, v.db.dispatches.find? row.dispatchId = some x ∧ x.acknowledged = true ∧ x.SameAs row
  refine history.raised_by (fun u => ∃ frame now, AckStep crypto row frame now u) Up ?_ (fun u member down after => ?_)
    ⟨row, found, up, rfl⟩
  · rintro ⟨x, there, _⟩
    cases there
  · obtain ⟨x, there, up, same⟩ := after
    obtain ⟨_, named⟩ := Table.find?_some.mp there
    have step := history.moved u member
    have notUp := lowered step.kept down there same
    obtain ⟨g, frame, now, m, row₀, running, ended, admitted, marked, rfl⟩ := raises_acknowledged step notUp (named ▸ there) up
    have named : row₀.dispatchId = row.dispatchId := named
    refine ⟨frame, now, ended.imp_right fun died => ⟨died, ?_, _, there, up⟩, g, m, row₀, same, running, admitted, marked⟩
    exact named ▸ notUp

/-- What a result that returns has found and left. -/
theorem report_justified (history : ExternalHistory crypto ⟨.empty, none⟩ past t.before)
    (step : ExternalStep crypto t.before t.label t.after) {reply : Reply} (label : t.label = .call (.result frame now) (.ok reply)) :
    ∃ row n, now.clock? = some n ∧ ReportJustified crypto past t row frame n := by
  rw [label] at step
  obtain ⟨g, running, returned⟩ := step.returned
  obtain ⟨_, u, returned⟩ := Machine.returns_then_pure.mp returned
  obtain ⟨m, row, evidenceId, digest, admitted, marked⟩ := returns_result_marked returned
  have vouched := vouched_of running admitted.admitted admitted.bound
  have worker : m.profile.workerId.1 = row.workerId :=
    Json.str.inj (admitted.admitted.worker.symm.trans admitted.bound.workerId)
  obtain ⟨x, submitted⟩ := marked.stored
  obtain ⟨⟨r, found, _, assigned, lease, expires, stored, notPast⟩, rows⟩ := receiveResult_ok (transaction_ok.mp submitted)
  have deadlines := (history.invariant (I := fun v => ∀ r ∈ v.db.store.tasks.rows, r.Deadline) (by simp [ExternalDb.empty, Db.empty])
    fun u member => (history.moved u member).store exec_deadlines).1
  obtain ⟨bytes, file, hashed⟩ := admitted.checked.bytes
  refine ⟨row, m.time, admitted.admitted.clock, ?_⟩
  constructor
  · exact admitted.bound.found
  · exact vouched
  · refine ⟨r, found, assigned.trans (congrArg some worker), lease, ?_⟩
    exact (deadlines r (Table.find?_some.mp found).1).live stored notPast
  · obtain ⟨v, member, ack, time, acked⟩ := acknowledged_before history admitted.bound.found admitted.checked.acknowledged
    exact ⟨v, member, ack, time, acked.through, acked.justified⟩
  · refine ⟨evidenceId.1, bytes, ?_, file, ?_⟩
    · rw [admitted.admitted.shape]
      exact admitted.checked.named
    · rw [rows, clean_identifier, ← hashed, lower_of_isDigest (crypto.digest bytes)]

/-- Over every history of calls, crashes and restarts, with statements of other
connections in between: a dispatch is acknowledged and ends at most once, and a result
is accepted only behind an acknowledgement, under the lease both were signed for. -/
theorem external_dispatches_safe (history : ExternalHistory crypto ⟨.empty, none⟩ past w) :
    ExternalDispatchesSafe crypto past where
  acks_once :=
    history.at_most_once AckReturned (Raised DispatchRow.acknowledged)
      (fun t member _ => ackReturned_raises (history.moved t member))
      fun t member _ => raised_stays (.inl rfl) (history.moved t member).kept
  results_once :=
    history.at_most_once ResultReturned (Raised DispatchRow.resultReceived)
      (fun t member _ => resultReturned_raises (history.moved t member))
      fun t member _ => raised_stays (.inr rfl) (history.moved t member).kept
  results := by
    rintro later t older rfl frame now reply label
    obtain ⟨before, step⟩ := history.upTo
    exact report_justified before step label

end

theorem external_dispatches_safe_work :
    ExternalDispatchesSafe Sample.crypto (Sample.played Sample.work).1 :=
  external_dispatches_safe (Sample.played_history _)

end ControlPlane.Autonomy
