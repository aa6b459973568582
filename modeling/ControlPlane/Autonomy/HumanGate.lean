import ControlPlane.Autonomy.Rules

/-!
# The human and governance gate

Four operations look a task up by its cleaned name and then update the row of the
name they were given. Where the two are one row the gate holds: what was seen not to
wait for a human never will, and the columns of the gate never change.
-/

namespace ControlPlane.Autonomy

open Data Interleaving Protocol

/-- `requires_human_approval` is 1 or `governance_allowed` is 0. -/
def TaskRow.Gated (r : TaskRow) : Prop := r.requiresHumanApproval = 1 ∨ r.governanceAllowed = 0

instance : DecidablePred TaskRow.Gated := fun _ => inferInstanceAs (Decidable (_ ∨ _))

/-- The states of work and of its results. -/
def TaskState.worked (s : TaskState) : Bool := s ∈ [leased, running, evidencePending, reviewPending, completed]

/-- No gated task holds a lease, is worked on or was. -/
def GateHolds (db : Db) : Prop := ∀ r ∈ db.tasks.rows, r.Gated → r.leaseId = none ∧ r.state.worked = false

/-- Whoever waits for a human is there and goes on waiting. -/
def StillWaiting (db db' : Db) : Prop :=
  ∀ r ∈ db.tasks.rows, r.state = .waitingHuman → ∃ r' ∈ db'.tasks.rows, r'.taskId = r.taskId ∧ r'.state = .waitingHuman

instance (db db' : Db) : Decidable (StillWaiting db db') := inferInstanceAs (Decidable (∀ r ∈ db.tasks.rows, _ → _))

instance : IsTrans Db StillWaiting where
  trans _ _ _ first second r member waits := by
    obtain ⟨r', member', key, waits'⟩ := first r member waits
    obtain ⟨r'', member'', key', waits''⟩ := second r' member' waits'
    exact ⟨r'', member'', key'.trans key, waits''⟩

/-- A name that `clean` changes is not the name of a task that the update must spare. -/
def looksWhereItWrites {β : Type} : Stmt β → TaskRow → Bool
  | .waitForCapacity task _, r | .chargeFailure task .., r =>
    decide (clean task ≠ task → r.taskId = task → r.state ≠ .waitingHuman)
  | .completeTask task _, r => decide (clean task ≠ task → r.taskId = task → r.state ≠ .waitingHuman ∧ ¬ r.Gated)
  | _, _ => true

/-- What the four updates need of the row they hit. -/
def sparesHuman {β : Type} : Stmt β → TaskRow → Bool
  | .waitForCapacity task _, r | .chargeFailure task .., r | .chargeStale task _ _, r =>
    decide (r.taskId = task → r.state ≠ .waitingHuman)
  | .completeTask task _, r => decide (r.taskId = task → r.state ≠ .waitingHuman ∧ ¬ r.Gated)
  | _, _ => true

/-- How any task can move meanwhile: it stays, as gated as it was, and neither starts
nor stops to wait for a human. -/
def KeepsGate (db db' : Db) : Prop := ∀ r ∈ db.tasks.rows, ∃ r' ∈ db'.tasks.rows,
  r'.taskId = r.taskId ∧ (r'.Gated ↔ r.Gated) ∧ (r'.state = .waitingHuman ↔ r.state = .waitingHuman)

section

variable {t : Taken Stmt Input Db} {r r' : TaskRow} {db : Db} {task : String}

theorem Move.gated (move : Move t.stmt t.input t.before r r') : r'.Gated ↔ r.Gated := by
  obtain ⟨_, human, governed, _⟩ := move.identity
  unfold TaskRow.Gated
  rw [human, governed]

theorem not_worked_of_leaseable {s : TaskState} (leaseable : s.leaseable) : s.worked = false ∧ s ≠ .waitingHuman := by
  cases s <;> simp_all [TaskState.leaseable, TaskState.worked]

theorem worked_of_working {s : TaskState} (working : s.working) : s.worked = true ∧ s ≠ .waitingHuman := by
  cases s <;> simp_all [TaskState.working, TaskState.worked]

theorem afterFailure_unworked (read : TaskRow) : (afterFailure read).worked = false ∧ afterFailure read ≠ .waitingHuman := by
  unfold afterFailure
  split <;> decide

/-- A move that spares those who wait for a human keeps the gate. -/
theorem move_gate (spares : Finds sparesHuman t) (free : t.input.busy = false) (member : r ∈ t.before.tasks.rows)
    (move : Move t.stmt t.input t.before r r') (gate : r.Gated → r.leaseId = none ∧ r.state.worked = false) :
    (r'.Gated → r'.leaseId = none ∧ r'.state.worked = false) ∧ (r'.state = .waitingHuman ↔ r.state = .waitingHuman) := by
  have gated := move.gated
  -- a row at work is not gated, and what becomes of it is its own affair
  have atWork (worked : r.state.worked = true) : ¬ r'.Gated := fun g =>
    Bool.false_ne_true ((gate (gated.mp g)).2.symm.trans worked)
  have fromWork (worked : r.state.worked = true) (after : r'.state ≠ .waitingHuman) :
      (r'.Gated → r'.leaseId = none ∧ r'.state.worked = false) ∧ (r'.state = .waitingHuman ↔ r.state = .waitingHuman) :=
    ⟨fun g => absurd g (atWork worked), iff_of_false after fun waits => by simp [waits, TaskState.worked] at worked⟩
  obtain ⟨stmt, x, db⟩ := t
  cases move with
  | claim named _ open_ =>
    refine ⟨fun g => ?_, iff_of_false nofun (not_worked_of_leaseable open_.1).2⟩
    rcases gated.mp g with human | governed
    · exact absurd (human.symm.trans open_.2.1) (by decide)
    · exact absurd governed open_.2.2
  | renew held => exact ⟨gate, .rfl⟩
  | start held =>
    have leased : r.state = .leased := of_decide_eq_true held.2.2.2.1
    exact fromWork (by rw [leased]; rfl) nofun
  | reclaim named => exact fromWork (worked_of_working named.2).1 (afterFailure_unworked r).2
  | chargeStale named | chargeFailure named =>
    have spared := of_decide_eq_true (spares free r member) named
    exact ⟨fun _ => ⟨rfl, (afterFailure_unworked _).1⟩, iff_of_false (afterFailure_unworked _).2 spared⟩
  | completeTask named =>
    obtain ⟨spared, allowed⟩ := of_decide_eq_true (spares free r member) named
    exact ⟨fun g => absurd (gated.mp g) allowed, iff_of_false nofun spared⟩
  | waitForCapacity named =>
    have spared := of_decide_eq_true (spares free r member) named
    exact ⟨fun g => ⟨(gate (gated.mp g)).1, rfl⟩, iff_of_false nofun spared⟩
  | submitMissing named held | submitResult named held =>
    have worked : r.state.worked = true := by
      rcases held.1 with working | pending
      · exact (worked_of_working working).1
      · rw [pending]; rfl
    exact fromWork worked nofun
  | markWaiting named =>
    exact ⟨fun g => ⟨(gate (gated.mp g)).1, rfl⟩, iff_of_false nofun (not_worked_of_leaseable named.2).2⟩
  | finishApply _ named held => exact fromWork (by rw [held.1]; rfl) nofun
  | settleRecovery named running => exact fromWork (by rw [running]; rfl) nofun

/-- A new row waits for a human or is free for work. -/
theorem created_gate {β : Type} {s : Stmt β} (created : Created s r) : r.leaseId = none ∧ r.state.worked = false := by
  obtain ⟨_, _, unleased⟩ := created_row created
  refine ⟨unleased, ?_⟩
  cases created with
  | @createTask t n =>
    simp only [NewTask.row, NewTask.state]
    split <;> rfl
  | @ingestEntry e =>
    simp only [QueueEntry.row]
    split <;> rfl

theorem step_gate (gate : GateHolds t.before) (spares : Finds sparesHuman t) :
    GateHolds (connections.after t) ∧ KeepsGate t.before (connections.after t) := by
  constructor
  · exact (exec_tasks t.stmt t.input t.before).all gate
      (fun r member r' ⟨free, move⟩ before => (move_gate spares free member move before).1) fun r created _ => created_gate created
  · intro r member
    obtain ⟨r', after, key, moved⟩ := exec_kept t.stmt t.input member
    refine ⟨r', after, key, ?_⟩
    rcases moved with rfl | ⟨free, move⟩
    · exact ⟨.rfl, .rfl⟩
    · exact ⟨move.gated, (move_gate spares free member move (gate r member)).2⟩

/-! ### Every operation spares those who wait -/

/-- What the operations know of a task between their lookup and their update. -/
def gateProtocol : Protocol connections where
  Inv := GateHolds
  Rely := KeepsGate
  Admissible := Finds looksWhereItWrites
  Requires := Finds sparesHuman
  kept _ gate _ spares := step_gate gate spares

/-- The task is there, does not wait for a human, and is not gated if `review`. -/
def Cleared (review : Bool) (task : String) (db : Db) : Prop :=
  ∃ r ∈ db.tasks.rows, r.taskId = task ∧ r.state ≠ .waitingHuman ∧ (review → ¬ r.Gated)

theorem cleared_stable {review : Bool} : gateProtocol.Stable (Cleared review task) := by
  rintro db db' _ moved ⟨r, member, rfl, spared, allowed⟩
  obtain ⟨r', after, key, gated, waits⟩ := moved r member
  exact ⟨r', after, key, fun still => spared (waits.mp still), fun reviewed g => allowed reviewed (gated.mp g)⟩

theorem gate_free {w : Writer} (free : w ∈ [.none, .application, .recovery]) {β : Type} (s : Stmt β)
    (sent : s.writer = .none ∨ s.writer = w) : gateProtocol.Free s := by
  have other : s.writer ∈ [.none, .application, .recovery] := by
    rcases sent with none | late
    · simp [none]
    · rwa [late]
  intro x db _ r _
  cases s <;> first | rfl | simp [Stmt.writer] at other

theorem gate_none {β : Type} (s : Stmt β) (none : s.writer = .none) : gateProtocol.Free s :=
  gate_free (w := .none) (by decide) s (.inl none)

theorem gate_locked {β : Type} {s : Stmt β} (x : Input) (db : Db) (busy : x.busy = true) :
    gateProtocol.Requires ⟨s, x, db⟩ := fun free => absurd (busy.symm.trans free) nofun

/-- The row looked up and the row written: one, or one that is known to be spared. -/
theorem spared_of_cleared {review : Bool} (cleared : Cleared review (clean task) db)
    (looks : clean task ≠ task → r.taskId = task → r.state ≠ .waitingHuman ∧ (review → ¬ r.Gated))
    (member : r ∈ db.tasks.rows) (named : r.taskId = task) : r.state ≠ .waitingHuman ∧ (review → ¬ r.Gated) := by
  by_cases same : clean task = task
  · obtain ⟨r₀, there, key, spared⟩ := cleared
    rwa [Table.eq_of_key member there (named.trans (key.trans same).symm)]
  · exact looks same named

/-- The lookup of an operation that goes on if the task passes `looked`. -/
theorem gate_lookup (review : Bool) (looked : TaskRow → Prop)
    (safe : ∀ db r, GateHolds db → r ∈ db.tasks.rows → looked r → r.state ≠ .waitingHuman ∧ (review → ¬ r.Gated)) :
    gateProtocol.MeetsE (fun _ => True) (Store.task task) fun r db => looked r → Cleared review (clean task) db := by
  refine meetsE_task (gate_none _ rfl) (fun r db db' gate moved known passed => ?_) fun db r gate _ found passed => ?_
  · exact cleared_stable db db' gate moved (known passed)
  · obtain ⟨member, named⟩ := Table.find?_some.mp found
    exact ⟨r, member, named, safe db r gate member passed⟩

theorem working_safe {review : Bool} (gate : GateHolds db) (member : r ∈ db.tasks.rows) (worked : r.state.worked = true) :
    r.state ≠ .waitingHuman ∧ (review → ¬ r.Gated) :=
  ⟨fun waits => by simp [waits, TaskState.worked] at worked, fun _ g => by simp [(gate r member g).2] at worked⟩

theorem gate_audit {A : Db → Prop} {event details : String} {n : ℚ} :
    gateProtocol.MeetsE A (Store.audit task event n details) Anything :=
  meetsE_of_sends_any (w := .none) (sends_ask (.inl rfl)) (gate_free (by decide))

theorem gate_failAttempt {worker lease reason code : String} {now : PyFloat} :
    gateProtocol.MeetsE (fun _ => True) (Store.failAttempt task worker lease reason code now) Anything := by
  refine meetsE_now.bind fun n => ?_
  refine MeetsE.bind (gate_lookup false (fun r => r.state.working) fun db r gate member working =>
    working_safe gate member (worked_of_working working).1) fun read => ?_
  refine meetsE_check.bind fun _ => MeetsE.bind (Q := fun _ => Cleared false (clean task)) ?_ fun _ => gate_audit
  refine MeetsE.mono (meetsE_write cleared_stable gate_locked fun x db free gate cleared admissible _ r member => ?_)
    (fun db _ known => known.2 known.1.1) fun _ _ _ h => h
  refine decide_eq_true fun named => ?_
  have looks := of_decide_eq_true (admissible free r member)
  exact (spared_of_cleared cleared (fun cleaned named => ⟨looks cleaned named, nofun⟩) member named).1

theorem gate_completeAfterReview {valid : Bool} {now : PyFloat} :
    gateProtocol.MeetsE (fun _ => True) (Store.completeAfterReview task valid now) Anything := by
  refine meetsE_now.bind fun n => ?_
  refine MeetsE.bind (gate_lookup true (fun r => r.state = .reviewPending) fun db r gate member pending =>
    working_safe gate member (by rw [pending]; rfl)) fun read => ?_
  refine meetsE_check.bind fun _ => MeetsE.bind (Q := fun _ => Cleared true (clean task)) ?_ fun _ => gate_audit
  refine MeetsE.mono (meetsE_write cleared_stable gate_locked fun x db free gate cleared admissible _ r member => ?_)
    (fun db _ known => known.2 known.1.1) fun _ _ _ h => h
  refine decide_eq_true fun named => ?_
  have looks := of_decide_eq_true (admissible free r member)
  obtain ⟨spared, allowed⟩ := spared_of_cleared cleared
    (fun cleaned named => ⟨(looks cleaned named).1, fun _ => (looks cleaned named).2⟩) member named
  exact ⟨spared, allowed rfl⟩

theorem gate_routeOrWait {now : PyFloat} :
    gateProtocol.MeetsE (fun _ => True) (Store.routeOrWait task now) Anything := by
  refine meetsE_now.bind fun n => ?_
  refine MeetsE.bind (gate_lookup false (fun r => r.state ≠ .waitingHuman) fun db r _ _ passed =>
    ⟨passed, nofun⟩) fun read => ?_
  refine meetsE_check.bind fun _ => ?_
  refine MeetsE.mono (A := Cleared false (clean task)) ?_ (fun db _ known => known.2 known.1.2.1) fun _ _ _ h => h
  refine MeetsE.bind (meetsE_of_sends (w := .none) (sends_ask (.inl rfl)) cleared_stable (gate_free (by decide))) fun ids => ?_
  refine MeetsE.bind (meetsE_of_sends (w := .none) sends_firstAvailable cleared_stable (gate_free (by decide))) fun worker => ?_
  cases worker with
  | some id => exact meetsE_pure fun _ _ _ => trivial
  | none =>
    refine MeetsE.bind (meetsE_write cleared_stable gate_locked fun x db free gate cleared admissible _ r member => ?_) fun _ =>
      gate_audit.bind fun _ => meetsE_pure fun _ _ _ => trivial
    refine decide_eq_true fun named => ?_
    have looks := of_decide_eq_true (admissible free r member)
    exact (spared_of_cleared cleared (fun cleaned named => ⟨looks cleaned named, nofun⟩) member named).1

/-- The rows of a stale pass were RUNNING, so none waits for a human, under any name. -/
theorem gate_reconcileRows {n : ℚ} {ids : List String} :
    gateProtocol.MeetsE (fun db => ∀ id ∈ ids, Cleared false id db) (Store.reconcileRows n ids) Anything := by
  have stable (ids : List String) : gateProtocol.Stable fun db => ∀ id ∈ ids, Cleared false id db :=
    fun db db' gate moved cleared id member => cleared_stable db db' gate moved (cleared id member)
  induction ids with
  | nil => exact meetsE_pure fun _ _ _ => trivial
  | cons id rest ih =>
    refine MeetsE.bind (meetsE_of_sends (w := .none) sends_task (stable _) (gate_free (by decide))) fun read => ?_
    refine MeetsE.bind (meetsE_write (stable _) gate_locked fun x db free gate cleared admissible _ r member => ?_) fun _ => ?_
    · refine decide_eq_true fun named => ?_
      obtain ⟨r₀, there, key, spared, _⟩ := cleared id List.mem_cons_self
      rwa [Table.eq_of_key member there (named.trans key.symm)]
    · refine MeetsE.bind (meetsE_of_sends (w := .none) (sends_ask (.inl rfl)) (stable _) (gate_free (by decide))) fun _ => ?_
      refine MeetsE.bind (ih.mono (fun db _ cleared other member => cleared other (List.mem_cons_of_mem _ member)) fun _ _ _ h => h)
        fun _ => meetsE_pure fun _ _ _ => trivial

theorem gate_reconcileStaleWorkers {now : PyFloat} :
    gateProtocol.MeetsE (fun _ => True) (Store.reconcileStaleWorkers now) Anything := by
  refine meetsE_now.bind fun n => ?_
  refine MeetsE.bind (Q := fun ids db => ∀ id ∈ ids, Cleared false id db) ?_ fun ids => gate_reconcileRows
  refine meetsE_send (fun ids db db' gate moved cleared id member => ?_) (fun x db _ => gate_none _ rfl x db) fun x db _ _ _ _ => ?_
  · exact cleared_stable db db' gate moved (cleared id member)
  · refine ⟨gate_none _ rfl x db, fun ids answer id member => ?_⟩
    cases answer
    obtain ⟨r, there, rfl, running⟩ := mem_staleTasks member
    exact ⟨r, there, rfl, by simp [running], nofun⟩

theorem op_gate {α : Type} (host : Host) (op : Op α) : gateProtocol.Meets (fun _ => True) (op.run host).run Anything := by
  by_cases early : op.writer ∈ [.none, .application, .recovery]
  · exact meets_of_sends (op_sends op) (gate_free early)
  · cases op with
    | failAttempt => exact meets_of_meetsE gate_failAttempt
    | completeAfterReview => exact meets_of_meetsE gate_completeAfterReview
    | routeOrWait => exact meets_of_meetsE gate_routeOrWait
    | reconcileStaleWorkers => exact meets_of_meetsE gate_reconcileStaleWorkers
    | _ => exact absurd (by simp [Op.writer]) early

/-! ### Over every run -/

variable {host : Host} {trace : List (Taken Stmt Input Db)} {c : Config Err Stmt Db}

theorem stillWaiting_of_keepsGate {db db' : Db} (keeps : KeepsGate db db') : StillWaiting db db' := fun r member waits => by
  obtain ⟨r', after, key, _, same⟩ := keeps r member
  exact ⟨r', after, key, same.mpr waits⟩

/-- In every run in which the operations look where they write, no gated task is
worked on, and whoever waits for a human waits for ever. -/
theorem human_gate (run : Runs host trace c) (looks : ∀ t ∈ trace, Finds looksWhereItWrites t) :
    (∀ db ∈ states trace c.state, GateHolds db) ∧
      (states trace c.state).Pairwise fun later earlier => StillWaiting earlier later := by
  have meets : ∀ p ∈ clients host, gateProtocol.Meets (fun _ => True) p Anything := by
    rintro p ⟨client, rfl⟩
    exact Meets.interp (fun op => op_gate host op) client
  obtain ⟨gate, taken, _⟩ := run_keeps (P := gateProtocol) (by simp [gateProtocol, GateHolds, Db.empty]) meets run looks
  constructor
  · intro db member
    rcases List.mem_cons.mp member with rfl | earlier
    · exact gate
    · obtain ⟨t, there, rfl⟩ := List.mem_map.mp earlier
      exact (taken t there).1
  · refine run.linked.pairwise_iff.mp fun t member => stillWaiting_of_keepsGate ?_
    obtain ⟨before, spares⟩ := taken t member
    exact (step_gate before spares).2

end

/-- A task that needs a human's approval and one that does not: the second is routed
in vain, the first is not routed at all. -/
def oneWaits : List (Taken Stmt Input Db) × Config Err Stmt Db :=
  script Sample.host [waiting "a", Sample.task "b", .call (.routeOrWait "a" (.fin 1)), .call (.routeOrWait "b" (.fin 1))]
    (moves [3, 3, 2, 2, 1, 0, 0, 0, 0])
where
  waiting (id : String) : Client Unit := .call (.createTask
    { taskId := id, directiveId := none, targetProject := "lab", capability := "read", governanceAllowed := 1
      requiresHumanApproval := 1 } 0 (.fin 0))

theorem human_gate_oneWaits :
    (∀ db ∈ states oneWaits.1 oneWaits.2.state, GateHolds db) ∧
      (states oneWaits.1 oneWaits.2.state).Pairwise fun later earlier => StillWaiting earlier later :=
  human_gate (runs_script Sample.host _ _) (by decide)

/-- `token<=abc` is stored as `token=abc`, a name that `clean` makes `token=[REDACTED]`:
routing `token=abc` looks at the task of the second name and writes to that of the first. -/
def routedPastTheHuman : List (Taken Stmt Input Db) × Config Err Stmt Db :=
  script Sample.host [oneWaits.waiting "token<=abc", Sample.task "token=[REDACTED]",
    .call (.routeOrWait "token=abc" (.fin 1))] (moves [2, 1, 0, 0, 0])

theorem human_gate_passed :
    ¬ ∀ (host : Host) (trace : List (Taken Stmt Input Db)) (c : Config Err Stmt Db), Runs host trace c →
      (∀ db ∈ states trace c.state, GateHolds db) ∧
        (states trace c.state).Pairwise fun later earlier => StillWaiting earlier later := by
  intro law
  have run : Runs Sample.host routedPastTheHuman.1 routedPastTheHuman.2 := runs_script ..
  have waiting := run.linked.pairwise_iff.mpr (law _ _ _ run).2
  exact absurd waiting (by decide)

end ControlPlane.Autonomy
