import ControlPlane.Autonomy.Move

/-!
# Terminal states

A terminal task is left alone by every statement that looks at its state. The
updates that name the task by id alone are the exception, and the only one.
-/

namespace ControlPlane.Autonomy

open Data Interleaving

/-- State, attempts and lease columns are the same. -/
def TaskRow.SameOutcome (r r' : TaskRow) : Prop :=
  r'.state = r.state ∧ r'.attemptCount = r.attemptCount ∧ r'.assignedWorkerId = r.assignedWorkerId ∧
    r'.leaseId = r.leaseId ∧ r'.leaseExpiresAt = r.leaseExpiresAt

/-- Every task that was terminal is still there with the same outcome. -/
def Absorbed (db db' : Db) : Prop :=
  ∀ r ∈ db.tasks.rows, r.state.terminal → ∃ r' ∈ db'.tasks.rows, r'.taskId = r.taskId ∧ r.SameOutcome r'

instance : IsTrans Db Absorbed where
  trans _ _ _ first second r member terminal := by
    obtain ⟨r', member', key, same⟩ := first r member terminal
    obtain ⟨r'', member'', key', same'⟩ := second r' member' (same.1 ▸ terminal)
    obtain ⟨s₁, a₁, w₁, l₁, e₁⟩ := same
    obtain ⟨s₂, a₂, w₂, l₂, e₂⟩ := same'
    exact ⟨r'', member'', key'.trans key, s₂.trans s₁, a₂.trans a₁, w₂.trans w₁, l₂.trans l₁, e₂.trans e₁⟩

/-- The task is not terminal, or the update writes what it says already. -/
def spares {β : Type} : Stmt β → TaskRow → Bool
  | .waitForCapacity task _, r => decide (r.taskId = task → ¬ r.state.terminal)
  | .completeTask task _, r => decide (r.taskId = task → r.state.terminal → r.state = .completed)
  | .chargeStale task read _, r | .chargeFailure task _ read _ _ _, r => decide (r.taskId = task → r.state.terminal →
      r.state = afterFailure read ∧ r.attemptCount = read.attemptCount + 1)
  | _, _ => true

/-- The unguarded updates spare terminal tasks. -/
abbrev SparesTerminal : Taken Stmt Input Db → Prop := Finds spares

section

variable {host : Host} {trace : List (Taken Stmt Input Db)} {c : Config Err Stmt Db}
  {t : Taken Stmt Input Db} {r r' : TaskRow}

theorem not_terminal_of_working {s : TaskState} (working : s.working) : ¬ s.terminal := by
  cases s <;> simp_all [TaskState.working, TaskState.terminal]

theorem not_terminal_of_leaseable {s : TaskState} (leaseable : s.leaseable) : ¬ s.terminal := by
  cases s <;> simp_all [TaskState.leaseable, TaskState.terminal]

theorem not_terminal_of_reporting {s : TaskState} (reporting : s.working ∨ s = .evidencePending) : ¬ s.terminal := by
  rcases reporting with working | rfl
  · exact not_terminal_of_working working
  · decide

/-- A terminal row never holds a lease. -/
def TerminalUnleased (db : Db) : Prop := ∀ r ∈ db.tasks.rows, r.state.terminal → r.Unleased

theorem terminal_unleased (run : Runs host trace c) : ∀ db ∈ states trace c.state, TerminalUnleased db := by
  refine rows_invariant run (fun created terminal => ?_) fun t _ _ r _ r' move before => ?_
  · cases created <;> exact ⟨rfl, rfl, rfl⟩
  · intro terminal
    obtain ⟨stmt, x, db⟩ := t
    cases move with
    | claim => cases terminal
    | renew held => exact absurd terminal (not_terminal_of_working held.2.2.2.1)
    | start => cases terminal
    | reclaim | chargeStale | chargeFailure | completeTask => exact ⟨rfl, rfl, rfl⟩
    | waitForCapacity | markWaiting => cases terminal
    | submitMissing => cases terminal
    | submitResult | finishApply | settleRecovery =>
      cases terminal

/-- A move of a terminal row that spares it leaves its outcome alone. -/
theorem move_sameOutcome (spared : SparesTerminal t) (free : t.input.busy = false)
    (member : r ∈ t.before.tasks.rows) (move : Move t.stmt t.input t.before r r') (terminal : r.state.terminal)
    (unleased : r.Unleased) : r.SameOutcome r' := by
  obtain ⟨stmt, x, db⟩ := t
  obtain ⟨worker, lease, expiry⟩ := unleased
  cases move with
  | claim _ _ open_ => exact absurd terminal (not_terminal_of_leaseable open_.1)
  | renew held => exact absurd terminal (not_terminal_of_working held.2.2.2.1)
  | start held =>
    have leased : r.state = .leased := by simpa using held.2.2.2.1
    exact absurd terminal (by rw [leased]; decide)
  | reclaim named => exact absurd terminal (not_terminal_of_working named.2)
  | chargeStale named | chargeFailure named =>
    obtain ⟨state, attempts⟩ := of_decide_eq_true (spared free r member) named terminal
    exact ⟨state.symm, attempts.symm, worker.symm, lease.symm, expiry.symm⟩
  | completeTask named =>
    exact ⟨(of_decide_eq_true (spared free r member) named terminal).symm, rfl, worker.symm, lease.symm, expiry.symm⟩
  | waitForCapacity named => exact absurd terminal (of_decide_eq_true (spared free r member) named)
  | submitMissing _ held | submitResult _ held => exact absurd terminal (not_terminal_of_reporting held.1)
  | markWaiting named => exact absurd terminal (not_terminal_of_leaseable named.2)
  | finishApply _ _ held => exact absurd terminal (by rw [held.1]; decide)
  | settleRecovery _ running => exact absurd terminal (by rw [running]; decide)

theorem absorbed_of_spares (spared : SparesTerminal t) (unleased : TerminalUnleased t.before) :
    Absorbed t.before (connections.after t) := by
  intro r member terminal
  obtain ⟨r', after, key, moved⟩ := exec_kept t.stmt t.input member
  refine ⟨r', after, key, ?_⟩
  rcases moved with rfl | ⟨free, move⟩
  · exact ⟨rfl, rfl, rfl, rfl, rfl⟩
  · exact move_sameOutcome spared free member move terminal (unleased r member terminal)

/-- An unguarded update that is executed decides the outcome of the row it names. -/
theorem sameOutcome_of_absorbed {β : Type} {s : Stmt β} {x : Input} {db : Db} {task : String}
    {f : TaskRow → TaskRow} {keeps : ∀ r, (f r).taskId = r.taskId} (free : x.busy = false)
    (update : (perform s x db).1 = db.updateTask task f keeps) (absorbed : Absorbed db (exec s x db).1)
    (member : r ∈ db.tasks.rows) (named : r.taskId = task) (terminal : r.state.terminal) : r.SameOutcome (f r) := by
  obtain ⟨r', after, key, same⟩ := absorbed r member terminal
  rw [exec_free s free, update] at after
  have hit : f r ∈ (db.updateTask task f keeps).tasks.rows := updateTask_hits member named
  rwa [Table.eq_of_key after hit (key.trans (keeps r).symm)] at same

theorem spares_of_absorbed (absorbed : Absorbed t.before (connections.after t)) : SparesTerminal t := by
  obtain ⟨stmt, x, db⟩ := t
  cases stmt with
  | waitForCapacity task n =>
    refine fun free r member => decide_eq_true fun named terminal => ?_
    have same := (sameOutcome_of_absorbed free rfl absorbed member named terminal).1
    rw [← same] at terminal
    cases terminal
  | completeTask task n =>
    refine fun free r member => decide_eq_true fun named terminal => ?_
    exact (sameOutcome_of_absorbed free rfl absorbed member named terminal).1.symm
  | chargeStale task read n | chargeFailure task lease read reason code n =>
    refine fun free r member => decide_eq_true fun named terminal => ?_
    have same := sameOutcome_of_absorbed free rfl absorbed member named terminal
    exact ⟨same.1.symm, same.2.1.symm⟩
  | _ => exact fun _ _ _ => rfl

/-- Over every run: terminal states are absorbing if and only if the unguarded
updates spare terminal tasks. -/
theorem terminal_absorbing_iff (run : Runs host trace c) :
    (∀ t ∈ trace, SparesTerminal t) ↔
      (states trace c.state).Pairwise fun later earlier => Absorbed earlier later := by
  rw [← run.linked.pairwise_iff (R := Absorbed)]
  have unleased := terminal_unleased run
  constructor
  · exact fun spares t member => absorbed_of_spares (spares t member) (unleased _ (Machine.Linked.before_mem member))
  · exact fun absorbed t member => spares_of_absorbed (absorbed t member)

end

/-- A worker fails its last attempt and reports it twice; the second report is refused. -/
def failedTwice : List (Taken Stmt Input Db) × Config Err Stmt Db :=
  let fail : Client Unit := .call (.failAttempt "t" "w" "lease" "crashed" "WORKER_FAILURE" (.fin 1))
  script Sample.host [Sample.task "t", Sample.worker "w", .call (.claim "t" "w" (.fin 30) (.fin 0)), fail, fail]
    (moves [4, 4, 3] ++ [(2, { uuid := "lease" })] ++ moves [1, 1, 1, 0])

theorem terminal_absorbing_failedTwice :
    (states failedTwice.1 failedTwice.2.state).Pairwise fun later earlier => Absorbed earlier later :=
  (terminal_absorbing_iff (runs_script Sample.host _ _)).mp (by decide +kernel)

/-- One scheduler finds no worker for the task; before it writes that down, another
has the task claimed and its only attempt fails. -/
def routedDeadLetter : List (Taken Stmt Input Db) × Config Err Stmt Db :=
  script Sample.host [Sample.task "t", Sample.worker "w", Sample.scheduler, Sample.scheduler,
      .call (.failAttempt "t" "w" "lease" "crashed" "WORKER_FAILURE" (.fin 1))]
    (moves [4, 4, 2, 2, 2, 3, 1, 1, 1, 1, 1] ++ [(1, { uuid := "lease" })] ++ moves [0, 0, 2])

theorem terminal_not_absorbing :
    ¬ ∀ (host : Host) (trace : List (Taken Stmt Input Db)) (c : Config Err Stmt Db), Runs host trace c →
      (states trace c.state).Pairwise fun later earlier => Absorbed earlier later := by
  intro absorbing
  have run : Runs Sample.host routedDeadLetter.1 routedDeadLetter.2 := runs_script ..
  have absorbed := (run.linked.pairwise_iff (R := Absorbed)).mpr (absorbing _ _ _ run)
  have spares : ∀ t ∈ routedDeadLetter.1, SparesTerminal t := fun t member => spares_of_absorbed (absorbed t member)
  exact absurd spares (by decide +kernel)

end ControlPlane.Autonomy
