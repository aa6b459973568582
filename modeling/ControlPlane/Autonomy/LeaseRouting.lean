import ControlPlane.Autonomy.Move

/-!
# Live leases and routing

`route_or_wait`, `fail_attempt`, `complete_after_review` and `recover` write a task
that an earlier statement looked at. A live lease survives them, and every waiting
task is free of a lease, exactly as long as none of these writes comes too late.
-/

namespace ControlPlane.Autonomy

open Data Interleaving

/-- The instant a statement that writes a task calls now. -/
def Stmt.time? {β : Type} : Stmt β → Option ℚ
  | .createTask _ n | .claim _ _ _ n | .renew _ _ _ _ n | .start _ _ _ _ n | .reclaim _ n | .chargeStale _ _ n
  | .chargeFailure _ _ _ _ _ n | .completeTask _ n | .waitForCapacity _ n | .submitResult _ _ _ _ _ n
  | .markWaiting _ n | .finishApply _ _ _ n | .settleRecovery _ _ n => some n
  | _ => none

/-- The ways in which a task may leave LEASED and RUNNING while its lease is live. -/
def EndsLease {β : Type} (db : Db) (r : TaskRow) : Stmt β → Prop
  | .submitResult task _ lease _ _ _ | .chargeFailure task lease _ _ _ _ => r.taskId = task ∧ r.leaseId = some lease
  | .finishApply plan _ _ _ => ∃ g, db.grants.find? plan.grantId = some g ∧ r.taskId = g.taskId ∧ r.leaseId = some g.leaseId
  | .settleRecovery g _ _ => r.taskId = g.taskId ∧ r.leaseId = some g.leaseId
  | .chargeStale task _ _ => r.taskId = task
  | _ => False

/-- The statement takes no live lease from its holder. -/
def KeepsLeases (t : Taken Stmt Input Db) : Prop :=
  ∀ n, t.stmt.time? = some n → ∀ r ∈ t.before.tasks.rows, r.state.working → r.Live n →
    ∀ r' ∈ (connections.after t).tasks.rows, r'.taskId = r.taskId → ¬ r'.state.working → EndsLease t.before r t.stmt

def WaitersUnleased (db : Db) : Prop := ∀ r ∈ db.tasks.rows, r.state.leaseable → r.Unleased

/-- A routed task holds no lease, a reported or completed one is not under somebody
else's live lease, nor is the task of a recovered grant. -/
def inTime {β : Type} : Stmt β → TaskRow → Bool
  | .waitForCapacity task _, r => decide (r.taskId = task → r.Unleased)
  | .chargeFailure task lease _ _ _ n, r => decide (r.taskId = task → r.state.working → r.Live n → r.leaseId = some lease)
  | .completeTask task n, r => decide (r.taskId = task → ¬ (r.state.working ∧ r.Live n))
  | .settleRecovery g outcome n, r => decide (outcome.state = .applied → r.taskId = g.taskId → r.state = .running →
      r.Live n → r.leaseId = some g.leaseId)
  | _, _ => true

/-- No late write. -/
abbrev Timely : Taken Stmt Input Db → Prop := Finds inTime

instance (db : Db) : Decidable (WaitersUnleased db) := inferInstanceAs (Decidable (∀ r ∈ db.tasks.rows, _))

section

variable {host : Host} {trace : List (Taken Stmt Input Db)} {c : Config Err Stmt Db}
  {t : Taken Stmt Input Db} {r r' : TaskRow}

theorem not_leaseable_of_working {s : TaskState} (working : s.working) : ¬ s.leaseable := by
  cases s <;> simp_all [TaskState.working, TaskState.leaseable]

/-- A move that is in time keeps waiting tasks free of leases. -/
theorem move_waitersUnleased (timely : Timely t) (free : t.input.busy = false) (member : r ∈ t.before.tasks.rows)
    (move : Move t.stmt t.input t.before r r') (before : r.state.leaseable → r.Unleased) :
    r'.state.leaseable → r'.Unleased := by
  obtain ⟨stmt, x, db⟩ := t
  cases move with
  | claim => exact nofun
  | renew held => exact fun waiting => absurd waiting (not_leaseable_of_working held.2.2.2.1)
  | start => exact nofun
  | reclaim | chargeStale | chargeFailure => exact fun _ => ⟨rfl, rfl, rfl⟩
  | completeTask => exact nofun
  | waitForCapacity named => exact fun _ => of_decide_eq_true (timely free r member) named
  | submitMissing => exact nofun
  | submitResult | finishApply | settleRecovery =>
    exact nofun
  | markWaiting named => exact fun _ => before named.2

/-- A waiting row is created without a lease. -/
theorem created_unleased {β : Type} {s : Stmt β} (created : Created s r) : r.Unleased := by
  cases created <;> exact ⟨rfl, rfl, rfl⟩

/-- A move that is in time and takes a task with a live lease out of LEASED and
RUNNING is one of those that may. -/
theorem move_endsLease (timely : Timely t) (free : t.input.busy = false) (member : r ∈ t.before.tasks.rows)
    (move : Move t.stmt t.input t.before r r') {n : ℚ} (time : t.stmt.time? = some n) (working : r.state.working)
    (live : r.Live n) (left : ¬ r'.state.working) : EndsLease t.before r t.stmt := by
  obtain ⟨stmt, x, db⟩ := t
  cases move with
  | claim _ _ open_ => exact absurd open_.1 (not_leaseable_of_working working)
  | renew => exact absurd working left
  | start => exact absurd rfl left
  | reclaim _ lapsed =>
    cases time
    exact absurd live lapsed.not_live
  | chargeStale named => exact named
  | chargeFailure named =>
    cases time
    exact ⟨named, of_decide_eq_true (timely free r member) named working live⟩
  | completeTask named =>
    cases time
    exact absurd ⟨working, live⟩ (of_decide_eq_true (timely free r member) named)
  | waitForCapacity named =>
    obtain ⟨e, expiry, _⟩ := live
    rw [(of_decide_eq_true (timely free r member) named).2.2] at expiry
    cases expiry
  | submitMissing named held | submitResult named held => exact ⟨named, held.2.2⟩
  | markWaiting named => exact absurd named.2 (not_leaseable_of_working working)
  | finishApply found named held => exact ⟨_, found, named, held.2.2⟩
  | settleRecovery named running applied =>
    cases time
    exact ⟨named, of_decide_eq_true (timely free r member) applied named running live⟩

theorem keepsLeases_of_timely (timely : Timely t) : KeepsLeases t := by
  intro n time r member working live r' after same left
  rcases exec_successor member after same with rfl | ⟨free, move⟩
  · exact absurd working left
  · exact move_endsLease timely free member move time working live left

/-- A late write shows: it takes a live lease, or leaves a waiting task with one. -/
theorem timely_of_kept (keeps : KeepsLeases t) (unleased : WaitersUnleased (connections.after t)) : Timely t := by
  obtain ⟨stmt, x, db⟩ := t
  cases stmt with
  | waitForCapacity task n =>
    refine fun free r member => decide_eq_true fun named => ?_
    have after : r.waiting n ∈ (connections.after ⟨.waitForCapacity task n, x, db⟩).tasks.rows := by
      rw [after_of_free free]
      exact updateTask_hits member named
    have still := unleased (r.waiting n) after rfl
    exact still
  | chargeFailure task lease read reason code n =>
    refine fun free r member => decide_eq_true fun named working live => ?_
    have after : read.chargedFailure reason code n r ∈
        (connections.after ⟨.chargeFailure task lease read reason code n, x, db⟩).tasks.rows := by
      rw [after_of_free free]
      exact updateTask_hits member named
    exact (keeps n rfl r member working live _ after rfl (Bool.eq_false_iff.mp (afterFailure_idle read))).2
  | completeTask task n =>
    refine fun free r member => decide_eq_true fun named ⟨working, live⟩ => ?_
    have after : r.completed n ∈ (connections.after ⟨.completeTask task n, x, db⟩).tasks.rows := by
      rw [after_of_free free]
      exact updateTask_hits member named
    exact keeps n rfl r member working live _ after rfl (by decide : ¬ TaskState.completed.working)
  | settleRecovery g outcome n =>
    refine fun free r member => decide_eq_true fun applied named running live => ?_
    have working : r.state.working := by rw [running]; rfl
    have after := recovery_reviews (n := n) free member named running applied
    exact (keeps n rfl r member working live _ after rfl (by decide : ¬ TaskState.reviewPending.working)).2
  | _ => exact fun _ _ _ => rfl

/-- Over every run: no live lease is lost and no waiting task holds one if and only
if every write that no statement guards is in time. -/
theorem leases_survive_routing_iff (run : Runs host trace c) :
    (∀ t ∈ trace, Timely t) ↔
      (∀ t ∈ trace, KeepsLeases t) ∧ ∀ db ∈ states trace c.state, WaitersUnleased db := by
  constructor
  · intro timely
    refine ⟨fun t member => keepsLeases_of_timely (timely t member), ?_⟩
    exact rows_invariant run (fun created _ => created_unleased created)
      fun t member free r there r' move => move_waitersUnleased (timely t member) free there move
  · rintro ⟨keeps, unleased⟩ t member
    exact timely_of_kept (keeps t member) (unleased _ (run.linked.after_mem member))

/-- Nobody can work on the task when it is routed, and the wait is in time. -/
def routedAlone : List (Taken Stmt Input Db) × Config Err Stmt Db :=
  script Sample.host [Sample.task "t", .call (.routeOrWait "t" (.fin 1))] (moves [1, 1, 0, 0, 0])

theorem leases_survive_routing_alone :
    (∀ t ∈ routedAlone.1, KeepsLeases t) ∧ ∀ db ∈ states routedAlone.1 routedAlone.2.state, WaitersUnleased db :=
  (leases_survive_routing_iff (runs_script Sample.host _ _)).mp (by decide)

/-- Two schedulers select one task. The first finds no worker; one registers, the
second claims the task for it, and then the first records that it waits. -/
def schedulerRace : List (Taken Stmt Input Db) × Config Err Stmt Db :=
  script Sample.host [Sample.task "t", Sample.worker "w", Sample.scheduler, Sample.scheduler]
    (moves [3, 3, 1, 1, 1, 2, 0, 0, 0, 0, 0] ++ [(0, { uuid := "lease" })] ++ moves [1])

theorem leases_do_not_survive_routing :
    ¬ ∀ (host : Host) (trace : List (Taken Stmt Input Db)) (c : Config Err Stmt Db), Runs host trace c →
      (∀ t ∈ trace, KeepsLeases t) ∧ ∀ db ∈ states trace c.state, WaitersUnleased db := by
  intro safe
  have unleased := (safe Sample.host schedulerRace.1 schedulerRace.2 (runs_script ..)).2 _ List.mem_cons_self
  exact absurd unleased (by decide +kernel)

end

end ControlPlane.Autonomy
