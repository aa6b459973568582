import ControlPlane.Autonomy.Move

/-!
# Worker capacity

Only unexpired leases count against a worker, and an expired one is never renewed,
so what was counted when a worker last took a task bounds what it holds later.
-/

namespace ControlPlane.Autonomy

open Data Interleaving

/-- The capacity that the statement writes for the worker. -/
def capacityWritten (worker : String) : Taken Stmt Input Db → Option Int
  | ⟨.registerWorker w, x, db⟩ =>
    if w.workerId = worker ∧ (exec (.registerWorker w) x db).2.isOk then some w.capacity else none
  | ⟨.publishCapacity id capacity observed, x, db⟩ =>
    if clean id = worker ∧ (exec (.publishCapacity id capacity observed) x db).2.isOk then some capacity else none
  | _ => none

/-- The greatest capacity ever written for the worker; capacities are not negative. -/
def greatestCapacity (worker : String) (trace : List (Taken Stmt Input Db)) : Int :=
  (trace.filterMap (capacityWritten worker)).foldr max 0

/-- When a lease was granted or prolonged. -/
def leasedAt : Taken Stmt Input Db → Option ℚ
  | ⟨.claim _ _ _ n, _, _⟩ | ⟨.renew _ _ _ _ n, _, _⟩ => some n
  | _ => none

/-- Leases are granted and prolonged in the order of their time arguments; no other
time matters. -/
def InOrder (earlier : List (Taken Stmt Input Db)) (t : Taken Stmt Input Db) : Prop :=
  ∀ n ∈ leasedAt t, ∀ m ∈ earlier.filterMap leasedAt, m ≤ n

instance (earlier : List (Taken Stmt Input Db)) (t : Taken Stmt Input Db) : Decidable (InOrder earlier t) :=
  inferInstanceAs (Decidable (∀ n ∈ leasedAt t, _))

section

variable {host : Host} {trace : List (Taken Stmt Input Db)} {c : Config Err Stmt Db} {worker : String}
  {t : Taken Stmt Input Db} {db : Db}

theorem greatestCapacity_cons : greatestCapacity worker (t :: trace) =
    match capacityWritten worker t with
    | some capacity => max capacity (greatestCapacity worker trace)
    | none => greatestCapacity worker trace := by
  unfold greatestCapacity
  rw [List.filterMap_cons]
  split <;> simp_all

theorem greatestCapacity_mono : greatestCapacity worker trace ≤ greatestCapacity worker (t :: trace) := by
  rw [greatestCapacity_cons]
  split
  · exact le_max_right _ _
  · exact le_rfl

theorem le_greatestCapacity {capacity : Int} (written : capacityWritten worker t = some capacity) :
    capacity ≤ greatestCapacity worker (t :: trace) := by
  rw [greatestCapacity_cons, written]
  exact le_max_left _ _

/-! ### Capacities come from what was written -/

/-- A registration that changed anything was accepted. -/
theorem registerWorker_written {w : WorkerRow} {x : Input} (moved : (exec (.registerWorker w) x db).1 ≠ db) :
    capacityWritten w.workerId ⟨.registerWorker w, x, db⟩ = some w.capacity := by
  refine if_pos ⟨rfl, ?_⟩
  unfold exec at moved ⊢
  split at moved
  · exact absurd rfl moved
  · simp only [perform] at moved ⊢
    cases answer : upsertWorker w db with
    | error e => simp [answer, transaction] at moved
    | ok committed =>
      simp only [upsertWorker, require_bind_ok, pure_ok] at answer
      obtain ⟨_, rfl⟩ := answer
      simp [transaction, *]
      rfl

theorem publishCapacity_written {id : String} {capacity : Int} {observed : ℚ} {x : Input}
    (moved : (exec (.publishCapacity id capacity observed) x db).1 ≠ db) :
    capacityWritten (clean id) ⟨.publishCapacity id capacity observed, x, db⟩ = some capacity := by
  refine if_pos ⟨rfl, ?_⟩
  unfold exec at moved ⊢
  split at moved
  · exact absurd rfl moved
  · simp only [perform] at moved ⊢
    cases answer : publishCapacity id capacity observed db with
    | error e => simp [answer, transaction] at moved
    | ok committed =>
      simp only [publishCapacity, require_bind_ok, pure_ok] at answer
      obtain ⟨_, rfl⟩ := answer
      simp [transaction, *]
      rfl

/-- The worker's row keeps its capacity, or has the one that the statement wrote. -/
inductive Equips (t : Taken Stmt Input Db) (w : WorkerRow) : Prop
  | kept (old : WorkerRow) (member : old ∈ t.before.workers.rows) (key : w.workerId = old.workerId)
      (capacity : w.capacity = old.capacity)
  | written (capacity : capacityWritten w.workerId t = some w.capacity)

theorem step_capacity {w : WorkerRow} (member : w ∈ (connections.after t).workers.rows) : Equips t w := by
  obtain ⟨stmt, x, db⟩ := t
  have unchanged {db' : Db} (same : db'.workers = db.workers) (there : w ∈ db'.workers.rows) :
      Equips ⟨stmt, x, db⟩ w := .kept w (same ▸ there) rfl rfl
  by_cases moved : (exec stmt x db).1 = db
  · exact unchanged (congrArg Db.workers moved) member
  obtain ⟨free, effect⟩ := (exec_effect stmt x db).resolve_left moved
  change w ∈ (exec stmt x db).1.workers.rows at member
  generalize committed : (exec stmt x db).1 = db' at moved effect member
  cases effect with
  | registerWorker upserted =>
    have written := registerWorker_written (committed ▸ moved)
    subst upserted
    rcases Table.mem_upsert member with old | ⟨old, there, key, rfl⟩ | rfl
    · exact unchanged rfl old
    · exact .written (key ▸ written)
    · exact .written written
  | heartbeat updated =>
    subst updated
    obtain ⟨old, there, rfl⟩ := List.mem_map.mp member
    split
    · exact .kept old there rfl rfl
    · exact .kept old there rfl rfl
  | publishCapacity updated =>
    have written := publishCapacity_written (committed ▸ moved)
    subst updated
    obtain ⟨old, there, rfl⟩ := List.mem_map.mp member
    split
    · rename_i named
      exact .written (named ▸ written)
    · exact .kept old there rfl rfl
  | createTask inserted | ingestNew inserted =>
    obtain ⟨tasks, rfl, _⟩ := insertTask_ok inserted
    exact unchanged rfl member
  | @start ack task worker lease n =>
    obtain ⟨audit, logged⟩ := foldl_log (startEvents ack worker) task n
      (db.updateTasks (TaskRow.heldBy task worker lease (· = .leased) n) (TaskRow.started n) fun _ => rfl)
    rw [logged] at member
    exact unchanged rfl member
  | submitResult found _ held ahead _ hex inserted =>
    obtain ⟨evidence, rfl, _⟩ := insertEvidence_ok inserted
    exact unchanged rfl member
  | settleRecovery settled =>
    subst settled
    split at member <;> exact unchanged rfl member
  | _ => exact unchanged rfl member

theorem capacity_le {db : Db} (linked : connections.Linked Db.empty trace db) :
    ∀ w ∈ db.workers.rows, w.capacity ≤ greatestCapacity w.workerId trace := by
  induction trace generalizing db with
  | nil =>
    obtain rfl : db = Db.empty := linked
    exact nofun
  | cons t trace ih =>
    obtain ⟨rfl, linked⟩ := linked
    intro w member
    cases step_capacity member with
    | kept old there key capacity =>
      rw [key, capacity]
      exact le_trans (ih linked old there) greatestCapacity_mono
    | written capacity => exact le_greatestCapacity capacity

/-! ### What a worker holds -/

/-- Held by the worker, and running or about to, under a lease that is still live. -/
def TaskRow.activeFor (worker : String) (n : ℚ) (r : TaskRow) : Prop :=
  r.assignedWorkerId = some worker ∧ r.state.working ∧ r.Live n

instance (worker : String) (n : ℚ) : DecidablePred (TaskRow.activeFor worker n) :=
  fun _ => inferInstanceAs (Decidable (_ ∧ _ ∧ _))

theorem activeLeases_le {m n : ℚ} (past : m ≤ n) : db.activeLeases worker n ≤ db.activeLeases worker m :=
  List.countP_mono_left fun r _ active => by
    obtain ⟨owned, working, live⟩ := of_decide_eq_true active
    exact decide_eq_true ⟨owned, working, live.earlier past⟩

/-- The task that the statement claims for the worker. -/
def claimedTask (worker : String) : Taken Stmt Input Db → Option String
  | ⟨.claim task w _ _, _, _⟩ => if w = worker then some task else none
  | _ => none

/-- A task becomes active by a claim, and a renewal prolongs only a lease that is
live when it is renewed. -/
theorem move_active {m n : ℚ} {r r' : TaskRow} (move : Move t.stmt t.input t.before r r') (past : m ≤ n)
    (leased : ∀ k ∈ leasedAt t, k = m) (active : r'.activeFor worker n) :
    r.activeFor worker m ∨ claimedTask worker t = some r.taskId := by
  obtain ⟨stmt, x, db⟩ := t
  obtain ⟨owned, working, live⟩ := active
  cases move with
  | claim named =>
    cases owned
    exact .inr ((if_pos rfl).trans (congrArg some named.symm))
  | renew held =>
    obtain rfl := leased _ rfl
    exact .inl ⟨owned, working, held.2.2.2.2⟩
  | start held =>
    exact .inl ⟨owned, by simpa [TaskState.working] using Or.inl held.2.2.2.1, (live : r.Live n).earlier past⟩
  | reclaim | chargeStale | chargeFailure | completeTask => cases owned
  | waitForCapacity | submitMissing | submitResult | markWaiting | finishApply | settleRecovery => cases working

/-- A claim that changed anything found room. -/
theorem claim_room {m : ℚ} {task : String} (claims : claimedTask worker t = some task) (leased : ∀ k ∈ leasedAt t, k = m)
    (moved : connections.after t ≠ t.before) :
    ∃ w ∈ t.before.workers.rows, w.workerId = worker ∧ (t.before.activeLeases worker m : Int) < w.capacity := by
  obtain ⟨stmt, x, db⟩ := t
  obtain ⟨_, effect⟩ := (exec_effect stmt x db).resolve_left moved
  generalize (exec stmt x db).1 = db' at effect
  cases effect with
  | @claim id holder _ _ _ _ _ _ _ owner _ _ _ room =>
    obtain rfl := leased _ rfl
    obtain ⟨rfl, _⟩ : holder = worker ∧ id = task := by simpa [claimedTask] using claims
    obtain ⟨member, named⟩ := Table.find?_some.mp owner
    exact ⟨_, member, named, room⟩
  | _ => cases claims

/-- One step: what is held at `n` was held at the step's own time, up to one task
for which there was room. -/
theorem step_active {m n : ℚ} (past : m ≤ n) (leased : ∀ k ∈ leasedAt t, k = m) :
    (connections.after t).activeLeases worker n ≤ t.before.activeLeases worker m ∨
      ∃ w ∈ t.before.workers.rows, w.workerId = worker ∧ ((connections.after t).activeLeases worker n : Int) ≤ w.capacity := by
  by_cases unmoved : connections.after t = t.before
  · rw [unmoved]
    exact .inl (activeLeases_le past)
  have evolves := exec_tasks t.stmt t.input t.before
  have kept {r s : TaskRow} (moved : s = r ∨ t.input.busy = false ∧ Move t.stmt t.input t.before r s)
      (active : s.activeFor worker n) : r.activeFor worker m ∨ claimedTask worker t = some r.taskId := by
    rcases moved with rfl | ⟨_, move⟩
    · exact .inl ⟨active.1, active.2.1, active.2.2.earlier past⟩
    · exact move_active move past leased active
  have created {r : TaskRow} (new : Created t.stmt r) : ¬ r.activeFor worker n := fun active =>
    Bool.false_ne_true ((created_row new).1.symm.trans active.2.1)
  cases claims : claimedTask worker t with
  | none =>
    refine .inl (evolves.rowcount_le (P := TaskRow.activeFor worker n) (Q := TaskRow.activeFor worker m)
      (fun r _ s moved active => ?_) fun r => created)
    exact (kept moved active).resolve_right (by simp [claims])
  | some task =>
    obtain ⟨w, member, named, room⟩ := claim_room claims leased unmoved
    have grows := evolves.rowcount_le (P := TaskRow.activeFor worker n)
      (Q := fun r => r.activeFor worker m ∨ r.taskId = task) (fun r _ s moved active => by
        simpa [claims, eq_comm] using kept moved active) fun r => created
    have bound : (connections.after t).activeLeases worker n ≤ t.before.activeLeases worker m + 1 :=
      grows.trans Table.rowcount_or_key_le
    exact .inr ⟨w, member, named, by omega⟩

theorem active_le {db : Db} {n : ℚ} (linked : connections.Linked Db.empty trace db) (ordered : EachStep InOrder trace)
    (last : ∀ k ∈ trace.filterMap leasedAt, k ≤ n) : (db.activeLeases worker n : Int) ≤ greatestCapacity worker trace := by
  induction trace generalizing db n with
  | nil =>
    obtain rfl : db = Db.empty := linked
    exact le_rfl
  | cons t trace ih =>
    have capacities := capacity_le linked.2
    obtain ⟨rfl, linked⟩ := linked
    -- the instant at which the step looks at the leases
    obtain ⟨m, past, leased, earlier⟩ :
        ∃ m, m ≤ n ∧ (∀ k ∈ leasedAt t, k = m) ∧ ∀ k ∈ trace.filterMap leasedAt, k ≤ m := by
      cases time : leasedAt t with
      | none => exact ⟨n, le_rfl, nofun, fun k member => last k (by simpa [List.filterMap_cons, time] using member)⟩
      | some m =>
        refine ⟨m, last m (by simp [time]), fun k same => (Option.some.inj same).symm, ?_⟩
        exact ordered.1 m time
    have step : (connections.after t).activeLeases worker n ≤ _ ∨ _ := step_active past leased
    rcases step with held | ⟨w, member, rfl, room⟩
    · exact le_trans (le_trans (by exact_mod_cast held) (ih linked ordered.2 earlier)) greatestCapacity_mono
    · exact le_trans room (le_trans (capacities w member) greatestCapacity_mono)

/-- In every run whose claims and renewals come in the order of their times, and at
every later instant, a worker holds no more live work than its greatest capacity. -/
theorem capacity_never_exceeded (run : Runs host trace c) (ordered : EachStep InOrder trace) (worker : String) (n : ℚ)
    (last : ∀ k ∈ trace.filterMap leasedAt, k ≤ n) :
    (c.state.activeLeases worker n : Int) ≤ greatestCapacity worker trace :=
  active_le run.linked ordered last

end

/-- A worker for one task holds it, renews it, and is refused a second one until its
capacity is raised to two. -/
def raisedCapacity : List (Taken Stmt Input Db) × Config Err Stmt Db :=
  let claim (task : String) (n : ℚ) : Client Unit := .call (.claim task "w" (.fin 10) (.fin n))
  script Sample.host [Sample.task "a", Sample.task "b", Sample.worker "w", claim "a" 0, claim "b" 1,
      .call (.renew "a" "w" "one" (.fin 10) (.fin 5)), .call (.heartbeatWithCapacity "w" 2 (.fin 6) none), claim "b" 7]
    (moves [7, 7, 6, 6, 5] ++ [(4, { uuid := "one" })] ++ moves [3, 2, 1] ++ [(0, { uuid := "two" })])

theorem capacity_never_exceeded_raisedCapacity :
    raisedCapacity.2.state.activeLeases "w" 12 = 2 ∧
      (raisedCapacity.2.state.activeLeases "w" 12 : Int) ≤ greatestCapacity "w" raisedCapacity.1 :=
  ⟨by decide +kernel,
    capacity_never_exceeded (runs_script Sample.host _ _) (by decide +kernel) "w" 12 (by decide +kernel)⟩

end ControlPlane.Autonomy
