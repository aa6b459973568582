import ControlPlane.Autonomy.Placement
import ControlPlane.Interleaving.Surely

/-!
# A pass of the scheduler

Until something is leased, all that a pass does is to move tasks to WAITING_CAPACITY, so a task
of the batch that some worker could take is taken by one, or another task of the batch was.
-/

namespace ControlPlane.Autonomy

open Data Interleaving

/-- The store is not locked, and a new lease id is in no use. -/
def Calm (x : Input) (db : Db) : Prop := x.busy = false ∧ ∀ r ∈ db.tasks.rows, r.leaseId ≠ some x.uuid

/-- The columns that a placement looks at are the same, and so is whether the task may be leased. -/
structure TaskRow.Alike (t t' : TaskRow) : Prop where
  taskId : t'.taskId = t.taskId
  capability : t'.capability = t.capability
  targetProject : t'.targetProject = t.targetProject
  requiresHumanApproval : t'.requiresHumanApproval = t.requiresHumanApproval
  governanceAllowed : t'.governanceAllowed = t.governanceAllowed
  leaseable : t.state.leaseable = true → t'.state.leaseable = true

/-- What happens while nothing is leased. -/
structure Waited (db db' : Db) : Prop where
  workers : db'.workers = db.workers
  rows : ∀ id t, db.tasks.find? id = some t → ∃ t', db'.tasks.find? id = some t' ∧ t.Alike t'
  active : ∀ worker n, db'.activeLeases worker n = db.activeLeases worker n

section

variable {db db' u : Db} {n m : ℚ} {task worker : String} {t : TaskRow} {x : Input} {host : Host} {batch : List TaskRow}

theorem TaskRow.Alike.refl (t : TaskRow) : t.Alike t := ⟨rfl, rfl, rfl, rfl, rfl, id⟩

theorem TaskRow.Alike.trans {t t' t'' : TaskRow} (first : t.Alike t') (second : t'.Alike t'') : t.Alike t'' where
  taskId := second.taskId.trans first.taskId
  capability := second.capability.trans first.capability
  targetProject := second.targetProject.trans first.targetProject
  requiresHumanApproval := second.requiresHumanApproval.trans first.requiresHumanApproval
  governanceAllowed := second.governanceAllowed.trans first.governanceAllowed
  leaseable := second.leaseable ∘ first.leaseable

theorem Waited.refl (db : Db) : Waited db db := ⟨rfl, fun _ t found => ⟨t, found, .refl t⟩, fun _ _ => rfl⟩

theorem Waited.trans (first : Waited db u) (second : Waited u db') : Waited db db' where
  workers := second.workers.trans first.workers
  rows id t found := by
    obtain ⟨t', found', alike⟩ := first.rows id t found
    obtain ⟨t'', found'', alike'⟩ := second.rows id t' found'
    exact ⟨t'', found'', alike.trans alike'⟩
  active worker n := (second.active worker n).trans (first.active worker n)

/-- The placement test comes out the same. -/
theorem Waited.ownFit (waited : Waited db db') (fit : OwnFit db n task worker) : OwnFit db' n task worker := by
  obtain ⟨t, w, found, owner, fresh, room, able⟩ := fit
  obtain ⟨t', found', alike⟩ := waited.rows task t found
  refine ⟨t', w, found', waited.workers ▸ owner, fresh, ?_, ?_⟩
  · rw [waited.active]
    exact room
  · rw [alike.capability, alike.targetProject]
    exact able

theorem Waited.schedulable (waited : Waited db db') (found : db.tasks.find? task = some t) (open_ : t.Schedulable) :
    ∃ t', db'.tasks.find? task = some t' ∧ t'.Schedulable := by
  obtain ⟨t', found', alike⟩ := waited.rows task t found
  exact ⟨t', found', alike.leaseable open_.1, alike.requiresHumanApproval.trans open_.2.1,
    alike.governanceAllowed.trans open_.2.2⟩

/-- Tasks that may be leased start to wait. -/
theorem waited_update {p : TaskRow → Prop} [DecidablePred p] (workers : db'.workers = db.workers)
    (rows : db'.tasks.rows = db.tasks.rows.map fun r => if p r then r.waiting m else r)
    (open_ : ∀ r ∈ db.tasks.rows, p r → r.state.leaseable = true) : Waited db db' where
  workers := workers
  rows id t found := by
    have updated := @Table.find?_update _ _ _ db.tasks p _ (TaskRow.waiting m) _ id _ rows fun _ => rfl
    rw [found, Option.map_some] at updated
    refine ⟨_, updated, ?_⟩
    split
    · exact ⟨rfl, rfl, rfl, rfl, rfl, fun _ => rfl⟩
    · exact .refl t
  active worker n := by
    rw [Db.activeLeases, Db.activeLeases, rows, List.countP_map]
    refine List.countP_congr fun r member => ?_
    simp only [Function.comp_apply]
    split
    · rename_i hit
      simp [TaskRow.waiting, idle_of_leaseable (open_ r member hit), show TaskState.waitingCapacity.working = false from rfl]
    · rfl

theorem waited_waitForCapacity (open_ : ∀ t, db.tasks.find? task = some t → t.state.leaseable = true) :
    Waited db (waitForCapacity task m db) :=
  waited_update rfl rfl fun r member named => open_ r (Table.find?_some.mpr ⟨member, named⟩)

/-! ### Tasks before it in the batch -/

/-- The statement does nothing worse than to let a task wait. -/
abbrev Waits {α : Type} (db : Db) (p : Store α) : Prop :=
  Procedure.All (fun s => ∀ x u, Waited db u → Waited db (exec s x u).1) p

theorem waits_ask {α : Type} {s : Stmt α} (reads : ∀ x u, (exec s x u).1 = u ∨ (exec s x u).1.tasks = u.tasks ∧ (exec s x u).1.workers = u.workers) :
    Waits db (Procedure.ask s) := by
  refine Procedure.all_ask fun x u waited => ?_
  rcases reads x u with same | ⟨tasks, workers⟩
  · rw [same]
    exact waited
  · exact waited.trans ⟨workers, fun id t found => ⟨t, tasks ▸ found, .refl t⟩, fun worker n => by
      rw [Db.activeLeases, Db.activeLeases, tasks]⟩

theorem waits_query {α : Type} {s : Stmt α} (reads : ∀ x u, (perform s x u).1 = u) : Waits db (Procedure.ask s) := by
  refine waits_ask fun x u => .inl ?_
  unfold exec
  split
  · rfl
  · exact reads x u

theorem waits_now {now : PyFloat} : Waits db (Store.now now) := by
  unfold Store.now
  split
  · exact Procedure.all_pure _
  · exact Procedure.all_throw _

theorem waits_check {c : Prop} [Decidable c] {e : Err} : Waits db (Store.check c e) := by
  unfold Store.check
  split
  · exact Procedure.all_pure _
  · exact Procedure.all_throw _

theorem waits_row {α : Type} {o : Option α} {e : Err} : Waits db (Store.row o e) := by
  cases o
  · exact Procedure.all_throw _
  · exact Procedure.all_pure _

theorem waits_firstAvailable {ids : List String} : Waits db (Store.firstAvailable t n ids) := by
  induction ids with
  | nil => exact Procedure.all_pure _
  | cons id rest ih =>
    refine .bind (.bind waits_now fun n => .bind (waits_query fun x u => rfl) fun w => .bind waits_row fun w =>
      .bind (waits_query fun x u => rfl) fun active => Procedure.all_pure _) fun status => ?_
    split
    · exact Procedure.all_pure _
    · exact ih

theorem waits_routeOrWait {now : PyFloat} (found : db.tasks.find? task = some t) (open_ : t.state.leaseable = true) :
    Waits db (Store.routeOrWait task now) := by
  refine .bind waits_now fun n => .bind (.bind (waits_query fun x u => rfl) fun r => waits_row) fun r =>
    .bind waits_check fun _ => .bind (waits_query fun x u => rfl) fun ids => .bind waits_firstAvailable fun worker => ?_
  cases worker with
  | some id => exact Procedure.all_pure _
  | none =>
    refine .bind (Procedure.all_ask fun x u waited => ?_) fun _ => .bind (waits_ask fun x u => ?_) fun _ => Procedure.all_pure _
    · unfold exec
      split
      · exact waited
      · refine waited.trans (waited_waitForCapacity fun t' found' => ?_)
        obtain ⟨t'', there, alike⟩ := waited.rows task t found
        obtain rfl := Option.some.inj (there.symm.trans found')
        exact alike.leaseable open_
    · unfold exec
      split
      · exact .inl rfl
      · exact .inr ⟨rfl, rfl⟩

/-- A claim that is refused has changed nothing. -/
theorem raisesCleanly_claim {seconds now : PyFloat} : connections.RaisesCleanly (Store.claim task worker seconds now) := by
  refine .bind quiet_now fun n => .bind quiet_check fun _ => Machine.raisesCleanly_ask fun x db e refused => ?_
  change (exec (.claim task worker seconds n) x db).2 = .error e at refused
  show (exec (.claim task worker seconds n) x db).1 = db
  cases busy : x.busy with
  | true => simp [exec, busy]
  | false =>
    rw [exec_free _ busy] at refused ⊢
    refine transaction_error (fun c committed => ?_) refused
    simp only [claimTask, found_bind_ok, require_bind_ok, pure_ok] at committed
    obtain ⟨_, _, _, _, _, _, _, _, _, _, rfl⟩ := committed
    exact ⟨_, rfl⟩

/-! ### The task itself -/

theorem surely_query {α : Type} {s : Stmt α} {a : α} (reads : ∀ x, perform s x u = (u, .ok a)) :
    connections.Surely Calm (Procedure.ask s : Store α).run u fun u' r => u' = u ∧ r = .ok a := by
  refine Machine.surely_ask.mpr fun x calm => ?_
  show (exec s x u).1 = u ∧ (exec s x u).2 = .ok a
  rw [exec_free s calm.1, reads x]
  exact ⟨rfl, rfl⟩

theorem surely_now {now : PyFloat} (clock : now.clock? = some n) :
    connections.Surely Calm (Store.now now).run u fun u' r => u' = u ∧ r = .ok n := by
  rw [now_valid clock]
  exact ⟨rfl, rfl⟩

theorem surely_check {c : Prop} [Decidable c] {e : Err} (holds : c) :
    connections.Surely Calm (Store.check c e).run u fun u' r => u' = u ∧ r = .ok () := by
  rw [Store.check, if_pos holds]
  exact ⟨rfl, rfl⟩

theorem surely_task {r : TaskRow} (found : u.tasks.find? (clean task) = some r) :
    connections.Surely Calm (Store.task task).run u fun u' a => u' = u ∧ a = .ok r := by
  refine Machine.surely_then (surely_query fun x => rfl) ?_
  rw [found]
  exact ⟨rfl, rfl⟩

theorem surely_status {w : WorkerRow} (valid : 0 ≤ n) (found : u.workers.find? (clean worker) = some w) :
    connections.Surely Calm (Store.workerStatus worker (.fin n)).run u fun u' r => u' = u ∧ r = .ok
      ⟨w, w.lastHeartbeat ≤ n + 1 ∧ .fin (n - w.lastHeartbeat) ≤ w.heartbeatSla, u.activeLeases worker n⟩ := by
  refine Machine.surely_then (surely_now (clock_fin.mpr ⟨valid, rfl⟩)) ?_
  refine Machine.surely_then (surely_query fun x => rfl) ?_
  rw [found]
  exact Machine.surely_then ⟨rfl, rfl⟩ (Machine.surely_then (surely_query fun x => rfl) ⟨rfl, rfl⟩)

/-- Where every name is its own cleaned name, the loop finds a worker that fits, if there is one. -/
theorem surely_firstAvailable {ids : List String} (stored : SlasStored u) (valid : 0 ≤ n) (named : clean task = task)
    (found : u.tasks.find? task = some t) (known : ∀ v ∈ ids, clean v = v ∧ ∃ w, u.workers.find? v = some w)
    (fits : ∃ v ∈ ids, OwnFit u n task v) :
    connections.Surely Calm (Store.firstAvailable t n ids).run u fun u' r => u' = u ∧ ∃ v, r = .ok (some v) ∧ OwnFit u n task v := by
  induction ids with
  | nil =>
    obtain ⟨v, impossible, _⟩ := fits
    exact absurd impossible List.not_mem_nil
  | cons id rest ih =>
    obtain ⟨⟨called, w, registered⟩, known⟩ := List.forall_mem_cons.mp known
    have read : u.workers.find? (clean id) = some w := called.symm ▸ registered
    have accepts := @accepts_iff u n task id t w stored (named.symm ▸ found) read
    refine Machine.surely_then (surely_status valid read) ?_
    split
    · rename_i accepted
      obtain ⟨t', w', found', owner', fit⟩ := accepts.mp accepted
      rw [named] at found'
      rw [called] at owner'
      exact ⟨rfl, id, rfl, t', w', found', owner', fit⟩
    · rename_i refused
      refine ih known ?_
      obtain ⟨v, member, fit⟩ := fits
      rcases List.mem_cons.mp member with rfl | later
      · obtain ⟨t', w', found', owner', fit⟩ := fit
        refine absurd (accepts.mpr ⟨t', w', ?_, ?_, fit⟩) refused
        · rw [named]
          exact found'
        · rw [called]
          exact owner'
      · exact ⟨v, later, fit⟩

/-- `clean` leaves the names of the workers alone. -/
def WorkersNamed (db : Db) : Prop := ∀ w ∈ db.workers.rows, clean w.workerId = w.workerId

theorem surely_routeOrWait {now : PyFloat} (stored : SlasStored u) (workers : WorkersNamed u) (clock : now.clock? = some n)
    (named : clean task = task) (found : u.tasks.find? task = some t) (open_ : t.Schedulable) (fit : OwnFit u n task worker) :
    connections.Surely Calm (Store.routeOrWait task now).run u fun u' r =>
      u' = u ∧ ∃ v, r = .ok (some v) ∧ OwnFit u n task v := by
  have permitted : ¬ t.state.terminal ∧ t.state ≠ .waitingHuman ∧ t.governanceAllowed ≠ 0 := by
    obtain ⟨leaseable, -, allowed⟩ := open_
    rw [allowed]
    cases state : t.state <;> simp_all [TaskState.leaseable, TaskState.terminal]
  have valid : 0 ≤ n := by
    rw [fin_of_clock? clock] at clock
    exact (clock_fin.mp clock).1
  have known : ∀ v ∈ sortIds (u.workers.rows.map WorkerRow.workerId), clean v = v ∧ ∃ w, u.workers.find? v = some w := by
    intro v member
    obtain ⟨w, there⟩ := mem_ids.mp member
    obtain ⟨row, rfl⟩ := Table.find?_some.mp there
    exact ⟨workers w row, w, there⟩
  have fits : ∃ v ∈ sortIds (u.workers.rows.map WorkerRow.workerId), OwnFit u n task v := by
    have own := fit
    obtain ⟨_, w, _, owner, _⟩ := own
    exact ⟨worker, mem_ids.mpr ⟨w, owner⟩, fit⟩
  refine Machine.surely_then (surely_now clock) ?_
  refine Machine.surely_then (surely_task (named.symm ▸ found)) ?_
  refine Machine.surely_then (surely_check permitted) ?_
  refine Machine.surely_then (surely_query fun x => rfl) ?_
  refine (surely_firstAvailable stored valid named found known fits).andThen (fun u' out done => ?_) fun u' e done => ?_
  · obtain ⟨rfl, v, same, fit⟩ := done
    obtain rfl := Except.ok.inj same
    exact ⟨rfl, v, rfl, fit⟩
  · obtain ⟨_, _, impossible, _⟩ := done
    cases impossible

theorem surely_claim {now seconds : PyFloat} (clock : now.clock? = some n) (finite : FiniteDuration seconds)
    (found : u.tasks.find? task = some t) (open_ : t.Schedulable) (fit : OwnFit u n task worker) :
    connections.Surely Calm (Store.claim task worker seconds now).run u fun _ r => ∃ lease, r = .ok lease := by
  refine Machine.surely_then (surely_now clock) ?_
  refine Machine.surely_then (surely_check (finiteDuration_iff.mp finite)) ?_
  refine Machine.surely_ask.mpr fun x calm => ?_
  obtain ⟨db', claimed⟩ := @claimTask_returns u n task worker t seconds x.uuid calm.2 found open_ fit
  show ∃ lease, (exec (.claim task worker seconds n) x u).2 = .ok lease
  rw [exec_free _ calm.1]
  simp only [perform, claimed]
  exact ⟨_, rfl⟩

/-! ### A pass of the scheduler -/

/-- What the loop tries for one task. -/
def placeOne (task : String) (now : PyFloat) : Store (Option Lease) := do
  match ← Store.routeOrWait task now with
  | some worker => return some (← Store.claim task worker (.fin 30) now)
  | none => return none

theorem procedure_schedule {now : PyFloat} {rest : List TaskRow} :
    Client.procedure host (Scheduler.schedule now (t :: rest)) = (do
      let granted ← Procedure.attempt (placeOne t.taskId now)
      let leases ← Client.procedure host (Scheduler.schedule now rest)
      match granted with
      | .ok (some lease) => return lease :: leases
      | _ => return leases) := by
  simp only [Scheduler.schedule, Client.procedure, Procedure.interp_bind, Procedure.interp_attempt, Procedure.interp_ask, Op.run,
    placeOne]
  congr 1
  · congr 2
    funext worker
    cases worker with
    | none => rfl
    | some worker =>
      simp only [Procedure.interp_bind, Procedure.interp_ask, Procedure.interp_pure]
  · funext granted
    congr 1
    funext leases
    cases granted with
    | error e => rfl
    | ok lease => cases lease <;> rfl

/-- A task that comes first is leased, or it waits. -/
theorem surely_placeOne {now : PyFloat} (waited : Waited db u) (found : db.tasks.find? task = some t)
    (open_ : t.state.leaseable = true) : connections.Surely Calm (placeOne task now).run u fun u' r =>
      (∃ lease, r = .ok (some lease)) ∨ Waited db u' := by
  have routed : connections.Surely Calm (Store.routeOrWait task now).run u fun u' _ => Waited db u' :=
    Machine.surely_of_ends fun u' a ends => ends.keeps (waits_routeOrWait found open_) waited
  refine routed.andThen (fun u₁ worker waited => ?_) fun u₁ e waited => .inr waited
  cases worker with
  | none => exact .inr waited
  | some worker =>
    have claimed : connections.Surely Calm (Store.claim task worker (.fin 30) now).run u₁ fun u' r =>
        (∃ lease, r = .ok lease) ∨ u' = u₁ := by
      refine Machine.surely_of_ends fun u' r ends => ?_
      cases r with
      | ok lease => exact .inl ⟨lease, rfl⟩
      | error e => exact .inr (raisesCleanly_claim u₁ u' e ends)
    refine claimed.andThen (fun u₂ lease _ => .inl ⟨lease, rfl⟩) fun u₂ e refused => .inr ?_
    rcases refused with ⟨_, impossible⟩ | rfl
    · cases impossible
    · exact waited

/-- The task for which there is a worker is leased. -/
theorem surely_placed {now : PyFloat} (waited : Waited db u) (stored : SlasStored db) (workers : WorkersNamed db)
    (clock : now.clock? = some n) (named : clean task = task) (found : db.tasks.find? task = some t) (open_ : t.Schedulable)
    (fit : OwnFit db n task worker) :
    connections.Surely Calm (placeOne task now).run u fun _ r => ∃ lease, r = .ok (some lease) := by
  obtain ⟨t', found', open'⟩ := waited.schedulable found open_
  have stored' : SlasStored u := fun w member => stored w (waited.workers ▸ member)
  have workers' : WorkersNamed u := fun w member => workers w (waited.workers ▸ member)
  refine (surely_routeOrWait stored' workers' clock named found' open' (waited.ownFit fit)).andThen (fun u₁ out done => ?_)
    fun u₁ e done => ?_
  · obtain ⟨rfl, v, same, fit⟩ := done
    obtain rfl := Except.ok.inj same
    refine (surely_claim clock ⟨30, rfl, by norm_num⟩ found' open' fit).andThen (fun u₂ lease _ => ⟨lease, rfl⟩)
      fun u₂ e done => ?_
    obtain ⟨_, impossible⟩ := done
    cases impossible
  · obtain ⟨_, _, impossible, _⟩ := done
    cases impossible

theorem surely_schedule {now : PyFloat} (batch : List TaskRow) (u : Db) :
    connections.Surely Calm (Client.procedure host (Scheduler.schedule now batch)).run u fun _ r => ∃ leases, r = .ok leases := by
  induction batch generalizing u with
  | nil => exact ⟨[], rfl⟩
  | cons first rest ih =>
    rw [procedure_schedule]
    refine Machine.surely_andThen.mpr (Machine.surely_attempt.mpr (Machine.surely_of_ends fun u₁ r _ => ⟨?_, ?_⟩))
    · intro granted _
      refine (ih u₁).andThen (fun u₂ leases _ => ?_) fun u₂ e done => ?_
      · split
        · exact ⟨_, rfl⟩
        · exact ⟨_, rfl⟩
      · obtain ⟨_, impossible⟩ := done
        cases impossible
    · intro e impossible
      cases impossible

/-- One task of the batch that a worker can take is enough. -/
theorem surely_leases {now : PyFloat} (stored : SlasStored db) (workers : WorkersNamed db) (clock : now.clock? = some n)
    (rows : ∀ r ∈ batch, db.tasks.find? r.taskId = some r ∧ r.Schedulable) (member : t ∈ batch) (named : clean t.taskId = t.taskId)
    (fit : OwnFit db n t.taskId worker) (waited : Waited db u) :
    connections.Surely Calm (Client.procedure host (Scheduler.schedule now batch)).run u fun _ r =>
      ∃ leases, r = .ok leases ∧ leases ≠ [] := by
  induction batch generalizing u with
  | nil => exact absurd member List.not_mem_nil
  | cons first rest ih =>
    obtain ⟨⟨found, open_⟩, rows⟩ := List.forall_mem_cons.mp rows
    have tried : connections.Surely Calm (placeOne first.taskId now).run u fun u' r =>
        (∃ lease, r = .ok (some lease)) ∨ Waited db u' ∧ t ∈ rest := by
      rcases List.mem_cons.mp member with rfl | later
      · exact (surely_placed waited stored workers clock named found open_ fit).mono fun _ _ placed => .inl placed
      · exact (surely_placeOne waited found open_.1).mono fun _ _ placed => placed.imp_right fun waited => ⟨waited, later⟩
    rw [procedure_schedule]
    refine Machine.surely_andThen.mpr (Machine.surely_attempt.mpr (tried.mono fun u₁ r outcome => ⟨?_, ?_⟩))
    · intro granted same
      obtain rfl := Except.ok.inj same
      rcases outcome with ⟨lease, rfl⟩ | ⟨waited, later⟩
      · refine (surely_schedule rest u₁).andThen (fun u₂ leases _ => ⟨_, rfl, List.cons_ne_nil _ _⟩) fun u₂ e done => ?_
        obtain ⟨_, impossible⟩ := done
        cases impossible
      · refine (ih rows later waited).andThen (fun u₂ leases done => ?_) fun u₂ e done => ?_
        · obtain ⟨_, same, filled⟩ := done
          obtain rfl := Except.ok.inj same
          split
          · exact ⟨_, rfl, List.cons_ne_nil _ _⟩
          · exact ⟨_, rfl, filled⟩
        · obtain ⟨_, impossible, _⟩ := done
          cases impossible
    · intro e impossible
      cases impossible

/-! ### The batch -/

theorem mem_insertBy {before : TaskRow → TaskRow → Prop} [DecidableRel before] {r s : TaskRow} {rows : List TaskRow} :
    s ∈ insertBy before r rows ↔ s = r ∨ s ∈ rows := by
  induction rows with
  | nil => simp [insertBy]
  | cons head rest ih =>
    unfold insertBy
    split
    · rw [List.mem_cons, ih, List.mem_cons]
      exact or_left_comm
    · exact List.mem_cons

/-- What is in a batch may be leased. -/
theorem mem_schedulable {limit : Nat} (member : t ∈ db.schedulable limit) : db.tasks.find? t.taskId = some t ∧ t.Schedulable := by
  have sorted : ∀ rows : List TaskRow, ∀ r ∈ rows.foldr (insertBy TaskRow.before) [], r ∈ rows := by
    intro rows
    induction rows with
    | nil => exact fun r impossible => impossible
    | cons head rest ih =>
      intro r member
      rcases mem_insertBy.mp member with rfl | later
      · exact List.mem_cons_self
      · exact List.mem_cons_of_mem _ (ih r later)
  obtain ⟨there, open_⟩ := List.mem_filter.mp (sorted _ _ (List.mem_of_mem_take member))
  simp only [Bool.and_eq_true, decide_eq_true_eq] at open_
  exact ⟨Table.find?_some.mpr ⟨there, rfl⟩, open_.1.1, open_.1.2, open_.2⟩

theorem surely_schedulable {limit : Int} (positive : 0 < limit) :
    connections.Surely Calm (Store.schedulableTasks limit).run u fun u' r => u' = u ∧ r = .ok (u.schedulable limit.toNat) :=
  Machine.surely_then (surely_check positive) (surely_query fun _ => rfl)

/-- A pass leases something, where some task of the batch could be claimed by some worker. -/
theorem surely_scheduleOnce {now seconds : PyFloat} {batchSize : Int} (positive : 0 < batchSize) (stored : SlasStored db)
    (workers : WorkersNamed db) (clock : now.clock? = some n) (member : t ∈ db.schedulable batchSize.toNat)
    (named : clean t.taskId = t.taskId) (claimable : ((LeaseOp.claim t.taskId worker seconds now).exec x db).2 = .ok ()) :
    connections.Surely Calm (Client.procedure host (Scheduler.scheduleOnce batchSize now)).run db fun _ r =>
      ∃ leases, r = .ok leases ∧ leases ≠ [] := by
  have fit := claim_fits clock claimable
  have unfolded : Client.procedure host (Scheduler.scheduleOnce batchSize now) =
      Store.schedulableTasks batchSize >>= fun batch => Client.procedure host (Scheduler.schedule now batch) := by
    simp only [Scheduler.scheduleOnce, Client.procedure, Procedure.interp_bind, Procedure.interp_ask, Op.run]
  rw [unfolded]
  refine Machine.surely_then (surely_schedulable positive) ?_
  exact surely_leases stored workers clock (fun r => mem_schedulable) member named fit (.refl db)

end

end ControlPlane.Autonomy
