import ControlPlane.Autonomy.FiniteLeases
import Mathlib.Data.Fintype.EquivFin

/-!
# Where a task can be placed

`claim` looks at the rows of the task and of the worker as they are named; `route_or_wait`
looks both up under the cleaned name. The two agree unless a worker that decides the route
is read differently.
-/

namespace ControlPlane.Autonomy

open Data Interleaving

/-- The placement test on a task, a worker's row and the number of leases under an id. -/
def Fits (n : ℚ) (t : TaskRow) (w : WorkerRow) (active : Nat) : Prop :=
  ¬ w.Stale n ∧ (active : Int) < w.capacity ∧ t.capability ∈ w.capabilities ∧ t.targetProject ∈ w.targets

/-- The test on the rows of these names. -/
def OwnFit (db : Db) (n : ℚ) (task worker : String) : Prop :=
  ∃ t w, db.tasks.find? task = some t ∧ db.workers.find? worker = some w ∧ Fits n t w (db.activeLeases worker n)

/-- The test on the rows that are found under the cleaned names. -/
def ReadFit (db : Db) (n : ℚ) (task worker : String) : Prop :=
  ∃ t w, db.tasks.find? (clean task) = some t ∧ db.workers.find? (clean worker) = some w ∧
    Fits n t w (db.activeLeases worker n)

/-- The names lead to rows on which the test comes out differently. -/
def Misread (db : Db) (n : ℚ) (task worker : String) : Prop := ¬ (OwnFit db n task worker ↔ ReadFit db n task worker)

/-- The worker decides a route: it is the first that fits by the rows that are read, or none does. -/
def Decides (db : Db) (n : ℚ) (task worker : String) : Prop :=
  (ReadFit db n task worker ∧ ∀ v ∈ db.workers.rows.map WorkerRow.workerId, v < worker → ¬ ReadFit db n task v) ∨
    ∀ v ∈ db.workers.rows.map WorkerRow.workerId, ¬ ReadFit db n task v

/-- `claim`, straight after a route, agrees with it. -/
def ClaimAgrees (db : Db) (task : String) (now : PyFloat) : Option String → Prop
  | some worker => ∀ seconds x, FiniteDuration seconds → x.busy = false → (∀ r ∈ db.tasks.rows, r.leaseId ≠ some x.uuid) →
    ((LeaseOp.claim task worker seconds now).exec x db).2 = .ok ()
  | none => ∀ worker seconds x, ((LeaseOp.claim task worker seconds now).exec x db).2 ≠ .ok ()

section

variable {db db' : Db} {n m : ℚ} {now : PyFloat} {task worker : String} {t : TaskRow} {out : Option String} {x : Input}

/-! ### Routing -/

/-- No stored SLA is NULL. -/
def SlasStored (db : Db) : Prop := ∀ w ∈ db.workers.rows, w.heartbeatSla ≠ .nan

theorem available_iff {w : WorkerRow} (stored : w.heartbeatSla ≠ .nan) :
    (w.lastHeartbeat ≤ n + 1 ∧ PyFloat.fin (n - w.lastHeartbeat) ≤ w.heartbeatSla) ↔ ¬ w.Stale n := by
  unfold WorkerRow.Stale
  rw [not_or, not_lt, and_comm]
  refine and_congr_left' ?_
  cases sla : w.heartbeatSla with
  | nan => exact absurd sla stored
  | fin q => exact PyFloat.fin_le_fin.trans (not_lt.symm.trans (not_congr PyFloat.fin_lt_fin.symm))
  | negInf => exact iff_of_false Bool.false_ne_true fun below => below rfl
  | posInf => exact iff_of_true rfl Bool.false_ne_true

@[simp] theorem clock_fin : (PyFloat.fin n).clock? = some m ↔ 0 ≤ n ∧ n = m := by
  simp [PyFloat.clock?]

theorem returns_status {s : Store.WorkerStatus} :
    connections.Returns (Store.workerStatus worker (.fin n)) db db' s ↔ db' = db ∧ 0 ≤ n ∧ ∃ w,
      db.workers.find? (clean worker) = some w ∧ s = ⟨w, w.lastHeartbeat ≤ n + 1 ∧ .fin (n - w.lastHeartbeat) ≤ w.heartbeatSla,
        db.activeLeases worker n⟩ := by
  simp only [Store.workerStatus, Machine.returns_bind, returns_now, returns_ask_stmt, perform, returns_row,
    Machine.returns_pure, clock_fin]
  constructor
  · intro returned
    obtain ⟨_, _, ⟨rfl, valid, rfl⟩, _, found, ⟨_, _, same⟩, _, w, ⟨rfl, rfl⟩, _, active, ⟨_, _, counted⟩, rfl, rfl⟩ := returned
    obtain ⟨rfl, row⟩ := Prod.mk.inj same
    obtain ⟨rfl, count⟩ := Prod.mk.inj counted
    obtain rfl := Except.ok.inj count
    exact ⟨rfl, valid, w, Except.ok.inj row, rfl⟩
  · intro returned
    obtain ⟨rfl, valid, w, found, rfl⟩ := returned
    exact ⟨_, n, ⟨rfl, valid, rfl⟩, _, some w, ⟨{}, rfl, by rw [found]⟩, _, w, ⟨rfl, rfl⟩, _, _, ⟨{}, rfl, rfl⟩, rfl, rfl⟩

/-- The condition of the loop is the test on the rows that were read. -/
theorem accepts_iff {w : WorkerRow} (stored : SlasStored db) (read : db.tasks.find? (clean task) = some t)
    (found : db.workers.find? (clean worker) = some w) :
    (decide (w.lastHeartbeat ≤ n + 1 ∧ PyFloat.fin (n - w.lastHeartbeat) ≤ w.heartbeatSla) = true ∧
      (db.activeLeases worker n : Int) < w.capacity ∧ t.capability ∈ w.capabilities ∧ t.targetProject ∈ w.targets) ↔
      ReadFit db n task worker := by
  rw [decide_eq_true_iff, available_iff (stored w (Table.find?_some.mp found).1)]
  constructor
  · exact fun fits => ⟨t, w, read, found, fits⟩
  · intro fit
    obtain ⟨t', w', read', found', fits⟩ := fit
    obtain rfl := Option.some.inj (read.symm.trans read')
    obtain rfl := Option.some.inj (found.symm.trans found')
    exact fits

theorem returns_firstAvailable {ids : List String} (stored : SlasStored db)
    (read : db.tasks.find? (clean task) = some t)
    (returned : connections.Returns (Store.firstAvailable t n ids) db db' out) :
    db' = db ∧ match out with
      | some u => ∃ before after, ids = before ++ u :: after ∧ (∀ v ∈ before, ¬ ReadFit db n task v) ∧ ReadFit db n task u
      | none => ∀ v ∈ ids, ¬ ReadFit db n task v := by
  induction ids with
  | nil =>
    obtain ⟨rfl, rfl⟩ := Machine.returns_pure.mp returned
    exact ⟨rfl, fun v impossible => absurd impossible List.not_mem_nil⟩
  | cons id rest ih =>
    obtain ⟨_, s, looked, returned⟩ := Machine.returns_bind.mp returned
    obtain ⟨rfl, -, w, found, rfl⟩ := returns_status.mp looked
    have accepts := @accepts_iff _ n _ id _ _ stored read found
    dsimp only at returned
    split at returned
    · rename_i accepted
      obtain ⟨rfl, rfl⟩ := Machine.returns_pure.mp returned
      exact ⟨rfl, [], rest, rfl, fun v impossible => absurd impossible List.not_mem_nil, accepts.mp accepted⟩
    · rename_i refused
      obtain ⟨rfl, tail⟩ := ih returned
      refine ⟨rfl, ?_⟩
      cases out with
      | some u =>
        obtain ⟨before, after, rfl, earlier, fit⟩ := tail
        refine ⟨id :: before, after, rfl, ?_, fit⟩
        exact List.forall_mem_cons.mpr ⟨fun fits => refused (accepts.mpr fits), earlier⟩
      | none => exact List.forall_mem_cons.mpr ⟨fun fits => refused (accepts.mpr fits), tail⟩

theorem sortIds_sorted (ids : List String) : (sortIds ids).Pairwise (· < ·) := by
  induction ids with
  | nil => exact .nil
  | cons first rest ih => exact insertSorted_sorted ih

theorem mem_ids : worker ∈ sortIds (db.workers.rows.map WorkerRow.workerId) ↔ ∃ w, db.workers.find? worker = some w := by
  rw [mem_sortIds, List.mem_map]
  exact exists_congr fun w => Table.find?_some.symm

/-- What a route that returns has found. -/
theorem returns_routeOrWait (stored : SlasStored db)
    (returned : connections.Returns (Store.routeOrWait task now) db db' out) :
    ∃ n, now.clock? = some n ∧ match out with
      | some u => db' = db ∧ u ∈ db.workers.rows.map WorkerRow.workerId ∧ ReadFit db n task u ∧
          ∀ v ∈ db.workers.rows.map WorkerRow.workerId, v < u → ¬ ReadFit db n task v
      | none => db' = (waitForCapacity task n db).log task "WAITING_CAPACITY" n ∧
          ∀ v ∈ db.workers.rows.map WorkerRow.workerId, ¬ ReadFit db n task v := by
  simp only [Store.routeOrWait, Machine.returns_bind, returns_now, returns_task, returns_check, returns_ask_stmt, perform] at returned
  obtain ⟨_, n, ⟨rfl, clock⟩, _, t, ⟨rfl, read⟩, _, _, ⟨rfl, -⟩, _, ids, ⟨_, _, selected⟩, _, found, looked, rest⟩ := returned
  obtain ⟨rfl, same⟩ := Prod.mk.inj selected
  obtain rfl := Except.ok.inj same
  obtain ⟨rfl, outcome⟩ := returns_firstAvailable stored read looked
  refine ⟨n, clock, ?_⟩
  cases found with
  | some u =>
    obtain ⟨rfl, rfl⟩ := Machine.returns_pure.mp rest
    obtain ⟨before, after, listed, earlier, fit⟩ := outcome
    have sorted := sortIds_sorted (db'.workers.rows.map WorkerRow.workerId)
    rw [listed, List.pairwise_append] at sorted
    refine ⟨rfl, mem_sortIds.mp (listed ▸ List.mem_append_right _ List.mem_cons_self), fit, fun v member below => ?_⟩
    have among : v ∈ before ++ u :: after := listed ▸ mem_sortIds.mpr member
    rcases List.mem_append.mp among with first | last
    · exact earlier v first
    · rcases List.mem_cons.mp last with rfl | later
      · exact absurd below (lt_irrefl v)
      · exact absurd below (lt_asymm ((List.pairwise_cons.mp sorted.2.1).1 v later))
  | none =>
    simp only [Store.audit, Machine.returns_bind, returns_ask_stmt, perform, Machine.returns_pure] at rest
    obtain ⟨_, _, ⟨_, _, waited⟩, _, _, ⟨_, _, logged⟩, rfl, rfl⟩ := rest
    obtain ⟨rfl, -⟩ := Prod.mk.inj waited
    obtain ⟨rfl, -⟩ := Prod.mk.inj logged
    exact ⟨rfl, fun v member => outcome v (mem_sortIds.mpr member)⟩

/-! ### Claiming -/

/-- A task that may be leased at all. -/
def TaskRow.Schedulable (t : TaskRow) : Prop :=
  t.state.leaseable = true ∧ t.requiresHumanApproval = 0 ∧ t.governanceAllowed = 1

theorem claim_fits {seconds : PyFloat} (clock : now.clock? = some n)
    (answered : ((LeaseOp.claim task worker seconds now).exec x db).2 = .ok ()) : OwnFit db n task worker := by
  rw [exec_claim clock] at answered
  split at answered
  · cases busy : x.busy with
    | true =>
      rw [exec, if_pos busy] at answered
      cases answered
    | false =>
      rw [exec_free _ busy] at answered
      simp only [perform] at answered
      cases claimed : claimTask task worker seconds n x.uuid db with
      | error e =>
        rw [claimed] at answered
        cases answered
      | ok c =>
        simp only [claimTask, require_bind_ok, found_bind_ok, pure_ok] at claimed
        obtain ⟨t, found, w, owner, -, fresh, able, room, -⟩ := claimed
        exact ⟨t, w, found, owner, fresh, room, able⟩
  · cases answered

theorem claimTask_returns {seconds : PyFloat} {lease : String} (unused : ∀ r ∈ db.tasks.rows, r.leaseId ≠ some lease)
    (found : db.tasks.find? task = some t) (open_ : t.Schedulable) (fit : OwnFit db n task worker) :
    ∃ db', claimTask task worker seconds n lease db = .ok (db', .ok ⟨task, worker, lease, .fin n + seconds⟩) := by
  obtain ⟨t', w, found', owner, fresh, room, able⟩ := fit
  obtain rfl := Option.some.inj (found.symm.trans found')
  have named : t.named task TaskState.leaseable := ⟨(Table.find?_some.mp found).2, open_.1⟩
  have one : db.tasks.rowcount (TaskRow.named task TaskState.leaseable) = 1 := by
    rw [Table.rowcount_key fun r named => named.1]
    exact if_pos ⟨t, found, named⟩
  apply Exists.intro
  simp only [claimTask, require_bind_ok, found_bind_ok, pure_ok]
  exact ⟨t, found, w, owner, ⟨open_.1, open_.2.1, by rw [open_.2.2]; decide⟩, fresh, able, room, one,
    fun r member _ => unused r member, rfl⟩

theorem claim_returns {seconds : PyFloat} (clock : now.clock? = some n) (finite : FiniteDuration seconds)
    (free : x.busy = false) (unused : ∀ r ∈ db.tasks.rows, r.leaseId ≠ some x.uuid)
    (found : db.tasks.find? task = some t) (open_ : t.Schedulable) (fit : OwnFit db n task worker) :
    ((LeaseOp.claim task worker seconds now).exec x db).2 = .ok () := by
  obtain ⟨db', claimed⟩ := @claimTask_returns db n task worker t seconds x.uuid unused found open_ fit
  rw [exec_claim clock, if_pos (finiteDuration_iff.mp finite), exec_free _ free]
  simp only [perform, claimed]
  rfl

/-! ### Straight after a route -/

/-- A task that starts to wait was counted with no worker, before or after. -/
theorem waiting_leases (found : db.tasks.find? task = some t) (idle : t.state.working = false) :
    (waitForCapacity task m db).activeLeases worker n = db.activeLeases worker n := by
  unfold Db.activeLeases
  have rows : (waitForCapacity task m db).tasks.rows = db.tasks.rows.map fun r => if r.taskId = task then r.waiting m else r := rfl
  rw [rows, List.countP_map]
  refine List.countP_congr fun r member => ?_
  simp only [Function.comp_apply]
  split
  · rename_i named
    obtain rfl := hits_found found member named
    simp [TaskRow.waiting, idle, show TaskState.waitingCapacity.working = false from rfl]
  · rfl

theorem waiting_find (found : db.tasks.find? task = some t) :
    ((waitForCapacity task m db).log task "WAITING_CAPACITY" m).tasks.find? task = some (t.waiting m) := by
  have updated := @Table.find?_update_key _ _ _ db.tasks (TaskRow.waiting m) _ task (fun _ => rfl) task
  rw [if_pos rfl, found, Option.map_some] at updated
  exact updated

/-- Waiting changes nothing for the placement test. -/
theorem waiting_ownFit (found : db.tasks.find? task = some t) (idle : t.state.working = false) :
    OwnFit ((waitForCapacity task m db).log task "WAITING_CAPACITY" m) n task worker ↔ OwnFit db n task worker := by
  have waits := @waiting_find db m task t found
  have counted := @waiting_leases db n m task worker t found idle
  constructor
  · intro fit
    obtain ⟨t', w, found', owner, fresh, room, able⟩ := fit
    obtain rfl := Option.some.inj (waits.symm.trans found')
    exact ⟨t, w, found, owner, fresh, counted ▸ room, able⟩
  · intro fit
    obtain ⟨t', w, found', owner, fresh, room, able⟩ := fit
    obtain rfl := Option.some.inj (found.symm.trans found')
    refine ⟨t.waiting m, w, waits, owner, fresh, ?_, able⟩
    rw [← counted] at room
    exact room

theorem exists_unused (db : Db) : ∃ uuid, ∀ r ∈ db.tasks.rows, r.leaseId ≠ some uuid := by
  have infinite : Infinite String := Infinite.of_injective (fun n => String.ofList (List.replicate n 'a')) fun a b same => by
    simpa using congrArg (fun s => s.toList.length) same
  obtain ⟨uuid, unused⟩ := Infinite.exists_notMem_finset (db.tasks.rows.filterMap (·.leaseId)).toFinset
  refine ⟨uuid, fun r member held => unused ?_⟩
  rw [List.mem_toFinset, List.mem_filterMap]
  exact ⟨r, member, held⟩

theorem idle_of_leaseable {s : TaskState} (leaseable : s.leaseable = true) : s.working = false := by
  cases s <;> simp_all [TaskState.working, TaskState.leaseable]

/-- For every store and time, and every task that may be leased: whenever the route returns, a claim
straight after it agrees with it if and only if no worker that decides the route is misread. -/
theorem route_agrees_iff (stored : SlasStored db) (found : db.tasks.find? task = some t) (open_ : t.Schedulable)
    (clock : now.clock? = some n) (returned : connections.Returns (Store.routeOrWait task now) db db' out) :
    ClaimAgrees db' task now out ↔
      ∀ worker ∈ db.workers.rows.map WorkerRow.workerId, Decides db n task worker → ¬ Misread db n task worker := by
  obtain ⟨n', clock', outcome⟩ := returns_routeOrWait stored returned
  obtain rfl := Option.some.inj (clock.symm.trans clock')
  cases out with
  | some u =>
    obtain ⟨rfl, member, fit, first⟩ := outcome
    have granted : ClaimAgrees db' task now (some u) ↔ OwnFit db' n task u := by
      constructor
      · intro agrees
        obtain ⟨uuid, unused⟩ := exists_unused db'
        exact claim_fits clock (agrees (.fin 1) { uuid } ⟨1, rfl, by norm_num⟩ rfl unused)
      · exact fun own seconds x finite free unused => claim_returns clock finite free unused found open_ own
    rw [granted]
    constructor
    · intro own v among decides misread
      have same : v = u := by
        rcases decides with ⟨fits, earliest⟩ | none_
        · rcases lt_trichotomy v u with below | same | above
          · exact absurd fits (first v among below)
          · exact same
          · exact absurd fit (earliest u member above)
        · exact absurd fit (none_ u member)
      subst same
      exact misread (iff_of_true own fit)
    · intro sound
      have read := sound u member (.inl ⟨fit, first⟩)
      exact (not_not.mp read).mpr fit
  | none =>
    obtain ⟨rfl, unfit⟩ := outcome
    have idle := idle_of_leaseable open_.1
    constructor
    · intro refuses v among _ misread
      refine misread (iff_of_false (fun own => ?_) (unfit v among))
      obtain ⟨uuid, unused⟩ := exists_unused ((waitForCapacity task n db).log task "WAITING_CAPACITY" n)
      exact refuses v (.fin 1) { uuid } (claim_returns clock ⟨1, rfl, by norm_num⟩ rfl unused (waiting_find found)
        ⟨rfl, open_.2⟩ ((waiting_ownFit found idle).mpr own))
    · intro sound worker seconds x answered
      have own := (waiting_ownFit found idle).mp (claim_fits clock answered)
      have registered := own
      obtain ⟨_, w, _, owner, _⟩ := registered
      have among : worker ∈ db.workers.rows.map WorkerRow.workerId := mem_sortIds.mp (mem_ids.mpr ⟨w, owner⟩)
      have read := sound worker among (.inr unfit)
      exact unfit worker among ((not_not.mp read).mp own)

/-- Names that `clean` leaves alone are not misread. -/
theorem not_misread (named : clean task = task) (called : clean worker = worker) : ¬ Misread db n task worker := by
  refine not_not.mpr ?_
  rw [OwnFit, ReadFit, named, called]

end

theorem ready_route : ∃ db', connections.Returns (Store.routeOrWait "t" (.fin 1)) ready db' (some "w") := by
  have answer : (connections.alone (Store.routeOrWait "t" (.fin 1)).run [] ready).2 = .ok (some "w") := by decide +kernel
  have ends := @Machine.ends_alone _ _ _ _ _ connections ready _ (p := (Store.routeOrWait "t" (.fin 1)).run) []
  rw [answer] at ends
  exact ⟨_, ends⟩

theorem route_agrees_ready : ∃ db', ClaimAgrees db' "t" (.fin 1) (some "w") := by
  obtain ⟨db', returned⟩ := ready_route
  obtain ⟨t, found⟩ : ∃ t, ready.tasks.find? "t" = some t := Option.isSome_iff_exists.mp (by decide)
  have slas : ∀ w ∈ ready.workers.rows, w.heartbeatSla ≠ .nan := by decide
  have open_ : ∀ t ∈ ready.tasks.rows, t.state.leaseable = true ∧ t.requiresHumanApproval = 0 ∧ t.governanceAllowed = 1 := by
    decide
  have plain : ∀ id ∈ ready.workers.rows.map WorkerRow.workerId, clean id = id := by decide
  refine ⟨db', (route_agrees_iff slas found (open_ t (Table.find?_some.mp found).1) rfl returned).mpr fun worker member _ => ?_⟩
  exact not_misread (n := 1) (by decide) (plain worker member)

/-- A worker whose stored name is redacted again when it is looked up. -/
def misnamed : Db := (script Sample.host [Sample.task "t",
    .call (.registerWorker "token=[REDACTED]" "sample" ["write"] ["lab"] (.fin 30) 1 (.fin 0)), Sample.worker "token<=abc"]
  (moves [2, 1, 0, 2])).2.state

theorem route_disagrees : ¬ ∀ (host : Host) (db db' : Db) (task : String) (t : TaskRow) (now : PyFloat) (out : Option String),
    Reachable host db → db.tasks.find? task = some t → t.Schedulable →
      connections.Returns (Store.routeOrWait task now) db db' out → ClaimAgrees db' task now out := by
  intro law
  obtain ⟨t, found⟩ : ∃ t, misnamed.tasks.find? "t" = some t := Option.isSome_iff_exists.mp (by decide)
  have open_ : ∀ t ∈ misnamed.tasks.rows, t.state.leaseable = true ∧ t.requiresHumanApproval = 0 ∧ t.governanceAllowed = 1 := by
    decide
  have waits : (connections.alone (Store.routeOrWait "t" (.fin 1)).run [] misnamed).2 = .ok none := by decide +kernel
  have ends := @Machine.ends_alone _ _ _ _ _ connections misnamed _ (p := (Store.routeOrWait "t" (.fin 1)).run) []
  rw [waits] at ends
  have refuses := law Sample.host misnamed _ "t" t (.fin 1) none ⟨_, _, runs_script .., rfl⟩ found
    (open_ t (Table.find?_some.mp found).1) ends
  refine refuses "token=abc" (.fin 1) { uuid := "lease" } ?_
  decide +kernel

end ControlPlane.Autonomy
