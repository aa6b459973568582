import Mathlib.Algebra.GroupWithZero.Nat
import ControlPlane.Autonomy.Move

/-!
# Retries are charged per lost lease

`attempt_count` counts the leases a task has lost. The count is kept as long as
every charge is written to the row it was computed from and no lease is dropped
without one.
-/

namespace ControlPlane.Autonomy

open Data Interleaving

/-- `attempt_count` of a task, before it exists as well. -/
def Db.attempts (db : Db) (task : String) : Nat := ((db.tasks.find? task).map (·.attemptCount)).getD 0

def Stmt.completes {β : Type} : Stmt β → Bool
  | .completeTask .. => true
  | _ => false

/-- The task held a lease, and does not hold it any more, other than by completion. -/
def LosesLease (task : String) (t : Taken Stmt Input Db) : Prop :=
  t.stmt.completes = false ∧ t.before.lease? task ≠ none ∧ (connections.after t).lease? task ≠ t.before.lease? task

instance (task : String) : DecidablePred (LosesLease task) := fun _ => inferInstanceAs (Decidable (_ ∧ _ ∧ _))

/-- How many leases the task has lost along a run. -/
def lostLeases (task : String) (trace : List (Taken Stmt Input Db)) : Nat := trace.countP fun t => LosesLease task t

/-- The task that the statement claims. -/
def Stmt.claimed? {β : Type} : Stmt β → Option String
  | .claim task .. => some task
  | _ => none

/-- A successful claim of the task. -/
def GrantsLease (task : String) (t : Taken Stmt Input Db) : Prop :=
  t.stmt.claimed? = some task ∧ (exec t.stmt t.input t.before).2.isOk

instance (task : String) : DecidablePred (GrantsLease task) := fun _ => inferInstanceAs (Decidable (_ ∧ _))

/-- By how much the statement raises `attempt_count`. -/
def raisedBy (task : String) (t : Taken Stmt Input Db) : Nat :=
  (connections.after t).attempts task - t.before.attempts task

/-- The statement charges the task: by `reclaim_expired`, `reconcile_stale_workers` or `fail_attempt`. -/
def ChargesTask (task : String) : Taken Stmt Input Db → Prop
  | ⟨.reclaim id n, x, db⟩ => id = task ∧ (exec (.reclaim id n) x db).2.isOk
  | ⟨.chargeStale id _ _, x, _⟩ | ⟨.chargeFailure id _ _ _ _ _, x, _⟩ => id = task ∧ x.busy = false
  | _ => False

/-- The two halves of the law, for one task of one run. -/
structure ChargedPerLease (task : String) (trace : List (Taken Stmt Input Db)) : Prop where
  /-- between two successful claims `attempt_count` rises by at most one -/
  once : ∀ later between earlier, trace = later ++ between ++ earlier → (∀ t ∈ between, ¬ GrantsLease task t) →
    (between.map (raisedBy task)).sum ≤ 1
  /-- a charge ends in DEAD_LETTER exactly when more leases are lost than the budget allows -/
  deadLetter : ∀ later t earlier, trace = later ++ t :: earlier → ChargesTask task t →
    ∀ r, (connections.after t).tasks.find? task = some r →
      (r.state = .deadLetter ↔ lostLeases task (t :: earlier) > r.retryBudget)

/-- The row that a charge was computed from is the row it hits, lease included, and
a task that is to wait for capacity holds no lease. -/
def chargesHolder {β : Type} : Stmt β → TaskRow → Bool
  | .waitForCapacity task _, r => decide (r.taskId = task → r.leaseId = none)
  | .chargeStale task read _, r | .chargeFailure task _ read _ _ _, r => decide (r.taskId = task →
      read.attemptCount + 1 = r.attemptCount + (if r.leaseId = none then 0 else 1) ∧ read.retryBudget = r.retryBudget)
  | _, _ => true

abbrev ChargesHolder : Taken Stmt Input Db → Prop := Finds chargesHolder

/-! ### One row, one move -/

/-- A worked-on task holds a lease and a waiting one does not. -/
def TaskRow.LeasedWhenDue (r : TaskRow) : Prop :=
  (r.state.working → r.leaseId ≠ none) ∧ (r.state.leaseable → r.leaseId = none)

/-- What a statement does to lease and attempts of one task. -/
inductive Charge (t : Taken Stmt Input Db) (r r' : TaskRow) : Prop
  | kept (lease : r'.leaseId = r.leaseId) (attempts : r'.attemptCount = r.attemptCount)
  | lost (open_ : t.stmt.completes = false) (held : r.leaseId ≠ none) (released : r'.leaseId = none)
      (attempts : r'.attemptCount = r.attemptCount + 1)
  | completed (done : t.stmt.completes = true) (released : r'.leaseId = none) (attempts : r'.attemptCount = r.attemptCount)
  | granted (grants : GrantsLease r.taskId t) (free : r.leaseId = none) (attempts : r'.attemptCount = r.attemptCount)

section

variable {host : Host} {trace : List (Taken Stmt Input Db)} {c : Config Err Stmt Db} {task : String}
  {t : Taken Stmt Input Db} {r r' : TaskRow}

theorem working_not_leaseable {s : TaskState} (working : s.working) : s.leaseable = false := by
  cases s <;> simp_all [TaskState.working, TaskState.leaseable]

theorem move_leasedWhenDue (holder : ChargesHolder t) (free : t.input.busy = false)
    (member : r ∈ t.before.tasks.rows) (move : Move t.stmt t.input t.before r r') (due : r.LeasedWhenDue) :
    r'.LeasedWhenDue := by
  obtain ⟨stmt, x, db⟩ := t
  have released {state : TaskState} (idle : state.working = false) :
      (state.working = true → (none : Option String) ≠ none) ∧ (state.leaseable → (none : Option String) = none) :=
    ⟨fun working => absurd working (by simp [idle]), fun _ => rfl⟩
  cases move with
  | claim => exact ⟨fun _ => by simp [TaskRow.claimed], nofun⟩
  | renew => exact due
  | start held =>
    exact ⟨fun _ => by simp [TaskRow.started, held.2.2.1], nofun⟩
  | reclaim => exact released (afterFailure_idle r)
  | chargeStale | chargeFailure => exact released (afterFailure_idle _)
  | completeTask => exact released rfl
  | waitForCapacity named => exact ⟨nofun, fun _ => of_decide_eq_true (holder free r member) named⟩
  | markWaiting named => exact ⟨nofun, fun _ => due.2 named.2⟩
  | submitMissing => exact ⟨nofun, nofun⟩
  | submitResult | finishApply | settleRecovery => exact ⟨nofun, nofun⟩

/-- A statement that moved the row did answer. -/
theorem claim_granted {worker : String} {seconds : PyFloat} {n : ℚ} {x : Input} {db : Db}
    (moved : (exec (.claim task worker seconds n) x db).1 ≠ db) :
    (exec (.claim task worker seconds n) x db).2.isOk := by
  unfold exec at moved ⊢
  split at moved
  · exact absurd rfl moved
  · simp only [perform] at moved ⊢
    cases answer : claimTask task worker seconds n x.uuid db with
    | error e => simp [answer, transaction] at moved
    | ok committed =>
      simp only [claimTask, require_bind_ok, found_bind_ok, pure_ok] at answer
      obtain ⟨_, _, _, _, _, _, _, _, _, _, rfl⟩ := answer
      simp [transaction, *]
      rfl

/-- Every row is leased when it should be. -/
def LeasesDue (db : Db) : Prop := ∀ r ∈ db.tasks.rows, r.LeasedWhenDue

theorem leases_due (run : Runs host trace c) (holder : ∀ t ∈ trace, ChargesHolder t) :
    ∀ db ∈ states trace c.state, LeasesDue db := by
  refine rows_invariant run (fun created => ?_) fun t member free r there r' move due => ?_
  · obtain ⟨idle, _, free⟩ := created_row created
    exact ⟨fun working => absurd working (by simp [idle]), fun _ => free⟩
  · exact move_leasedWhenDue (holder t member) free there move due

/-- What any statement does to the lease and the attempts of a task that exists. -/
theorem step_charge (holder : ChargesHolder t) (due : LeasesDue t.before) (found : t.before.tasks.find? task = some r)
    (found' : (connections.after t).tasks.find? task = some r') : Charge t r r' := by
  obtain ⟨member, rfl⟩ := Table.find?_some.mp found
  obtain ⟨r'', found'', moved⟩ := exec_find t.stmt t.input found
  obtain rfl : r'' = r' := Option.some.inj (found''.symm.trans found')
  rcases moved with rfl | ⟨free, move⟩
  · exact .kept rfl rfl
  have charged {read : TaskRow}
      (computed : read.attemptCount + 1 = r.attemptCount + (if r.leaseId = none then 0 else 1))
      (open_ : t.stmt.completes = false) (released : r''.leaseId = none)
      (attempts : r''.attemptCount = read.attemptCount + 1) : Charge t r r'' := by
    by_cases held : r.leaseId = none
    · exact .kept (released.trans held.symm) (by simp [attempts, computed, held])
    · exact .lost open_ held released (by simp [attempts, computed, held])
  obtain ⟨stmt, x, db⟩ := t
  cases move with
  | claim named _ open_ =>
    refine .granted ⟨congrArg some named.symm, claim_granted fun same => ?_⟩ ((due r member).2 open_.1) rfl
    have unmoved : (exec (.claim _ _ _ _) x db).1.tasks.find? r.taskId = _ := found'
    rw [same] at unmoved
    have state := congrArg TaskRow.state (Option.some.inj (found.symm.trans unmoved))
    rw [state] at open_
    exact absurd open_.1 nofun
  | reclaim named => exact .lost rfl ((due r member).1 named.2) rfl rfl
  | chargeStale named | chargeFailure named => exact charged (of_decide_eq_true (holder free r member) named).1 rfl rfl rfl
  | completeTask => exact .completed rfl rfl rfl
  | _ => exact .kept rfl rfl

/-- One if the task holds a lease that can still be lost. -/
def Db.heldLeases (db : Db) (task : String) : Nat := if db.lease? task = none then 0 else 1

/-- Attempts rise with each lost lease, and by nothing else. -/
theorem attempts_step (holder : ChargesHolder t) (due : LeasesDue t.before) :
    (connections.after t).attempts task = t.before.attempts task + if LosesLease task t then 1 else 0 := by
  cases found : t.before.tasks.find? task with
  | none =>
    have unheld : ¬ LosesLease task t := fun lost => lost.2.1 (by simp [Db.lease?, found])
    rw [if_neg unheld]
    cases found' : (connections.after t).tasks.find? task with
    | none => simp [Db.attempts, found, found']
    | some r' => simp [Db.attempts, found, found', (created_row (exec_find_new t.stmt t.input found found')).2.1]
  | some r =>
    obtain ⟨r', found', _⟩ := exec_find t.stmt t.input found
    have found' : (connections.after t).tasks.find? task = some r' := found'
    simp only [Db.attempts, LosesLease, Db.lease?, found, found', Option.map_some, Option.getD_some, Option.bind_some]
    cases step_charge holder due found found' with
    | kept lease attempts => simp [lease, attempts]
    | lost open_ held released attempts => simp [open_, held, released, attempts, Ne.symm held]
    | completed done _ attempts => simp [done, attempts]
    | granted _ free attempts => simp [free, attempts]

/-- Without a claim, what is charged was held. -/
theorem raised_le_held (holder : ChargesHolder t) (due : LeasesDue t.before) (unclaimed : ¬ GrantsLease task t) :
    raisedBy task t + (connections.after t).heldLeases task ≤ t.before.heldLeases task := by
  cases found : t.before.tasks.find? task with
  | none =>
    cases found' : (connections.after t).tasks.find? task with
    | none => simp [raisedBy, Db.heldLeases, Db.attempts, Db.lease?, found, found']
    | some r' =>
      obtain ⟨_, attempts, lease⟩ := created_row (exec_find_new t.stmt t.input found found')
      simp [raisedBy, Db.heldLeases, Db.attempts, Db.lease?, found, found', attempts, lease]
  | some r =>
    obtain ⟨r', found', _⟩ := exec_find t.stmt t.input found
    have found' : (connections.after t).tasks.find? task = some r' := found'
    simp only [raisedBy, Db.heldLeases, Db.attempts, Db.lease?, found, found', Option.map_some, Option.getD_some,
      Option.bind_some]
    cases step_charge holder due found found' with
    | kept lease attempts => simp [lease, attempts]
    | lost _ held released attempts => simp [held, released, attempts]
    | completed _ released attempts => simp [released, attempts]
    | granted grants => exact absurd ((Table.find?_some.mp found).2 ▸ grants) unclaimed

/-! ### Along a run -/

theorem attempts_eq_lost {db : Db} (linked : connections.Linked Db.empty trace db)
    (steps : ∀ t ∈ trace, ChargesHolder t ∧ LeasesDue t.before) : db.attempts task = lostLeases task trace := by
  induction trace generalizing db with
  | nil =>
    obtain rfl : db = Db.empty := linked
    rfl
  | cons t trace ih =>
    obtain ⟨rfl, linked⟩ := linked
    obtain ⟨⟨holder, due⟩, earlier⟩ := List.forall_mem_cons.mp steps
    rw [attempts_step holder due, ih linked earlier, lostLeases, lostLeases, List.countP_cons]
    simp

theorem raised_sum_le {start db : Db} (linked : connections.Linked start trace db)
    (steps : ∀ t ∈ trace, ChargesHolder t ∧ LeasesDue t.before) (unclaimed : ∀ t ∈ trace, ¬ GrantsLease task t) :
    (trace.map (raisedBy task)).sum + db.heldLeases task ≤ start.heldLeases task := by
  induction trace generalizing db with
  | nil =>
    obtain rfl : db = start := linked
    simp
  | cons t trace ih =>
    obtain ⟨rfl, linked⟩ := linked
    obtain ⟨⟨holder, due⟩, earlier⟩ := List.forall_mem_cons.mp steps
    obtain ⟨now, before⟩ := List.forall_mem_cons.mp unclaimed
    have step := raised_le_held holder due now
    have rest := ih linked earlier before
    rw [List.map_cons, List.sum_cons]
    omega

theorem heldLeases_le (db : Db) (task : String) : db.heldLeases task ≤ 1 := by
  unfold Db.heldLeases
  split <;> omega

/-- A reclaim that answers has charged the row it found. -/
theorem reclaim_answered {n : ℚ} {x : Input} {db : Db} (answered : (exec (.reclaim task n) x db).2.isOk) :
    ∃ r, db.tasks.find? task = some r ∧ (exec (.reclaim task n) x db).1.tasks.find? task = some (r.charged n r) := by
  have free : x.busy = false := by
    cases busy : x.busy with
    | true => simp [exec, busy, Except.isOk, Except.toBool] at answered
    | false => rfl
  rw [exec_free _ free, perform] at answered ⊢
  cases answer : reclaimTask task n db with
  | error e => simp [answer, transaction, Except.isOk, Except.toBool] at answered
  | ok committed =>
    simp only [reclaimTask, require_bind_ok, found_bind_ok, pure_ok] at answer
    obtain ⟨r, found, _, _, _, _, one, rfl⟩ := answer
    rw [Table.rowcount_key fun s lapsed => lapsed.1.1] at one
    have hit : r.named task TaskState.working ∧ r.Lapsed n := by
      by_contra missed
      rw [if_neg] at one
      · cases one
      · rintro ⟨s, found', hit⟩
        cases found.symm.trans found'
        exact missed hit
    refine ⟨r, found, ?_⟩
    calc (db.tasks.update (fun s => s.named task TaskState.working ∧ s.Lapsed n) (r.charged n) fun _ => rfl).find? task
      _ = (db.tasks.find? task).map _ := Table.find?_update rfl fun _ => rfl
      _ = some (r.charged n r) := by rw [found, Option.map_some, if_pos hit]

/-- What a charge leaves in its row was computed from the row read. -/
theorem charged_row (holder : ChargesHolder t) (charges : ChargesTask task t)
    (found : (connections.after t).tasks.find? task = some r) :
    r.state = .deadLetter ↔ r.attemptCount > r.retryBudget := by
  have decides (read : TaskRow) : afterFailure read = .deadLetter ↔ read.attemptCount + 1 > read.retryBudget := by
    unfold afterFailure
    split <;> simp_all
  have written {read : TaskRow} (f : TaskRow → TaskRow) {keeps : ∀ r, (f r).taskId = r.taskId} {id : String}
      {db : Db} (charge : ∀ r, (f r).state = afterFailure read ∧ (f r).attemptCount = read.attemptCount + 1 ∧
        (f r).retryBudget = r.retryBudget) (budget : ∀ r ∈ db.tasks.rows, r.taskId = id → read.retryBudget = r.retryBudget)
      (found : (db.updateTask id f keeps).tasks.find? id = some r) :
      r.state = .deadLetter ↔ r.attemptCount > r.retryBudget := by
    obtain ⟨s, before, rfl⟩ := Option.map_eq_some_iff.mp ((Table.find?_update rfl keeps).symm.trans found)
    obtain ⟨member, named⟩ := Table.find?_some.mp before
    obtain ⟨state, attempts, kept⟩ := charge s
    rw [if_pos named, state, attempts, kept, ← budget s member named]
    exact decides read
  obtain ⟨stmt, x, db⟩ := t
  cases stmt with
  | reclaim id n =>
    obtain ⟨rfl, answered⟩ := charges
    obtain ⟨r₀, _, after⟩ := reclaim_answered answered
    cases after.symm.trans found
    exact decides r₀
  | chargeStale id read n =>
    obtain ⟨rfl, free⟩ := charges
    rw [after_of_free free] at found
    exact written (read.chargedStale n) (fun _ => ⟨rfl, rfl, rfl⟩)
      (fun r member named => (of_decide_eq_true (holder free r member) named).2) found
  | chargeFailure id lease read reason code n =>
    obtain ⟨rfl, free⟩ := charges
    rw [after_of_free free] at found
    exact written (read.chargedFailure reason code n) (fun _ => ⟨rfl, rfl, rfl⟩)
      (fun r member named => (of_decide_eq_true (holder free r member) named).2) found
  | _ => exact charges.elim

/-- In every run whose charges are computed from the rows they are written to, one
retry is charged per lost lease. -/
theorem charged_per_lease (run : Runs host trace c) (holder : ∀ t ∈ trace, ChargesHolder t) (task : String) :
    ChargedPerLease task trace := by
  have due := leases_due run holder
  have steps : ∀ t ∈ trace, ChargesHolder t ∧ LeasesDue t.before := fun t member =>
    ⟨holder t member, due _ (Machine.Linked.before_mem member)⟩
  constructor
  · rintro later between earlier rfl unclaimed
    obtain ⟨start, _, rest⟩ := run.linked.append
    obtain ⟨stop, linked, _⟩ := rest.append
    have sum := raised_sum_le linked (fun t member => steps t (by simp [member])) unclaimed
    have := heldLeases_le start task
    omega
  · rintro later t earlier rfl charges r found
    obtain ⟨after, first, _⟩ := run.linked.append
    obtain ⟨same, earlier_linked⟩ := first
    have count : (connections.after t).attempts task = lostLeases task (t :: earlier) :=
      attempts_eq_lost ⟨rfl, earlier_linked⟩ fun u member => steps u (List.mem_append_right _ member)
    have attempts : (connections.after t).attempts task = r.attemptCount := by simp [Db.attempts, found]
    rw [← count, attempts]
    exact charged_row (steps t (by simp)).1 charges found

end

/-- A task with one retry loses two leases, and is dead after the second. -/
def deadAfterTwo : List (Taken Stmt Input Db) × Config Err Stmt Db :=
  let claim (n : ℚ) : Client Unit := .call (.claim "t" "w" (.fin 30) (.fin n))
  let fail (lease : String) : Client Unit := .call (.failAttempt "t" "w" lease "crashed" "WORKER_FAILURE" (.fin 2))
  script Sample.host [Sample.task "t" 1, Sample.worker "w", claim 0, claim 2, fail "first", fail "second"]
    (moves [5, 5, 4] ++ [(3, { uuid := "first" })] ++ moves [1, 1, 1] ++ [(2, { uuid := "second" })] ++ moves [0, 0, 0])

theorem charged_per_lease_deadAfterTwo :
    lostLeases "t" deadAfterTwo.1 = 2 ∧ ChargedPerLease "t" deadAfterTwo.1 :=
  ⟨by decide +kernel, charged_per_lease (runs_script Sample.host _ _) (by decide +kernel) "t"⟩

/-- Two supervisors select the same stale task; the second charges what the first
has already charged and released. -/
def chargedTwice : List (Taken Stmt Input Db) × Config Err Stmt Db :=
  let supervise : Client Unit := .call (.reconcileStaleWorkers (.fin 100))
  script Sample.host [Sample.task "t" 5, Sample.worker "w", .call (.claim "t" "w" (.fin 300) (.fin 0)),
      .call (.start "t" "w" "lease" (.fin 0)), supervise, supervise]
    (moves [5, 5, 4] ++ [(3, { uuid := "lease" })] ++ moves [2, 1, 0, 1, 1, 0, 0])

theorem not_charged_per_lease :
    ¬ ∀ (host : Host) (trace : List (Taken Stmt Input Db)) (c : Config Err Stmt Db), Runs host trace c →
      ∀ task, ChargedPerLease task trace := by
  intro law
  have once := (law Sample.host chargedTwice.1 chargedTwice.2 (runs_script ..) "t").once
    [] (chargedTwice.1.take 6) (chargedTwice.1.drop 6) (List.take_append_drop 6 _).symm (by decide +kernel)
  exact absurd once (by decide +kernel)

end ControlPlane.Autonomy
