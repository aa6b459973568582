import ControlPlane.Autonomy.Move

/-!
# Lease fencing

A lease that a task has lost does not come back while lease ids are fresh. Four of
the five calls that present a lease look at it in the statement that writes;
`fail_attempt` looks at it one statement earlier.
-/

namespace ControlPlane.Autonomy

open Data Interleaving

/-- The lease id that a claim draws. -/
def Stmt.drawn {β : Type} : Stmt β → Input → Option String
  | .claim .., x => some x.uuid
  | _, _ => none

/-- No task has ever held a lease of that id. -/
def FreshClaim (earlier : List (Taken Stmt Input Db)) (t : Taken Stmt Input Db) : Prop :=
  ∀ lease ∈ t.stmt.drawn t.input, ∀ s ∈ states earlier t.before, ∀ r ∈ s.tasks.rows, r.leaseId ≠ some lease

instance (earlier : List (Taken Stmt Input Db)) (t : Taken Stmt Input Db) : Decidable (FreshClaim earlier t) :=
  inferInstanceAs (Decidable (∀ lease ∈ _, ∀ s ∈ _, ∀ r ∈ _, _))

/-- The task and the lease that a report names. -/
def Stmt.presented {β : Type} : Stmt β → Option (String × String)
  | .renew id _ l _ _ | .start _ id _ l _ | .submitResult id _ l _ _ _ | .chargeFailure id l _ _ _ _ => some (id, l)
  | _ => none

/-- Among these states, newest first, one holds the lease and a later one does not. -/
def LostLease (task lease : String) : List Db → Prop
  | [] => False
  | db :: older => db.lease? task ≠ some lease ∧ (∃ s ∈ older, s.lease? task = some lease) ∨ LostLease task lease older

instance LostLease.decidable (task lease : String) : DecidablePred (LostLease task lease)
  | [] => inferInstanceAs (Decidable False)
  | _ :: older => @instDecidableOr _ _ _ (LostLease.decidable task lease older)

/-- A call that presents a lost lease leaves every column of the task alone. -/
def Fences (earlier : List (Taken Stmt Input Db)) (t : Taken Stmt Input Db) : Prop :=
  ∀ p ∈ t.stmt.presented, LostLease p.1 p.2 (states earlier t.before) →
    (connections.after t).tasks.find? p.1 = t.before.tasks.find? p.1

instance (earlier : List (Taken Stmt Input Db)) (t : Taken Stmt Input Db) : Decidable (Fences earlier t) :=
  inferInstanceAs (Decidable (∀ p ∈ t.stmt.presented, _ → _))

/-- The task and the lease of a report that was checked one statement earlier. -/
def Stmt.reported {β : Type} : Stmt β → Option (String × String)
  | .chargeFailure id l _ _ _ _ => some (id, l)
  | _ => none

/-- A failure is written while the task still holds the lease that was reported on. -/
def ReportsHeld (earlier : List (Taken Stmt Input Db)) (t : Taken Stmt Input Db) : Prop :=
  ∀ p ∈ t.stmt.reported, t.input.busy = false → (∃ s ∈ states earlier t.before, s.lease? p.1 = some p.2) →
    t.before.lease? p.1 = some p.2

instance (earlier : List (Taken Stmt Input Db)) (t : Taken Stmt Input Db) : Decidable (ReportsHeld earlier t) :=
  inferInstanceAs (Decidable (∀ p ∈ _, _ → _ → _))

section

variable {host : Host} {trace earlier : List (Taken Stmt Input Db)} {c : Config Err Stmt Db}
  {t : Taken Stmt Input Db} {task lease : String} {r r' : TaskRow}

theorem lease?_eq_some {db : Db} : db.lease? task = some lease ↔ ∃ r ∈ db.tasks.rows, r.taskId = task ∧ r.leaseId = some lease := by
  simp only [Db.lease?, Option.bind_eq_some_iff, Table.find?_some, and_assoc]

/-- A task comes to hold a lease only through a claim that drew it. -/
theorem move_lease (move : Move t.stmt t.input t.before r r') (held : r'.leaseId = some lease)
    (before : r.leaseId ≠ some lease) (fresh : FreshClaim earlier t) :
    ∀ s ∈ states earlier t.before, ∀ r ∈ s.tasks.rows, r.leaseId ≠ some lease := by
  obtain ⟨stmt, x, db⟩ := t
  cases move with
  | claim =>
    cases held
    exact fresh _ rfl
  | renew | start | waitForCapacity | submitMissing | submitResult | markWaiting | finishApply | settleRecovery =>
    exact absurd held before
  | reclaim | chargeStale | chargeFailure | completeTask => cases held

theorem step_lease (fresh : FreshClaim earlier t) (known : ∃ s ∈ states earlier t.before, s.lease? task = some lease)
    (lost : t.before.lease? task ≠ some lease) : (connections.after t).lease? task ≠ some lease := by
  intro held
  obtain ⟨r', after, named, held⟩ := lease?_eq_some.mp held
  rcases (exec_tasks t.stmt t.input t.before).source after with ⟨r, member, moved⟩ | created
  · have unheld (same : r.taskId = r'.taskId) : r.leaseId ≠ some lease := fun holds =>
      lost (lease?_eq_some.mpr ⟨r, member, same.trans named, holds⟩)
    rcases moved with rfl | ⟨_, move⟩
    · exact unheld rfl held
    · obtain ⟨s, older, holding⟩ := known
      obtain ⟨q, there, _, holds⟩ := lease?_eq_some.mp holding
      exact move_lease move held (unheld move.key.symm) fresh s older q there holds
  · cases (created_row created).2.2.symm.trans held

theorem LostLease.known {history : List Db} (lost : LostLease task lease history) :
    ∃ s ∈ history, s.lease? task = some lease := by
  induction history with
  | nil => exact lost.elim
  | cons db older ih =>
    rcases lost with ⟨_, s, member, holds⟩ | lost
    · exact ⟨s, List.mem_cons_of_mem _ member, holds⟩
    · obtain ⟨s, member, holds⟩ := ih lost
      exact ⟨s, List.mem_cons_of_mem _ member, holds⟩

/-- While claims are fresh, a lost lease stays lost. -/
theorem lost_stays_lost {db : Db} (linked : connections.Linked Db.empty trace db) (fresh : EachStep FreshClaim trace)
    (lost : LostLease task lease (states trace db)) : db.lease? task ≠ some lease := by
  induction trace generalizing db with
  | nil => exact lost.elim (fun now => now.1) fun before => before.elim
  | cons t trace ih =>
    obtain ⟨rfl, linked⟩ := linked
    rcases lost with ⟨gone, _⟩ | lost
    · exact gone
    · exact step_lease fresh.1 lost.known (ih linked fresh.2 lost)

/-- What a call with a lost lease could do, it does to a task that holds the lease. -/
theorem move_of_presents (presents : t.stmt.presented = some (task, lease)) (reports : ReportsHeld earlier t)
    (free : t.input.busy = false) (known : ∃ s ∈ states earlier t.before, s.lease? task = some lease)
    (move : Move t.stmt t.input t.before r r') (member : r ∈ t.before.tasks.rows) (named : r.taskId = task) :
    t.before.lease? task = some lease := by
  have holds (held : r.leaseId = some lease) : t.before.lease? task = some lease :=
    lease?_eq_some.mpr ⟨r, member, named, held⟩
  obtain ⟨stmt, x, db⟩ := t
  cases move with
  | renew held | start held =>
    cases presents
    exact holds held.2.2.1
  | submitMissing _ held | submitResult _ held =>
    cases presents
    exact holds held.2.2
  | chargeFailure =>
    cases presents
    exact reports _ rfl free known
  | _ => cases presents

theorem fences_of_lost (presents : t.stmt.presented = some (task, lease)) (reports : ReportsHeld earlier t)
    (known : ∃ s ∈ states earlier t.before, s.lease? task = some lease) (lost : t.before.lease? task ≠ some lease) :
    (connections.after t).tasks.find? task = t.before.tasks.find? task := by
  cases found : t.before.tasks.find? task with
  | none =>
    obtain ⟨s, older, _⟩ := known
    cases found' : (connections.after t).tasks.find? task with
    | none => rfl
    | some r =>
      obtain ⟨stmt, x, db⟩ := t
      cases exec_find_new stmt x found found' <;> cases presents
  | some r =>
    obtain ⟨member, named⟩ := Table.find?_some.mp found
    obtain ⟨r', after, moved⟩ := exec_find t.stmt t.input found
    rcases moved with rfl | ⟨free, move⟩
    · exact after
    · exact absurd (move_of_presents presents reports free known move member named) lost

/-- In every run whose claims are fresh and whose failures are written while the
reported lease is held, no call that presents a lost lease changes its task. -/
theorem leases_fence (run : Runs host trace c) (fresh : EachStep FreshClaim trace)
    (reports : EachStep ReportsHeld trace) : EachStep Fences trace := by
  have linked := run.linked
  generalize c.state = db at linked
  clear run
  induction trace generalizing db with
  | nil => trivial
  | cons t trace ih =>
    obtain ⟨_, linked⟩ := linked
    refine ⟨fun p presents lost => ?_, ih fresh.2 reports.2 _ linked⟩
    exact fences_of_lost presents reports.1 lost.known (lost_stays_lost linked fresh.2 lost)

end

/-- A worker claims for ten seconds; its lease runs out, is reclaimed, and the task is
claimed again. The first worker then reports; `early` are the moves of its report
that come before the reclaim. -/
def secondLease (report : Client Unit) (early : List Nat) : List (Taken Stmt Input Db) × Config Err Stmt Db :=
  let claim (n : ℚ) : Client Unit := .call (.claim "t" "w" (.fin 10) (.fin n))
  script Sample.host [Sample.task "t" 5, Sample.worker "w", claim 0, claim 20, .call (.reclaimExpired "t" (.fin 20)), report]
    (moves [5, 5, 4] ++ [(3, { uuid := "one" })] ++ moves (early ++ [1]) ++ [(2, { uuid := "two" })] ++ moves [0])

/-- The report is a renewal of the first lease. -/
def renewedLate : List (Taken Stmt Input Db) × Config Err Stmt Db :=
  secondLease (.call (.renew "t" "w" "one" (.fin 30) (.fin 20))) []

theorem leases_fence_renewedLate :
    renewedLate.2.state.lease? "t" = some "two" ∧ EachStep Fences renewedLate.1 :=
  ⟨by decide +kernel, leases_fence (runs_script Sample.host _ _) (by decide +kernel) (by decide +kernel)⟩

/-- The report is a failure, and the task was read while it held the first lease. -/
def failedLate : List (Taken Stmt Input Db) × Config Err Stmt Db :=
  secondLease (.call (.failAttempt "t" "w" "one" "crashed" "WORKER_FAILURE" (.fin 5))) [0]

theorem leases_do_not_fence :
    ¬ ∀ (host : Host) (trace : List (Taken Stmt Input Db)) (c : Config Err Stmt Db), Runs host trace c →
      EachStep FreshClaim trace → EachStep Fences trace := by
  intro law
  have fences := law Sample.host failedLate.1 failedLate.2 (runs_script ..) (by decide +kernel)
  exact absurd fences (by decide +kernel)

end ControlPlane.Autonomy
