import ControlPlane.Autonomy.Move

/-!
# How a task came to run

A task in RUNNING was claimed by the worker it is assigned to, which then started it under the
same lease; nothing else happened to it in between or since.
-/

namespace ControlPlane.Interleaving.Machine.Linked

variable {ε : Type} {F : Type → Type} {ι σ : Type} {m : Machine ε F ι σ} {init s : σ} {trace : List (Taken F ι σ)}

/-- What holds now and did not hold at first began with one statement, and has held since. -/
theorem since (Q : σ → Prop) (linked : m.Linked init trace s) (initially : ¬ Q init) (now : Q s) :
    ∃ later t earlier, trace = later ++ t :: earlier ∧ m.Linked init earlier t.before ∧ ¬ Q t.before ∧ Q (m.after t) ∧
      ∀ u ∈ states later s, Q u := by
  induction trace generalizing s with
  | nil =>
    obtain rfl : s = init := linked
    exact absurd now initially
  | cons t trace ih =>
    obtain ⟨rfl, linked⟩ := linked
    by_cases before : Q t.before
    · obtain ⟨later, u, earlier, rfl, linked, entered, after, held⟩ := ih linked before
      refine ⟨t :: later, u, earlier, rfl, linked, entered, after, ?_⟩
      rintro v (_ | ⟨_, older⟩)
      · exact now
      · exact held v older
    · exact ⟨[], t, trace, rfl, linked, before, now, by simpa using now⟩

end ControlPlane.Interleaving.Machine.Linked

namespace ControlPlane.Autonomy

open Data Interleaving

/-- The task is in this state, under this lease of this worker. -/
def Db.Holds (db : Db) (state : TaskState) (task worker lease : String) : Prop :=
  ∃ r ∈ db.tasks.rows, r.taskId = task ∧ r.state = state ∧ r.assignedWorkerId = some worker ∧ r.leaseId = some lease

/-- A claim that grants this lease, and what it has found. -/
inductive ClaimsUnder (task worker lease : String) : Taken Stmt Input Db → Prop
  | mk {seconds n x db r w} (free : x.busy = false) (uuid : x.uuid = lease) (found : db.tasks.find? task = some r)
      (owner : db.workers.find? worker = some w) (due : r.state.leaseable)
      (allowed : r.requiresHumanApproval = 0 ∧ r.governanceAllowed ≠ 0) (fresh : ¬ w.Stale n)
      (able : r.capability ∈ w.capabilities ∧ r.targetProject ∈ w.targets) (room : (db.activeLeases worker n : Int) < w.capacity) :
      ClaimsUnder task worker lease ⟨.claim task worker seconds n, x, db⟩

/-- A start under this lease, and what it has found. -/
inductive StartsUnder (task worker lease : String) : Taken Stmt Input Db → Prop
  | mk {ack n x db r w} (free : x.busy = false) (member : r ∈ db.tasks.rows) (held : r.heldBy task worker lease (· = .leased) n)
      (owner : db.workers.find? worker = some w) (fresh : ¬ w.Stale n) :
      StartsUnder task worker lease ⟨.start ack task worker lease n, x, db⟩

section

variable {host : Host} {trace : List (Taken Stmt Input Db)} {c : Config Err Stmt Db} {t : Taken Stmt Input Db}
  {task worker lease : String}

/-- A statement that changes what is held commits its block. -/
theorem committed {β : Type} {s : Stmt β} {x : Input} {db : Db} {body : Except Err (Committed β)} {state : TaskState}
    (block : perform s x db = transaction db body) (outside : ¬ db.Holds state task worker lease)
    (inside : (exec s x db).1.Holds state task worker lease) :
    x.busy = false ∧ ∃ c, body = .ok c := by
  unfold exec at inside
  split at inside
  · exact absurd inside outside
  · rename_i free
    rw [block] at inside
    rcases transaction_cases db body with same | ⟨c, done, _⟩
    · exact absurd (same ▸ inside) outside
    · exact ⟨by simpa using free, c, done⟩

/-- RUNNING is entered by a start, from LEASED under the same lease. -/
theorem enters_running (outside : ¬ t.before.Holds .running task worker lease)
    (inside : (connections.after t).Holds .running task worker lease) :
    StartsUnder task worker lease t ∧ t.before.Holds .leased task worker lease := by
  obtain ⟨stmt, x, db⟩ := t
  obtain ⟨r', member, named, running, assigned, leased⟩ := id inside
  rcases (exec_tasks stmt x db).source member with ⟨r, there, rfl | ⟨_, move⟩⟩ | created
  · exact absurd ⟨_, there, named, running, assigned, leased⟩ outside
  · cases move with
    | start held =>
      obtain ⟨free, c, done⟩ := committed rfl outside inside
      simp only [startTask, found_bind_ok, require_bind_ok] at done
      obtain ⟨w, owner, fresh, _⟩ := done
      obtain ⟨rfl, holder, under, due, _⟩ := id held
      obtain rfl : _ = worker := Option.some.inj (holder.symm.trans assigned)
      obtain rfl : _ = lease := Option.some.inj (under.symm.trans leased)
      obtain rfl : _ = task := named
      exact ⟨.mk free there held owner fresh, r, there, rfl, of_decide_eq_true due, holder, under⟩
    | renew => exact absurd ⟨r, there, named, running, assigned, leased⟩ outside
    | reclaim | chargeStale | chargeFailure =>
      have idle : (TaskState.running).working = false := running ▸ afterFailure_idle _
      cases idle
    | _ => cases running
  · have idle := (created_row created).1
    rw [running] at idle
    cases idle

/-- LEASED is entered by a claim. -/
theorem enters_leased (outside : ¬ t.before.Holds .leased task worker lease)
    (inside : (connections.after t).Holds .leased task worker lease) : ClaimsUnder task worker lease t := by
  obtain ⟨stmt, x, db⟩ := t
  obtain ⟨r', member, named, state, assigned, leased⟩ := id inside
  rcases (exec_tasks stmt x db).source member with ⟨r, there, rfl | ⟨_, move⟩⟩ | created
  · exact absurd ⟨_, there, named, state, assigned, leased⟩ outside
  · cases move with
    | claim own =>
      obtain ⟨free, c, done⟩ := committed rfl outside inside
      simp only [claimTask, found_bind_ok, require_bind_ok] at done
      obtain ⟨r, found, w, owner, ⟨due, allowed⟩, fresh, able, room, _⟩ := done
      obtain rfl : _ = worker := Option.some.inj assigned
      obtain rfl : _ = lease := Option.some.inj leased
      obtain rfl : _ = task := own.symm.trans named
      exact .mk free rfl found owner due allowed fresh able room
    | renew => exact absurd ⟨r, there, named, state, assigned, leased⟩ outside
    | reclaim | chargeStale | chargeFailure =>
      have idle : (TaskState.leased).working = false := state ▸ afterFailure_idle _
      cases idle
    | _ => cases state
  · have idle := (created_row created).1
    rw [state] at idle
    cases idle

/-- A task in LEASED or RUNNING is held under a lease. -/
theorem working_held (run : Runs host trace c) : ∀ db ∈ states trace c.state, ∀ r ∈ db.tasks.rows,
    r.state.working → ∃ worker lease, r.assignedWorkerId = some worker ∧ r.leaseId = some lease := by
  refine rows_invariant run (fun created working => ?_) fun t _ _ r _ r' move before working => ?_
  · rw [(created_row created).1] at working
    cases working
  · obtain ⟨stmt, x, db⟩ := t
    cases move with
    | claim => exact ⟨_, _, rfl, rfl⟩
    | renew => exact before working
    | start held => exact ⟨_, _, held.2.1, held.2.2.1⟩
    | reclaim | chargeStale | chargeFailure =>
      cases working.symm.trans (afterFailure_idle _)
    | _ => cases working

/-- Over every run: a running task was claimed by its worker, started by it under the lease it
holds, and has held this lease from the claim on. -/
theorem running_earned (run : Runs host trace c) {r : TaskRow} (member : r ∈ c.state.tasks.rows) (running : r.state = .running) :
    ∃ worker lease later start between claim earlier, trace = later ++ start :: (between ++ claim :: earlier) ∧
      r.assignedWorkerId = some worker ∧ r.leaseId = some lease ∧
      ClaimsUnder r.taskId worker lease claim ∧ (∀ db ∈ states between start.before, db.Holds .leased r.taskId worker lease) ∧
      StartsUnder r.taskId worker lease start ∧ ∀ db ∈ states later c.state, db.Holds .running r.taskId worker lease := by
  obtain ⟨worker, lease, assigned, leased⟩ := working_held run _ List.mem_cons_self r member (by rw [running]; decide)
  have nobody (state : TaskState) : ¬ Db.empty.Holds state r.taskId worker lease := by
    rintro ⟨_, none, _⟩
    cases none
  obtain ⟨later, start, past, rfl, linked, outside, inside, held⟩ :=
    run.linked.since (fun db => db.Holds .running r.taskId worker lease) (nobody .running) ⟨r, member, rfl, running, assigned, leased⟩
  obtain ⟨starts, before⟩ := enters_running outside inside
  obtain ⟨between, claim, earlier, rfl, _, free, granted, kept⟩ := linked.since (fun db => db.Holds .leased r.taskId worker lease) (nobody .leased) before
  exact ⟨worker, lease, later, start, between, claim, earlier, rfl, assigned, leased, enters_leased free granted, kept, starts, held⟩

end

/-- One worker claims a task and starts it. -/
def startedOnce : List (Taken Stmt Input Db) × Config Err Stmt Db :=
  script Sample.host [Sample.task "t", Sample.worker "w", .call (.claim "t" "w" (.fin 30) (.fin 0)),
      .call (.start "t" "w" "lease" (.fin 1))]
    (moves [3, 3, 2] ++ [(1, { uuid := "lease" })] ++ moves [0])

theorem running_earned_startedOnce : ∃ task worker lease later start between claim earlier,
    startedOnce.1 = later ++ start :: (between ++ claim :: earlier) ∧ ClaimsUnder task worker lease claim ∧
      StartsUnder task worker lease start := by
  have runs : ∃ r ∈ startedOnce.2.state.tasks.rows, r.state = .running := by decide +kernel
  obtain ⟨r, member, running⟩ := runs
  obtain ⟨worker, lease, later, start, between, claim, earlier, split, _, _, claims, _, starts, _⟩ :=
    running_earned (runs_script Sample.host _ _) member running
  exact ⟨r.taskId, worker, lease, later, start, between, claim, earlier, split, claims, starts⟩

end ControlPlane.Autonomy
