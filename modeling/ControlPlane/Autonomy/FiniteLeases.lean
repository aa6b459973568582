import ControlPlane.Autonomy.LocalCalls
import ControlPlane.Autonomy.Reconcile

/-!
# Leases that end

`claim` accepts a finite positive duration only; `renew` adds whatever it is given.
A lease ends exactly as long as every renewal that finds its lease is given such a
duration too.
-/

namespace ControlPlane.Autonomy

open Data Interleaving

/-- The calls that grant, hold and end leases. -/
inductive LeaseOp where
  | claim (task worker : String) (seconds now : PyFloat)
  | renew (task worker lease : String) (seconds now : PyFloat)
  | start (task worker lease : String) (now : PyFloat)
  | startWithAck (task worker lease details : String) (now : PyFloat)
  | reclaimExpired (task : String) (now : PyFloat)

namespace LeaseOp

def procedure : LeaseOp → Store Unit
  | .claim task worker seconds now => do
    let _ ← Store.claim task worker seconds now
  | .renew task worker lease seconds now => do
    let _ ← Store.renew task worker lease seconds now
  | .start task worker lease now => Store.start task worker lease now
  | .startWithAck task worker lease details now => Store.startWithAck task worker lease details now
  | .reclaimExpired task now => Store.reclaimExpired task now

def exec (op : LeaseOp) (x : Input) (db : Db) : Db × Answer Unit := connections.alone op.procedure.run [x] db

/-- The task and the instant of a call that grants or prolongs a lease. -/
def grants : LeaseOp → Option (String × PyFloat)
  | .claim task _ _ now | .renew task _ _ _ now => some (task, now)
  | _ => none

/-- One call after another; the label is the call and what its environment answers. -/
def Step (db : Db) (called : LeaseOp × Input) (db' : Db) : Prop := db' = (called.1.exec called.2 db).1

end LeaseOp

/-- The lease ends at a finite instant. -/
def TaskRow.Ends (r : TaskRow) : Prop := ∃ q, r.leaseExpiresAt = some (.fin q)

/-- A call that grants or prolongs a lease at `n` leaves one that ends later. -/
def GrantsFinite (t : Transition Db (LeaseOp × Input)) : Prop :=
  ∀ task now n, t.label.1.grants = some (task, now) → now.clock? = some n → (t.label.1.exec t.label.2 t.before).2 = .ok () →
    ∃ r, t.after.tasks.find? task = some r ∧ ∃ q, r.leaseExpiresAt = some (.fin q) ∧ n < q

/-- Every task at work can be reclaimed, however late it is. -/
def Reclaimable (db : Db) : Prop :=
  ∀ r ∈ db.tasks.rows, r.state.working → ∀ m : ℚ, ∃ n ≥ m, ∃ db',
    connections.Returns (Store.reclaimExpired r.taskId (.fin n)) db db' ()

/-- A finite positive number of seconds. -/
def FiniteDuration (seconds : PyFloat) : Prop := ∃ s : ℚ, seconds = .fin s ∧ 0 < s

/-- A renewal that finds its lease, in a store that is not locked, is given a finite
positive duration. -/
def RenewsFinitely (t : Transition Db (LeaseOp × Input)) : Prop :=
  match t.label with
  | (.renew task worker lease seconds now, x) => x.busy = false → ∀ n, now.clock? = some n →
    (∃ r ∈ t.before.tasks.rows, r.heldBy task worker lease TaskState.working n) → FiniteDuration seconds
  | _ => True

section

variable {op : LeaseOp} {x : Input} {db db' : Db} {n : ℚ} {seconds : PyFloat} {r : TaskRow} {past : List (Transition Db (LeaseOp × Input))} {t : Transition Db (LeaseOp × Input)}

theorem finiteDuration_iff : FiniteDuration seconds ↔ .negInf < seconds ∧ seconds < .posInf ∧ PyFloat.fin 0 < seconds := by
  constructor
  · intro finite
    obtain ⟨s, rfl, positive⟩ := finite
    exact ⟨rfl, rfl, PyFloat.fin_lt_fin.mpr positive⟩
  · intro checked
    obtain ⟨-, below, above⟩ := checked
    cases seconds with
    | fin s => exact ⟨s, rfl, PyFloat.fin_lt_fin.mp above⟩
    | nan => exact absurd below Bool.false_ne_true
    | negInf => exact absurd above Bool.false_ne_true
    | posInf => exact absurd below Bool.false_ne_true

/-- What is stored for `n + seconds` is finite and after `n` for such a duration only. -/
theorem stored_finite_iff : (∃ q, (PyFloat.fin n + seconds).stored = some (.fin q) ∧ n < q) ↔ FiniteDuration seconds := by
  constructor
  · intro after
    obtain ⟨q, stored, later⟩ := after
    cases seconds with
    | fin s =>
      obtain rfl : n + s = q := PyFloat.fin.inj (Option.some.inj stored)
      exact ⟨s, rfl, by linarith⟩
    | nan => cases stored
    | negInf => cases stored
    | posInf => cases stored
  · intro finite
    obtain ⟨s, rfl, positive⟩ := finite
    exact ⟨n + s, rfl, by linarith⟩

/-! ### What a call sends -/

/-- The statement that a call sends, once its arguments were checked. -/
inductive LeaseOp.Sends : LeaseOp → {α : Type} → Stmt α → Prop
  | claim {task worker seconds now n} (clock : now.clock? = some n) (finite : FiniteDuration seconds) :
      Sends (.claim task worker seconds now) (.claim task worker seconds n)
  | renew {task worker lease seconds now n} (clock : now.clock? = some n) :
      Sends (.renew task worker lease seconds now) (.renew task worker lease (.fin n + seconds) n)
  | start {task worker lease now n} (clock : now.clock? = some n) :
      Sends (.start task worker lease now) (.start none task worker lease n)
  | startWithAck {task worker lease details now n} (clock : now.clock? = some n) :
      Sends (.startWithAck task worker lease details now) (.start (some details) task worker lease n)
  | reclaimExpired {task now n} (clock : now.clock? = some n) : Sends (.reclaimExpired task now) (.reclaim task n)

/-- One statement of a procedure that is left alone, and what it answers. -/
theorem alone_ask {α : Type} (s : Stmt α) (x : Input) (db : Db) :
    connections.alone (do let _ ← Procedure.ask s : Store Unit).run [x] db =
      ((exec s x db).1, (exec s x db).2.map fun _ => ()) := by
  show (let (db', answer) := exec s x db
    connections.alone (Program.bind (.pure answer) _) [] db') = _
  cases exec s x db with
  | mk db' answer => cases answer <;> rfl

theorem alone_send (s : Stmt Unit) (x : Input) (db : Db) :
    connections.alone (Procedure.ask s : Store Unit).run [x] db = ((exec s x db).1, (exec s x db).2.map fun _ => ()) := by
  show (let (db', answer) := exec s x db
    connections.alone (.pure answer) [] db') = _
  cases exec s x db with
  | mk db' answer => cases answer <;> rfl

theorem exec_claim {task worker : String} {now : PyFloat} (clock : now.clock? = some n) :
    (LeaseOp.claim task worker seconds now).exec x db =
      if .negInf < seconds ∧ seconds < .posInf ∧ PyFloat.fin 0 < seconds then
        ((exec (.claim task worker seconds n) x db).1, (exec (.claim task worker seconds n) x db).2.map fun _ => ())
      else (db, .error (.blocked "invalid lease duration")) := by
  by_cases checked : .negInf < seconds ∧ seconds < .posInf ∧ PyFloat.fin 0 < seconds
  · rw [if_pos checked]
    simp only [LeaseOp.exec, LeaseOp.procedure, Store.claim, Store.now, clock, Store.check, if_pos checked]
    exact alone_ask _ x db
  · rw [if_neg checked]
    simp only [LeaseOp.exec, LeaseOp.procedure, Store.claim, Store.now, clock, Store.check, if_neg checked]
    rfl

theorem exec_renew {task worker lease : String} {now : PyFloat} (clock : now.clock? = some n) :
    (LeaseOp.renew task worker lease seconds now).exec x db =
      ((exec (.renew task worker lease (.fin n + seconds) n) x db).1,
        (exec (.renew task worker lease (.fin n + seconds) n) x db).2.map fun _ => ()) := by
  simp only [LeaseOp.exec, LeaseOp.procedure, Store.renew, Store.now, clock]
  exact alone_ask _ x db

/-- A call raises before it sends anything, or is answered as its statement is. -/
theorem exec_sends (op : LeaseOp) (x : Input) (db : Db) :
    (∃ e, op.exec x db = (db, .error e)) ∨ ∃ (α : Type) (s : Stmt α), op.Sends s ∧
      op.exec x db = ((exec s x db).1, (exec s x db).2.map fun _ => ()) := by
  cases op with
  | claim task worker seconds now =>
    cases clock : now.clock? with
    | none =>
      refine .inl ⟨.blocked "invalid clock", ?_⟩
      simp only [LeaseOp.exec, LeaseOp.procedure, Store.claim, Store.now, clock]
      rfl
    | some n =>
      by_cases checked : .negInf < seconds ∧ seconds < .posInf ∧ PyFloat.fin 0 < seconds
      · exact .inr ⟨_, _, .claim clock (finiteDuration_iff.mpr checked), (exec_claim clock).trans (if_pos checked)⟩
      · exact .inl ⟨_, (exec_claim clock).trans (if_neg checked)⟩
  | renew task worker lease seconds now =>
    cases clock : now.clock? with
    | none =>
      refine .inl ⟨.blocked "invalid clock", ?_⟩
      simp only [LeaseOp.exec, LeaseOp.procedure, Store.renew, Store.now, clock]
      rfl
    | some n => exact .inr ⟨_, _, .renew clock, exec_renew clock⟩
  | start task worker lease now =>
    cases clock : now.clock? with
    | none =>
      refine .inl ⟨.blocked "invalid clock", ?_⟩
      simp only [LeaseOp.exec, LeaseOp.procedure, Store.start, Store.now, clock]
      rfl
    | some n =>
      refine .inr ⟨_, _, .start clock, ?_⟩
      simp only [LeaseOp.exec, LeaseOp.procedure, Store.start, Store.now, clock]
      exact alone_send _ x db
  | startWithAck task worker lease details now =>
    cases clock : now.clock? with
    | none =>
      refine .inl ⟨.blocked "invalid clock", ?_⟩
      simp only [LeaseOp.exec, LeaseOp.procedure, Store.startWithAck, Store.now, clock]
      rfl
    | some n =>
      refine .inr ⟨_, _, .startWithAck clock, ?_⟩
      simp only [LeaseOp.exec, LeaseOp.procedure, Store.startWithAck, Store.now, clock]
      exact alone_send _ x db
  | reclaimExpired task now =>
    cases clock : now.clock? with
    | none =>
      refine .inl ⟨.blocked "invalid clock", ?_⟩
      simp only [LeaseOp.exec, LeaseOp.procedure, Store.reclaimExpired, Store.now, clock]
      rfl
    | some n =>
      refine .inr ⟨_, _, .reclaimExpired clock, ?_⟩
      simp only [LeaseOp.exec, LeaseOp.procedure, Store.reclaimExpired, Store.now, clock]
      exact alone_send _ x db

/-! ### What a call leaves -/

/-- Every task at work holds a lease that ends. -/
def FinitelyLeased (db : Db) : Prop := ∀ r ∈ db.tasks.rows, r.state.working → r.Ends

theorem claim_answered {task worker : String} {a : Lease} (answered : (exec (.claim task worker seconds n) x db).2 = .ok a) :
    ∃ r, (exec (.claim task worker seconds n) x db).1.tasks.find? task = some r ∧
      r.leaseExpiresAt = (PyFloat.fin n + seconds).stored := by
  cases busy : x.busy with
  | true =>
    rw [exec, if_pos busy] at answered
    cases answered
  | false =>
    rw [exec_free _ busy] at answered ⊢
    simp only [perform] at answered ⊢
    cases claimed : claimTask task worker seconds n x.uuid db with
    | error e =>
      rw [claimed] at answered
      cases answered
    | ok c =>
      simp only [claimTask, require_bind_ok, found_bind_ok, pure_ok] at claimed
      obtain ⟨t, found, w, -, open_, -, -, -, -, -, rfl⟩ := claimed
      have named : t.named task TaskState.leaseable := ⟨(Table.find?_some.mp found).2, open_.1⟩
      refine ⟨t.claimed worker x.uuid (.fin n + seconds) w.lastHeartbeat n, ?_, rfl⟩
      refine (@Table.find?_update _ _ _ db.tasks (TaskRow.named task TaskState.leaseable) _
        (TaskRow.claimed worker x.uuid (.fin n + seconds) w.lastHeartbeat n) _ _ _ rfl fun _ => rfl).trans ?_
      rw [found, Option.map_some, if_pos named]

/-- A renewal is answered where it finds its lease, in a store that is not locked. -/
theorem renew_answered {task worker lease : String} {expires : PyFloat} :
    (∃ a, (exec (.renew task worker lease expires n) x db).2 = .ok a) ↔
      x.busy = false ∧ ∃ r ∈ db.tasks.rows, r.heldBy task worker lease TaskState.working n := by
  cases busy : x.busy with
  | true =>
    rw [exec, if_pos busy]
    constructor
    · rintro ⟨_, impossible⟩
      cases impossible
    · intro free
      cases free.1
  | false =>
    rw [exec_free _ busy]
    have counted : db.tasks.rowcount (TaskRow.heldBy task worker lease TaskState.working n) = 1 ↔
        ∃ r ∈ db.tasks.rows, r.heldBy task worker lease TaskState.working n := by
      rw [Table.rowcount_key fun r held => held.1]
      constructor
      · intro one
        by_contra none_
        refine absurd one ?_
        rw [if_neg]
        · decide
        · rintro ⟨r, found, held⟩
          exact none_ ⟨r, (Table.find?_some.mp found).1, held⟩
      · rintro ⟨r, member, held⟩
        exact if_pos ⟨r, Table.find?_some.mpr ⟨member, held.1⟩, held⟩
    simp only [perform, renewLease, true_and]
    rw [← counted]
    by_cases one : db.tasks.rowcount (TaskRow.heldBy task worker lease TaskState.working n) = 1
    · rw [require, if_pos one]
      exact iff_of_true ⟨expires, rfl⟩ one
    · rw [require, if_neg one]
      refine iff_of_false ?_ one
      rintro ⟨_, impossible⟩
      cases impossible

theorem renew_expiry {task worker lease : String} {expires : PyFloat} (free : x.busy = false) (member : r ∈ db.tasks.rows)
    (held : r.heldBy task worker lease TaskState.working n) :
    (exec (.renew task worker lease expires n) x db).1.tasks.find? task = some (r.renewed expires n) := by
  have one : db.tasks.rowcount (TaskRow.heldBy task worker lease TaskState.working n) = 1 := by
    rw [Table.rowcount_key fun r held => held.1]
    exact if_pos ⟨r, Table.find?_some.mpr ⟨member, held.1⟩, held⟩
  rw [exec_free _ free]
  simp only [perform, renewLease]
  rw [require, if_pos one]
  refine (@Table.find?_update _ _ _ db.tasks (TaskRow.heldBy task worker lease TaskState.working n) _ (TaskRow.renewed expires n)
    _ _ _ rfl fun _ => rfl).trans ?_
  rw [Table.find?_some.mpr ⟨member, held.1⟩, Option.map_some, if_pos held]

/-- What a statement that sets an expiry is given. -/
def Stmt.Ends {α : Type} (x : Input) (db : Db) : Stmt α → Prop
  | .claim _ _ seconds _ => FiniteDuration seconds
  | .renew task worker lease expires n => x.busy = false →
    (∃ r ∈ db.tasks.rows, r.heldBy task worker lease TaskState.working n) → ∃ q, expires = .fin q
  | _ => True

theorem LeaseOp.Sends.ends {α : Type} {s : Stmt α} (sent : op.Sends s) (finite : RenewsFinitely ⟨db, (op, x), db'⟩) :
    s.Ends x db := by
  cases sent with
  | claim clock duration => exact duration
  | renew clock =>
    intro free held
    obtain ⟨seconds, rfl, -⟩ := finite free _ clock held
    exact ⟨_, rfl⟩
  | _ => trivial

/-- A task that a statement leaves at work ends its lease. -/
theorem Move.ends {α : Type} {s : Stmt α} {r' : TaskRow} (move : Move s x db r r') (free : x.busy = false)
    (member : r ∈ db.tasks.rows) (finite : s.Ends x db) (before : r.state.working → r.Ends)
    (working : r'.state.working) : r'.Ends := by
  cases move with
  | claim =>
    obtain ⟨q, stored, -⟩ := stored_finite_iff.mpr finite
    exact ⟨q, stored⟩
  | renew held =>
    obtain ⟨q, rfl⟩ := finite free ⟨r, member, held⟩
    exact ⟨q, rfl⟩
  | start held =>
    refine before ?_
    rw [of_decide_eq_true held.2.2.2.1]
    rfl
  | reclaim => exact absurd working (Bool.eq_false_iff.mp (afterFailure_idle r))
  | @chargeStale _ read | @chargeFailure _ _ read => exact absurd working (Bool.eq_false_iff.mp (afterFailure_idle read))
  | _ => exact absurd working Bool.false_ne_true

theorem exec_finitelyLeased (before : FinitelyLeased db) (finite : RenewsFinitely ⟨db, (op, x), db'⟩) :
    FinitelyLeased (op.exec x db).1 := by
  rcases exec_sends op x db with ⟨e, refused⟩ | ⟨α, s, sent, done⟩
  · rw [refused]
    exact before
  · rw [done]
    refine (exec_tasks s x db).all before (fun r member r' moved kept => ?_) fun r created => ?_
    · exact moved.2.ends moved.1 member (sent.ends finite) kept
    · exact fun working => absurd working (Bool.eq_false_iff.mp (created_row created).1)

/-- A call is answered as its statement is. -/
theorem answered_iff {α : Type} {s : Stmt α} (done : op.exec x db = ((exec s x db).1, (exec s x db).2.map fun _ => ())) :
    (op.exec x db).2 = .ok () ↔ ∃ a, (exec s x db).2 = .ok a := by
  rw [done]
  cases (exec s x db).2 with
  | ok a => exact iff_of_true rfl ⟨a, rfl⟩
  | error e =>
    constructor
    · intro impossible
      cases impossible
    · rintro ⟨_, impossible⟩
      cases impossible

/-- A lease that ends can be reclaimed from then on. -/
theorem reclaimable (finite : FinitelyLeased db) : Reclaimable db := by
  intro r member working m
  obtain ⟨q, expires⟩ := finite r member working
  have clock : (PyFloat.fin (max (max m q) 0)).clock? = some (max (max m q) 0) := if_pos (le_max_right _ _)
  have lapsed : r.Lapsed (max (max m q) 0) :=
    ⟨.fin q, expires, PyFloat.fin_le_fin.mpr (le_trans (le_max_right m q) (le_max_left _ _))⟩
  obtain ⟨db', reclaimed⟩ := reclaim_ok member ⟨rfl, working⟩ lapsed
  refine ⟨max (max m q) 0, le_trans (le_max_left m q) (le_max_left _ _), db', (ends_reclaimExpired clock).mpr ⟨{}, ?_⟩⟩
  show transaction db (reclaimTask r.taskId _ db) = _
  rw [reclaimed]
  rfl

theorem grantsFinite (step : LeaseOp.Step t.before t.label t.after) (finite : RenewsFinitely t) : GrantsFinite t := by
  obtain ⟨before, ⟨op, x⟩, after⟩ := t
  obtain rfl : after = (op.exec x before).1 := step
  intro task now n grants clock answered
  dsimp only at grants answered ⊢
  cases op with
  | claim id worker seconds now' =>
    cases grants
    by_cases checked : .negInf < seconds ∧ seconds < .posInf ∧ PyFloat.fin 0 < seconds
    · have done : (LeaseOp.claim task worker seconds now).exec x before = _ := (exec_claim clock).trans (if_pos checked)
      obtain ⟨a, claimed⟩ := (answered_iff done).mp answered
      obtain ⟨r, found, expires⟩ := claim_answered claimed
      rw [done]
      refine ⟨r, found, ?_⟩
      rw [expires]
      exact stored_finite_iff.mpr (finiteDuration_iff.mpr checked)
    · rw [(exec_claim clock).trans (if_neg checked)] at answered
      cases answered
  | renew id worker lease seconds now' =>
    cases grants
    have done : (LeaseOp.renew task worker lease seconds now).exec x before = _ := exec_renew clock
    obtain ⟨free, r, member, held⟩ := renew_answered.mp ((answered_iff done).mp answered)
    rw [done]
    refine ⟨_, renew_expiry free member held, ?_⟩
    exact stored_finite_iff.mpr (finite free n clock ⟨r, member, held⟩)
  | start | startWithAck | reclaimExpired => cases grants

/-- A renewal that finds its lease and leaves one that ends was given a finite positive duration. -/
theorem renewsFinitely (step : LeaseOp.Step t.before t.label t.after) (granted : GrantsFinite t) : RenewsFinitely t := by
  obtain ⟨before, ⟨op, x⟩, after⟩ := t
  obtain rfl : after = (op.exec x before).1 := step
  cases op with
  | renew task worker lease seconds now =>
    intro free n clock held
    have done : (LeaseOp.renew task worker lease seconds now).exec x before = _ := exec_renew clock
    have answered : ((LeaseOp.renew task worker lease seconds now).exec x before).2 = .ok () :=
      (answered_iff done).mpr (renew_answered.mpr ⟨free, held⟩)
    obtain ⟨r, found, q, expires, later⟩ := granted task now n rfl clock answered
    obtain ⟨old, there, holds⟩ := held
    rw [done] at found
    obtain rfl := Option.some.inj ((renew_expiry free there holds).symm.trans found)
    exact stored_finite_iff.mp ⟨q, expires, later⟩
  | _ => trivial

/-- Over every sequence of calls: every lease that is granted or prolonged ends, and every task at work
can be reclaimed, if and only if every renewal that finds its lease is given a finite positive duration. -/
theorem leases_finite_iff {init : Db} (history : History LeaseOp.Step init past db) (start : FinitelyLeased init) :
    (∀ t ∈ past, GrantsFinite t ∧ Reclaimable t.after) ↔ ∀ t ∈ past, RenewsFinitely t := by
  constructor
  · exact fun law t member => renewsFinitely (history.moved t member) (law t member).1
  · intro finite
    have leased : ∀ t ∈ past, FinitelyLeased t.before → FinitelyLeased t.after := by
      intro t member before
      have step := history.moved t member
      have bounded := finite t member
      obtain ⟨db, ⟨op, x⟩, after⟩ := t
      obtain rfl : after = (op.exec x db).1 := step
      exact exec_finitelyLeased before bounded
    intro t member
    refine ⟨?_, reclaimable ((history.invariant start leased).2 t member).2⟩
    exact grantsFinite (history.moved t member) (finite t member)

end

/-- A store with one task and one worker, where leases are claimed, renewed and started. -/
def leasedOnce (seconds : PyFloat) : List (LeaseOp × Input) := [
  (.claim "t" "w" (.fin 10) (.fin 0), { uuid := "lease" }),
  (.renew "t" "w" "lease" seconds (.fin 1), {}),
  (.start "t" "w" "lease" (.fin 2), {})]

def ready : Db := (script Sample.host [Sample.task "t", Sample.worker "w"] (moves [1, 1, 0])).2.state

def nextLease (db : Db) (called : LeaseOp × Input) : (LeaseOp × Input) × Db := (called, (called.1.exec called.2 db).1)

/-- The three calls, from the store with its task and its worker. -/
def leasedPast (seconds : PyFloat) : List (Transition Db (LeaseOp × Input)) :=
  (History.replay nextLease ready (leasedOnce seconds)).1

theorem leasedPast_history (seconds : PyFloat) :
    History LeaseOp.Step ready (leasedPast seconds) (History.replay nextLease ready (leasedOnce seconds)).2 :=
  History.history_replay _ (fun _ _ => rfl) _ _

theorem ready_leased : FinitelyLeased ready := by
  have idle : ∀ r ∈ ready.tasks.rows, r.state.working = false := by decide
  exact fun r member working => absurd working (Bool.eq_false_iff.mp (idle r member))

theorem leases_finite_renewed : ∃ past db, History LeaseOp.Step ready past db ∧ past.length = 3 ∧
    ∀ t ∈ past, GrantsFinite t ∧ Reclaimable t.after := by
  refine ⟨leasedPast (.fin 20), _, leasedPast_history (.fin 20), rfl, ?_⟩
  refine (leases_finite_iff (leasedPast_history (.fin 20)) ready_leased).mpr fun t member => ?_
  have called : t.label ∈ (leasedPast (.fin 20)).map (·.label) := List.mem_map_of_mem member
  obtain ⟨before, label, after⟩ := t
  have labels : (leasedPast (.fin 20)).map (·.label) = (leasedOnce (.fin 20)).reverse := rfl
  rw [labels] at called
  simp only [leasedOnce, List.reverse_cons, List.reverse_nil, List.nil_append, List.cons_append, List.mem_cons,
    List.not_mem_nil, or_false] at called
  rcases called with rfl | rfl | rfl
  · trivial
  · exact fun _ _ _ _ => ⟨20, rfl, by norm_num⟩
  · trivial

/-- A renewal for an infinite time is accepted, and the lease never ends. -/
theorem lease_never_ends : ¬ ∀ (init db : Db) (past : List (Transition Db (LeaseOp × Input))),
    History LeaseOp.Step init past db → FinitelyLeased init → ∀ t ∈ past, GrantsFinite t ∧ Reclaimable t.after := by
  intro law
  have renewed := List.getElem_mem (l := leasedPast .posInf) (n := 1) (by decide)
  have granted := (law _ _ _ (leasedPast_history .posInf) ready_leased _ renewed).1
  have finite := renewsFinitely ((leasedPast_history .posInf).moved _ renewed) granted rfl 1 rfl (by decide +kernel)
  obtain ⟨s, infinite, -⟩ := finite
  cases infinite

end ControlPlane.Autonomy
