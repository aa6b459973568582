import ControlPlane.Autonomy.Move
import ControlPlane.Interleaving.Alone

/-!
# Calls of the store, left alone

What it takes for a step of a store procedure to return or to raise when no other
connection moves.
-/

namespace ControlPlane.Autonomy

open Data Interleaving

section

variable {α : Type} {db db' : Db} {e e' : Err} {n : ℚ} {now : PyFloat} {u : Unit}

@[simp] theorem returns_ask_stmt {s : Stmt α} {a : α} : connections.Returns (Procedure.ask s) db db' a ↔
    ∃ x, x.busy = false ∧ perform s x db = (db', .ok a) := by
  refine Machine.returns_ask.trans (exists_congr fun x => ?_)
  show exec s x db = _ ↔ _
  cases busy : x.busy <;> simp [exec, busy]

@[simp] theorem exists_free : ∃ x : Input, x.busy = false := ⟨{}, rfl⟩

theorem transaction_ok {body : Except Err (Committed α)} {a : α} :
    transaction db body = (db', .ok a) ↔ body = .ok (db', .ok a) := by
  cases body with
  | ok c => exact ⟨fun same => congrArg Except.ok same, Except.ok.inj⟩
  | error e => exact iff_of_false (fun same => nomatch (Prod.mk.inj same).2) nofun

@[simp] theorem returns_row {o : Option α} {a : α} :
    connections.Returns (Store.row o e) db db' a ↔ db' = db ∧ o = some a := by
  cases o with
  | none => exact iff_of_false Machine.returns_throw nofun
  | some b => exact Machine.returns_pure.trans (and_congr_right' ⟨fun same => same ▸ rfl, fun same => (Option.some.inj same).symm⟩)

@[simp] theorem returns_check {c : Prop} [Decidable c] : connections.Returns (Store.check c e) db db' u ↔ db' = db ∧ c := by
  unfold Store.check
  split
  · exact Machine.returns_pure.trans (and_congr_right' (iff_of_true rfl ‹_›))
  · exact iff_of_false Machine.returns_throw fun held => absurd held.2 ‹_›

@[simp] theorem returns_now : connections.Returns (Store.now now) db db' n ↔ db' = db ∧ now.clock? = some n := by
  unfold Store.now
  split
  · rename_i v read
    rw [read]
    exact Machine.returns_pure.trans (and_congr_right' ⟨fun same => same ▸ rfl, fun same => (Option.some.inj same).symm⟩)
  · rename_i unread
    exact iff_of_false Machine.returns_throw fun same => by simp [unread] at same

@[simp] theorem returns_task {id : String} {r : TaskRow} : connections.Returns (Store.task id) db db' r ↔
    db' = db ∧ db.tasks.find? (clean id) = some r := by
  simp only [Store.task, Machine.returns_bind, returns_ask_stmt, perform, returns_row]
  constructor
  · rintro ⟨_, found, ⟨_, _, same⟩, rfl, rfl⟩
    obtain ⟨rfl, row⟩ := Prod.mk.inj same
    exact ⟨rfl, Except.ok.inj row⟩
  · rintro ⟨rfl, found⟩
    exact ⟨_, _, ⟨{}, rfl, rfl⟩, rfl, found⟩

@[simp] theorem returns_startWithAck {task worker lease details : String} :
    connections.Returns (Store.startWithAck task worker lease details now) db db' u ↔ ∃ n, now.clock? = some n ∧
      startTask "cannot acknowledge" (startEvents (some details) worker) task worker lease n db = .ok (db', .ok ()) := by
  simp only [Store.startWithAck, Machine.returns_bind, returns_now, returns_ask_stmt, perform, Option.isSome_some, if_true,
    transaction_ok, and_assoc, exists_and_left, exists_eq_left, exists_and_right, exists_free, true_and]

@[simp] theorem returns_submitResult {task worker lease evidence sha : String} :
    connections.Returns (Store.submitResult task worker lease evidence sha now) db db' u ↔ ∃ n, now.clock? = some n ∧
      receiveResult task worker lease evidence sha n db = .ok (db', .ok ()) := by
  simp only [Store.submitResult, Machine.returns_bind, returns_now, returns_ask_stmt, perform,
    transaction_ok, and_assoc, exists_and_left, exists_eq_left, exists_and_right, exists_free, true_and]

/-! ### Calls that leave the database alone -/

theorem quiet_now : connections.Quiet (Store.now now) := by
  unfold Store.now
  split
  · exact Machine.quiet_pure
  · exact Machine.quiet_throw

theorem quiet_check {c : Prop} [Decidable c] : connections.Quiet (Store.check c e) := by
  unfold Store.check
  split
  · exact Machine.quiet_pure
  · exact Machine.quiet_throw

theorem quiet_row {o : Option α} : connections.Quiet (Store.row o e) := by
  cases o with
  | none => exact Machine.quiet_throw
  | some a => exact Machine.quiet_pure

theorem quiet_task {id : String} : connections.Quiet (Store.task id) := by
  refine .bind (Machine.quiet_ask fun x db => ?_) fun _ => quiet_row
  show (exec (.selectTask (clean id)) x db).1 = db
  unfold exec
  split <;> rfl

theorem transaction_error {body : Except Err (Committed α)} (always : ∀ c, body = .ok c → ∃ a, c.2 = .ok a)
    (refused : (transaction db body).2 = .error e) : (transaction db body).1 = db := by
  cases body with
  | error e => rfl
  | ok c =>
    obtain ⟨a, answer⟩ := always c rfl
    cases answer.symm.trans refused

/-- A start that is refused has changed nothing. -/
theorem raisesCleanly_startWithAck {task worker lease details : String} :
    connections.RaisesCleanly (Store.startWithAck task worker lease details now) := by
  refine .bind quiet_now fun n => Machine.raisesCleanly_ask fun x db e refused => ?_
  change (exec (.start (some details) task worker lease n) x db).2 = .error e at refused
  show (exec (.start (some details) task worker lease n) x db).1 = db
  cases busy : x.busy with
  | true => simp [exec, busy]
  | false =>
    rw [exec_free _ busy] at refused ⊢
    refine transaction_error (fun c committed => ?_) refused
    simp only [startTask, found_bind_ok, require_bind_ok, pure_ok] at committed
    obtain ⟨_, _, _, _, rfl⟩ := committed
    exact ⟨(), rfl⟩

theorem fin_of_clock? (read : now.clock? = some n) : now = .fin n := by
  cases now with
  | fin q =>
    simp only [PyFloat.clock?, Option.ite_none_right_eq_some] at read
    rw [Option.some.inj read.2]
  | _ => cases read

/-- A time that `now` returned is a time it accepts. -/
theorem clock?_fin (read : now.clock? = some n) : (PyFloat.fin n).clock? = some n := fin_of_clock? read ▸ read

end

end ControlPlane.Autonomy
