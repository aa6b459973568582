import ControlPlane.Autonomy.Move
import ControlPlane.Autonomy.Senders

/-!
# Protocol rules for the store's procedures

How an assertion is carried through the lookups, checks and writes of an operation.
-/

namespace ControlPlane.Autonomy

open Data Interleaving Protocol

section

variable {α β : Type} {P : Protocol connections} {A : Db → Prop} {Q : α → Db → Prop} {e : Err}

theorem meetsE_now {now : PyFloat} : P.MeetsE A (Store.now now) fun _ => A := by
  unfold Store.now
  split
  · exact meetsE_pure fun _ _ h => h
  · exact meetsE_throw

theorem meetsE_check {c : Prop} [Decidable c] : P.MeetsE A (Store.check c e) fun _ db => c ∧ A db := by
  unfold Store.check
  split
  · exact meetsE_pure fun _ _ h => ⟨‹_›, h⟩
  · exact meetsE_throw

theorem meetsE_row {o : Option α} : P.MeetsE A (Store.row o e) fun a db => o = some a ∧ A db := by
  cases o with
  | none => exact meetsE_throw
  | some a => exact meetsE_pure fun _ _ h => ⟨rfl, h⟩

/-- One statement: a locked store needs nothing and answers nothing. -/
theorem meetsE_send {s : Stmt α} (stable : ∀ a, P.Stable (Q a)) (locked : ∀ x db, x.busy = true → P.Requires ⟨s, x, db⟩)
    (runs : ∀ x db, x.busy = false → P.Inv db → A db → P.Admissible ⟨s, x, db⟩ →
      P.Requires ⟨s, x, db⟩ ∧ ∀ a, (perform s x db).2 = .ok a → Q a (perform s x db).1) :
    P.MeetsE A (Procedure.ask s) Q := by
  refine meetsE_ask stable fun x db inv holds admissible => ?_
  show _ ∧ ∀ a, (exec s x db).2 = .ok a → Q a (exec s x db).1
  cases busy : x.busy with
  | true => exact ⟨locked x db busy, fun a answer => by simp [exec, busy] at answer⟩
  | false =>
    rw [exec_free s busy]
    exact runs x db busy inv holds admissible

/-- One statement that finds what it needs and leaves a stable assertion alone. -/
theorem meetsE_write {s : Stmt α} (stable : P.Stable A) (locked : ∀ x db, x.busy = true → P.Requires ⟨s, x, db⟩)
    (needs : ∀ x db, x.busy = false → P.Inv db → A db → P.Admissible ⟨s, x, db⟩ → P.Requires ⟨s, x, db⟩) :
    P.MeetsE A (Procedure.ask s) fun _ => A := by
  refine meetsE_ask (fun _ => stable) fun x db inv holds admissible => ?_
  have required : P.Requires ⟨s, x, db⟩ := by
    cases busy : x.busy with
    | true => exact locked x db busy
    | false => exact needs x db busy inv holds admissible
  exact ⟨required, fun _ _ => stable db _ inv (P.kept _ inv admissible required).2 holds⟩

/-- The lookup of a task, by its cleaned name. -/
theorem meetsE_task {id : String} {Q : TaskRow → Db → Prop} (free : P.Free (.selectTask (clean id))) (stable : ∀ r, P.Stable (Q r))
    (read : ∀ db r, P.Inv db → A db → db.tasks.find? (clean id) = some r → Q r db) : P.MeetsE A (Store.task id) Q := by
  let Found (o : Option TaskRow) (db : Db) : Prop := ∀ r, o = some r → Q r db
  have asked : P.MeetsE A (Procedure.ask (.selectTask (clean id))) Found := by
    refine meetsE_send (fun o db db' inv moved holds r same => ?_) (fun x db _ => free x db) fun x db _ inv holds _ => ?_
    · exact stable r db db' inv moved (holds r same)
    · refine ⟨free x db, fun o answer r found => ?_⟩
      cases answer
      exact read db r inv holds found
  refine asked.bind fun o => ?_
  exact meetsE_row.mono (fun _ _ h => h) fun r db _ ⟨same, found⟩ => found r same

/-- An operation whose statements need nothing of the protocol. -/
theorem meets_of_sends {w : Writer} {p : Store α} (sends : Sends w p)
    (free : ∀ {β : Type} (s : Stmt β), s.writer = .none ∨ s.writer = w → P.Free s) :
    P.Meets (fun _ => True) p.run Anything :=
  meets_free (sends.mono free)

/-- Statements that need nothing leave an assertion alone. -/
theorem meetsE_of_sends {w : Writer} {p : Store α} (sends : Sends w p) (stable : P.Stable A)
    (free : ∀ {β : Type} (s : Stmt β), s.writer = .none ∨ s.writer = w → P.Free s) : P.MeetsE A p fun _ => A :=
  meetsE_of_free stable (sends.mono free)

/-- Statements that need nothing, whatever came before. -/
theorem meetsE_of_sends_any {w : Writer} {p : Store α} (sends : Sends w p)
    (free : ∀ {β : Type} (s : Stmt β), s.writer = .none ∨ s.writer = w → P.Free s) : P.MeetsE A p Anything :=
  (meetsE_of_sends sends stable_true free).mono (fun _ _ _ => trivial) fun _ _ _ _ => trivial

/-- What is promised of a normal return can be forgotten. -/
theorem meets_of_meetsE {p : Store α} (meets : P.MeetsE (fun _ => True) p Q) : P.Meets (fun _ => True) p.run Anything :=
  Meets.mono meets (fun _ _ h => h) fun _ _ _ _ => trivial

end

end ControlPlane.Autonomy
