import ControlPlane.Interleaving.Surely

/-!
# A program that breaks down

Where a program that handles no exception can be when it is over: it has answered, or it broke
down at a statement. Either the process died before the statement, or the statement raised.
-/

namespace ControlPlane.Interleaving

variable {ε : Type} {F : Type → Type} {ι σ α β : Type}

/-- How it ended: at this statement, or with this answer. -/
abbrev Ending (F : Type → Type) (α : Type) := ((β : Type) × F β) ⊕ α

/-- From `s`, with nobody else moving, the program can end so in `s'`. -/
def Machine.Tries (m : Machine ε F ι σ) : Program ε F α → σ → σ → Ending F α → Prop
  | .pure a, s, s', o => s' = s ∧ o = .inr a
  | .call st k, s, s', o => (s' = s ∨ ∃ x e, m.exec st x s = (s', .error e)) ∧ o = .inl ⟨_, st⟩ ∨
      ∃ x s₁ b, m.exec st x s = (s₁, .ok b) ∧ m.Tries (k (.ok b)) s₁ s' o

namespace Machine

variable {m : Machine ε F ι σ} {s s' : σ}

variable {c : Procedure ε F α} {e : ε}

/-- A check: nothing can break down there. -/
theorem tries_check {x : Except ε α} {k : α → Procedure ε F β} {o : Ending F (Except ε β)} :
    m.Tries (Procedure.lift x >>= k).run s s' o ↔
      (∃ e, x = .error e ∧ s' = s ∧ o = .inr (.error e)) ∨ ∃ a, x = .ok a ∧ m.Tries (k a).run s s' o := by
  cases x with
  | ok a =>
    refine ⟨fun tried => .inr ⟨a, rfl, tried⟩, ?_⟩
    rintro (⟨_, impossible, _⟩ | ⟨_, same, tried⟩)
    · cases impossible
    · obtain rfl := Except.ok.inj same
      exact tried
  | error e =>
    refine ⟨fun tried => .inl ⟨e, rfl, tried⟩, ?_⟩
    rintro (⟨_, same, tried⟩ | ⟨_, impossible, _⟩)
    · obtain rfl := Except.error.inj same
      exact tried
    · cases impossible

/-- A statement: broken down there, or it was answered. -/
theorem tries_statement {st : F α} {k : α → Procedure ε F β} {o : Ending F (Except ε β)} :
    m.Tries (Procedure.ask st >>= k).run s s' o ↔ (s' = s ∨ ∃ x e, m.exec st x s = (s', .error e)) ∧ o = .inl ⟨_, st⟩ ∨
      ∃ x s₁ a, m.exec st x s = (s₁, .ok a) ∧ m.Tries (k a).run s₁ s' o := Iff.rfl

end Machine

end ControlPlane.Interleaving
