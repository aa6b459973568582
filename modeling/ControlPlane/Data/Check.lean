/-!
# Checks that raise

`require` is `if not c: raise e`; `found` is the same for a row that may be missing.
The `_ok` lemmas read a normal return back to the checks that were passed.
-/

namespace ControlPlane.Data

variable {ε α β : Type}

def require (c : Prop) [Decidable c] (e : ε) : Except ε Unit := if c then .ok () else .error e

def found (o : Option α) (e : ε) : Except ε α :=
  match o with
  | some a => .ok a
  | none => .error e

theorem bind_ok {x : Except ε α} {f : α → Except ε β} {b : β} :
    (x >>= f) = .ok b ↔ ∃ a, x = .ok a ∧ f a = .ok b := by
  cases x with
  | ok a =>
    constructor
    · exact fun h => ⟨a, rfl, h⟩
    · rintro ⟨_, same, h⟩
      cases same
      exact h
  | error e =>
    constructor
    · exact fun h => nomatch h
    · rintro ⟨_, impossible, _⟩
      exact nomatch impossible

theorem require_ok {c : Prop} [Decidable c] {e : ε} {u : Unit} : require c e = .ok u ↔ c := by
  unfold require
  split <;> simp [*]

theorem found_ok {o : Option α} {e : ε} {a : α} : found o e = .ok a ↔ o = some a := by
  cases o <;> simp [found]

theorem pure_ok {a b : α} : (pure a : Except ε α) = .ok b ↔ a = b := by simp [pure, Except.pure]

theorem require_bind_ok {c : Prop} [Decidable c] {e : ε} {f : Unit → Except ε β} {b : β} :
    (require c e >>= f) = .ok b ↔ c ∧ f () = .ok b := by
  simp only [bind_ok, require_ok]
  exact ⟨fun ⟨_, holds, rest⟩ => ⟨holds, rest⟩, fun ⟨holds, rest⟩ => ⟨(), holds, rest⟩⟩

theorem found_bind_ok {o : Option α} {e : ε} {f : α → Except ε β} {b : β} :
    (found o e >>= f) = .ok b ↔ ∃ a, o = some a ∧ f a = .ok b := by
  simp only [bind_ok, found_ok]

end ControlPlane.Data
