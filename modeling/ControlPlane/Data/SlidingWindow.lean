import Mathlib.Algebra.Order.Group.Defs
import Mathlib.Algebra.Order.Group.Unbundled.Basic
import Mathlib.Data.List.Basic

/-!
# Lists of times, pruned to a window

A list that is pruned at every use, to the times that are no more than `span` before it,
still answers for every time since it began.
-/

namespace ControlPlane.Data

section

variable {τ : Type*} [AddCommGroup τ] [LinearOrder τ] {span now now' : τ} {kept times : List τ}

/-- The times that are no more than `span` before `now`. -/
def within (span now : τ) (times : List τ) : List τ := times.filter fun t => now - t ≤ span

theorem mem_within {t : τ} : t ∈ within span now times ↔ t ∈ times ∧ now - t ≤ span := by
  rw [within, List.mem_filter, decide_eq_true_eq]

theorem within_append {more : List τ} : within span now (times ++ more) = within span now times ++ within span now more :=
  List.filter_append ..

/-- What is outside the window now is outside of every later one. -/
theorem within_within [IsOrderedAddMonoid τ] (forward : now ≤ now') : within span now' (within span now times) = within span now' times := by
  unfold within
  rw [List.filter_filter]
  refine List.filter_congr fun t _ => ?_
  have later : now - t ≤ now' - t := sub_le_sub_right forward t
  by_cases inside : now' - t ≤ span
  · simp [inside, later.trans inside]
  · simp [inside]

/-- At no time since `now` does it matter which of the two lists is asked. -/
def Agree (span now : τ) (kept times : List τ) : Prop := ∀ later, now ≤ later → within span later kept = within span later times

theorem Agree.later (agree : Agree span now kept times) (forward : now ≤ now') : Agree span now' kept times :=
  fun later after => agree later (forward.trans after)

/-- The list is pruned, and takes the time of the call. -/
theorem Agree.prune [IsOrderedAddMonoid τ] (agree : Agree span now kept times) (forward : now ≤ now') :
    Agree span now' (within span now' kept ++ [now']) (times ++ [now']) := by
  intro later after
  rw [within_append, within_append, within_within after, agree later (forward.trans after)]

end

end ControlPlane.Data
