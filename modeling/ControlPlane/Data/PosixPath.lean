import Mathlib.Data.String.Basic

/-!
# Relative paths

`PurePosixPath`: what stands between the slashes, without the empty parts and the dots.
A path that was put together again from its parts has the same parts.
-/

namespace ControlPlane.Data

/-- `PurePosixPath(text).parts` of a relative path -/
def pathParts (text : String) : List String :=
  ((text.toList.splitOn '/').filter fun part => part ≠ [] ∧ part ≠ ['.']).map String.ofList

/-- `as_posix()` -/
def asPosix (parts : List String) : String :=
  if parts = [] then "." else String.ofList (['/'].intercalate (parts.map String.toList))

section

variable {α : Type} [BEq α] [LawfulBEq α] {a : α} {xs part : List α}

/-- No piece holds a separator. -/
theorem not_mem_of_mem_splitOn (member : part ∈ xs.splitOn a) : a ∉ part := by
  induction xs generalizing part with
  | nil =>
    rw [List.splitOn_nil, List.mem_singleton] at member
    subst member
    exact List.not_mem_nil
  | cons x xs ih =>
    rw [List.splitOn_cons_eq_if_modifyHead] at member
    split at member
    · rcases List.mem_cons.mp member with rfl | later
      · exact List.not_mem_nil
      · exact ih later
    · rename_i different
      obtain ⟨first, rest, split⟩ := List.exists_cons_of_ne_nil (List.splitOn_ne_nil a xs)
      rw [split, List.modifyHead_cons] at member
      rcases List.mem_cons.mp member with rfl | later
      · intro inside
        rcases List.mem_cons.mp inside with rfl | inside
        · exact different BEq.rfl
        · exact ih (split ▸ List.mem_cons_self) inside
      · exact ih (split ▸ List.mem_cons_of_mem _ later)

end

/-- What a part of a path can be. -/
def IsPart (part : String) : Prop := '/' ∉ part.toList ∧ part ≠ "" ∧ part ≠ "."

theorem isPart_of_mem {text part : String} (member : part ∈ pathParts text) : IsPart part := by
  obtain ⟨piece, kept, rfl⟩ := List.mem_map.mp member
  obtain ⟨found, holds⟩ := List.mem_filter.mp kept
  obtain ⟨notEmpty, notDot⟩ := of_decide_eq_true holds
  refine ⟨?_, ?_, ?_⟩
  · rw [String.toList_ofList]
    exact not_mem_of_mem_splitOn found
  · intro same
    exact notEmpty (by simpa using congrArg String.toList same)
  · intro same
    exact notDot (by simpa using congrArg String.toList same)

theorem pathParts_asPosix {parts : List String} (each : ∀ part ∈ parts, IsPart part) :
    pathParts (asPosix parts) = parts := by
  unfold asPosix
  split
  · rename_i empty
    subst empty
    decide
  · rename_i nonempty
    have pieces : ∀ piece ∈ parts.map String.toList, '/' ∉ piece := by
      intro piece member
      obtain ⟨part, inside, rfl⟩ := List.mem_map.mp member
      exact (each part inside).1
    have kept : ∀ piece ∈ parts.map String.toList, decide (piece ≠ [] ∧ piece ≠ ['.']) = true := by
      intro piece member
      obtain ⟨part, inside, rfl⟩ := List.mem_map.mp member
      obtain ⟨_, notEmpty, notDot⟩ := each part inside
      refine decide_eq_true ⟨fun same => notEmpty ?_, fun same => notDot ?_⟩
      · exact String.toList_injective same
      · exact String.toList_injective same
    rw [pathParts, String.toList_ofList, List.splitOn_intercalate '/' pieces (by simpa using nonempty),
      List.filter_eq_self.mpr kept, List.map_map]
    exact List.map_id'' (fun _ => String.ofList_toList) parts

/-! ### Absolute paths -/

/-- `str` of an absolute path, from the names on the way. -/
def pathText (names : List String) : List Char :=
  if names = [] then ['/'] else names.flatMap fun name => '/' :: name.toList

/-- One path lies in the other, or beside it under a longer name. -/
def Beside (xs ys : List String) : Prop :=
  ∃ above name longer rest, xs = above ++ [name] ∧ ys = above ++ longer :: rest ∧ name.toList <+: longer.toList ∧ name ≠ longer

section

variable {x y : String} {xs ys : List String}

theorem Beside.cons (beside : Beside xs ys) : Beside (x :: xs) (x :: ys) := by
  obtain ⟨above, name, longer, rest, rfl, rfl, first, apart⟩ := beside
  exact ⟨x :: above, name, longer, rest, rfl, rfl, first, apart⟩

theorem Beside.not_prefix (beside : Beside xs ys) : ¬ xs <+: ys := by
  obtain ⟨above, name, longer, rest, rfl, rfl, _, apart⟩ := beside
  intro inside
  have names := (List.prefix_append_right_inj above).mp inside
  exact apart (List.cons_prefix_cons.mp names).1

theorem names_prefix (plain : ∀ x ∈ xs, '/' ∉ x.toList) (plain' : ∀ y ∈ ys, '/' ∉ y.toList)
    (texts : (xs.flatMap fun name => '/' :: name.toList) <+: ys.flatMap fun name => '/' :: name.toList) :
    xs <+: ys ∨ Beside xs ys := by
  induction xs generalizing ys with
  | nil => exact .inl List.nil_prefix
  | cons x xs ih =>
    cases ys with
    | nil => simp at texts
    | cons y ys =>
      obtain ⟨t, same⟩ := texts
      simp only [List.flatMap_cons, List.cons_append, List.append_assoc, List.cons.injEq, true_and] at same
      have later := ih (fun x member => plain x (List.mem_cons_of_mem _ member)) (fun y member => plain' y (List.mem_cons_of_mem _ member))
      rcases List.append_eq_append_iff.mp same with ⟨zs, first, rest⟩ | ⟨zs, first, rest⟩
      · cases zs with
        | nil =>
          have names : x = y := String.toList_injective (by rw [first, List.append_nil])
          rcases later ⟨t, rest⟩ with inside | beside
          · exact .inl (List.cons_prefix_cons.mpr ⟨names, inside⟩)
          · exact .inr (names ▸ beside.cons)
        | cons z zs =>
          cases xs with
          | nil =>
            refine .inr ⟨[], x, y, ys, rfl, rfl, ⟨_, first.symm⟩, fun names => ?_⟩
            have lengths := congrArg List.length first
            simp [names] at lengths
          | cons x' xs =>
            have slash : z = '/' := by
              simp only [List.flatMap_cons, List.cons_append, List.cons.injEq] at rest
              exact rest.1.symm
            exact absurd (first ▸ List.mem_append_right _ (slash ▸ List.mem_cons_self)) (plain' y List.mem_cons_self)
      · cases zs with
        | nil =>
          have names : x = y := String.toList_injective (by rw [first, List.append_nil])
          rcases later ⟨t, by rw [rest, List.nil_append]⟩ with inside | beside
          · exact .inl (List.cons_prefix_cons.mpr ⟨names, inside⟩)
          · exact .inr (names ▸ beside.cons)
        | cons z zs =>
          cases ys with
          | nil => simp at rest
          | cons y' ys =>
            have slash : z = '/' := by
              simp only [List.flatMap_cons, List.cons_append, List.cons.injEq] at rest
              exact rest.1.symm
            exact absurd (first ▸ List.mem_append_right _ (slash ▸ List.mem_cons_self)) (plain x List.mem_cons_self)

/-- The text of a path begins with that of another iff it lies in it, or beside it under a longer name. -/
theorem pathText_prefix (parts : ∀ x ∈ xs, IsPart x) (parts' : ∀ y ∈ ys, IsPart y) :
    pathText xs <+: pathText ys ↔ xs <+: ys ∨ Beside xs ys := by
  constructor
  · intro texts
    cases xs with
    | nil => exact .inl List.nil_prefix
    | cons x xs =>
      rw [pathText, if_neg (List.cons_ne_nil x xs)] at texts
      cases ys with
      | nil =>
        have lengths := texts.length_le
        have given : x.toList.length ≠ 0 := fun empty => (parts x List.mem_cons_self).2.1 (by simpa using empty)
        simp only [pathText, if_true, List.flatMap_cons, List.length_append, List.length_cons, List.length_nil] at lengths
        omega
      | cons y ys =>
        rw [pathText, if_neg (List.cons_ne_nil y ys)] at texts
        exact names_prefix (fun x member => (parts x member).1) (fun y member => (parts' y member).1) texts
  · intro place
    rcases place with ⟨rest, rfl⟩ | ⟨above, name, longer, rest, rfl, rfl, ⟨more, first⟩, apart⟩
    · by_cases root : xs = []
      · subst root
        cases rest with
        | nil => exact List.prefix_rfl
        | cons y ys => exact ⟨_, rfl⟩
      · rw [pathText, if_neg root, pathText, if_neg (List.append_ne_nil_of_left_ne_nil root rest), List.flatMap_append]
        exact List.prefix_append _ _
    · rw [pathText, if_neg (by simp), pathText, if_neg (by simp), List.flatMap_append, List.flatMap_append]
      refine (List.prefix_append_right_inj _).mpr ⟨more ++ rest.flatMap fun name => '/' :: name.toList, ?_⟩
      simp [← first]

end

end ControlPlane.Data
