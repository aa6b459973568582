import Mathlib.Data.List.Basic

/-!
# Texts joined by a separator

What can be told of a text joined by colons: the words between them, whatever was joined. What
stands before the first separator and behind the last can be read back.
-/

namespace ControlPlane.Data

/-- The words between the colons. -/
def words (t : String) : List (List Char) := t.toList.splitOn ':'

@[simp] theorem words_append {t u : String} : words (t ++ ":" ++ u) = words t ++ words u := by
  unfold words
  rw [String.toList_append, String.toList_append, List.append_assoc]
  exact List.splitOn_append_cons_self _ _

theorem words_inj {t u : String} : words t = words u ↔ t = u := by
  constructor
  · intro same
    have joined := congrArg (List.intercalate [':']) same
    unfold words at joined
    rw [List.intercalate_splitOn, List.intercalate_splitOn] at joined
    exact String.toList_inj.mp joined
  · exact congrArg words

theorem words_plain {t : String} (plain : ':' ∉ t.toList) : words t = [t.toList] := List.splitOn_eq_singleton plain

theorem words_ne_nil (t : String) : words t ≠ [] := List.splitOn_ne_nil ':' t.toList

/-- A text of one word is that word. -/
theorem words_singleton {t : String} {w : List Char} (one : words t = [w]) : w = t.toList := by
  have joined := congrArg (List.intercalate [':']) one
  unfold words at joined
  rw [List.intercalate_splitOn, List.intercalate_singleton] at joined
  exact joined.symm

theorem length_flatMap_words {xs : List String} (plain : ∀ x ∈ xs, ':' ∉ x.toList) : (xs.flatMap words).length = xs.length := by
  induction xs with
  | nil => rfl
  | cons x xs ih =>
    have later := ih fun x member => plain x (List.mem_cons_of_mem _ member)
    rw [List.flatMap_cons, words_plain (plain x List.mem_cons_self), List.length_append, later, List.length_singleton,
      List.length_cons, Nat.add_comm]

theorem length_le_flatMap_words (xs : List String) : xs.length ≤ (xs.flatMap words).length := by
  induction xs with
  | nil => exact Nat.le_refl 0
  | cons x xs ih =>
    have one := List.length_pos_of_ne_nil (words_ne_nil x)
    rw [List.flatMap_cons, List.length_append, List.length_cons]
    omega

/-- Texts without a colon are read back from their words, among as many texts of any kind. -/
theorem flatMap_words_inj {xs ys : List String} (plain : ∀ x ∈ xs, ':' ∉ x.toList)
    (same : ys.flatMap words = xs.flatMap words) (length : ys.length = xs.length) : ys = xs := by
  induction xs generalizing ys with
  | nil => exact List.length_eq_zero_iff.mp length
  | cons x xs ih =>
    obtain ⟨y, ys, rfl⟩ := List.exists_cons_of_length_eq_add_one length
    have rest : ys.length = xs.length := Nat.succ.inj length
    rw [List.flatMap_cons, List.flatMap_cons, words_plain (plain x List.mem_cons_self)] at same
    have later : ∀ x ∈ xs, ':' ∉ x.toList := fun x member => plain x (List.mem_cons_of_mem _ member)
    cases split : words y with
    | nil => exact absurd split (words_ne_nil y)
    | cons w more =>
      rw [split, List.cons_append, List.singleton_append] at same
      obtain ⟨front, back⟩ := List.cons.inj same
      cases more with
      | nil =>
        have head : y = x := String.toList_inj.mp ((words_singleton split).symm.trans front)
        rw [head, ih later back rest]
      | cons w' more =>
        have few : (xs.flatMap words).length = xs.length := length_flatMap_words later
        have many := length_le_flatMap_words ys
        rw [← back, List.length_append, List.length_cons] at few
        omega

/-- The first colon of a text that has one. -/
theorem colon_split {t : String} (colon : ':' ∈ t.toList) : ∃ x y, t = x ++ ":" ++ y ∧ ':' ∉ x.toList := by
  obtain ⟨front, back, same, plain⟩ := List.eq_append_cons_of_mem colon
  refine ⟨String.ofList front, String.ofList back, ?_, by rwa [String.toList_ofList]⟩
  have separator : ":".toList = [':'] := by decide
  rw [← String.toList_inj, same]
  simp [separator]

/-- The last words of a text are a text of their own, behind a colon. -/
theorem behind_words {t u : String} {us : List (List Char)} (split : words t = us ++ words u) :
    us = [] ∧ t = u ∨ ∃ x, t = x ++ ":" ++ u := by
  induction us generalizing t with
  | nil => exact .inl ⟨rfl, words_inj.mp split⟩
  | cons w us ih =>
    have colon : ':' ∈ t.toList := by
      by_contra plain
      rw [words_plain plain, List.cons_append] at split
      exact words_ne_nil u (List.append_eq_nil_iff.mp (List.cons.inj split).2.symm).2
    obtain ⟨x, y, rfl, plain⟩ := colon_split colon
    rw [words_append, words_plain plain, List.cons_append] at split
    rcases ih (List.cons.inj split).2 with ⟨-, rfl⟩ | ⟨x', rfl⟩
    · exact .inr ⟨x, rfl⟩
    · exact .inr ⟨x ++ ":" ++ x', by simp only [String.append_assoc]⟩

theorem words_empty_iff {t : String} : words t = [[]] ↔ t = "" := by
  constructor
  · intro empty
    exact String.toList_inj.mp (words_singleton empty).symm
  · rintro rfl
    decide

/-- The words of a text with no colon behind its first character. -/
theorem words_tail {t : String} (plain : ':' ∉ t.toList.tail) : ∃ w, words t = [w] ∨ words t = [[], w] := by
  by_cases colon : ':' ∈ t.toList
  · obtain ⟨x, y, rfl, front⟩ := colon_split colon
    have separator : ":".toList = [':'] := by decide
    rw [String.toList_append, String.toList_append, separator] at plain
    cases first : x.toList with
    | nil =>
      rw [first] at plain
      have last : ':' ∉ y.toList := by simpa using plain
      exact ⟨y.toList, .inr (by rw [words_append, words_plain front, first, words_plain last, List.singleton_append])⟩
    | cons c cs =>
      rw [first] at plain
      simp at plain
  · exact ⟨t.toList, .inl (words_plain colon)⟩

/-- A colon that is not the first character. -/
theorem tail_split {t : String} (colon : ':' ∈ t.toList.tail) : ∃ x y, t = x ++ ":" ++ y ∧ x ≠ "" := by
  have separator : ":".toList = [':'] := by decide
  cases read : t.toList with
  | nil =>
    rw [read] at colon
    cases colon
  | cons c cs =>
    rw [read] at colon
    obtain ⟨front, back, same⟩ := List.append_of_mem colon
    refine ⟨String.ofList (c :: front), String.ofList back, ?_, fun empty => by simpa using congrArg String.toList empty⟩
    rw [← String.toList_inj, read]
    simp only [List.tail_cons] at same
    simp [separator, same]

/-- The parts on either side of a colon are not the whole. -/
theorem split_ne_left {x y : String} : x ≠ x ++ ":" ++ y := by
  intro same
  have length := congrArg (fun t => t.toList.length) same
  simp at length

theorem split_ne_right {x y : String} : y ≠ x ++ ":" ++ y := by
  intro same
  have length := congrArg (fun t => t.toList.length) same
  simp only [String.toList_append, List.length_append, String.length_toList] at length
  have one : ":".length = 1 := rfl
  omega

section

variable {α : Type} {a : α} {xs ys r r' : List α}

/-- What stands before and behind the first separator. -/
theorem before_first (same : xs ++ a :: r = ys ++ a :: r') (plain : a ∉ xs) (plain' : a ∉ ys) : xs = ys ∧ r = r' := by
  rcases List.append_eq_append_iff.mp same with ⟨zs, front, rest⟩ | ⟨zs, front, rest⟩
  · cases zs with
    | nil => exact ⟨(front.trans (List.append_nil _)).symm, (List.cons.inj rest).2⟩
    | cons z zs =>
      obtain ⟨rfl, -⟩ := List.cons.inj rest
      exact absurd (front ▸ List.mem_append_right xs List.mem_cons_self) plain'
  · cases zs with
    | nil => exact ⟨front.trans (List.append_nil _), (List.cons.inj rest).2.symm⟩
    | cons z zs =>
      obtain ⟨rfl, -⟩ := List.cons.inj rest
      exact absurd (front ▸ List.mem_append_right ys List.mem_cons_self) plain

/-- And the last. -/
theorem behind_last (same : xs ++ a :: r = ys ++ a :: r') (plain : a ∉ r) (plain' : a ∉ r') : xs = ys ∧ r = r' := by
  have turned : r.reverse ++ a :: xs.reverse = r'.reverse ++ a :: ys.reverse := by
    have reversed := congrArg List.reverse same
    simpa using reversed
  obtain ⟨back, front⟩ := before_first turned (by simpa using plain) (by simpa using plain')
  exact ⟨List.reverse_injective front, List.reverse_injective back⟩

end

/-! ### Groups of words -/

section

variable {α : Type} {e b t x y : α} {ws rest z v tail v' : List α}

/-- A group that is neither missing nor the empty word. -/
def Filled (e : α) (v : List α) : Prop := v ≠ [] ∧ v ≠ [e]

/-- A group begins with a short one that begins there as well, and is that group or longer. -/
theorem group_longer (short : ws = [x] ∨ ws = [e, x]) (filled : Filled e v) (same : ws ++ rest = v ++ tail) :
    v = ws ∧ rest = tail ∨ ∃ z, z ≠ [] ∧ rest = z ++ tail := by
  obtain ⟨missing, empty⟩ := filled
  obtain ⟨u, us, rfl⟩ := List.exists_cons_of_ne_nil missing
  rcases short with rfl | rfl
  · obtain ⟨rfl, later⟩ := List.cons.inj same
    by_cases one : us = []
    · subst one
      exact .inl ⟨rfl, later⟩
    · exact .inr ⟨us, one, later⟩
  · obtain ⟨rfl, later⟩ := List.cons.inj same
    cases us with
    | nil => exact absurd rfl empty
    | cons u' us =>
      obtain ⟨rfl, behind⟩ := List.cons.inj later
      by_cases two : us = []
      · subst two
        exact .inl ⟨rfl, behind⟩
      · exact .inr ⟨us, two, behind⟩

/-- A group that comes late stays late: a single word, or two that are empty, do not make up for it. -/
theorem group_late (short : ws = [x] ∨ ws = [e, e]) (filled : Filled e v) (late : z ≠ []) (same : ws ++ rest = z ++ (v ++ tail)) :
    ∃ z, z ≠ [] ∧ rest = z ++ tail := by
  obtain ⟨missing, empty⟩ := filled
  obtain ⟨u, us, rfl⟩ := List.exists_cons_of_ne_nil late
  rcases short with rfl | rfl
  · obtain ⟨rfl, later⟩ := List.cons.inj same
    exact ⟨us ++ v, List.append_ne_nil_of_right_ne_nil us missing, by rw [List.append_assoc]; exact later⟩
  · obtain ⟨rfl, later⟩ := List.cons.inj same
    cases us with
    | nil =>
      obtain ⟨w, ws, rfl⟩ := List.exists_cons_of_ne_nil missing
      obtain ⟨rfl, behind⟩ := List.cons.inj later
      exact ⟨ws, fun one => empty (one ▸ rfl), behind⟩
    | cons u' us =>
      obtain ⟨rfl, behind⟩ := List.cons.inj later
      exact ⟨us ++ v, List.append_ne_nil_of_right_ne_nil us missing, by rw [List.append_assoc]; exact behind⟩

/-- Two words leave no room for two groups that come late. -/
theorem groups_late (late : z ≠ []) (given : v ≠ []) (given' : v' ≠ []) : [b, t] ≠ z ++ (v ++ v') := by
  intro same
  have length := congrArg List.length same
  have first := List.length_pos_of_ne_nil late
  have second := List.length_pos_of_ne_nil given
  have third := List.length_pos_of_ne_nil given'
  simp only [List.length_append, List.length_cons, List.length_nil] at length
  omega

theorem groups_two (given : v ≠ []) (given' : v' ≠ []) (same : [b, t] = v ++ v') : v = [b] ∧ v' = [t] := by
  obtain ⟨u, us, rfl⟩ := List.exists_cons_of_ne_nil given
  obtain ⟨rfl, later⟩ := List.cons.inj same
  cases us with
  | nil => exact ⟨rfl, later.symm⟩
  | cons u' us =>
    obtain ⟨-, none⟩ := List.cons.inj later
    exact absurd (List.append_eq_nil_iff.mp none.symm).2 given'

end

/-- What stands behind the last colon. -/
theorem behind_colon {xs ys r r' : List Char} (same : xs ++ [':'] ++ r = ys ++ [':'] ++ r') (plain : ':' ∉ r) (plain' : ':' ∉ r') :
    r = r' := by
  rw [List.append_assoc, List.append_assoc, List.singleton_append, List.singleton_append] at same
  exact (behind_last same plain plain').2

end ControlPlane.Data
