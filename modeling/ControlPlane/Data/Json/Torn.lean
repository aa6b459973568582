import ControlPlane.Data.Json.RoundTrip

/-!
# What is left of a text, with a dictionary behind it

No JSON value goes on into the text of a dictionary that was written behind it: a string ends at
the quote of the first key, and then there is a letter; a list or a dictionary that is open stays
open. So such a text is no value.
-/

namespace ControlPlane.Data.Json

section

variable {floats : Floats} {n m : Nat} {cs : List Char}

/-! ### More fuel -/

theorem stringBody_more {r : List Char × List Char} (read : stringBody n cs = some r) : stringBody (n + 1) cs = some r := by
  induction n generalizing cs r with
  | zero => cases read
  | succ n ih =>
    rw [stringBody] at read ⊢
    cases closed : after? ['"'] cs with
    | some rest =>
      rw [closed] at read
      exact read
    | none =>
      simp only [closed] at read ⊢
      obtain ⟨⟨c, rest⟩, first, read⟩ := Option.bind_eq_some_iff.mp read
      obtain ⟨⟨s, rest'⟩, later, read⟩ := Option.bind_eq_some_iff.mp read
      exact Option.bind_eq_some_iff.mpr ⟨_, first, Option.bind_eq_some_iff.mpr ⟨_, ih later, read⟩⟩

theorem reads_more (n : Nat) :
    (∀ cs r, value floats n cs = some r → value floats (n + 1) cs = some r) ∧
    (∀ cs r, items floats n cs = some r → items floats (n + 1) cs = some r) ∧
    ∀ cs r, members floats n cs = some r → members floats (n + 1) cs = some r := by
  induction n with
  | zero =>
    refine ⟨fun cs r read => ?_, fun cs r read => ?_, fun cs r read => ?_⟩
    all_goals cases read
  | succ n ih =>
    obtain ⟨values, lists, entries⟩ := ih
    refine ⟨fun cs r read => ?_, fun cs r read => ?_, fun cs r read => ?_⟩
    · cases cs with
      | nil => cases read
      | cons c rest =>
        rw [value] at read ⊢
        by_cases quote : c = '"'
        · simp only [if_pos quote] at read ⊢
          obtain ⟨s, first, read⟩ := Option.bind_eq_some_iff.mp read
          exact Option.bind_eq_some_iff.mpr ⟨s, stringBody_more first, read⟩
        simp only [if_neg quote] at read ⊢
        by_cases list : c = '['
        · simp only [if_pos list] at read ⊢
          cases closed : after? [']'] (skip rest) with
          | some rest =>
            rw [closed] at read
            exact read
          | none =>
            simp only [closed] at read ⊢
            obtain ⟨vs, first, read⟩ := Option.bind_eq_some_iff.mp read
            exact Option.bind_eq_some_iff.mpr ⟨vs, lists _ _ first, read⟩
        simp only [if_neg list] at read ⊢
        by_cases dict : c = '\x7b'
        · simp only [if_pos dict] at read ⊢
          cases closed : after? ['\x7d'] (skip rest) with
          | some rest =>
            rw [closed] at read
            exact read
          | none =>
            simp only [closed] at read ⊢
            obtain ⟨es, first, read⟩ := Option.bind_eq_some_iff.mp read
            exact Option.bind_eq_some_iff.mpr ⟨es, entries _ _ first, read⟩
        simp only [if_neg dict] at read ⊢
        exact read
    · rw [items] at read ⊢
      obtain ⟨⟨v, rest⟩, first, read⟩ := Option.bind_eq_some_iff.mp read
      refine Option.bind_eq_some_iff.mpr ⟨_, values _ _ first, ?_⟩
      cases closed : after? [']'] (skip rest) with
      | some rest =>
        simp only [closed] at read ⊢
        exact read
      | none =>
        simp only [closed] at read ⊢
        obtain ⟨later, comma, read⟩ := Option.bind_eq_some_iff.mp read
        obtain ⟨vs, more, read⟩ := Option.bind_eq_some_iff.mp read
        exact Option.bind_eq_some_iff.mpr ⟨_, comma, Option.bind_eq_some_iff.mpr ⟨vs, lists _ _ more, read⟩⟩
    · rw [members] at read ⊢
      obtain ⟨behind, quote, read⟩ := Option.bind_eq_some_iff.mp read
      obtain ⟨⟨k, rest⟩, key, read⟩ := Option.bind_eq_some_iff.mp read
      obtain ⟨tail, colon, read⟩ := Option.bind_eq_some_iff.mp read
      obtain ⟨⟨v, rest'⟩, first, read⟩ := Option.bind_eq_some_iff.mp read
      refine Option.bind_eq_some_iff.mpr ⟨_, quote, Option.bind_eq_some_iff.mpr ⟨_, stringBody_more key,
        Option.bind_eq_some_iff.mpr ⟨_, colon, Option.bind_eq_some_iff.mpr ⟨_, values _ _ first, ?_⟩⟩⟩⟩
      cases closed : after? ['\x7d'] (skip rest') with
      | some rest =>
        simp only [closed] at read ⊢
        exact read
      | none =>
        simp only [closed] at read ⊢
        obtain ⟨later, comma, read⟩ := Option.bind_eq_some_iff.mp read
        obtain ⟨es, more, read⟩ := Option.bind_eq_some_iff.mp read
        exact Option.bind_eq_some_iff.mpr ⟨_, comma, Option.bind_eq_some_iff.mpr ⟨es, entries _ _ more, read⟩⟩

theorem value_more {r : Json × List Char} (read : value floats n cs = some r) (more : n ≤ m) : value floats m cs = some r := by
  induction more with
  | refl => exact read
  | step more ih => exact (reads_more _).1 _ _ ih

/-- However deep it is read, the text of a value is read to its end. -/
theorem value_whole {layout : Layout} {v v' : Json} {rest : List Char} (spaced : Spaced layout)
    (read : value floats n (text floats.repr layout v) = some (v', rest)) : rest = [] := by
  have whole := (@reads floats layout spaced (2 * (text floats.repr layout v).length + 1)).1 v [] (by omega) ended_nil
  rw [List.append_nil] at whole
  have first := value_more read (Nat.le_max_left n (2 * (text floats.repr layout v).length + 1))
  have second := value_more whole (Nat.le_max_right n (2 * (text floats.repr layout v).length + 1))
  rw [first] at second
  exact (Prod.mk.inj (Option.some.inj second)).2

end

/-! ### Where a reader stops -/

/-- A dictionary begins: its brace, the quote of its first key, a letter. -/
structure Beginning (t w : List Char) : Prop where
  opens : t = '\x7b' :: '"' :: w
  letter : ∃ d rest, w = d :: rest ∧ isBlank d = false ∧ d ∉ [']', '\x7d', ',', ':']

section

variable {floats : Floats} {n : Nat} {u t w rest ls : List Char}

/-- The reader stopped before the second text. -/
def Short (t rest : List Char) : Prop := ∃ r, rest = r ++ t

theorem after?_short (short : after? ls (u ++ t) = some rest) (begins : Beginning t w) (plain : '\x7b' ∉ ls) : Short t rest := by
  induction ls generalizing u with
  | nil => exact ⟨u, (Option.some.inj short).symm⟩
  | cons l ls ih =>
    obtain ⟨other, later⟩ := not_or.mp fun member => plain (List.mem_cons.mpr member)
    cases u with
    | nil =>
      rw [List.nil_append, begins.opens, after?_other (Ne.symm other)] at short
      cases short
    | cons c u =>
      rw [List.cons_append, after?] at short
      by_cases same : l = c
      · rw [if_pos same] at short
        exact ih short later
      · rw [if_neg same] at short
        cases short

theorem hexValue_brace : hexValue '\x7b' = none := by decide

theorem codeUnit_short {k : Nat} (read : codeUnit (u ++ t) = some (k, rest)) (begins : Beginning t w) : Short t rest := by
  match u with
  | [] =>
    rw [List.nil_append, begins.opens] at read
    cases w with
    | nil => cases read
    | cons c w => cases w <;> simp [codeUnit, hexValue_brace] at read
  | [a] =>
    rw [begins.opens] at read
    cases w <;> simp [codeUnit, hexValue_brace] at read
  | [a, b] =>
    rw [begins.opens] at read
    simp [codeUnit, hexValue_brace] at read
  | [a, b, c] =>
    rw [begins.opens] at read
    simp [codeUnit, hexValue_brace] at read
  | a :: b :: c :: d :: u =>
    simp only [List.cons_append, codeUnit, Option.bind_eq_bind, Option.bind_eq_some_iff] at read
    obtain ⟨_, _, _, _, _, _, _, _, same⟩ := read
    exact ⟨u, (Prod.mk.inj (Option.some.inj same)).2.symm⟩

theorem escapedUnit_short {c : Char} (read : escapedUnit (u ++ t) = some (c, rest)) (begins : Beginning t w) : Short t rest := by
  obtain ⟨⟨unit, rest'⟩, first, read⟩ := Option.bind_eq_some_iff.mp read
  obtain ⟨r, rfl⟩ := codeUnit_short first begins
  dsimp only at read
  split_ifs at read with high range
  · obtain ⟨behind, escape, read⟩ := Option.bind_eq_some_iff.mp read
    obtain ⟨r', rfl⟩ := after?_short escape begins (by decide)
    obtain ⟨⟨second, rest''⟩, paired, read⟩ := Option.bind_eq_some_iff.mp read
    obtain ⟨r'', rfl⟩ := codeUnit_short paired begins
    dsimp only at read
    split_ifs at read
    exact ⟨r'', (Prod.mk.inj (Option.some.inj read)).2.symm⟩
  · exact ⟨r, (Prod.mk.inj (Option.some.inj read)).2.symm⟩

theorem character_short {c d : Char} (read : character (c :: u ++ t) = some (d, rest)) (begins : Beginning t w) : Short t rest := by
  rw [List.cons_append, character.eq_def] at read
  dsimp only at read
  by_cases escape : c = '\\'
  · rw [if_pos escape] at read
    cases u with
    | nil =>
      rw [List.nil_append, begins.opens] at read
      exact absurd read (by simp [unescape])
    | cons e u =>
      rw [List.cons_append] at read
      dsimp only at read
      by_cases unit : e = 'u'
      · rw [if_pos unit] at read
        exact escapedUnit_short read begins
      · rw [if_neg unit] at read
        obtain ⟨_, _, same⟩ := Option.map_eq_some_iff.mp read
        exact ⟨u, (Prod.mk.inj same).2.symm⟩
  · rw [if_neg escape] at read
    split_ifs at read
    exact ⟨u, (Prod.mk.inj (Option.some.inj read)).2.symm⟩

/-- A string that is open ends at the quote of the first key. -/
theorem stringBody_short {s : List Char} (read : stringBody n (u ++ t) = some (s, rest)) (begins : Beginning t w) :
    Short t rest ∨ rest = w := by
  induction n generalizing u s with
  | zero => cases read
  | succ n ih =>
    rw [stringBody] at read
    cases u with
    | nil =>
      rw [List.nil_append, begins.opens, after?_other (by decide)] at read
      cases n with
      | zero => cases read
      | succ n =>
        simp [character, stringBody, after?] at read
        exact .inr read.2.symm
    | cons c u =>
      cases closed : after? ['"'] (c :: u ++ t) with
      | some rest' =>
        rw [closed] at read
        obtain rfl := (Prod.mk.inj (Option.some.inj read)).2
        exact .inl (after?_short closed begins (by decide))
      | none =>
        simp only [closed] at read
        obtain ⟨⟨d, rest'⟩, first, read⟩ := Option.bind_eq_some_iff.mp read
        obtain ⟨⟨s', rest''⟩, later, read⟩ := Option.bind_eq_some_iff.mp read
        obtain ⟨r, rfl⟩ := character_short first begins
        obtain rfl := (Prod.mk.inj (Option.some.inj read)).2
        exact ih later

theorem skip_short (begins : Beginning t w) : skip (u ++ t) = skip u ++ t := by
  have start : t.dropWhile isBlank = t := by
    rw [begins.opens]
    rfl
  unfold skip
  rw [List.dropWhile_append, start]
  split
  · rename_i empty
    rw [List.isEmpty_iff.mp empty, List.nil_append]
  · rfl

theorem scalar_short {v : Json} (read : scalar floats (u ++ t) = some (v, rest)) (begins : Beginning t w) : Short t rest := by
  unfold scalar at read
  split at read
  · rename_i found
    obtain rfl := (Prod.mk.inj (Option.some.inj read)).2
    exact after?_short found begins (by decide)
  split at read
  · rename_i found
    obtain rfl := (Prod.mk.inj (Option.some.inj read)).2
    exact after?_short found begins (by decide)
  split at read
  · rename_i found
    obtain rfl := (Prod.mk.inj (Option.some.inj read)).2
    exact after?_short found begins (by decide)
  split at read
  · rename_i found
    obtain rfl := (Prod.mk.inj (Option.some.inj read)).2
    exact after?_short found begins (by decide)
  split at read
  · rename_i found
    obtain rfl := (Prod.mk.inj (Option.some.inj read)).2
    exact after?_short found begins (by decide)
  split at read
  · rename_i found
    obtain rfl := (Prod.mk.inj (Option.some.inj read)).2
    exact after?_short found begins (by decide)
  obtain ⟨_, _, same⟩ := Option.map_eq_some_iff.mp read
  obtain rfl := (Prod.mk.inj same).2
  have start : t.dropWhile isNumberChar = t := by
    rw [begins.opens]
    rfl
  rw [List.dropWhile_append, start]
  split
  · exact ⟨[], rfl⟩
  · exact ⟨_, rfl⟩

/-- Behind a value that was read, a bracket, a comma or a colon can stand before the second text only. -/
theorem next_short {c : Char} {r : List Char} (begins : Beginning t w) (stopped : Short t rest ∨ rest = w ∨ rest = [])
    (mark : c ∈ [']', '\x7d', ',', ':']) (found : after? [c] (skip rest) = some r) : Short t r := by
  rcases stopped with ⟨u, rfl⟩ | rfl | rfl
  · rw [skip_short begins] at found
    refine after?_short found begins fun brace => ?_
    rw [← List.mem_singleton.mp brace] at mark
    exact absurd mark (by decide)
  · obtain ⟨d, w', opens, blank, other⟩ := begins.letter
    have apart : c ≠ d := fun same => other (by rw [← same]; exact mark)
    rw [opens, skip_cons blank, after?_other apart] at found
    cases found
  · cases found

theorem reads_short (begins : Beginning t w) (whole : ∀ n v rest, value floats n t = some (v, rest) → rest = []) (n : Nat) :
    (∀ u v rest, value floats n (u ++ t) = some (v, rest) → Short t rest ∨ rest = w ∨ u = [] ∧ rest = []) ∧
    (∀ u vs rest, items floats n (u ++ t) = some (vs, rest) → Short t rest) ∧
    ∀ u es rest, members floats n (u ++ t) = some (es, rest) → Short t rest := by
  induction n with
  | zero =>
    refine ⟨fun u v rest read => ?_, fun u vs rest read => ?_, fun u es rest read => ?_⟩
    all_goals cases read
  | succ n ih =>
    obtain ⟨values, lists, entries⟩ := ih
    have stopped {u v rest} (read : value floats n (u ++ t) = some (v, rest)) : Short t rest ∨ rest = w ∨ rest = [] := by
      rcases values u v rest read with short | behind | ⟨_, ended⟩
      · exact .inl short
      · exact .inr (.inl behind)
      · exact .inr (.inr ended)
    refine ⟨fun u v rest read => ?_, fun u vs rest read => ?_, fun u es rest read => ?_⟩
    · cases u with
      | nil => exact .inr (.inr ⟨rfl, whole (n + 1) v rest read⟩)
      | cons c u =>
        rw [List.cons_append, value] at read
        by_cases quote : c = '"'
        · rw [if_pos quote] at read
          obtain ⟨⟨s, behind⟩, first, read⟩ := Option.bind_eq_some_iff.mp read
          obtain rfl := (Prod.mk.inj (Option.some.inj read)).2
          rcases stringBody_short first begins with short | behind
          · exact .inl short
          · exact .inr (.inl behind)
        rw [if_neg quote] at read
        by_cases list : c = '['
        · rw [if_pos list, skip_short begins] at read
          cases closed : after? [']'] (skip u ++ t) with
          | some behind =>
            rw [closed] at read
            obtain rfl := (Prod.mk.inj (Option.some.inj read)).2
            exact .inl (after?_short closed begins (by decide))
          | none =>
            simp only [closed] at read
            obtain ⟨⟨vs, behind⟩, first, read⟩ := Option.bind_eq_some_iff.mp read
            obtain rfl := (Prod.mk.inj (Option.some.inj read)).2
            exact .inl (lists _ _ _ first)
        rw [if_neg list] at read
        by_cases dict : c = '\x7b'
        · rw [if_pos dict, skip_short begins] at read
          cases closed : after? ['\x7d'] (skip u ++ t) with
          | some behind =>
            rw [closed] at read
            obtain rfl := (Prod.mk.inj (Option.some.inj read)).2
            exact .inl (after?_short closed begins (by decide))
          | none =>
            simp only [closed] at read
            obtain ⟨⟨es, behind⟩, first, read⟩ := Option.bind_eq_some_iff.mp read
            obtain rfl := (Prod.mk.inj (Option.some.inj read)).2
            exact .inl (entries _ _ _ first)
        rw [if_neg dict, ← List.cons_append] at read
        exact .inl (scalar_short read begins)
    · rw [items] at read
      obtain ⟨⟨v, behind⟩, first, read⟩ := Option.bind_eq_some_iff.mp read
      cases closed : after? [']'] (skip behind) with
      | some left =>
        simp only [closed] at read
        obtain rfl := (Prod.mk.inj (Option.some.inj read)).2
        exact next_short begins (stopped first) (by decide) closed
      | none =>
        simp only [closed] at read
        obtain ⟨later, comma, read⟩ := Option.bind_eq_some_iff.mp read
        obtain ⟨⟨others, left⟩, more, read⟩ := Option.bind_eq_some_iff.mp read
        obtain rfl := (Prod.mk.inj (Option.some.inj read)).2
        obtain ⟨r, rfl⟩ := next_short begins (stopped first) (by decide) comma
        rw [skip_short begins] at more
        exact lists _ _ _ more
    · rw [members] at read
      obtain ⟨start, quote, read₁⟩ := Option.bind_eq_some_iff.mp read
      obtain ⟨r, rfl⟩ := after?_short quote begins (by decide)
      obtain ⟨⟨k, behind⟩, key, read₂⟩ := Option.bind_eq_some_iff.mp read₁
      obtain ⟨tail, colon, read₃⟩ := Option.bind_eq_some_iff.mp read₂
      obtain ⟨⟨v, left⟩, first, ended⟩ := Option.bind_eq_some_iff.mp read₃
      have named : Short t behind ∨ behind = w ∨ behind = [] := by
        rcases stringBody_short key begins with short | quoted
        · exact .inl short
        · exact .inr (.inl quoted)
      obtain ⟨r', rfl⟩ := next_short begins named (by decide) colon
      rw [skip_short begins] at first
      cases closed : after? ['\x7d'] (skip left) with
      | some last =>
        simp only [closed] at ended
        obtain rfl := (Prod.mk.inj (Option.some.inj ended)).2
        exact next_short begins (stopped first) (by decide) closed
      | none =>
        simp only [closed] at ended
        obtain ⟨later, comma, ended₁⟩ := Option.bind_eq_some_iff.mp ended
        obtain ⟨⟨others, last⟩, more, ended₂⟩ := Option.bind_eq_some_iff.mp ended₁
        obtain rfl := (Prod.mk.inj (Option.some.inj ended₂)).2
        obtain ⟨r'', rfl⟩ := next_short begins (stopped first) (by decide) comma
        rw [skip_short begins] at more
        exact entries _ _ _ more

/-- A text that is not blank is no value with a dictionary behind it. -/
theorem loads_torn {layout : Layout} {v : Json} (spaced : Spaced layout) (begins : Beginning (text floats.repr layout v) w)
    (solid : ∃ c ∈ u, isBlank c = false) : loads floats (String.ofList (u ++ text floats.repr layout v)) = none := by
  have nonempty : skip u ≠ [] := by
    obtain ⟨c, member, plain⟩ := solid
    intro empty
    have blank := List.dropWhile_eq_nil_iff.mp empty c member
    rw [plain] at blank
    cases blank
  unfold loads
  simp only [String.toList_ofList, skip_short begins]
  cases read : value floats (2 * (skip u ++ text floats.repr layout v).length + 1) (skip u ++ text floats.repr layout v) with
  | none => rfl
  | some r =>
    obtain ⟨v', rest⟩ := r
    have left : skip rest ≠ [] := by
      rcases (reads_short begins (fun n v rest => value_whole spaced) _).1 _ _ _ read with ⟨r, rfl⟩ | rfl | ⟨empty, _⟩
      · rw [skip_short begins, begins.opens]
        simp
      · obtain ⟨d, w', opens, blank, _⟩ := begins.letter
        rw [opens, skip_cons blank]
        exact List.cons_ne_nil d w'
      · exact absurd empty nonempty
    exact if_neg left

end

end ControlPlane.Data.Json
