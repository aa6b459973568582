import ControlPlane.Data.JsonLines

/-!
# Where the colons of a JSON text stand

A reader that only tells strings from what is around them. Outside a string a colon is followed
by a blank, so the text of a dictionary never follows a colon inside the text of another value.
-/

namespace ControlPlane.Data.Json

/-- Where a reader stands. -/
inductive Place where
  | outside
  | colon
  | inside
  | escaped

namespace Place

def next : Place → Char → Option Place
  | outside, c => if c = '"' then some inside else if c = ':' then some colon else if c = '\\' then none else some outside
  | colon, c => if c = ' ' then some outside else none
  | inside, c => if c = '"' then some outside else if c = '\\' then some escaped else some inside
  | escaped, c => if c = ':' then none else some inside

def scan : Place → List Char → Option Place
  | p, [] => some p
  | p, c :: rest => (p.next c).bind fun q => scan q rest

theorem scan_append {p : Place} {t u : List Char} : p.scan (t ++ u) = (p.scan t).bind fun q => q.scan u := by
  induction t generalizing p with
  | nil => rfl
  | cons c t ih =>
    rw [List.cons_append, scan, scan, Option.bind_assoc]
    congr 1
    funext q
    exact ih

theorem scan_then {p q : Place} {t u : List Char} (first : p.scan t = some q) : p.scan (t ++ u) = q.scan u := by
  rw [scan_append, first, Option.bind_some]

end Place

open Place

/-- No character that a reader outside a string looks at. -/
def Unmarked (t : List Char) : Prop := ∀ c ∈ t, c ≠ '"' ∧ c ≠ ':' ∧ c ≠ '\\'

theorem scan_unmarked {t : List Char} (unmarked : Unmarked t) : outside.scan t = some outside := by
  induction t with
  | nil => rfl
  | cons c t ih =>
    obtain ⟨quotes, colons, escapes⟩ := unmarked c List.mem_cons_self
    have later := ih fun d member => unmarked d (List.mem_cons_of_mem _ member)
    rw [scan, next, if_neg quotes, if_neg colons, if_neg escapes, Option.bind_some, later]

theorem Numeric.unmarked {t : List Char} (numeric : Numeric t) : Unmarked t := by
  intro c member
  have number := numeric.all c member
  refine ⟨?_, ?_, ?_⟩
  all_goals
    intro same
    subst same
    exact absurd number (by decide)

/-! ### Strings -/

theorem hexDigit_inside : ∀ d < 16, hexDigit d ≠ '"' ∧ hexDigit d ≠ '\\' := by decide

theorem scan_hexDigit (n : Nat) (t : List Char) : inside.scan (hexDigit (n % 16) :: t) = inside.scan t := by
  obtain ⟨quotes, escapes⟩ := hexDigit_inside (n % 16) (Nat.mod_lt _ (by decide))
  rw [scan, next, if_neg quotes, if_neg escapes, Option.bind_some]

theorem scan_unicodeEscape (n : Nat) : inside.scan (unicodeEscape n) = some inside := by
  unfold unicodeEscape
  have begins : ∀ t, inside.scan ('\\' :: 'u' :: t) = inside.scan t := fun _ => rfl
  rw [begins, scan_hexDigit, scan_hexDigit, scan_hexDigit, scan_hexDigit]
  rfl

theorem scan_escapeChar (c : Char) : inside.scan (escapeChar c) = some inside := by
  unfold escapeChar
  iterate 7
    split
    · rfl
  split
  · have quotes : c ≠ '"' := by assumption
    have escapes : c ≠ '\\' := by assumption
    rw [scan, next, if_neg quotes, if_neg escapes]
    rfl
  split
  · exact scan_unicodeEscape _
  · rw [scan_then (scan_unicodeEscape _)]
    exact scan_unicodeEscape _

theorem scan_quote (s : String) : outside.scan (quote s) = some outside := by
  have body : ∀ cs : List Char, inside.scan (cs.flatMap escapeChar) = some inside := by
    intro cs
    induction cs with
    | nil => rfl
    | cons c cs ih => rw [List.flatMap_cons, scan_then (scan_escapeChar c), ih]
  unfold quote
  rw [List.cons_append, scan, next, if_pos rfl, Option.bind_some, scan_then (body _)]
  rfl

/-! ### Values -/

/-- The separators of `json.dumps(v)`, sorted or not. -/
structure Plain (layout : Layout) : Prop where
  item : layout.itemSeparator = [',', ' ']
  key : layout.keySeparator = [':', ' ']

theorem scan_separate {ts : List (List Char)} (each : ∀ t ∈ ts, outside.scan t = some outside) :
    outside.scan (separate [',', ' '] ts) = some outside := by
  induction ts with
  | nil => rfl
  | cons t ts ih =>
    have here := each t List.mem_cons_self
    have later := ih fun u member => each u (List.mem_cons_of_mem _ member)
    cases ts with
    | nil => exact here
    | cons u ts =>
      rw [separate_cons, List.append_assoc, scan_then here]
      exact later

theorem mem_insertEntry {e f : String × List Char} {es : List (String × List Char)} (member : f ∈ insertEntry e es) :
    f = e ∨ f ∈ es := by
  induction es with
  | nil => exact .inl (List.mem_singleton.mp member)
  | cons g es ih =>
    unfold insertEntry at member
    split at member
    · rcases List.mem_cons.mp member with same | member
      · exact .inr (List.mem_cons.mpr (.inl same))
      · rcases ih member with same | member
        · exact .inl same
        · exact .inr (List.mem_cons_of_mem _ member)
    · exact List.mem_cons.mp member

theorem mem_arrange {layout : Layout} {e : String × List Char} {es : List (String × List Char)}
    (member : e ∈ arrange layout es) : e ∈ es := by
  unfold arrange at member
  split at member
  · induction es with
    | nil => exact member
    | cons f es ih =>
      rcases mem_insertEntry member with rfl | member
      · exact List.mem_cons_self
      · exact List.mem_cons_of_mem _ (ih member)
  · exact member

section

variable {floats : Floats} {layout : Layout}

mutual

theorem scan_text (plain : Plain layout) : ∀ v : Json, outside.scan (text floats.repr layout v) = some outside
  | .null => rfl
  | .bool true => rfl
  | .bool false => rfl
  | .int i => scan_unmarked (numeric_intText i).unmarked
  | .float .nan => rfl
  | .float .negInf => rfl
  | .float .posInf => rfl
  | .float (.fin q) => scan_unmarked (numeric_float (floats.written q)).unmarked
  | .str s => scan_quote s
  | .list xs => by
    have inner := scan_separate (scan_texts plain xs)
    have opens : ∀ t, outside.scan ('[' :: t) = outside.scan t := fun _ => rfl
    rw [text, plain.item, List.cons_append, opens, scan_then inner]
    rfl
  | .dict entries => by
    have each : ∀ t ∈ (arrange layout (entryTexts floats.repr layout entries)).map
        fun e => quote e.1 ++ layout.keySeparator ++ e.2, outside.scan t = some outside := by
      intro t member
      obtain ⟨e, arranged, rfl⟩ := List.mem_map.mp member
      have colon : outside.scan [':', ' '] = some outside := rfl
      rw [plain.key, List.append_assoc, scan_then (scan_quote e.1), scan_then colon]
      exact scan_entryTexts plain entries e (mem_arrange arranged)
    have inner := scan_separate each
    have opens : ∀ t, outside.scan ('\x7b' :: t) = outside.scan t := fun _ => rfl
    rw [text, plain.item, List.cons_append, opens, scan_then inner]
    rfl

theorem scan_texts (plain : Plain layout) : ∀ vs : List Json, ∀ t ∈ texts floats.repr layout vs, outside.scan t = some outside
  | [] => by
    intro t member
    cases member
  | v :: rest => by
    intro t member
    rw [texts] at member
    rcases List.mem_cons.mp member with rfl | member
    · exact scan_text plain v
    · exact scan_texts plain rest t member

theorem scan_entryTexts (plain : Plain layout) : ∀ es : List (String × Json), ∀ e ∈ entryTexts floats.repr layout es,
    outside.scan e.2 = some outside
  | [] => by
    intro e member
    cases member
  | (k, v) :: rest => by
    intro e member
    rw [entryTexts] at member
    rcases List.mem_cons.mp member with rfl | member
    · exact scan_text plain v
    · exact scan_entryTexts plain rest e member

end

/-! ### Two readers -/

/-- One reader stands in a string where the other stands outside. -/
inductive Opposed : Place → Place → Prop
  | outside : Opposed .outside .inside
  | inside : Opposed .inside .outside
  | colonOutside : Opposed .colon .inside
  | colonInside : Opposed .inside .colon

/-- An escape is only read inside a string, so two readers that disagree stay so. -/
theorem Opposed.next {p q p' q' : Place} {c : Char} (opposed : Opposed p q) (first : p.next c = some p')
    (second : q.next c = some q') : Opposed p' q' := by
  by_cases quotes : c = '"'
  · subst quotes
    cases opposed <;> cases first <;> cases second <;> constructor
  by_cases colons : c = ':'
  · subst colons
    cases opposed <;> cases first <;> cases second <;> constructor
  by_cases escapes : c = '\\'
  · subst escapes
    cases opposed <;> cases first <;> cases second
  cases opposed with
  | outside =>
    simp only [Place.next, if_neg quotes, if_neg colons, if_neg escapes, Option.some.injEq] at first second
    subst first second
    exact .outside
  | inside =>
    simp only [Place.next, if_neg quotes, if_neg colons, if_neg escapes, Option.some.injEq] at first second
    subst first second
    exact .inside
  | colonOutside =>
    simp only [Place.next, if_neg quotes, if_neg escapes, Option.ite_none_right_eq_some, Option.some.injEq] at first second
    obtain ⟨-, rfl⟩ := first
    subst second
    exact .outside
  | colonInside =>
    simp only [Place.next, if_neg quotes, if_neg escapes, Option.ite_none_right_eq_some, Option.some.injEq] at first second
    obtain ⟨-, rfl⟩ := second
    subst first
    exact .inside

theorem Opposed.scan {p q p' q' : Place} {t : List Char} (opposed : Opposed p q) (first : p.scan t = some p')
    (second : q.scan t = some q') : Opposed p' q' := by
  induction t generalizing p q with
  | nil =>
    cases first
    cases second
    exact opposed
  | cons c t ih =>
    obtain ⟨r, one, first⟩ := Option.bind_eq_some_iff.mp first
    obtain ⟨s, other, second⟩ := Option.bind_eq_some_iff.mp second
    exact ih (opposed.next one other) first second

/-- No text of a value ends in a colon and the text of a dictionary. -/
theorem no_dict_behind_colon (plain : Plain layout) {v : Json} {entries : List (String × Json)} {front : List Char}
    (same : text floats.repr layout v = front ++ ':' :: text floats.repr layout (.dict entries)) : False := by
  have whole := @scan_text floats _ plain v
  have dict := @scan_text floats _ plain (.dict entries)
  rw [same, scan_append] at whole
  obtain ⟨p, -, rest⟩ := Option.bind_eq_some_iff.mp whole
  cases p with
  | outside =>
    rw [text] at rest
    cases rest
  | colon => cases rest
  | inside =>
    have behind : inside.scan (text floats.repr layout (.dict entries)) = some outside := rest
    cases Opposed.inside.scan behind dict
  | escaped => cases rest

/-- What stands before the dictionary at the end of a text and the colon before it. -/
theorem front_of_dict (plain : Plain layout) {xs ys : List Char} {es es' : List (String × Json)}
    (same : xs ++ [':'] ++ text floats.repr layout (.dict es) = ys ++ [':'] ++ text floats.repr layout (.dict es')) : xs = ys := by
  rw [List.append_assoc, List.append_assoc, List.singleton_append, List.singleton_append] at same
  rcases List.append_eq_append_iff.mp same with ⟨zs, front, rest⟩ | ⟨zs, front, rest⟩
  · cases zs with
    | nil => rw [front, List.append_nil]
    | cons z zs => exact (no_dict_behind_colon plain (List.cons.inj rest).2).elim
  · cases zs with
    | nil => rw [front, List.append_nil]
    | cons z zs => exact (no_dict_behind_colon plain (List.cons.inj rest).2).elim

end

end ControlPlane.Data.Json
