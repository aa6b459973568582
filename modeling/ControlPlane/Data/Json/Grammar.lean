import ControlPlane.Data.Json.Indent
import ControlPlane.Data.Json.RoundTrip

/-!
# JSON with white space

All texts of a value that differ in their white space are read alike, so also what is written
with an indent.
-/

namespace ControlPlane.Data.Json

section

variable (floats : Floats)

def Blanks (b : List Char) : Prop := ∀ c ∈ b, isBlank c = true

/-- Neither a list nor a dictionary. -/
def Atomic : Json → Prop
  | .list _ | .dict _ => False
  | _ => True

mutual

/-- A text of the value, with white space where some may stand in a list or a dictionary. -/
inductive Spells : Json → List Char → Prop
  | atomic {v : Json} (plain : Atomic v) : Spells v (text floats.repr {} v)
  | emptyList : Spells (.list []) ['[', ']']
  | list {v : Json} {vs : List Json} {b t : List Char} (blank : Blanks b) (items : SpellsItems v vs t) :
      Spells (.list (v :: vs)) ('[' :: (b ++ t) ++ [']'])
  | emptyDict : Spells (.dict []) ['\x7b', '\x7d']
  | dict {e : String × Json} {es : List (String × Json)} {b t : List Char} (blank : Blanks b) (members : SpellsMembers e es t) :
      Spells (.dict (e :: es)) ('\x7b' :: (b ++ t) ++ ['\x7d'])

inductive SpellsItems : Json → List Json → List Char → Prop
  | last {v : Json} {t b : List Char} (spells : Spells v t) (blank : Blanks b) : SpellsItems v [] (t ++ b)
  | more {v w : Json} {vs : List Json} {t b u : List Char} (spells : Spells v t) (blank : Blanks b) (later : SpellsItems w vs u) :
      SpellsItems v (w :: vs) (t ++ ',' :: (b ++ u))

inductive SpellsMembers : String × Json → List (String × Json) → List Char → Prop
  | last {k : String} {v : Json} {g t b : List Char} (gap : Blanks g) (spells : Spells v t) (blank : Blanks b) :
      SpellsMembers (k, v) [] (quote k ++ ':' :: (g ++ t) ++ b)
  | more {k : String} {v : Json} {f : String × Json} {es : List (String × Json)} {g t b u : List Char} (gap : Blanks g)
      (spells : Spells v t) (blank : Blanks b) (later : SpellsMembers f es u) :
      SpellsMembers (k, v) (f :: es) (quote k ++ ':' :: (g ++ t) ++ ',' :: (b ++ u))

end

end

section

variable {floats : Floats} {v : Json} {t : List Char}

theorem Spells.opens (spells : Spells floats v t) : Opens t := by
  cases spells with
  | atomic => exact text_opens v
  | emptyList => exact ⟨'[', _, rfl, by decide, by decide⟩
  | list => exact ⟨'[', _, rfl, by decide, by decide⟩
  | emptyDict => exact ⟨'\x7b', _, rfl, by decide, by decide⟩
  | dict => exact ⟨'\x7b', _, rfl, by decide, by decide⟩

theorem SpellsItems.opens {vs : List Json} (spells : SpellsItems floats v vs t) : Opens t := by
  cases spells with
  | last spells => exact spells.opens.append
  | more spells => exact spells.opens.append

theorem SpellsMembers.opens {e : String × Json} {es : List (String × Json)} (spells : SpellsMembers floats e es t) :
    ∃ tail, t = '"' :: tail := by
  cases spells with
  | last => exact ⟨_, rfl⟩
  | more => exact ⟨_, rfl⟩

theorem Opens.length (opens : Opens t) : 1 ≤ t.length := by
  obtain ⟨c, tail, rfl, -⟩ := opens
  simp

theorem ended_blanks {b rest : List Char} {c : Char} (blank : Blanks b) (other : isNumberChar c = false) : Ended (b ++ c :: rest) := by
  cases b with
  | nil => exact ended_cons other
  | cons d b =>
    have space := blank d List.mem_cons_self
    refine ended_cons ?_
    simp only [isBlank, Bool.or_eq_true, decide_eq_true_eq] at space
    rcases space with ((rfl | rfl) | rfl) | rfl <;> decide

variable (floats)

/-- With this much fuel every text of a value is read as the value. -/
def ReadsSpelled (n : Nat) : Prop := ∀ v t rest, Spells floats v t → 2 * t.length + 1 ≤ n → Ended rest →
  value floats n (t ++ rest) = some (reread v, rest)

def ReadsSpelledItems (n : Nat) : Prop := ∀ v vs t rest, SpellsItems floats v vs t → 2 * t.length + 2 ≤ n →
  items floats n (t ++ ']' :: rest) = some (reread v :: rereadAll vs, rest)

def ReadsSpelledMembers (n : Nat) : Prop := ∀ e es t rest, SpellsMembers floats e es t → 2 * t.length + 2 ≤ n →
  members floats n (t ++ '\x7d' :: rest) = some ((e.1, reread e.2) :: rereadEntries es, rest)

variable {floats}

theorem readsSpelled_succ {n : Nat} (readsItems : ReadsSpelledItems floats n) (readsMembers : ReadsSpelledMembers floats n)
    (values : ReadsValue floats {} (n + 1)) : ReadsSpelled floats (n + 1) := by
  intro v t rest spells enough ended
  cases spells with
  | atomic => exact values v rest enough ended
  | emptyList => simp [value, skip, isBlank, after?, reread, rereadAll]
  | @list v vs b t blank items =>
    simp only [List.length_append, List.length_cons] at enough
    have read := readsItems v vs t rest items (by omega)
    have opens : Opens (t ++ (']' :: rest)) := items.opens.append
    rw [List.append_assoc, List.cons_append, value, if_neg (by decide), if_pos rfl, List.append_assoc, List.cons_append,
      List.nil_append, skip_blanks blank, skip_opens opens, bracket_opens opens, read]
    rfl
  | emptyDict => simp [value, skip, isBlank, after?, reread, rereadEntries, Dict.ofList]
  | @dict e es b t blank members =>
    simp only [List.length_append, List.length_cons] at enough
    have read := readsMembers e es t rest members (by omega)
    obtain ⟨tail, opens⟩ := members.opens
    rw [List.append_assoc, List.cons_append, value, if_neg (by decide), if_neg (by decide), if_pos rfl, List.append_assoc,
      List.cons_append, List.nil_append, skip_blanks blank]
    rw [opens] at read ⊢
    rw [List.cons_append] at read ⊢
    rw [skip_cons (by decide), after?_other (by decide), read]
    rfl

theorem readsSpelledItems_succ {n : Nat} (readsValue : ReadsSpelled floats n) (readsItems : ReadsSpelledItems floats n) :
    ReadsSpelledItems floats (n + 1) := by
  intro v vs t rest spells enough
  cases spells with
  | @last _ t b spells blank =>
    simp only [List.length_append] at enough
    have read := readsValue v t (b ++ ']' :: rest) spells (by omega) (ended_blanks blank (by decide))
    rw [List.append_assoc, items, read]
    simp only [Option.bind_eq_bind, Option.bind_some, skip_blanks blank, skip_cons (show isBlank ']' = false by decide),
      after?_same, after?]
    rfl
  | @more _ w vs t b u spells blank later =>
    have longer := spells.opens.length
    simp only [List.length_append, List.length_cons] at enough
    have read := readsValue v t (',' :: (b ++ (u ++ ']' :: rest))) spells (by omega) (ended_cons (by decide))
    have rest' := readsItems w vs u rest later (by omega)
    rw [List.append_assoc, List.cons_append, List.append_assoc, items, read]
    simp only [Option.bind_eq_bind, Option.bind_some, skip_cons (show isBlank ',' = false by decide)]
    rw [after?_other (by decide), after?_same]
    simp only [after?, Option.bind_some]
    rw [skip_blanks blank, skip_opens later.opens.append, rest']
    rfl

theorem readsSpelledMembers_succ {n : Nat} (readsValue : ReadsSpelled floats n) (readsMembers : ReadsSpelledMembers floats n) :
    ReadsSpelledMembers floats (n + 1) := by
  intro e es t rest spells enough
  cases spells with
  | @last k v g t b gap spells blank =>
    have longer := length_le_escaped k.toList
    have name : quote k ++ ':' :: (g ++ t) ++ b ++ '\x7d' :: rest =
        '"' :: (k.toList.flatMap escapeChar ++ '"' :: ':' :: (g ++ (t ++ (b ++ '\x7d' :: rest)))) := by
      simp [quote]
    simp only [quote, List.length_append, List.length_cons, List.length_nil] at enough
    have read := readsValue v t (b ++ '\x7d' :: rest) spells (by omega) (ended_blanks blank (by decide))
    rw [name, members, after?_same]
    simp only [after?, Option.bind_eq_bind, Option.bind_some]
    rw [stringBody_escaped (by omega)]
    simp only [Option.bind_some, skip_cons (show isBlank ':' = false by decide), after?_same, after?]
    rw [skip_blanks gap, skip_opens spells.opens.append, read]
    simp only [Option.bind_some, skip_blanks blank, skip_cons (show isBlank '\x7d' = false by decide), after?_same, after?,
      String.ofList_toList]
    rfl
  | @more k v f es g t b u gap spells blank later =>
    have longer := length_le_escaped k.toList
    have name : quote k ++ ':' :: (g ++ t) ++ ',' :: (b ++ u) ++ '\x7d' :: rest =
        '"' :: (k.toList.flatMap escapeChar ++ '"' :: ':' :: (g ++ (t ++ ',' :: (b ++ (u ++ '\x7d' :: rest))))) := by
      simp [quote]
    simp only [quote, List.length_append, List.length_cons, List.length_nil] at enough
    have read := readsValue v t (',' :: (b ++ (u ++ '\x7d' :: rest))) spells (by omega) (ended_cons (by decide))
    have rest' := readsMembers f es u rest later (by omega)
    obtain ⟨tail, opens⟩ := later.opens
    rw [name, members, after?_same]
    simp only [after?, Option.bind_eq_bind, Option.bind_some]
    rw [stringBody_escaped (by omega)]
    simp only [Option.bind_some, skip_cons (show isBlank ':' = false by decide), after?_same, after?]
    rw [skip_blanks gap, skip_opens spells.opens.append, read]
    simp only [Option.bind_some, skip_cons (show isBlank ',' = false by decide)]
    rw [after?_other (by decide), after?_same]
    simp only [after?, Option.bind_some]
    rw [skip_blanks blank]
    rw [opens, List.cons_append] at rest' ⊢
    rw [skip_cons (by decide), rest']
    simp [rereadEntries]

theorem reads_spelled (n : Nat) : ReadsSpelled floats n ∧ ReadsSpelledItems floats n ∧ ReadsSpelledMembers floats n := by
  induction n with
  | zero =>
    refine ⟨fun v t rest spells enough => ?_, fun v vs t rest spells enough => ?_, fun e es t rest spells enough => ?_⟩ <;> omega
  | succ n ih =>
    obtain ⟨values, items, members⟩ := ih
    exact ⟨readsSpelled_succ items members (reads spaced_default (n + 1)).1, readsSpelledItems_succ values items,
      readsSpelledMembers_succ values members⟩

/-- Whatever white space it has. -/
theorem loads_spelled (spells : Spells floats v t) : loads floats (String.ofList t) = some (reread v) := by
  have read := (reads_spelled (2 * t.length + 1)).1 v t [] spells le_rfl ended_nil
  rw [List.append_nil] at read
  unfold loads
  simp only [String.toList_ofList]
  rw [skip_opens spells.opens, read]
  rfl

/-! ### An indent -/

variable {indent : Nat}

theorem blanks_newline (level : Nat) : Blanks (newline indent level) := by
  intro c member
  rcases List.mem_cons.mp member with rfl | member
  · decide
  · obtain ⟨-, rfl⟩ := List.mem_replicate.mp member
    decide

/-- The parts of a block that has some, up to the closing bracket. -/
def parts (indent level : Nat) (ts : List (List Char)) : List Char :=
  separate (',' :: newline indent (level + 1)) ts ++ newline indent level

theorem block_parts {level : Nat} {opening closing : Char} {u : List Char} {us : List (List Char)} :
    block indent level opening closing (u :: us) =
      opening :: (newline indent (level + 1) ++ parts indent level (u :: us)) ++ [closing] := by
  simp [block, parts]

theorem parts_cons {level : Nat} {u w : List Char} {us : List (List Char)} :
    parts indent level (u :: w :: us) = u ++ ',' :: (newline indent (level + 1) ++ parts indent level (w :: us)) := by
  simp [parts, separate_cons]

mutual

theorem indented_spells : ∀ (level : Nat) (v : Json), Spells floats v (indented floats.repr indent level v)
  | _, .null => .atomic trivial
  | _, .bool _ => .atomic trivial
  | _, .int _ => .atomic trivial
  | _, .float _ => .atomic trivial
  | _, .str _ => .atomic trivial
  | level, .list vs => by
    rw [indented]
    rcases indentedItems_spells level vs with rfl | ⟨v, ws, rfl, items⟩
    · exact .emptyList
    · rw [indentedItems, block_parts]
      exact .list (blanks_newline _) items
  | level, .dict es => by
    rw [indented]
    rcases indentedEntries_spells level es with rfl | ⟨e, fs, rfl, members⟩
    · exact .emptyDict
    · rw [indentedEntries, block_parts]
      exact .dict (blanks_newline _) members

theorem indentedItems_spells : ∀ (level : Nat) (vs : List Json), vs = [] ∨ ∃ v ws, vs = v :: ws ∧
    SpellsItems floats v ws (parts indent level (indentedItems floats.repr indent (level + 1) vs))
  | _, [] => .inl rfl
  | level, v :: vs => by
    have here := indented_spells (level + 1) v
    refine .inr ⟨v, vs, rfl, ?_⟩
    rcases indentedItems_spells level vs with rfl | ⟨w, ws, rfl, later⟩
    · exact .last here (blanks_newline level)
    · rw [indentedItems, indentedItems, parts_cons]
      exact .more here (blanks_newline _) later

theorem indentedEntries_spells : ∀ (level : Nat) (es : List (String × Json)), es = [] ∨ ∃ e fs, es = e :: fs ∧
    SpellsMembers floats e fs (parts indent level (indentedEntries floats.repr indent (level + 1) es))
  | _, [] => .inl rfl
  | level, (k, v) :: es => by
    have here := indented_spells (level + 1) v
    have gap : Blanks [' '] := List.forall_mem_singleton.mpr rfl
    have inner : Blanks (newline indent (level + 1)) := blanks_newline _
    have outer : Blanks (newline indent level) := blanks_newline _
    refine .inr ⟨(k, v), es, rfl, ?_⟩
    rcases indentedEntries_spells level es with rfl | ⟨f, fs, rfl, later⟩
    · have spells := SpellsMembers.last (k := k) gap here outer
      simpa [parts, separate, indentedEntries] using spells
    · have spells := SpellsMembers.more (k := k) gap here inner later
      rw [indentedEntries, indentedEntries, parts_cons]
      rw [indentedEntries] at spells
      simpa using spells

end

/-- `json.loads(json.dumps(v, indent=indent))` -/
theorem loads_dumpsIndented (v : Json) : loads floats (dumpsIndented floats.repr indent v) = some (reread v) :=
  loads_spelled (indented_spells 0 v)

end

end ControlPlane.Data.Json
