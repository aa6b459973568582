import ControlPlane.Data.Json.RoundTrip
import Mathlib.Data.List.DropRight

/-!
# Files of records, one JSON line each

`read_text().strip().splitlines()` and the text such files are written as. What was
written is read back, line by line.
-/

namespace ControlPlane.Data

/-! ### Lines of a text -/

/-- `str.isspace` -/
def isSpace (c : Char) : Bool :=
  let n := c.toNat
  (9 ≤ n && n ≤ 13) || (28 ≤ n && n ≤ 32) || n = 0x85 || n = 0xa0 || n = 0x1680 || (0x2000 ≤ n && n ≤ 0x200a) ||
    n = 0x2028 || n = 0x2029 || n = 0x202f || n = 0x205f || n = 0x3000

/-- Where `str.splitlines` ends a line. -/
def isBreak (c : Char) : Bool :=
  let n := c.toNat
  (10 ≤ n && n ≤ 13) || (28 ≤ n && n ≤ 30) || n = 0x85 || n = 0x2028 || n = 0x2029

def strip (cs : List Char) : List Char := (cs.dropWhile isSpace).rdropWhile isSpace

/-- `\r\n` and `\r` are read as `\n`. -/
def universalNewlines (afterReturn : Bool) : List Char → List Char
  | [] => []
  | c :: rest =>
    if c = '\r' then '\n' :: universalNewlines true rest
    else if c = '\n' ∧ afterReturn = true then universalNewlines false rest
    else c :: universalNewlines false rest

/-- `str.splitlines` of a text without `\r`. -/
def splitlines : List Char → List (List Char)
  | [] => []
  | c :: rest =>
    if isBreak c then [] :: splitlines rest
    else
      match splitlines rest with
      | [] => [[c]]
      | line :: lines => (c :: line) :: lines

/-- `path.read_text().strip().splitlines()` -/
def fileLines (content : String) : List (List Char) := splitlines (strip (universalNewlines false content.toList))

/-- Each line with its newline. -/
def joinLines (lines : List (List Char)) : List Char := lines.flatMap (· ++ ['\n'])

/-- A line that `strip` and `splitlines` leave as it is. -/
structure Solid (line : List Char) : Prop where
  whole : ∀ c ∈ line, isBreak c = false
  first : ∃ c rest, line = c :: rest ∧ isSpace c = false
  last : ∃ c rest, line = rest ++ [c] ∧ isSpace c = false

section

variable {line rest : List Char} {lines : List (List Char)}

theorem universalNewlines_plain {cs : List Char} (plain : '\r' ∉ cs) : universalNewlines false cs = cs := by
  induction cs with
  | nil => rfl
  | cons c cs ih =>
    obtain ⟨other, later⟩ := not_or.mp fun member => plain (List.mem_cons.mpr member)
    rw [universalNewlines, if_neg (Ne.symm other), if_neg (by simp), ih later]

theorem splitlines_cons {c : Char} (other : isBreak c = false) :
    splitlines (c :: rest) = match splitlines rest with
      | [] => [[c]]
      | line :: lines => (c :: line) :: lines := by
  rw [splitlines, if_neg (by simp [other])]

theorem splitlines_line (whole : ∀ c ∈ line, isBreak c = false) :
    splitlines (line ++ '\n' :: rest) = line :: splitlines rest := by
  induction line with
  | nil =>
    rw [List.nil_append, splitlines, if_pos (by decide)]
  | cons c line ih =>
    have later := ih fun d member => whole d (List.mem_cons_of_mem _ member)
    rw [List.cons_append, splitlines_cons (whole c List.mem_cons_self), later]

theorem splitlines_last (whole : ∀ c ∈ line, isBreak c = false) (some : line ≠ []) : splitlines line = [line] := by
  induction line with
  | nil => exact absurd rfl some
  | cons c line ih =>
    rw [splitlines_cons (whole c List.mem_cons_self)]
    cases line with
    | nil => rfl
    | cons d line => rw [ih (fun e member => whole e (List.mem_cons_of_mem _ member)) (by simp)]

theorem strip_solid {c d : Char} {middle : List Char} (opens : isSpace c = false)
    (ends : ∃ front, c :: middle = front ++ [d] ∧ isSpace d = false) : strip (c :: middle ++ ['\n']) = c :: middle := by
  obtain ⟨front, same, solid⟩ := ends
  have head : (c :: middle ++ ['\n']).dropWhile isSpace = c :: middle ++ ['\n'] := by
    simp [opens]
  unfold strip
  rw [head, List.rdropWhile_concat_pos _ _ _ (by decide), same, List.rdropWhile_concat_neg _ _ _ (by simp [solid])]

/-- Solid lines, without the newline of the last. -/
theorem joinLines_body (solid : ∀ l ∈ line :: lines, Solid l) : ∃ body, joinLines (line :: lines) = body ++ ['\n'] ∧
    (∃ d front, body = front ++ [d] ∧ isSpace d = false) ∧ (∃ tail, body = line ++ tail) ∧
    splitlines body = line :: lines := by
  induction lines generalizing line with
  | nil =>
    have here := solid line List.mem_cons_self
    obtain ⟨d, front, same, plain⟩ := here.last
    refine ⟨line, by simp [joinLines], ⟨d, front, same, plain⟩, ⟨[], by simp⟩, ?_⟩
    exact splitlines_last here.whole (by simp [same])
  | cons next lines ih =>
    obtain ⟨body, split, ⟨d, front, same, plain⟩, -, read⟩ := ih fun l member => solid l (List.mem_cons_of_mem _ member)
    refine ⟨line ++ '\n' :: body, ?_, ⟨d, line ++ '\n' :: front, by simp [same], plain⟩, ⟨_, rfl⟩, ?_⟩
    · have here : joinLines (line :: next :: lines) = line ++ '\n' :: joinLines (next :: lines) := by
        simp [joinLines]
      rw [here, split]
      simp
    · rw [splitlines_line (solid line List.mem_cons_self).whole, read]

theorem joinLines_plain (solid : ∀ l ∈ lines, Solid l) : '\r' ∉ joinLines lines := by
  intro member
  obtain ⟨line, mem, inside⟩ := List.mem_flatMap.mp member
  rcases List.mem_append.mp inside with inside | newline
  · have whole := (solid line mem).whole _ inside
    exact absurd whole (by decide)
  · exact absurd newline (by decide)

theorem splitlines_join (solid : ∀ l ∈ lines, Solid l) : splitlines (joinLines lines) = lines := by
  induction lines with
  | nil => rfl
  | cons line lines ih =>
    have later := ih fun l member => solid l (List.mem_cons_of_mem _ member)
    have split : joinLines (line :: lines) = line ++ '\n' :: joinLines lines := by simp [joinLines]
    rw [split, splitlines_line (solid line List.mem_cons_self).whole, later]

/-- The lines that were written. -/
theorem fileLines_join (solid : ∀ l ∈ lines, Solid l) : fileLines (String.ofList (joinLines lines)) = lines := by
  unfold fileLines
  rw [String.toList_ofList, universalNewlines_plain (joinLines_plain solid)]
  cases lines with
  | nil => rfl
  | cons line lines =>
    obtain ⟨body, split, ⟨d, front, same, stops⟩, ⟨tail, opens⟩, read⟩ := joinLines_body solid
    obtain ⟨c, middle, first, start⟩ := (solid line List.mem_cons_self).first
    have begin : body = c :: (middle ++ tail) := by rw [opens, first, List.cons_append]
    rw [split, begin, strip_solid start ⟨front, begin ▸ same, stops⟩, ← begin, read]

theorem Solid.notBlank (solid : Solid line) : line.all isSpace = false := by
  obtain ⟨c, rest, same, plain⟩ := solid.first
  rw [same, List.all_cons, plain, Bool.false_and]

end

/-! ### JSON on a line -/

namespace Json

/-- `' '` to `'~'` -/
def Printable (t : List Char) : Prop := ∀ c ∈ t, 32 ≤ c.toNat ∧ c.toNat ≤ 126

theorem printable_of_all {t : List Char} (all : t.all (fun c => 32 ≤ c.toNat && c.toNat ≤ 126) = true) : Printable t := by
  intro c member
  have inside := List.all_eq_true.mp all c member
  rw [Bool.and_eq_true, decide_eq_true_eq, decide_eq_true_eq] at inside
  exact inside

theorem Printable.append {t u : List Char} (first : Printable t) (second : Printable u) : Printable (t ++ u) := by
  intro c member
  rcases List.mem_append.mp member with member | member
  · exact first c member
  · exact second c member

theorem isNumberChar_printable {c : Char} (number : isNumberChar c = true) : 32 ≤ c.toNat ∧ c.toNat ≤ 126 := by
  simp only [isNumberChar, Bool.or_eq_true, decide_eq_true_eq] at number
  rcases number with ((((digit | rfl) | rfl) | rfl) | rfl) | rfl
  · have zero : '0'.toNat = 48 := rfl
    have nine : '9'.toNat = 57 := rfl
    rw [Char.isDigit_iff_toNat] at digit
    omega
  all_goals decide

theorem Numeric.printable {t : List Char} (numeric : Numeric t) : Printable t :=
  fun c member => isNumberChar_printable (numeric.all c member)

theorem hexDigit_printable : ∀ d < 16, 32 ≤ (hexDigit d).toNat ∧ (hexDigit d).toNat ≤ 126 := by decide

theorem unicodeEscape_printable (n : Nat) : Printable (unicodeEscape n) := by
  intro c member
  simp only [unicodeEscape, List.mem_cons, List.not_mem_nil, or_false] at member
  rcases member with rfl | rfl | rfl | rfl | rfl | rfl
  · decide
  · decide
  all_goals exact hexDigit_printable _ (Nat.mod_lt _ (by decide))

theorem escapeChar_printable (c : Char) : Printable (escapeChar c) := by
  unfold escapeChar
  iterate 7
    split
    · subst_vars
      apply printable_of_all
      decide
  split
  · rename_i printable
    intro d member
    obtain rfl := List.mem_singleton.mp member
    obtain ⟨low, high⟩ := printable
    rw [Char.le_def, UInt32.le_iff_toNat_le] at low high
    exact ⟨low, high⟩
  split
  · exact unicodeEscape_printable _
  · exact (unicodeEscape_printable _).append (unicodeEscape_printable _)

theorem quote_printable (s : String) : Printable (quote s) := by
  intro c member
  rcases List.mem_append.mp member with member | last
  · rcases List.mem_cons.mp member with rfl | member
    · decide
    · obtain ⟨d, -, inside⟩ := List.mem_flatMap.mp member
      exact escapeChar_printable d c inside
  · obtain rfl := List.mem_singleton.mp last
    decide

theorem separate_printable {separator : List Char} {ts : List (List Char)} (plain : Printable separator)
    (all : ∀ t ∈ ts, Printable t) : Printable (separate separator ts) := by
  induction ts with
  | nil =>
    intro c member
    cases member
  | cons t ts ih =>
    have later := ih fun u member => all u (List.mem_cons_of_mem _ member)
    have here := all t List.mem_cons_self
    cases ts with
    | nil => exact here
    | cons u ts =>
      rw [separate_cons]
      exact (here.append plain).append later

section

variable (floats : Floats)

mutual

theorem text_printable : ∀ v : Json, Printable (text floats.repr {} v)
  | .null => (printable_of_all (by decide) : Printable "null".toList)
  | .bool true => (printable_of_all (by decide) : Printable "true".toList)
  | .bool false => (printable_of_all (by decide) : Printable "false".toList)
  | .int i => (numeric_intText i).printable
  | .float .nan => (printable_of_all (by decide) : Printable "NaN".toList)
  | .float .negInf => (printable_of_all (by decide) : Printable "-Infinity".toList)
  | .float .posInf => (printable_of_all (by decide) : Printable "Infinity".toList)
  | .float (.fin q) => (numeric_float (floats.written q)).printable
  | .str s => quote_printable s
  | .list xs => by
    have inside := separate_printable (printable_of_all (by decide) : Printable [',', ' ']) (texts_printable xs)
    rw [text]
    exact (Printable.append (t := ['[']) (printable_of_all (by decide)) inside).append (printable_of_all (by decide))
  | .dict entries => by
    have members : ∀ t ∈ (entryTexts floats.repr {} entries).map fun e => quote e.1 ++ [':', ' '] ++ e.2, Printable t := by
      intro t member
      obtain ⟨e, inside, rfl⟩ := List.mem_map.mp member
      exact ((quote_printable e.1).append (printable_of_all (by decide))).append (entryTexts_printable entries e inside)
    have inside := separate_printable (printable_of_all (by decide) : Printable [',', ' ']) members
    rw [text]
    exact (Printable.append (t := ['\x7b']) (printable_of_all (by decide)) inside).append (printable_of_all (by decide))

theorem texts_printable : ∀ vs : List Json, ∀ t ∈ texts floats.repr {} vs, Printable t
  | [] => by
    intro t member
    cases member
  | v :: rest => by
    intro t member
    rw [texts] at member
    rcases List.mem_cons.mp member with rfl | member
    · exact text_printable v
    · exact texts_printable rest t member

theorem entryTexts_printable : ∀ es : List (String × Json), ∀ e ∈ entryTexts floats.repr {} es, Printable e.2
  | [] => by
    intro e member
    cases member
  | (k, v) :: rest => by
    intro e member
    rw [entryTexts] at member
    rcases List.mem_cons.mp member with rfl | member
    · exact text_printable v
    · exact entryTexts_printable rest e member

end

/-- A record as it stands in the file. -/
def lineOf (record : Dict String Json) : List Char := text floats.repr {} (.dict record)

theorem lineOf_solid (record : Dict String Json) : Solid (lineOf floats record) := by
  refine ⟨fun c member => ?_, ?_, ?_⟩
  · have printable := text_printable floats (.dict record) c member
    simp only [isBreak, Bool.or_eq_false_iff, Bool.and_eq_false_iff, decide_eq_false_iff_not]
    omega
  · unfold lineOf
    rw [text]
    exact ⟨'\x7b', _, rfl, by decide⟩
  · unfold lineOf
    rw [text]
    exact ⟨'\x7d', _, rfl, by decide⟩

/-- The file of these records. -/
def writeLines (records : List (Dict String Json)) : String := String.ofList (joinLines (records.map (lineOf floats)))

/-- The lines of a file that are not blank, as `json.loads` reads them. -/
def readLines (content : String) : List (Option Json) :=
  ((fileLines content).filter fun line => !line.all isSpace).map fun line => loads floats (String.ofList line)

variable {floats}

theorem loads_lineOf {record : Dict String Json} (keyed : Keyed (.dict record)) :
    loads floats (String.ofList (lineOf floats record)) = some (.dict record) := loads_dumps spaced_default keyed

/-- Records that were written are read back. -/
theorem readLines_writeLines {records : List (Dict String Json)} (keyed : ∀ r ∈ records, Keyed (.dict r)) :
    readLines floats (writeLines floats records) = records.map fun r => some (.dict r) := by
  have solid : ∀ l ∈ records.map (lineOf floats), Solid l := by
    intro l member
    obtain ⟨r, -, rfl⟩ := List.mem_map.mp member
    exact lineOf_solid floats r
  have kept : (records.map (lineOf floats)).filter (fun line => !line.all isSpace) = records.map (lineOf floats) := by
    rw [List.filter_eq_self]
    intro l member
    rw [(solid l member).notBlank]
    rfl
  unfold readLines writeLines
  rw [fileLines_join solid, kept, List.map_map]
  refine List.map_congr_left fun r member => ?_
  exact loads_lineOf (keyed r member)

end

end Json

end ControlPlane.Data
