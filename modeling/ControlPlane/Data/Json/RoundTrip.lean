import ControlPlane.Data.Json.Loads
import Mathlib.Data.List.TakeWhile
import Mathlib.Data.Nat.Digits.Defs

/-!
# What `json.dumps` writes, `json.loads` reads
-/

namespace ControlPlane.Data.Json

/-! ### Strings -/

theorem hexValue_hexDigit : ∀ d < 16, hexValue (hexDigit d) = some d := by decide

theorem codeUnit_append {n : Nat} (small : n < 0x10000) (rest : List Char) :
    codeUnit (hexDigit (n / 4096 % 16) :: hexDigit (n / 256 % 16) :: hexDigit (n / 16 % 16) :: hexDigit (n % 16) :: rest) =
      some (n, rest) := by
  have value : 4096 * (n / 4096 % 16) + 256 * (n / 256 % 16) + 16 * (n / 16 % 16) + n % 16 = n := by omega
  simp [codeUnit, hexValue_hexDigit _ (Nat.mod_lt _ (by omega : 0 < 16)), value]

theorem character_unicodeEscape {n : Nat} {rest : List Char} (small : n < 0x10000) (plain : n < 0xd800 ∨ 0xe000 ≤ n) :
    character (unicodeEscape n ++ rest) = some (Char.ofNat n, rest) := by
  have unit := codeUnit_append small rest
  have noHigh : ¬ (0xd800 ≤ n ∧ n < 0xdc00) := by omega
  have noLow : ¬ (0xdc00 ≤ n ∧ n < 0xe000) := by omega
  simp [character, unicodeEscape, escapedUnit, unit, noHigh, noLow]

theorem character_surrogates {high low : Nat} {rest : List Char} (first : 0xd800 ≤ high ∧ high < 0xdc00)
    (second : 0xdc00 ≤ low ∧ low < 0xe000) : character (unicodeEscape high ++ unicodeEscape low ++ rest) =
      some (Char.ofNat (0x10000 + (high - 0xd800) * 1024 + (low - 0xdc00)), rest) := by
  have unit₁ := codeUnit_append (by omega : high < 0x10000)
  have unit₂ := codeUnit_append (by omega : low < 0x10000) rest
  simp [character, unicodeEscape, escapedUnit, unit₁, unit₂, after?, first, second]

theorem toNat_valid (c : Char) : c.toNat < 0xd800 ∨ 0xdfff < c.toNat ∧ c.toNat < 0x110000 := c.valid

/-- One escaped character is read as itself. -/
theorem character_escapeChar (c : Char) (rest : List Char) : character (escapeChar c ++ rest) = some (c, rest) := by
  unfold escapeChar
  split
  · subst_vars
    simp [character, unescape]
  split
  · subst_vars
    simp [character, unescape]
  split
  · subst_vars
    simp [character, unescape]
  split
  · subst_vars
    simp [character, unescape]
  split
  · subst_vars
    simp [character, unescape]
  split
  · subst_vars
    simp [character, unescape]
  split
  · subst_vars
    simp [character, unescape]
  split
  · rename_i quote backslash _ _ _ _ _ printable
    have low : ¬ c.toNat < 32 := by
      have := printable.1
      rw [Char.le_def, UInt32.le_iff_toNat_le] at this
      exact Nat.not_lt.mpr this
    simp [character, backslash, low]
  have valid := toNat_valid c
  split
  · rename_i small
    have same : Char.ofNat c.toNat = c := Char.ofNat_toNat c
    rw [character_unicodeEscape small (by omega), same]
  · rename_i large
    rw [character_surrogates (by omega) (by omega)]
    have same : 0x10000 + (0xd800 + (c.toNat - 0x10000) / 1024 - 0xd800) * 1024 +
        (0xdc00 + (c.toNat - 0x10000) % 1024 - 0xdc00) = c.toNat := by omega
    rw [same, Char.ofNat_toNat]

/-- An escaped character does not begin with a quote. -/
theorem escapeChar_head (c : Char) (rest : List Char) : after? ['"'] (escapeChar c ++ rest) = none := by
  by_cases quote : c = '"'
  · subst quote
    simp [escapeChar, after?]
  · have other : ¬ '"' = c := Ne.symm quote
    unfold escapeChar
    repeat' split
    all_goals simp [after?, unicodeEscape, other]

theorem escapeChar_length (c : Char) : 1 ≤ (escapeChar c).length := by
  unfold escapeChar
  repeat' split
  all_goals simp [unicodeEscape]

theorem stringBody_escaped {cs : List Char} {n : Nat} {rest : List Char} (enough : cs.length + 1 ≤ n) :
    stringBody n (cs.flatMap escapeChar ++ '"' :: rest) = some (cs, rest) := by
  induction cs generalizing n with
  | nil =>
    obtain ⟨n, rfl⟩ : ∃ m, n = m + 1 := ⟨n - 1, by simp at enough; omega⟩
    simp [stringBody, after?]
  | cons c cs ih =>
    obtain ⟨n, rfl⟩ : ∃ m, n = m + 1 := ⟨n - 1, by simp at enough; omega⟩
    rw [List.flatMap_cons, List.append_assoc, stringBody, escapeChar_head]
    have later : stringBody n (cs.flatMap escapeChar ++ '"' :: rest) = some (cs, rest) := by
      refine ih ?_
      simp at enough
      omega
    simp [character_escapeChar, later]

theorem length_le_escaped (cs : List Char) : cs.length ≤ (cs.flatMap escapeChar).length := by
  induction cs with
  | nil => simp
  | cons c cs ih =>
    have here := escapeChar_length c
    simp only [List.flatMap_cons, List.length_cons, List.length_append]
    omega

/-! ### Numbers -/

/-- What comes next is no part of a number. -/
def Ended (rest : List Char) : Prop := ∀ c, rest.head? = some c → isNumberChar c = false

theorem span_ended {t rest : List Char} (all : ∀ c ∈ t, isNumberChar c = true) (ended : Ended rest) :
    (t ++ rest).takeWhile isNumberChar = t ∧ (t ++ rest).dropWhile isNumberChar = rest := by
  rw [List.takeWhile_append_of_pos all, List.dropWhile_append_of_pos all]
  cases rest with
  | nil => simp
  | cons c rest =>
    have stop := ended c rfl
    simp [stop]

theorem isNumberChar_of_isDigit {c : Char} (digit : c.isDigit = true) : isNumberChar c = true := by
  simp [isNumberChar, digit]

theorem digits_isDigit {n : Nat} : ∀ c ∈ digits n, c.isDigit = true :=
  fun _ member => Nat.isDigit_of_mem_toDigits (by decide) (by decide) member

theorem isDigits_digits {n : Nat} : isDigits (digits n) = true := by
  simp only [isDigits, Bool.and_eq_true, List.all_eq_true]
  exact ⟨by simp [digits], digits_isDigit⟩

/-- The digits of a number have no leading zero. -/
theorem isWhole_digits (n : Nat) : isWhole (digits n) = true := by
  have leading : (digits n).head? ≠ some '0' ∨ digits n = ['0'] := by
    unfold digits
    induction n using Nat.strongRecOn with
    | _ n ih =>
      by_cases small : n < 10
      · rw [Nat.toDigits_of_lt_base small]
        clear ih
        revert n
        decide
      · rw [Nat.toDigits_of_base_le (by decide) (by omega)]
        left
        have shorter : 0 < n / 10 := by omega
        rcases ih (n / 10) (by omega) with other | zero
        · rwa [List.head?_append_of_ne_nil _ (by simp)]
        · have value : Nat.ofDigitChars 10 (Nat.toDigits 10 (n / 10)) 0 = n / 10 := Nat.ofDigitChars_ten_toDigits
          rw [zero] at value
          simp [Nat.ofDigitChars] at value
          omega
  simp only [isWhole, isDigits_digits, Bool.true_and, Bool.or_eq_true, decide_eq_true_eq]
  exact leading

theorem digitsValue_digits (n : Nat) : digitsValue (digits n) = n := Nat.ofDigitChars_ten_toDigits

theorem digit_ne {c l : Char} (digit : c.isDigit = true) (other : l.isDigit = false) : l ≠ c := by
  intro same
  rw [same, digit] at other
  cases other

/-- The text of a number: a digit, or a sign and a digit, and then characters of numbers. -/
structure Numeric (t : List Char) : Prop where
  all : ∀ c ∈ t, isNumberChar c = true
  opens : ∃ d tail, d.isDigit = true ∧ (t = d :: tail ∨ t = '-' :: d :: tail)

theorem isWhole_opens {t : List Char} (whole : isWhole (t.takeWhile Char.isDigit) = true) :
    ∃ d tail, d.isDigit = true ∧ t = d :: tail := by
  cases t with
  | nil => simp [isWhole, isDigits] at whole
  | cons d tail =>
    by_cases digit : d.isDigit = true
    · exact ⟨d, tail, digit, rfl⟩
    · simp [isWhole, isDigits, digit] at whole

theorem isDigits_all {t : List Char} (digits : isDigits t = true) : ∀ c ∈ t, isNumberChar c = true := by
  simp only [isDigits, Bool.and_eq_true, List.all_eq_true] at digits
  intro c member
  exact isNumberChar_of_isDigit (digits.2 c member)

theorem isExponent_all {t : List Char} (exponent : isExponent t = true) : ∀ c ∈ t, isNumberChar c = true := by
  cases t with
  | nil => simp
  | cons e rest =>
    simp only [isExponent, Bool.and_eq_true, Bool.or_eq_true, decide_eq_true_eq] at exponent
    obtain ⟨letter, some⟩ := exponent
    intro c member
    rcases List.mem_cons.mp member with rfl | member
    · rcases letter with rfl | rfl <;> rfl
    · split at some
      · rename_i sign
        cases rest with
        | nil => cases member
        | cons s rest =>
          rcases List.mem_cons.mp member with rfl | member
          · simp only [List.head?_cons, Option.some.injEq] at sign
            rcases sign with rfl | rfl <;> rfl
          · exact isDigits_all some c member
      · exact isDigits_all some c member

theorem isFraction_all {t : List Char} (fraction : isFraction t = true) : ∀ c ∈ t, isNumberChar c = true := by
  cases t with
  | nil => simp
  | cons p rest =>
    simp only [isFraction] at fraction
    split at fraction
    · rename_i point
      obtain ⟨some, exponent⟩ := Bool.and_eq_true_iff.mp fraction
      intro c member
      rcases List.mem_cons.mp member with rfl | member
      · rw [point]
        rfl
      · rw [← List.takeWhile_append_dropWhile (p := Char.isDigit) (l := rest)] at member
        rcases List.mem_append.mp member with first | second
        · exact isDigits_all some c first
        · exact isExponent_all exponent c second
    · exact isExponent_all fraction

theorem unsigned_cases (t : List Char) : t = unsigned t ∨ t = '-' :: unsigned t := by
  unfold unsigned
  split
  · rename_i sign
    cases t with
    | nil => cases sign
    | cons c t =>
      simp only [List.head?_cons, Option.some.injEq] at sign
      simp [sign]
  · exact .inl rfl

theorem numeric_float {t : List Char} (written : isFloatText t = true) : Numeric t := by
  simp only [isFloatText, Bool.and_eq_true] at written
  obtain ⟨⟨whole, -⟩, fraction⟩ := written
  have body : ∀ c ∈ unsigned t, isNumberChar c = true := by
    intro c member
    rw [← List.takeWhile_append_dropWhile (p := Char.isDigit) (l := unsigned t)] at member
    rcases List.mem_append.mp member with first | second
    · exact isNumberChar_of_isDigit (List.mem_takeWhile_imp first)
    · exact isFraction_all fraction c second
  obtain ⟨d, tail, digit, opens⟩ := isWhole_opens whole
  rcases unsigned_cases t with same | sign
  · refine ⟨?_, d, tail, digit, .inl (same.trans opens)⟩
    rwa [same]
  · refine ⟨?_, d, tail, digit, .inr ?_⟩
    · intro c member
      rw [sign] at member
      rcases List.mem_cons.mp member with rfl | member
      · rfl
      · exact body c member
    · rw [sign, opens]

theorem numeric_digits (n : Nat) : Numeric (digits n) := by
  have all : ∀ c ∈ digits n, isNumberChar c = true := fun c member => isNumberChar_of_isDigit (digits_isDigit c member)
  cases text : digits n with
  | nil => simp [digits] at text
  | cons d tail =>
    have digit : d.isDigit = true := digits_isDigit (n := n) d (text ▸ List.mem_cons_self)
    exact ⟨text ▸ all, d, tail, digit, .inl rfl⟩

theorem numeric_intText (i : Int) : Numeric (intText i) := by
  cases i with
  | ofNat n => exact numeric_digits n
  | negSucc n =>
    obtain ⟨all, d, tail, digit, opens⟩ := numeric_digits (n + 1)
    refine ⟨?_, d, tail, digit, .inr ?_⟩
    · intro c member
      rcases List.mem_cons.mp member with rfl | member
      · rfl
      · exact all c member
    · rcases opens with plain | sign
      · exact congrArg _ plain
      · have wrong : '-'.isDigit = true := digits_isDigit (n := n + 1) _ (sign ▸ List.mem_cons_self)
        cases wrong

section

variable {floats : Floats}

theorem number_intText (i : Int) : number floats (intText i) = some (.int i) := by
  cases i with
  | ofNat n =>
    have plain : (digits n).head? ≠ some '-' := by
      intro sign
      have wrong : '-'.isDigit = true := digits_isDigit (n := n) _ (List.mem_of_mem_head? sign)
      cases wrong
    simp [number, intText, unsigned, plain, isWhole_digits, digitsValue_digits]
  | negSucc n =>
    simp [number, intText, unsigned, isWhole_digits, digitsValue_digits, Int.negSucc_eq]

theorem number_repr (q : ℚ) : number floats (floats.repr q) = some (.float (.fin q)) := by
  have written := floats.written q
  have notWhole : isWhole (unsigned (floats.repr q)) = false := by
    by_contra whole
    simp only [Bool.not_eq_false, isWhole, isDigits, Bool.and_eq_true, List.all_eq_true] at whole
    have nothing : (unsigned (floats.repr q)).dropWhile Char.isDigit = [] := by
      rw [List.dropWhile_eq_nil_iff]
      exact whole.1.2
    simp [isFloatText, nothing] at written
  simp [number, notWhole, written, floats.read]

theorem after?_other {l c : Char} {ls cs : List Char} (other : l ≠ c) : after? (l :: ls) (c :: cs) = none := if_neg other

theorem after?_same {c : Char} {ls cs : List Char} : after? (c :: ls) (c :: cs) = after? ls cs := if_pos rfl

/-- No literal begins as a number does. -/
theorem literal_number {l : Char} {ls t rest : List Char} (numeric : Numeric t) (letter : l.isDigit = false) (sign : l ≠ '-') :
    after? (l :: ls) (t ++ rest) = none := by
  obtain ⟨d, tail, digit, rfl | rfl⟩ := numeric.opens
  · exact after?_other (digit_ne digit letter)
  · exact after?_other sign

theorem negInfinity_number {t rest : List Char} (numeric : Numeric t) : after? "-Infinity".toList (t ++ rest) = none := by
  obtain ⟨d, tail, digit, rfl | rfl⟩ := numeric.opens
  · exact after?_other (digit_ne digit (by decide))
  · exact after?_same.trans (after?_other (digit_ne digit (by decide)))

theorem scalar_number {t rest : List Char} {v : Json} (numeric : Numeric t) (ended : Ended rest)
    (number : number floats t = some v) : scalar floats (t ++ rest) = some (v, rest) := by
  obtain ⟨taken, left⟩ := span_ended numeric.all ended
  have null : after? "null".toList (t ++ rest) = none := literal_number numeric (by decide) (by decide)
  have true' : after? "true".toList (t ++ rest) = none := literal_number numeric (by decide) (by decide)
  have false' : after? "false".toList (t ++ rest) = none := literal_number numeric (by decide) (by decide)
  have nan : after? "NaN".toList (t ++ rest) = none := literal_number numeric (by decide) (by decide)
  have infinity : after? "Infinity".toList (t ++ rest) = none := literal_number numeric (by decide) (by decide)
  unfold scalar
  rw [null, true', false', nan, infinity, negInfinity_number numeric, taken, left, number]
  rfl

theorem scalar_nan {rest : List Char} : scalar floats ("NaN".toList ++ rest) = some (.float .nan, rest) := by
  simp [scalar, after?]

theorem scalar_infinity {rest : List Char} : scalar floats ("Infinity".toList ++ rest) = some (.float .posInf, rest) := by
  simp [scalar, after?]

theorem scalar_negInfinity {rest : List Char} : scalar floats ("-Infinity".toList ++ rest) = some (.float .negInf, rest) := by
  simp [scalar, after?]

theorem scalar_floatText {x : PyFloat} {rest : List Char} (ended : Ended rest) :
    scalar floats (floatText floats.repr x ++ rest) = some (.float x, rest) := by
  cases x with
  | nan => exact scalar_nan
  | negInf => exact scalar_negInfinity
  | posInf => exact scalar_infinity
  | fin q => exact scalar_number (numeric_float (floats.written q)) ended (number_repr q)

end

/-! ### Values -/

mutual

/-- No dictionary in the value has a key twice. -/
def Keyed : Json → Prop
  | .list xs => AllKeyed xs
  | .dict entries => Dict.Distinct entries ∧ EntriesKeyed entries
  | _ => True

def AllKeyed : List Json → Prop
  | [] => True
  | v :: rest => Keyed v ∧ AllKeyed rest

def EntriesKeyed : List (String × Json) → Prop
  | [] => True
  | (_, v) :: rest => Keyed v ∧ EntriesKeyed rest

end

mutual

/-- What `json.loads` makes of a value that was written: of two entries with one key it keeps the last. -/
def reread : Json → Json
  | .list xs => .list (rereadAll xs)
  | .dict entries => .dict (Dict.ofList (rereadEntries entries))
  | v => v

def rereadAll : List Json → List Json
  | [] => []
  | v :: rest => reread v :: rereadAll rest

def rereadEntries : List (String × Json) → List (String × Json)
  | [] => []
  | (k, v) :: rest => (k, reread v) :: rereadEntries rest

end

theorem keys_reread (entries : List (String × Json)) : Dict.keys (rereadEntries entries) = Dict.keys entries := by
  induction entries with
  | nil => rfl
  | cons e rest ih =>
    obtain ⟨k, v⟩ := e
    rw [rereadEntries, Dict.keys_cons, Dict.keys_cons, ih]

mutual

theorem reread_keyed : ∀ {v : Json}, Keyed v → reread v = v
  | .null, _ | .bool _, _ | .int _, _ | .float _, _ | .str _, _ => rfl
  | .list xs, keyed => by rw [reread, rereadAll_keyed keyed]
  | .dict entries, keyed => by rw [reread, rereadEntries_keyed keyed.2, Dict.ofList_of_distinct keyed.1]

theorem rereadAll_keyed : ∀ {vs : List Json}, AllKeyed vs → rereadAll vs = vs
  | [], _ => rfl
  | v :: rest, keyed => by rw [rereadAll, reread_keyed keyed.1, rereadAll_keyed keyed.2]

theorem rereadEntries_keyed : ∀ {es : List (String × Json)}, EntriesKeyed es → rereadEntries es = es
  | [], _ => rfl
  | (k, v) :: rest, keyed => by rw [rereadEntries, reread_keyed keyed.1, rereadEntries_keyed keyed.2]

end

/-- Commas and colons, with white space behind them, and the entries as they stand. -/
structure Spaced (layout : Layout) : Prop where
  item : ∃ blanks, layout.itemSeparator = ',' :: blanks ∧ ∀ c ∈ blanks, isBlank c = true
  key : ∃ blanks, layout.keySeparator = ':' :: blanks ∧ ∀ c ∈ blanks, isBlank c = true
  unsorted : layout.sortKeys = false

/-- A value begins here, and no bracket is closed. -/
def Opens (cs : List Char) : Prop := ∃ c rest, cs = c :: rest ∧ isBlank c = false ∧ c ≠ ']'

theorem Opens.append {cs rest : List Char} (opens : Opens cs) : Opens (cs ++ rest) := by
  obtain ⟨c, tail, rfl, blank, bracket⟩ := opens
  exact ⟨c, tail ++ rest, rfl, blank, bracket⟩

theorem skip_cons {c : Char} {cs : List Char} (plain : isBlank c = false) : skip (c :: cs) = c :: cs := by
  simp [skip, plain]

theorem skip_opens {cs : List Char} (opens : Opens cs) : skip cs = cs := by
  obtain ⟨c, tail, rfl, blank, -⟩ := opens
  exact skip_cons blank

theorem skip_blanks {blanks cs : List Char} (all : ∀ c ∈ blanks, isBlank c = true) : skip (blanks ++ cs) = skip cs := by
  unfold skip
  rw [List.dropWhile_append_of_pos all]

theorem bracket_opens {cs : List Char} (opens : Opens cs) : after? [']'] cs = none := by
  obtain ⟨c, tail, rfl, -, bracket⟩ := opens
  exact after?_other (Ne.symm bracket)

theorem digit_opens {d : Char} (digit : d.isDigit = true) : isBlank d = false ∧ d ≠ ']' := by
  have space := digit_ne digit (by decide : ' '.isDigit = false)
  have tab := digit_ne digit (by decide : '\t'.isDigit = false)
  have line := digit_ne digit (by decide : '\n'.isDigit = false)
  have back := digit_ne digit (by decide : '\r'.isDigit = false)
  have bracket := digit_ne digit (by decide : ']'.isDigit = false)
  simp [isBlank, Ne.symm space, Ne.symm tab, Ne.symm line, Ne.symm back, Ne.symm bracket]

theorem Numeric.opens' {t : List Char} (numeric : Numeric t) : Opens t := by
  obtain ⟨d, tail, digit, rfl | rfl⟩ := numeric.opens
  · exact ⟨d, tail, rfl, digit_opens digit⟩
  · exact ⟨'-', d :: tail, rfl, by decide, by decide⟩

theorem ended_cons {c : Char} {rest : List Char} (other : isNumberChar c = false) : Ended (c :: rest) := by
  intro d first
  cases first
  exact other

theorem ended_nil : Ended [] := by
  intro c first
  cases first

theorem quote_append {s : String} {rest : List Char} :
    quote s ++ rest = '"' :: (s.toList.flatMap escapeChar ++ '"' :: rest) := by
  simp [quote]

section

variable {floats : Floats} {layout : Layout}

theorem text_opens (v : Json) : Opens (text floats.repr layout v) := by
  cases v with
  | null => exact ⟨'n', "ull".toList, rfl, by decide, by decide⟩
  | bool b =>
    cases b with
    | true => exact ⟨'t', "rue".toList, rfl, by decide, by decide⟩
    | false => exact ⟨'f', "alse".toList, rfl, by decide, by decide⟩
  | int i => exact (numeric_intText i).opens'
  | float x =>
    cases x with
    | nan => exact ⟨'N', "aN".toList, rfl, by decide, by decide⟩
    | negInf => exact ⟨'-', "Infinity".toList, rfl, by decide, by decide⟩
    | posInf => exact ⟨'I', "nfinity".toList, rfl, by decide, by decide⟩
    | fin q => exact (numeric_float (floats.written q)).opens'
  | str s => exact ⟨'"', _, rfl, by decide, by decide⟩
  | list xs =>
    rw [text]
    exact ⟨'[', _, rfl, by decide, by decide⟩
  | dict entries =>
    rw [text]
    exact ⟨'{', _, rfl, by decide, by decide⟩

theorem text_length (v : Json) : 1 ≤ (text floats.repr layout v).length := by
  obtain ⟨c, tail, opens, -, -⟩ : Opens (text floats.repr layout v) := text_opens v
  rw [opens]
  simp

variable (floats layout)

/-- An entry as it is written. -/
def entryText (e : String × List Char) : List Char := quote e.1 ++ layout.keySeparator ++ e.2

/-- With this much fuel the text of a value is read as the value. -/
def ReadsValue (n : Nat) : Prop := ∀ v rest, 2 * (text floats.repr layout v).length + 1 ≤ n → Ended rest →
  value floats n (text floats.repr layout v ++ rest) = some (reread v, rest)

def ReadsItems (n : Nat) : Prop := ∀ v vs rest,
  2 * (separate layout.itemSeparator (texts floats.repr layout (v :: vs))).length + 2 ≤ n →
  items floats n (separate layout.itemSeparator (texts floats.repr layout (v :: vs)) ++ ']' :: rest) =
    some (reread v :: rereadAll vs, rest)

def ReadsMembers (n : Nat) : Prop := ∀ k v es rest,
  2 * (separate layout.itemSeparator ((entryTexts floats.repr layout ((k, v) :: es)).map (entryText layout))).length + 2 ≤ n →
  members floats n (separate layout.itemSeparator ((entryTexts floats.repr layout ((k, v) :: es)).map (entryText layout))
    ++ '}' :: rest) = some ((k, reread v) :: rereadEntries es, rest)

variable {floats layout}

theorem separate_opens {separator t : List Char} {ts : List (List Char)} (opens : Opens t) :
    Opens (separate separator (t :: ts)) := by
  cases ts with
  | nil => exact opens
  | cons u ts =>
    rw [separate, List.append_assoc]
    · exact opens.append
    · simp

theorem reads_scalar {n : Nat} {t rest : List Char} {v : Json} (opens : ∃ c tail, t = c :: tail ∧ c ≠ '"' ∧ c ≠ '[' ∧ c ≠ '{')
    (result : scalar floats (t ++ rest) = some (v, rest)) : value floats (n + 1) (t ++ rest) = some (v, rest) := by
  obtain ⟨c, tail, rfl, quote, bracket, brace⟩ := opens
  rw [List.cons_append] at result ⊢
  rw [value, if_neg quote, if_neg bracket, if_neg brace, result]

theorem Numeric.plain {t : List Char} (numeric : Numeric t) : ∃ c tail, t = c :: tail ∧ c ≠ '"' ∧ c ≠ '[' ∧ c ≠ '{' := by
  obtain ⟨d, tail, digit, rfl | rfl⟩ := numeric.opens
  · exact ⟨d, tail, rfl, Ne.symm (digit_ne digit (by decide)), Ne.symm (digit_ne digit (by decide)),
      Ne.symm (digit_ne digit (by decide))⟩
  · exact ⟨'-', d :: tail, rfl, by decide, by decide, by decide⟩

theorem floatText_plain (x : PyFloat) : ∃ c tail, floatText floats.repr x = c :: tail ∧ c ≠ '"' ∧ c ≠ '[' ∧ c ≠ '{' := by
  cases x with
  | nan => exact ⟨'N', "aN".toList, rfl, by decide, by decide, by decide⟩
  | negInf => exact ⟨'-', "Infinity".toList, rfl, by decide, by decide, by decide⟩
  | posInf => exact ⟨'I', "nfinity".toList, rfl, by decide, by decide, by decide⟩
  | fin q => exact (numeric_float (floats.written q)).plain

theorem entry_opens (e : String × List Char) : ∃ tail, entryText layout e = '"' :: tail := by
  unfold entryText quote
  exact ⟨_, rfl⟩

theorem readsValue_succ {n : Nat} (spaced : Spaced layout) (readsItems : ReadsItems floats layout n)
    (readsMembers : ReadsMembers floats layout n) : ReadsValue floats layout (n + 1) := by
  intro v rest enough ended
  cases v with
  | null =>
    refine reads_scalar ⟨'n', "ull".toList, rfl, by decide, by decide, by decide⟩ ?_
    simp [text, scalar, after?, reread]
  | bool b =>
    cases b with
    | true =>
      refine reads_scalar ⟨'t', "rue".toList, rfl, by decide, by decide, by decide⟩ ?_
      simp [text, scalar, after?, reread]
    | false =>
      refine reads_scalar ⟨'f', "alse".toList, rfl, by decide, by decide, by decide⟩ ?_
      simp [text, scalar, after?, reread]
  | int i => exact reads_scalar (numeric_intText i).plain (scalar_number (numeric_intText i) ended (number_intText i))
  | float x => exact reads_scalar (floatText_plain x) (scalar_floatText ended)
  | str s =>
    have fuel : s.toList.length + 1 ≤ n := by
      have shorter := length_le_escaped s.toList
      simp only [text, quote, List.length_cons, List.length_append] at enough
      omega
    rw [text, quote_append, value, if_pos rfl, stringBody_escaped fuel]
    simp [reread]
  | list xs =>
    cases xs with
    | nil => simp [text, texts, separate, value, skip, isBlank, after?, reread, rereadAll]
    | cons v vs =>
      have opens : Opens (separate layout.itemSeparator (texts floats.repr layout (v :: vs))) := separate_opens (text_opens v)
      have read := readsItems v vs rest (by
        simp only [text, List.length_cons, List.length_append] at enough
        omega)
      rw [text, List.append_assoc, List.cons_append, value, if_neg (by decide), if_pos rfl, List.cons_append,
        List.nil_append, skip_opens opens.append, bracket_opens opens.append, read]
      rfl
  | dict entries =>
    cases entries with
    | nil => simp [text, entryTexts, arrange, spaced.unsorted, separate, value, skip, isBlank, after?, reread, rereadEntries, Dict.ofList]
    | cons e es =>
      obtain ⟨k, v⟩ := e
      have written : text floats.repr layout (.dict ((k, v) :: es)) = '{' :: separate layout.itemSeparator
          ((entryTexts floats.repr layout ((k, v) :: es)).map (entryText layout)) ++ ['}'] := by
        rw [text, arrange, if_neg (by simp [spaced.unsorted])]
        rfl
      obtain ⟨tail, first⟩ : ∃ tail, entryText layout (k, text floats.repr layout v) = '"' :: tail := entry_opens _
      have opens : ∃ tail, separate layout.itemSeparator
          ((entryTexts floats.repr layout ((k, v) :: es)).map (entryText layout)) = '"' :: tail := by
        rw [entryTexts, List.map_cons, first]
        cases (entryTexts floats.repr layout es).map (entryText layout) with
        | nil => exact ⟨_, rfl⟩
        | cons t ts => exact ⟨_, rfl⟩
      have read := readsMembers k v es rest (by
        rw [written] at enough
        simp only [List.length_cons, List.length_append] at enough
        omega)
      rw [written, List.append_assoc, List.cons_append, value, if_neg (by decide), if_neg (by decide), if_pos rfl,
        List.cons_append, List.nil_append]
      obtain ⟨tail, opens⟩ := opens
      rw [opens] at read ⊢
      rw [List.cons_append] at read ⊢
      rw [skip_cons (by decide), after?_other (by decide), read]
      rfl

theorem separate_cons {separator t u : List Char} {ts : List (List Char)} :
    separate separator (t :: u :: ts) = t ++ separator ++ separate separator (u :: ts) := rfl

theorem readsItems_succ {n : Nat} (spaced : Spaced layout) (readsValue : ReadsValue floats layout n)
    (readsItems : ReadsItems floats layout n) : ReadsItems floats layout (n + 1) := by
  intro v vs rest enough
  obtain ⟨blanks, separator, blank⟩ := spaced.item
  cases vs with
  | nil =>
    simp only [texts, separate] at enough ⊢
    have read := readsValue v (']' :: rest) (by omega) (ended_cons (by decide))
    rw [items, read]
    simp [skip, isBlank, after?, rereadAll]
  | cons w vs =>
    have longer : 1 ≤ (text floats.repr layout v).length := text_length v
    rw [texts, texts, separate_cons, separator] at enough ⊢
    simp only [List.length_append, List.length_cons] at enough
    simp only [List.append_assoc, List.cons_append]
    have opens : Opens (separate (',' :: blanks) (text floats.repr layout w :: texts floats.repr layout vs)) :=
      separate_opens (text_opens w)
    have read := readsValue v (',' :: (blanks ++ (separate (',' :: blanks)
      (text floats.repr layout w :: texts floats.repr layout vs) ++ ']' :: rest))) (by omega) (ended_cons (by decide))
    have later := readsItems w vs rest (by
      rw [texts, separator]
      omega)
    rw [texts, separator] at later
    rw [items, read]
    simp only [Option.bind_eq_bind, Option.bind_some, skip_cons (show isBlank ',' = false by decide)]
    rw [after?_other (by decide), after?_same]
    simp only [after?, Option.bind_some]
    rw [skip_blanks blank, skip_opens opens.append, later]
    rfl

theorem readsMembers_succ {n : Nat} (spaced : Spaced layout) (readsValue : ReadsValue floats layout n)
    (readsMembers : ReadsMembers floats layout n) : ReadsMembers floats layout (n + 1) := by
  intro k v es rest enough
  obtain ⟨blanks, separator, blank⟩ := spaced.item
  obtain ⟨gap, colon, gapBlank⟩ := spaced.key
  have longer := length_le_escaped k.toList
  have entry (rest : List Char) : entryText layout (k, text floats.repr layout v) ++ rest =
      '"' :: (k.toList.flatMap escapeChar ++ '"' :: ':' :: (gap ++ (text floats.repr layout v ++ rest))) := by
    simp [entryText, quote, colon]
  have long : (entryText layout (k, text floats.repr layout v)).length =
      (k.toList.flatMap escapeChar).length + gap.length + (text floats.repr layout v).length + 3 := by
    simp only [entryText, quote, colon, List.length_append, List.length_cons, List.length_nil]
    omega
  cases es with
  | nil =>
    simp only [entryTexts, List.map_cons, List.map_nil, separate] at enough ⊢
    have read := readsValue v ('}' :: rest) (by omega) (ended_cons (by decide))
    rw [members, entry, after?_same]
    simp only [after?, Option.bind_eq_bind, Option.bind_some]
    rw [stringBody_escaped (by omega)]
    simp only [Option.bind_some, skip_cons (show isBlank ':' = false by decide), after?_same, after?]
    rw [skip_blanks gapBlank, skip_opens (text_opens v).append, read]
    simp [skip, isBlank, after?, rereadEntries]
  | cons f es =>
    obtain ⟨k', v'⟩ := f
    rw [entryTexts, entryTexts, List.map_cons, List.map_cons, separate_cons, separator] at enough ⊢
    simp only [List.length_append, List.length_cons] at enough
    have later := readsMembers k' v' es rest (by
      rw [entryTexts, List.map_cons, separator]
      omega)
    rw [entryTexts, List.map_cons, separator] at later
    obtain ⟨tail, first⟩ : ∃ tail, separate (',' :: blanks) (entryText layout (k', text floats.repr layout v') ::
        (entryTexts floats.repr layout es).map (entryText layout)) = '"' :: tail := by
      obtain ⟨tail, first⟩ : ∃ tail, entryText layout (k', text floats.repr layout v') = '"' :: tail := entry_opens _
      rw [first]
      cases (entryTexts floats.repr layout es).map (entryText layout) with
      | nil => exact ⟨_, rfl⟩
      | cons t ts => exact ⟨_, rfl⟩
    have read := readsValue v (',' :: (blanks ++ (separate (',' :: blanks) (entryText layout (k', text floats.repr layout v') ::
        (entryTexts floats.repr layout es).map (entryText layout)) ++ '}' :: rest))) (by omega) (ended_cons (by decide))
    rw [List.append_assoc, List.append_assoc, members, entry, after?_same]
    simp only [after?, Option.bind_eq_bind, Option.bind_some]
    rw [stringBody_escaped (by omega)]
    simp only [Option.bind_some, skip_cons (show isBlank ':' = false by decide), after?_same, after?]
    rw [skip_blanks gapBlank, skip_opens (text_opens v).append, List.cons_append, read]
    simp only [Option.bind_some, skip_cons (show isBlank ',' = false by decide)]
    rw [after?_other (by decide), after?_same]
    simp only [after?, Option.bind_some]
    rw [skip_blanks blank]
    rw [first, List.cons_append, skip_cons (by decide)]
    rw [first, List.cons_append] at later
    rw [later]
    simp [rereadEntries]

theorem reads (spaced : Spaced layout) (n : Nat) :
    ReadsValue floats layout n ∧ ReadsItems floats layout n ∧ ReadsMembers floats layout n := by
  induction n with
  | zero =>
    refine ⟨fun v rest enough => ?_, fun v vs rest enough => ?_, fun k v es rest enough => ?_⟩ <;> omega
  | succ n ih =>
    obtain ⟨values, items, members⟩ := ih
    exact ⟨readsValue_succ spaced items members, readsItems_succ spaced values items,
      readsMembers_succ spaced values members⟩

/-- A text with something behind it is read if that is blank, and refused otherwise. -/
theorem loads_text_any {v : Json} {rest : List Char} (spaced : Spaced layout) (ended : Ended rest) :
    loads floats (String.ofList (text floats.repr layout v ++ rest)) = if skip rest = [] then some (reread v) else none := by
  have opens : Opens (text floats.repr layout v ++ rest) := (text_opens v).append
  have read := (@reads floats layout spaced (2 * (text floats.repr layout v ++ rest).length + 1)).1 v rest
    (by rw [List.length_append]; omega) ended
  unfold loads
  simp only [String.toList_ofList]
  rw [skip_opens opens, read]
  rfl

theorem loads_text_append {v : Json} {rest : List Char} (spaced : Spaced layout) (keyed : Keyed v) (ended : Ended rest) :
    loads floats (String.ofList (text floats.repr layout v ++ rest)) = if skip rest = [] then some v else none := by
  rw [loads_text_any spaced ended, reread_keyed keyed]

/-- `json.loads(json.dumps(v))` -/
theorem loads_dumps_any (spaced : Spaced layout) (v : Json) : loads floats (dumps floats.repr layout v) = some (reread v) := by
  have read := @loads_text_any floats layout v _ spaced ended_nil
  rw [List.append_nil] at read
  exact read

/-- `json.loads(json.dumps(v))` is `v`. -/
theorem loads_dumps {v : Json} (spaced : Spaced layout) (keyed : Keyed v) :
    loads floats (dumps floats.repr layout v) = some v := by
  have read := @loads_text_append floats layout _ _ spaced keyed ended_nil
  rw [List.append_nil] at read
  exact read

/-- The layout of `json.dumps(v)` without options. -/
theorem spaced_default : Spaced {} where
  item := ⟨[' '], rfl, List.forall_mem_singleton.mpr rfl⟩
  key := ⟨[' '], rfl, List.forall_mem_singleton.mpr rfl⟩
  unsorted := rfl

end

end ControlPlane.Data.Json
