import Mathlib.Data.String.Basic

/-!
# `clean` and `packed`

Every identity and free text of the store goes through `clean`. The pattern it
redacts, `(?i)(token|secret|password|authorization)\s*[:=]\s*\S+`, never needs to
backtrack: a separator is not white space, and a word cannot start where another does.
-/

namespace ControlPlane.Autonomy

/-- The characters a letter of the pattern stands for when case is ignored. -/
def matchesLetter (letter c : Char) : Bool :=
  c = letter || c = letter.toUpper || (letter = 'k' && c = '\u212a') || (letter = 's' && c = '\u017f') ||
    (letter = 'i' && (c = '\u0130' || c = '\u0131'))

/-- Python's `\s`. -/
def isSpace (c : Char) : Bool :=
  let n := c.toNat
  (9 ≤ n && n ≤ 13) || (28 ≤ n && n ≤ 32) || n = 0x85 || n = 0xa0 || n = 0x1680 || (0x2000 ≤ n && n ≤ 0x200a) ||
    n = 0x2028 || n = 0x2029 || n = 0x202f || n = 0x205f || n = 0x3000

/-- The text that matches `word`, and what follows it. -/
def word? : List Char → List Char → Option (List Char × List Char)
  | [], rest => some ([], rest)
  | _ :: _, [] => none
  | letter :: word, c :: cs =>
    if matchesLetter letter c then (word? word cs).map fun found => (c :: found.1, found.2) else none

def secretWords : List (List Char) := ["token", "secret", "password", "authorization"].map String.toList

/-- A match at the head of the text: the word, and the length of the whole match. -/
def secretAt (cs : List Char) : Option (List Char × Nat) :=
  match secretWords.findSome? fun word => word? word cs with
  | none => none
  | some (word, rest) =>
    match rest.dropWhile isSpace with
    | [] => none
    | separator :: rest =>
      let value := rest.dropWhile isSpace
      let after := value.dropWhile fun c => !isSpace c
      if (separator = ':' || separator = '=') && after.length < value.length then
        some (word, cs.length - after.length)
      else none

/-- `re.sub`, where the first `skip` characters belong to the match before. -/
def redactFrom : Nat → List Char → List Char
  | _, [] => []
  | skip + 1, _ :: cs => redactFrom skip cs
  | 0, c :: cs =>
    match secretAt (c :: cs) with
    | some (word, taken) => word ++ "=[REDACTED]".toList ++ redactFrom (taken - 1) cs
    | none => c :: redactFrom 0 cs

def printable (c : Char) : Bool := ' ' ≤ c && c != '<' && c != '>' && c != '\x7f'

def clean (v : String) : String :=
  String.ofList ((redactFrom 0 (v.toList.take 512)).filter printable)

def insertSorted (s : String) : List String → List String
  | [] => [s]
  | t :: rest => if s < t then s :: t :: rest else if s = t then t :: rest else t :: insertSorted s rest

theorem mem_insertSorted {s t : String} {sorted : List String} :
    t ∈ insertSorted s sorted ↔ t = s ∨ t ∈ sorted := by
  induction sorted with
  | nil => simp [insertSorted]
  | cons u rest ih =>
    unfold insertSorted
    split
    · simp
    · split
      · simp_all
      · simp only [List.mem_cons, ih]
        exact or_left_comm

theorem insertSorted_sorted {s : String} {sorted : List String} (before : sorted.Pairwise (· < ·)) :
    (insertSorted s sorted).Pairwise (· < ·) := by
  induction sorted with
  | nil => simp [insertSorted]
  | cons u rest ih =>
    obtain ⟨least, tail⟩ := List.pairwise_cons.mp before
    unfold insertSorted
    split
    · rename_i first
      refine List.pairwise_cons.mpr ⟨fun t member => ?_, before⟩
      rcases List.mem_cons.mp member with rfl | later
      · exact first
      · exact lt_trans first (least t later)
    · split
      · exact before
      · rename_i notBelow notSame
        refine List.pairwise_cons.mpr ⟨fun t member => ?_, ih tail⟩
        rcases mem_insertSorted.mp member with rfl | later
        · exact lt_of_le_of_ne (not_lt.mp notBelow) (Ne.symm notSame)
        · exact least t later

/-- The labels of a JSON text column: cleaned, without repetition, in order. -/
def packed (v : List String) : List String :=
  (v.map clean).foldr (fun s sorted => if s = "" then sorted else insertSorted s sorted) []

/-! ### Texts that `clean` leaves alone -/

/-- Neither stripped nor a separator of the redacted pattern. -/
def Plain (c : Char) : Prop := printable c = true ∧ c ≠ ':' ∧ c ≠ '='

theorem word?_rest {word cs found rest : List Char} (h : word? word cs = some (found, rest)) :
    ∀ c ∈ rest, c ∈ cs := by
  induction word generalizing cs found with
  | nil =>
    cases h
    exact fun _ member => member
  | cons letter word ih =>
    cases cs with
    | nil => cases h
    | cons c cs =>
      unfold word? at h
      split at h
      · obtain ⟨⟨found', rest'⟩, inner, same⟩ := Option.map_eq_some_iff.mp h
        cases same
        exact fun d member => List.mem_cons_of_mem _ (ih inner d member)
      · cases h

theorem secretAt_of_plain {cs : List Char} (plain : ∀ c ∈ cs, Plain c) : secretAt cs = none := by
  unfold secretAt
  split
  · rfl
  · rename_i word rest found
    obtain ⟨letters, _, matched⟩ := List.exists_of_findSome?_eq_some found
    split
    · rfl
    · rename_i separator tail dropped
      have member : separator ∈ rest :=
        (List.dropWhile_sublist _).subset (dropped ▸ List.mem_cons_self)
      obtain ⟨_, colon, equals⟩ := plain separator (word?_rest matched separator member)
      simp [colon, equals]

theorem redactFrom_of_plain {cs : List Char} (plain : ∀ c ∈ cs, Plain c) : redactFrom 0 cs = cs := by
  induction cs with
  | nil => rfl
  | cons c cs ih =>
    rw [redactFrom, secretAt_of_plain plain, ih fun d member => plain d (List.mem_cons_of_mem _ member)]

theorem clean_of_plain {v : String} (short : v.toList.length ≤ 512) (plain : ∀ c ∈ v.toList, Plain c) :
    clean v = v := by
  rw [clean, List.take_of_length_le short, redactFrom_of_plain plain,
    List.filter_eq_self.mpr fun c member => (plain c member).1, String.ofList_toList]

/-- Cleaning what was cleaned can change it again: stripping `<` completes a word. -/
example : clean "tok<en=abc" = "token=abc" ∧ clean "token=abc" = "token=[REDACTED]" := by decide

end ControlPlane.Autonomy
