import ControlPlane.Data.JsonLines

/-!
# Lines of bytes

`bytes.splitlines(keepends=True)`: a line ends behind `\n`, `\r\n` or `\r`. What becomes of
the last line when more bytes are appended.
-/

namespace ControlPlane.Data

/-- A line ends behind this byte, with these behind it. -/
def endsLine (c : UInt8) (rest : List UInt8) : Prop := c = 10 ∨ c = 13 ∧ rest.head? ≠ some 10

instance (c : UInt8) (rest : List UInt8) : Decidable (endsLine c rest) := inferInstanceAs (Decidable (_ ∨ _ ∧ _))

/-- A byte before the first line. -/
def onFirst (c : UInt8) : List (List UInt8) → List (List UInt8)
  | [] => [[c]]
  | line :: lines => (c :: line) :: lines

/-- `bytes.splitlines(keepends=True)` -/
def keptLines : List UInt8 → List (List UInt8)
  | [] => []
  | c :: rest => if endsLine c rest then [c] :: keptLines rest else onFirst c (keptLines rest)

/-- `line.rstrip(b"\r\n")` -/
def rstripBreaks (line : List UInt8) : List UInt8 := line.rdropWhile fun b => b = 13 ∨ b = 10

/-- The white space of `bytes.strip` -/
def isBlankByte (b : UInt8) : Bool := (9 ≤ b && b ≤ 13) || b = 32

/-- `not line.rstrip(b"\r\n").strip()` -/
def isBlankLine (line : List UInt8) : Bool := (rstripBreaks line).all isBlankByte

/-- Bytes that make the line before them longer: it is not ended, or a `\r` becomes a `\r\n`. -/
def Lengthens (line more : List UInt8) : Prop :=
  more ≠ [] ∧ line.getLast? ≠ some 10 ∧ (line.getLast? = some 13 → more.head? = some 10)

instance (line more : List UInt8) : Decidable (Lengthens line more) := inferInstanceAs (Decidable (_ ∧ _ ∧ (_ → _)))

section

variable {c : UInt8} {q s line last : List UInt8} {front lines : List (List UInt8)}

theorem keptLines_ended (ended : endsLine c q) : keptLines (c :: q) = [c] :: keptLines q := if_pos ended

theorem keptLines_within (within : ¬ endsLine c q) : keptLines (c :: q) = onFirst c (keptLines q) := if_neg within

theorem onFirst_ne_nil : onFirst c lines ≠ [] := by
  cases lines with
  | nil => exact List.cons_ne_nil _ _
  | cons line lines => exact List.cons_ne_nil _ _

theorem keptLines_ne_nil (some : q ≠ []) : keptLines q ≠ [] := by
  cases q with
  | nil => exact absurd rfl some
  | cons c rest =>
    by_cases ended : endsLine c rest
    · rw [keptLines_ended ended]
      exact List.cons_ne_nil _ _
    · rw [keptLines_within ended]
      exact onFirst_ne_nil

theorem onFirst_flatten : (onFirst c lines).flatten = c :: lines.flatten := by
  cases lines with
  | nil => rfl
  | cons line lines => rfl

/-- The lines are the bytes. -/
theorem keptLines_flatten (q : List UInt8) : (keptLines q).flatten = q := by
  induction q with
  | nil => rfl
  | cons c rest ih =>
    by_cases ended : endsLine c rest
    · rw [keptLines_ended ended, List.flatten_cons, ih]
      rfl
    · rw [keptLines_within ended, onFirst_flatten, ih]

/-- No line is empty. -/
theorem line_ne_nil (member : line ∈ keptLines q) : line ≠ [] := by
  induction q generalizing line with
  | nil => cases member
  | cons c rest ih =>
    by_cases ended : endsLine c rest
    · rw [keptLines_ended ended] at member
      rcases List.mem_cons.mp member with rfl | later
      · exact List.cons_ne_nil _ _
      · exact ih later
    · rw [keptLines_within ended] at member
      cases split : keptLines rest with
      | nil =>
        rw [split] at member
        obtain rfl := List.mem_singleton.mp member
        exact List.cons_ne_nil _ _
      | cons first lines =>
        rw [split] at member
        rcases List.mem_cons.mp member with rfl | later
        · exact List.cons_ne_nil _ _
        · exact ih (split ▸ List.mem_cons_of_mem _ later)

theorem endsLine_append (some : q ≠ []) : endsLine c (q ++ s) ↔ endsLine c q := by
  obtain ⟨d, rest, rfl⟩ := List.exists_cons_of_ne_nil some
  exact Iff.rfl

/-- What is appended changes the last line alone. -/
theorem keptLines_append (split : keptLines q = front ++ [last]) : keptLines (q ++ s) = front ++ keptLines (last ++ s) := by
  induction q generalizing front last with
  | nil => exact absurd split.symm (by simp [keptLines])
  | cons c rest ih =>
    by_cases none : rest = []
    · subst none
      have one : keptLines [c] = [[c]] := by
        by_cases ended : endsLine c []
        · exact keptLines_ended ended
        · exact keptLines_within ended
      rw [one, ← List.nil_append [[c]]] at split
      obtain ⟨rfl, same⟩ := List.append_inj' split rfl
      obtain rfl := List.singleton_inj.mp same
      rfl
    have behind := keptLines_ne_nil none
    have apart := endsLine_append (c := c) (s := s) none
    by_cases ended : endsLine c rest
    · rw [keptLines_ended ended] at split
      rw [List.cons_append, keptLines_ended (apart.mpr ended)]
      cases front with
      | nil => exact absurd (List.cons.inj split).2 behind
      | cons first front =>
        obtain ⟨rfl, later⟩ := List.cons.inj split
        rw [ih later, List.cons_append]
    · rw [keptLines_within ended] at split
      rw [List.cons_append, keptLines_within (mt apart.mp ended)]
      obtain ⟨line, lines, first⟩ := List.exists_cons_of_ne_nil behind
      rw [first] at split
      cases front with
      | nil =>
        have whole := keptLines_flatten rest
        obtain ⟨rfl, alone⟩ := List.cons.inj split
        rw [first, alone, List.flatten_singleton] at whole
        rw [whole, List.nil_append, List.cons_append, keptLines_within (mt apart.mp ended)]
      | cons line' front =>
        obtain ⟨rfl, later⟩ := List.cons.inj split
        rw [later] at first
        change keptLines rest = line :: front ++ [last] at first
        rw [ih first]
        rfl

/-- The first line of a line with more behind it. -/
theorem keptLines_line (one : keptLines line = [line]) (s : List UInt8) :
    ∃ more rest, keptLines (line ++ s) = (line ++ more) :: rest ∧ (more ≠ [] ↔ Lengthens line s) := by
  induction line with
  | nil => exact absurd one (by simp [keptLines])
  | cons c rest ih =>
    by_cases none : rest = []
    · subst none
      rw [List.singleton_append]
      by_cases ended : endsLine c s
      · rw [keptLines_ended ended]
        refine ⟨[], keptLines s, rfl, iff_of_false (fun impossible => impossible rfl) ?_⟩
        rintro ⟨_, other, return_⟩
        rcases ended with rfl | ⟨rfl, alone⟩
        · exact other rfl
        · exact alone (return_ rfl)
      · rw [keptLines_within ended]
        obtain ⟨other, return_⟩ := not_or.mp ended
        by_cases none : s = []
        · subst none
          exact ⟨[], [], rfl, iff_of_false (fun impossible => impossible rfl) fun longer => longer.1 rfl⟩
        · obtain ⟨first, lines, split⟩ := List.exists_cons_of_ne_nil (keptLines_ne_nil none)
          have some : first ≠ [] := line_ne_nil (split ▸ List.mem_cons_self)
          rw [split]
          refine ⟨first, lines, rfl, iff_of_true some ⟨none, ?_, ?_⟩⟩
          · simpa using other
          · intro isReturn
            by_contra alone
            exact return_ ⟨by simpa using isReturn, alone⟩
    · have within : ¬ endsLine c rest := by
        intro ended
        rw [keptLines_ended ended] at one
        exact absurd (List.cons.inj one).2 (keptLines_ne_nil none)
      obtain ⟨first, lines, split⟩ := List.exists_cons_of_ne_nil (keptLines_ne_nil none)
      rw [keptLines_within within, split] at one
      obtain ⟨same, alone⟩ := List.cons.inj one
      obtain ⟨-, rfl⟩ := List.cons.inj same
      rw [alone] at split
      obtain ⟨more, rest', found, longer⟩ := ih split
      refine ⟨more, rest', ?_, longer.trans ?_⟩
      · rw [List.cons_append, keptLines_within (mt (endsLine_append none).mp within), found]
        rfl
      · unfold Lengthens
        rw [List.getLast?_cons_of_ne_nil none]

/-- More bytes leave every line but the last as it is, and make the last longer or leave it too. -/
theorem keptLines_more (split : keptLines q = front ++ [last]) (s : List UInt8) :
    ∃ more rest, keptLines (q ++ s) = front ++ (last ++ more) :: rest ∧ (more ≠ [] ↔ Lengthens q s) := by
  have alone : keptLines last = [last] := by
    have same := keptLines_append (s := []) split
    rw [List.append_nil, List.append_nil, split] at same
    exact (List.append_cancel_left same).symm
  have ends : q.getLast? = last.getLast? := by
    have some : last ≠ [] := line_ne_nil (alone ▸ List.mem_singleton_self last)
    have whole := keptLines_flatten q
    rw [split, List.flatten_append, List.flatten_singleton] at whole
    rw [← whole, List.getLast?_append_of_ne_nil _ some]
  obtain ⟨more, rest, found, longer⟩ := keptLines_line alone s
  refine ⟨more, rest, by rw [keptLines_append split, found], longer.trans ?_⟩
  unfold Lengthens
  rw [ends]

theorem isBlankLine_eq (line : List UInt8) : isBlankLine line = line.all isBlankByte := by
  unfold isBlankLine rstripBreaks
  induction line using List.reverseRecOn with
  | nil => rfl
  | append_singleton front b ih =>
    by_cases isBreak : b = 13 ∨ b = 10
    · have blank : isBlankByte b = true := by
        rcases isBreak with rfl | rfl
        · decide
        · decide
      rw [List.rdropWhile_concat_pos _ _ _ (by simpa using isBreak), ih, List.all_append, List.all_cons, blank, List.all_nil,
        Bool.and_true, Bool.and_true]
    · rw [List.rdropWhile_concat_neg _ _ _ (by simpa using isBreak)]

/-- A line that has become longer is no more blank than it was. -/
theorem isBlankLine_append (some : isBlankLine line = false) : isBlankLine (line ++ s) = false := by
  rw [isBlankLine_eq] at some ⊢
  rw [List.all_append, some, Bool.false_and]

/-! ### Lines without a break inside -/

/-- No byte ends a line. -/
def Unbroken (line : List UInt8) : Prop := ∀ b ∈ line, b ≠ 10 ∧ b ≠ 13

theorem Unbroken.within (unbroken : Unbroken (c :: q)) : ¬ endsLine c s := by
  obtain ⟨other, notReturn⟩ := unbroken c List.mem_cons_self
  rintro (same | ⟨same, _⟩)
  · exact other same
  · exact notReturn same

theorem keptLines_unbroken (unbroken : Unbroken line) (some : line ≠ []) : keptLines line = [line] := by
  induction line with
  | nil => exact absurd rfl some
  | cons c rest ih =>
    rw [keptLines_within unbroken.within]
    by_cases none : rest = []
    · rw [none]
      rfl
    · rw [ih (fun b member => unbroken b (List.mem_cons_of_mem _ member)) none]
      rfl

/-- A line with its newline, and what is behind it. -/
theorem keptLines_newline (unbroken : Unbroken line) : keptLines (line ++ 10 :: s) = (line ++ [10]) :: keptLines s := by
  induction line with
  | nil => exact keptLines_ended (.inl rfl)
  | cons c rest ih =>
    rw [List.cons_append, keptLines_within unbroken.within, ih fun b member => unbroken b (List.mem_cons_of_mem _ member)]
    rfl

theorem rstripBreaks_unbroken (unbroken : Unbroken line) : rstripBreaks line = line := by
  unfold rstripBreaks
  rcases List.eq_nil_or_concat line with rfl | ⟨front, b, rfl⟩
  · rfl
  · have last := unbroken b (by simp)
    rw [List.concat_eq_append, List.rdropWhile_concat_neg]
    simpa using ⟨last.2, last.1⟩

theorem rstripBreaks_newline (unbroken : Unbroken line) : rstripBreaks (line ++ [10]) = line := by
  have behind : rstripBreaks (line ++ [10]) = rstripBreaks line := List.rdropWhile_concat_pos _ _ _ (by decide)
  rw [behind, rstripBreaks_unbroken unbroken]

/-- A text of printable characters is its codes. -/
theorem bytes_printable {t : List Char} (printable : Json.Printable t) :
    (String.ofList t).toUTF8.data.toList = t.map fun c => UInt8.ofNat c.toNat := by
  have bytes : (String.ofList t).toUTF8.data.toList = t.flatMap String.utf8EncodeChar := by
    simp [String.toUTF8, List.utf8Encode]
  rw [bytes]
  induction t with
  | nil => rfl
  | cons c t ih =>
    have code : String.utf8EncodeChar c = [UInt8.ofNat c.toNat] := by
      have low := (printable c List.mem_cons_self).2
      have small : c.val.toNat ≤ 0x7f := by
        change c.toNat ≤ 127
        omega
      exact if_pos small
    rw [List.flatMap_cons, List.map_cons, code, ih (fun d member => printable d (List.mem_cons_of_mem _ member))]
    · rfl
    · simp [String.toUTF8, List.utf8Encode]

theorem printable_unbroken {t : List Char} (printable : Json.Printable t) : Unbroken (t.map fun c => UInt8.ofNat c.toNat) := by
  intro b member
  obtain ⟨c, inside, rfl⟩ := List.mem_map.mp member
  obtain ⟨low, high⟩ := printable c inside
  constructor
  · intro same
    have code := congrArg UInt8.toNat same
    rw [UInt8.toNat_ofNat'] at code
    change c.toNat % 256 = 10 at code
    omega
  · intro same
    have code := congrArg UInt8.toNat same
    rw [UInt8.toNat_ofNat'] at code
    change c.toNat % 256 = 13 at code
    omega

theorem fromUTF8?_toUTF8 (t : String) : String.fromUTF8? t.toUTF8 = some t := dif_pos t.isValidUTF8

/-- A record as the bytes of its line, without an end. -/
def recordBytes (floats : Json.Floats) (record : Dict String Json) : List UInt8 :=
  (Json.lineOf floats record).map fun c => UInt8.ofNat c.toNat

variable {floats : Json.Floats} {record : Dict String Json}

theorem recordBytes_unbroken : Unbroken (recordBytes floats record) :=
  printable_unbroken (t := Json.lineOf floats record) (Json.text_printable floats _)

theorem recordBytes_opens : ∃ rest, recordBytes floats record = 123 :: rest := by
  unfold recordBytes Json.lineOf
  rw [Json.text]
  exact ⟨_, rfl⟩

/-- A record that was written is read back. -/
theorem loads_recordBytes (keyed : Json.Keyed (.dict record)) :
    (String.fromUTF8? ⟨(recordBytes floats record).toArray⟩).bind (Json.loads floats) = some (.dict record) := by
  have bytes : (⟨(recordBytes floats record).toArray⟩ : ByteArray) = (String.ofList (Json.lineOf floats record)).toUTF8 := by
    have printable : Json.Printable (Json.lineOf floats record) := Json.text_printable floats _
    rw [ByteArray.ext_iff, ← Array.toList_inj, bytes_printable printable]
    rfl
  rw [bytes, fromUTF8?_toUTF8]
  exact Json.loads_lineOf keyed

end

end ControlPlane.Data
