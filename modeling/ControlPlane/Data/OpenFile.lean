import ControlPlane.Data.JsonLines

/-!
# Files read line by line

`for line in f` and appends to such files: what was there stays, and what is written behind a
newline is a line of its own.
-/

namespace ControlPlane.Data

/-- `for line in f`, the newlines taken off. Behind the last newline stands a line of its own. -/
def openLines (content : String) : List (List Char) := (universalNewlines false content.toList).splitOn '\n'

/-- `[line.strip() for line in f if line.strip()]` -/
def strippedLines (content : String) : List (List Char) := ((openLines content).map strip).filter fun line => !line.isEmpty

section

variable {line u v : List Char} {front : List (List Char)} {content : String} {lines : List (List Char)}

theorem strip_of_solid (solid : Solid line) : strip line = line := by
  obtain ⟨c, rest, opens, start⟩ := solid.first
  obtain ⟨d, body, ends, stop⟩ := solid.last
  have head : line.dropWhile isSpace = line := by
    rw [opens, List.dropWhile_cons_of_neg]
    simp [start]
  rw [strip, head, ends, List.rdropWhile_concat_neg]
  simp [stop]

theorem universalNewlines_append {after : Bool} (plain : '\r' ∉ v) (opens : v.head? ≠ some '\n') :
    universalNewlines after (u ++ v) = universalNewlines after u ++ v := by
  induction u generalizing after with
  | nil =>
    cases v with
    | nil => rfl
    | cons c rest =>
      obtain ⟨other, later⟩ := not_or.mp fun member => plain (List.mem_cons.mpr member)
      have start : ¬ (c = '\n' ∧ after = true) := fun both => opens (by rw [both.1]; rfl)
      rw [List.nil_append, universalNewlines, universalNewlines, if_neg (Ne.symm other), if_neg start,
        universalNewlines_plain later, List.nil_append]
  | cons c u ih =>
    rw [List.cons_append, universalNewlines, universalNewlines]
    split
    · rw [ih, List.cons_append]
    split
    · exact ih
    · rw [ih, List.cons_append]

/-- What is written behind a text goes to its last line. -/
theorem splitOn_append {last : List Char} (pieces : u.splitOn '\n' = front ++ [last]) (whole : '\n' ∉ v) :
    (u ++ v).splitOn '\n' = front ++ [last ++ v] := by
  induction u generalizing front last with
  | nil =>
    rw [List.splitOn_nil] at pieces
    have empty : front = [] ∧ last = [] := by
      cases front with
      | nil => simpa using pieces.symm
      | cons a front => simp at pieces
    simp [empty, List.splitOn_eq_singleton whole]
  | cons c u ih =>
    rw [List.splitOn_cons_eq_if_modifyHead] at pieces
    rw [List.cons_append, List.splitOn_cons_eq_if_modifyHead]
    obtain ⟨front', last', same⟩ : ∃ front' last', u.splitOn '\n' = front' ++ [last'] :=
      ⟨_, _, (List.dropLast_append_getLast (List.splitOn_ne_nil '\n' u)).symm⟩
    rw [ih same]
    rw [same] at pieces
    split
    · rename_i newline
      rw [if_pos newline, ← List.cons_append] at pieces
      obtain ⟨first, second⟩ := List.append_inj' pieces rfl
      rw [← first, List.cons.inj second |>.1, List.cons_append]
    · rename_i other
      rw [if_neg other] at pieces
      cases front' with
      | nil =>
        rw [List.nil_append, List.modifyHead_cons] at pieces
        obtain ⟨first, second⟩ := @List.append_inj' _ [] _ _ _ pieces rfl
        rw [← first, ← List.cons.inj second |>.1]
        rfl
      | cons a front' =>
        rw [List.cons_append, List.modifyHead_cons, ← List.cons_append] at pieces
        obtain ⟨first, second⟩ := List.append_inj' pieces rfl
        rw [← first, ← List.cons.inj second |>.1]
        rfl

theorem Solid.noNewline (solid : Solid line) : '\n' ∉ line ∧ '\r' ∉ line := by
  constructor
  · intro member
    exact absurd (solid.whole _ member) (by decide)
  · intro member
    exact absurd (solid.whole _ member) (by decide)

theorem Solid.head (solid : Solid line) : (line ++ v).head? ≠ some '\n' := by
  obtain ⟨c, rest, same, start⟩ := solid.first
  rw [same, List.cons_append, List.head?_cons]
  intro newline
  rw [Option.some.inj newline] at start
  exact absurd start (by decide)

/-- Where a file is at the beginning of a line. -/
def AtLine (front : List (List Char)) (content : String) : Prop := openLines content = front ++ [[]]

theorem atLine_empty : AtLine [] "" := rfl

/-- A line that is written at the beginning of a line. -/
theorem AtLine.append (start : AtLine front content) (solid : Solid line) :
    AtLine (front ++ [line]) (content ++ String.ofList (line ++ ['\n'])) := by
  have plain : '\r' ∉ line ++ ['\n'] := by simp [solid.noNewline.2]
  have written := splitOn_append start solid.noNewline.1
  unfold AtLine openLines
  rw [String.toList_append, String.toList_ofList, universalNewlines_append plain solid.head, ← List.append_assoc]
  rw [List.splitOn_append_cons_self, written, List.splitOn_nil, List.nil_append]

theorem AtLine.stripped (start : AtLine lines content) (solid : ∀ l ∈ lines, Solid l) : strippedLines content = lines := by
  have kept : lines.map strip = lines := by
    conv_rhs => rw [← List.map_id lines]
    exact List.map_congr_left fun l member => strip_of_solid (solid l member)
  have nonempty : lines.filter (fun line => !line.isEmpty) = lines := by
    rw [List.filter_eq_self]
    intro l member
    obtain ⟨c, rest, same, -⟩ := (solid l member).first
    simp [same]
  unfold strippedLines
  rw [start, List.map_append, List.filter_append, kept, nonempty]
  exact List.append_nil lines

/-- The last line that is not blank, where the file ends behind it. -/
theorem AtLine.last (start : AtLine (front ++ [line]) content) (solid : Solid line) :
    (strippedLines content).getLast? = some line := by
  obtain ⟨c, rest, same, -⟩ := solid.first
  have kept : [line].filter (fun line => !line.isEmpty) = [line] := by simp [same]
  have blank : ([[]].map strip).filter (fun line => !line.isEmpty) = [] := rfl
  unfold strippedLines
  rw [start, List.map_append, List.map_append, List.map_singleton, strip_of_solid solid, List.filter_append,
    List.filter_append, kept, blank, List.append_nil, List.getLast?_append]
  rfl

/-! ### Lines that are cut short -/

/-- The lines that a newline ends. -/
def endedLines (content : String) : List (List Char) := (openLines content).dropLast

/-- Nothing but white space stands behind the last newline. -/
def AtBlank (content : String) : Prop := ∃ front last, openLines content = front ++ [last] ∧ strip last = []

theorem openLines_ended (content : String) : ∃ last, openLines content = endedLines content ++ [last] :=
  ⟨_, (List.dropLast_append_getLast (List.splitOn_ne_nil _ _)).symm⟩

/-- What has no newline goes to the last line. -/
theorem openLines_append (pieces : openLines content = front ++ [u]) (plain : '\r' ∉ v) (whole : '\n' ∉ v) :
    openLines (content ++ String.ofList v) = front ++ [u ++ v] := by
  have opens : v.head? ≠ some '\n' := fun newline => whole (List.mem_of_mem_head? newline)
  unfold openLines
  rw [String.toList_append, String.toList_ofList, universalNewlines_append plain opens]
  exact splitOn_append pieces whole

theorem openLines_line (pieces : openLines content = front ++ [u]) (solid : Solid line) :
    openLines (content ++ String.ofList (line ++ ['\n'])) = front ++ [u ++ line, []] := by
  have plain : '\r' ∉ line ++ ['\n'] := by simp [solid.noNewline.2]
  have written := splitOn_append pieces solid.noNewline.1
  unfold openLines
  rw [String.toList_append, String.toList_ofList, universalNewlines_append plain solid.head, ← List.append_assoc,
    List.splitOn_append_cons_self, written, List.splitOn_nil, List.append_assoc]
  rfl

theorem endedLines_line (pieces : openLines content = front ++ [u]) (solid : Solid line) :
    endedLines (content ++ String.ofList (line ++ ['\n'])) = front ++ [u ++ line] := by
  have two : front ++ [u ++ line, []] = (front ++ [u ++ line]) ++ [[]] := by simp
  rw [endedLines, openLines_line pieces solid, two, List.dropLast_concat]

/-- However much of a line is written, the lines that were ended stay. -/
theorem endedLines_cut (solid : Solid line) (kept : Nat) :
    endedLines content <+: endedLines (content ++ String.ofList ((line ++ ['\n']).take kept)) := by
  obtain ⟨last, pieces⟩ := openLines_ended content
  by_cases short : kept ≤ line.length
  · have plain : '\r' ∉ line.take kept := fun member => solid.noNewline.2 (List.mem_of_mem_take member)
    have whole : '\n' ∉ line.take kept := fun member => solid.noNewline.1 (List.mem_of_mem_take member)
    rw [List.take_append_of_le_length short]
    have cut : endedLines (content ++ String.ofList (line.take kept)) = endedLines content := by
      rw [endedLines, openLines_append pieces plain whole, List.dropLast_concat]
    exact cut ▸ List.prefix_rfl
  · have all : (line ++ ['\n']).take kept = line ++ ['\n'] := List.take_of_length_le (by simp; omega)
    rw [all, endedLines_line pieces solid]
    exact List.prefix_append _ _

theorem strip_eq_nil : strip u = [] ↔ u.dropWhile isSpace = [] := by
  constructor
  · intro blank
    have spaces := List.rdropWhile_eq_nil_iff.mp blank
    cases rest : u.dropWhile isSpace with
    | nil => rfl
    | cons d ds =>
      have stops := List.head?_dropWhile_not isSpace u
      rw [rest] at stops
      have space := spaces d (rest ▸ List.mem_cons_self)
      exact absurd (stops.symm.trans space) Bool.false_ne_true
  · intro blank
    rw [strip, blank]
    rfl

/-- Of what stands before a line, white space is taken off. -/
theorem strip_append (solid : Solid line) : strip (u ++ line) = u.dropWhile isSpace ++ line := by
  obtain ⟨c, rest, opens, start⟩ := solid.first
  obtain ⟨d, body, ends, stop⟩ := solid.last
  have head : line.dropWhile isSpace = line := by
    rw [opens, List.dropWhile_cons_of_neg]
    simp [start]
  have front : (u ++ line).dropWhile isSpace = u.dropWhile isSpace ++ line := by
    rw [List.dropWhile_append, head]
    split
    · rename_i empty
      rw [List.isEmpty_iff.mp empty, List.nil_append]
    · rfl
  rw [strip, front, ends, ← List.append_assoc, List.rdropWhile_concat_neg]
  simp [stop]

end

end ControlPlane.Data
