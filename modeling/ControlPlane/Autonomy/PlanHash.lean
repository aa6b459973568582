import ControlPlane.Autonomy.PlanAcceptance
import ControlPlane.Data.Colons
import Mathlib.Data.List.Perm.Basic

/-!
# What the hash of a plan stands for

The manifest has one line for each file, in the order of the paths. A path can hold the bar between
the fields; the fields behind it cannot, so a manifest is read back from the end of each line.
-/

namespace ControlPlane.Autonomy

open Data

/-- A field of a row that is neither broken off nor divided. -/
def Undivided (field : String) : Prop := '|' ∉ field.toList ∧ '\n' ∉ field.toList

/-- A row whose line can be read back. -/
structure Legible (row : FileRow) : Prop where
  path : '\n' ∉ row.path.toList
  preimage : Undivided row.preimage
  postimage : Undivided row.postimage
  content : Undivided row.contentSha256

/-- The line of a row in the manifest, without its end. -/
def FileRow.line (row : FileRow) : String :=
  s!"{row.path}|{Operation.word row.operation}|{row.preimage}|{row.postimage}|{row.contentSha256}"

theorem word_undivided (operation : Option Operation) : Undivided (Operation.word operation) := by
  unfold Undivided
  cases operation with
  | none => decide
  | some operation => cases operation <;> decide

section

variable {row row' : FileRow} {rows rows' : List FileRow}

theorem line_chars : row.line.toList = (((row.path.toList ++ '|' :: (Operation.word row.operation).toList) ++ '|' :: row.preimage.toList) ++
    '|' :: row.postimage.toList) ++ '|' :: row.contentSha256.toList := by
  simp only [FileRow.line, String.toList_append, List.append_assoc, List.cons_append]
  rfl

theorem Legible.unbroken (legible : Legible row) : '\n' ∉ row.line.toList := by
  have word := (word_undivided row.operation).2
  rw [line_chars]
  simp [word, legible.path, legible.preimage.2, legible.postimage.2, legible.content.2]

/-- The lines of a manifest. -/
def linesOf (rows : List FileRow) : List Char := rows.flatMap fun row => row.line.toList ++ ['\n']

end

section

variable {host : Host} {text : Text} {digest : Bytes → String} {item : FileOperation} {items items' : List FileOperation}
  {file : PlannedFile} {files files' : List PlannedFile} {path value : String} {plan plan' : ExecutionPlan}
  {canonical canonical' : CanonicalPlan} {manifests : Set String} {row : FileRow} {c : Char}

/-! ### The rows of an accepted plan -/

end

namespace Disposable

/-- The same operations, the last first. -/
def turned : ExecutionPlan := ⟨plan.grantId, plan.operations.reverse⟩

end Disposable

end ControlPlane.Autonomy
