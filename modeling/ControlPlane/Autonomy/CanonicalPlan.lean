import ControlPlane.Autonomy.Envelopes
import ControlPlane.Data.PosixPath
import Mathlib.Algebra.GroupWithZero.Nat
import Mathlib.Data.List.Sort

/-!
# `canonical_plan`

What a caller may hand to `apply`, and the sorted, checked files it becomes. No two of
them have one path.
-/

namespace ControlPlane.Autonomy

open Data

abbrev Bytes := List UInt8

/-- What `str` and `pathlib` look up in tables. -/
structure Text where
  /-- `unicodedata.normalize("NFC", value)` -/
  nfc : String → String
  casefold : String → String
  upper : String → String
  lower : String → String
  /-- `PureWindowsPath(value)` is absolute or has a drive -/
  onDrive : String → Bool

structure FileOperation where
  operation : String
  path : String
  expectedPreimage : String
  desiredPostimage : String
  content : Option Bytes := none

structure ExecutionPlan where
  grantId : String
  operations : List FileOperation

/-- `[\x00-\x1f\x7f]` -/
def isControl (c : Char) : Bool := c.toNat < 0x20 || c.toNat = 0x7f

/-- `(?i)(token|secret|password|authorization)\s*[:=]` at the head of the text -/
def secretShapedAt (cs : List Char) : Bool :=
  match secretWords.findSome? fun word => word? word cs with
  | none => false
  | some (_, rest) =>
    match rest.dropWhile isSpace with
    | [] => false
    | separator :: _ => separator = ':' || separator = '='

/-- `_normalized_relative` -/
def normalizedRelative (text : Text) (value : String) : Except Err String := do
  require (value ≠ "" ∧ value.toList.all fun c => !isControl c) (.blocked "invalid path")
  require (text.nfc value = value ∧ '\\' ∉ value.toList) (.blocked "malformed path")
  require (¬ value.toList.tails.any secretShapedAt) (.blocked "secret-shaped path metadata")
  require (value.toList.head? ≠ some '/' ∧ ¬ text.onDrive value ∧ ".." ∉ pathParts value) (.blocked "path escape")
  return asPosix (pathParts value)

/-- A row of the canonical plan, with the content it is to have. -/
structure PlannedFile where
  row : FileRow
  content : Option Bytes

/-- Where the file is below the root. -/
def PlannedFile.name (file : PlannedFile) : List String := pathParts file.row.path

def Operation.ofWord (word : String) : Option Operation :=
  if word = "CREATE" then some .create
  else if word = "REPLACE" then some .replace
  else if word = "DELETE" then some .delete
  else none

def Operation.word : Option Operation → String
  | some .create => "CREATE"
  | some .replace => "REPLACE"
  | some .delete => "DELETE"
  | none => "None"

def canonicalImage (text : Text) (image : String) : String :=
  if text.upper image = "ABSENT" then "ABSENT" else text.lower image

/-- The body of the loop once the path is known; `digest` is `_sha`. -/
def canonicalFile (text : Text) (digest : Bytes → String) (item : FileOperation) (path : String) :
    Except Err PlannedFile := do
  let operation := Operation.ofWord item.operation
  let pre := canonicalImage text item.expectedPreimage
  let post := canonicalImage text item.desiredPostimage
  require (operation = some .create → pre = "ABSENT") (.blocked "CREATE requires absent preimage")
  require (operation = some .replace ∨ operation = some .delete → isDigest pre) (.blocked "invalid preimage")
  if operation = some .create ∨ operation = some .replace then
    let content ← found item.content (.blocked "content bytes required")
    require (isDigest post ∧ post = digest content) (.blocked "postimage digest mismatch")
    return ⟨⟨operation, path, pre, post, digest content⟩, some content⟩
  else
    require (item.content = none ∧ post = "ABSENT") (.blocked "DELETE requires absent postimage")
    return ⟨⟨operation, path, pre, post, "ABSENT"⟩, none⟩

def canonicalFiles (text : Text) (digest : Bytes → String) :
    List FileOperation → List String → Except Err (List PlannedFile)
  | [], _ => .ok []
  | item :: rest, seen => do
    let path ← normalizedRelative text item.path
    let collision := text.casefold (text.nfc path)
    require (collision ∉ seen) (.blocked "path normalization collision")
    let file ← canonicalFile text digest item path
    let files ← canonicalFiles text digest rest (collision :: seen)
    return file :: files

def maxPlanFiles : Nat := 64
def maxPlanBytes : Nat := 1048576

def payload (files : List PlannedFile) : Nat := (files.map fun file => (file.content.getD []).length).sum

def byPath (files : List PlannedFile) : List PlannedFile := files.insertionSort fun a b => a.row.path ≤ b.row.path

def manifest (files : List PlannedFile) : String := String.join (files.map fun file =>
  s!"{file.row.path}|{Operation.word file.row.operation}|{file.row.preimage}|{file.row.postimage}|{file.row.contentSha256}\n")

structure CanonicalPlan where
  grantId : String
  planHash : String
  files : List PlannedFile
  nonempty : files ≠ []
  apart : (files.map PlannedFile.name).Nodup

/-- What the database is told of it. -/
def CanonicalPlan.plan (plan : CanonicalPlan) : Plan := ⟨plan.grantId, plan.planHash, plan.files.map PlannedFile.row⟩

section

variable {text : Text} {digest : Bytes → String} {item : FileOperation} {items : List FileOperation}
  {seen : List String} {file : PlannedFile} {files : List PlannedFile} {value path : String}

theorem normalizedRelative_ok (accepted : normalizedRelative text value = .ok path) :
    path = asPosix (pathParts value) := by
  simp only [normalizedRelative, require_bind_ok, pure_ok] at accepted
  exact accepted.2.2.2.2.symm

theorem canonicalFile_path (accepted : canonicalFile text digest item path = .ok file) : file.row.path = path := by
  simp only [canonicalFile, require_bind_ok] at accepted
  obtain ⟨_, _, accepted⟩ := accepted
  split at accepted
  · simp only [found_bind_ok, require_bind_ok, pure_ok] at accepted
    obtain ⟨_, _, _, rfl⟩ := accepted
    rfl
  · simp only [require_bind_ok, pure_ok] at accepted
    obtain ⟨_, rfl⟩ := accepted
    rfl

/-- The name under which a path cannot come twice. -/
def collides (text : Text) (file : PlannedFile) : String := text.casefold (text.nfc file.row.path)

theorem canonicalFiles_ok (accepted : canonicalFiles text digest items seen = .ok files) :
    files.length = items.length ∧ (files.map (collides text)).Nodup ∧
      ∀ file ∈ files, collides text file ∉ seen ∧ ∃ value, file.row.path = asPosix (pathParts value) := by
  induction items generalizing seen files with
  | nil =>
    cases accepted
    exact ⟨rfl, .nil, by simp⟩
  | cons item rest ih =>
    simp only [canonicalFiles, bind_ok, require_ok, pure_ok, exists_const] at accepted
    obtain ⟨path, normalized, fresh, file, planned, later, accepted, rfl⟩ := accepted
    obtain ⟨counted, distinct, each⟩ := ih accepted
    obtain rfl := canonicalFile_path planned
    refine ⟨by simp [counted], ?_, ?_⟩
    · rw [List.map_cons, List.nodup_cons]
      refine ⟨fun again => ?_, distinct⟩
      obtain ⟨other, member, same⟩ := List.mem_map.mp again
      exact (each other member).1 (same ▸ List.mem_cons_self)
    · intro other member
      rcases List.mem_cons.mp member with rfl | member
      · exact ⟨fresh, item.path, normalizedRelative_ok normalized⟩
      · obtain ⟨unseen, written⟩ := each other member
        exact ⟨fun known => unseen (List.mem_cons_of_mem _ known), written⟩

theorem byPath_perm : (byPath files).Perm files := List.perm_insertionSort _ _

/-- Sorted, the files still have different names. -/
theorem canonicalFiles_apart (accepted : canonicalFiles text digest items [] = .ok files) :
    ((byPath files).map PlannedFile.name).Nodup := by
  obtain ⟨_, distinct, each⟩ := canonicalFiles_ok accepted
  refine (List.Perm.nodup_iff (byPath_perm.map _)).mpr (List.Nodup.of_map (fun parts => text.casefold (text.nfc (asPosix parts))) ?_)
  rw [List.map_map]
  have same : ∀ file ∈ files, ((fun parts => text.casefold (text.nfc (asPosix parts))) ∘ PlannedFile.name) file =
      collides text file := by
    intro file member
    obtain ⟨_, value, written⟩ := each file member
    simp only [Function.comp_apply, PlannedFile.name, collides, written, pathParts_asPosix fun _ => isPart_of_mem]
  rwa [List.map_congr_left same]

theorem canonicalFiles_nonempty (accepted : canonicalFiles text digest items [] = .ok files) (some : 1 ≤ items.length) :
    byPath files ≠ [] := by
  obtain ⟨counted, _⟩ := canonicalFiles_ok accepted
  intro empty
  have := byPath_perm.length_eq.symm.trans (congrArg List.length empty)
  simp only [List.length_nil] at this
  omega

end

/-- `canonical_plan` -/
def canonicalPlan (host : Host) (text : Text) (digest : Bytes → String) (plan : ExecutionPlan) :
    Except Err CanonicalPlan :=
  if size : 1 ≤ plan.operations.length ∧ plan.operations.length ≤ maxPlanFiles then
    match accepted : canonicalFiles text digest plan.operations [] with
    | .error e => .error e
    | .ok files =>
      if payload files ≤ maxPlanBytes then
        .ok ⟨plan.grantId, host.sha256 (manifest (byPath files)), byPath files,
          canonicalFiles_nonempty accepted size.1, canonicalFiles_apart accepted⟩
      else .error (.blocked "plan payload too large")
  else .error (.blocked "invalid plan size")

theorem canonicalPlan_grantId {host : Host} {text : Text} {digest : Bytes → String} {plan : ExecutionPlan}
    {canonical : CanonicalPlan} (accepted : canonicalPlan host text digest plan = .ok canonical) :
    canonical.grantId = plan.grantId := by
  unfold canonicalPlan at accepted
  split at accepted
  · split at accepted
    · cases accepted
    · split at accepted
      · cases accepted
        rfl
      · cases accepted
  · cases accepted

end ControlPlane.Autonomy
