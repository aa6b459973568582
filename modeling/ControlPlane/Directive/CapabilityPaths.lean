import ControlPlane.Data.Lookup
import ControlPlane.Data.PosixPath
import ControlPlane.Directive.Capability

/-!
# Paths of a capability

`sanitize_and_resolve_path` of `capability_policy.py`: where a path leads is compared with the
authorized root as text, and a directory beside the root can have a name that goes on from it.
-/

namespace ControlPlane.Directive

open Data

/-- The files of a machine, as a process in some directory finds them: no name has a slash. -/
structure PathTree extends FileSystem where
  cwd : Place
  cwdParts : ∀ part ∈ cwd, IsPart part
  targets : ∀ place absolute target, entry place = some (.symlink absolute target) → ∀ part ∈ target, '/' ∉ part.toList

/-- `Path(text)` -/
structure PosixPath where
  absolute : Bool
  parts : List String

def PosixPath.ofText (text : String) : PosixPath := ⟨['/'].isPrefixOf text.toList, pathParts text⟩

/-- `path / text` -/
def PosixPath.join (path : PosixPath) (text : String) : PosixPath :=
  if (PosixPath.ofText text).absolute then PosixPath.ofText text else ⟨path.absolute, path.parts ++ pathParts text⟩

/-- `path.resolve()`; nothing where it raises. -/
def PathTree.resolve (tree : PathTree) (path : PosixPath) : Option Place :=
  if path.parts.any (·.toList.contains '\x00') then none
  else tree.leads tree.depth (if path.absolute then [] else tree.cwd) path.parts

/-- The checks of the text: it is traversal, or could be one of the shell. -/
def suspicious (rawPath : String) : Bool := occursIn ".." rawPath || rawPath.toList.any (· ∈ shellMetachars.toList)

/-- `sanitize_and_resolve_path`; no text where the path is of another type. -/
def sanitizeAndResolvePath (tree : PathTree) (rawPath : Option String) (authorizedRoot : String) : Except String Place :=
  match rawPath with
  | none => .error "INVALID_PATH_TYPE"
  | some raw =>
    if raw = "" then .error "INVALID_PATH_TYPE"
    else if suspicious raw then .error "PATH_TRAVERSAL_REJECTED"
    else match tree.resolve (.ofText authorizedRoot), tree.resolve ((PosixPath.ofText authorizedRoot).join raw) with
      | some authRootResolved, some requestedPath =>
        if (pathText authRootResolved).isPrefixOf (pathText requestedPath) then .ok requestedPath
        else .error "ABSOLUTE_OUT_OF_SCOPE_PATH_REJECTED"
      | _, _ => .error "PATH_RESOLUTION_ERROR"

/-- Whatever path comes out lies at the resolved root or below it. -/
def StaysInside (tree : PathTree) (rawPath : Option String) (authorizedRoot : String) : Prop :=
  ∀ p, sanitizeAndResolvePath tree rawPath authorizedRoot = .ok p →
    ∃ root, tree.resolve (.ofText authorizedRoot) = some root ∧ root <+: p

/-- The path leads to a place beside the root, at or below a name that goes on from the root's own. -/
def LeadsBeside (tree : PathTree) (raw authorizedRoot : String) : Prop :=
  ∃ root p, tree.resolve (.ofText authorizedRoot) = some root ∧
    tree.resolve ((PosixPath.ofText authorizedRoot).join raw) = some p ∧ Beside root p

section

variable {tree : PathTree} {path : PosixPath} {p root : Place} {raw authorizedRoot : String}

theorem resolve_parts (parts : ∀ part ∈ path.parts, '/' ∉ part.toList) (resolved : tree.resolve path = some p) :
    ∀ part ∈ p, IsPart part := by
  unfold PathTree.resolve at resolved
  by_cases nul : path.parts.any (·.toList.contains '\x00') = true
  · rw [if_pos nul] at resolved
    cases resolved
  rw [if_neg nul] at resolved
  refine FileSystem.leads_parts (fun part slash nonempty dot => ⟨slash, nonempty, dot⟩) tree.targets resolved ?_ parts
  split
  · exact fun _ member => absurd member List.not_mem_nil
  · exact tree.cwdParts

theorem ofText_parts (text : String) : ∀ part ∈ (PosixPath.ofText text).parts, '/' ∉ part.toList :=
  fun _ member => (isPart_of_mem member).1

theorem join_parts (parts : ∀ part ∈ path.parts, '/' ∉ part.toList) (text : String) :
    ∀ part ∈ (path.join text).parts, '/' ∉ part.toList := by
  unfold PosixPath.join
  split
  · exact ofText_parts text
  · intro part member
    rcases List.mem_append.mp member with first | later
    · exact parts part first
    · exact (isPart_of_mem later).1

/-- What passes lies in the root, or beside it under a longer name. -/
theorem sanitized_iff : sanitizeAndResolvePath tree (some raw) authorizedRoot = .ok p ↔
    raw ≠ "" ∧ suspicious raw = false ∧ tree.resolve ((PosixPath.ofText authorizedRoot).join raw) = some p ∧
      ∃ root, tree.resolve (.ofText authorizedRoot) = some root ∧ (root <+: p ∨ Beside root p) := by
  unfold sanitizeAndResolvePath
  by_cases empty : raw = ""
  · simp [empty]
  by_cases refused : suspicious raw = true
  · simp [empty, refused]
  simp only [if_neg empty, if_neg refused]
  cases rooted : tree.resolve (.ofText authorizedRoot) with
  | none => simp
  | some root =>
    cases resolved : tree.resolve ((PosixPath.ofText authorizedRoot).join raw) with
    | none => simp
    | some requested =>
      have texts := pathText_prefix (resolve_parts (ofText_parts _) rooted) (resolve_parts (join_parts (ofText_parts _) raw) resolved)
      by_cases inside : (pathText root).isPrefixOf (pathText requested) = true
      · have place := texts.mp (List.isPrefixOf_iff_prefix.mp inside)
        simp only [if_pos inside, Except.ok.injEq, Option.some.injEq, exists_eq_left']
        constructor
        · intro same
          subst same
          exact ⟨empty, Bool.not_eq_true _ ▸ refused, rfl, place⟩
        · exact fun held => held.2.2.1
      · have outside : ¬ (root <+: requested ∨ Beside root requested) := fun place =>
          inside (List.isPrefixOf_iff_prefix.mpr (texts.mpr place))
        simp only [if_neg inside, Option.some.injEq, exists_eq_left', reduceCtorEq, false_iff]
        rintro ⟨_, _, rfl, place⟩
        exact outside place

/-- A path stays inside the root iff there is none, its text is refused, or it does not lead beside the root. -/
theorem sanitized_inside_iff (tree : PathTree) (rawPath : Option String) (authorizedRoot : String) :
    StaysInside tree rawPath authorizedRoot ↔
      ∀ raw, rawPath = some raw → raw = "" ∨ suspicious raw = true ∨ ¬ LeadsBeside tree raw authorizedRoot := by
  constructor
  · rintro inside raw rfl
    by_contra open_
    simp only [not_or, not_not, Bool.not_eq_true] at open_
    obtain ⟨nonempty, plain, root, p, rooted, resolved, beside⟩ := open_
    have passed := sanitized_iff.mpr ⟨nonempty, plain, resolved, root, rooted, .inr beside⟩
    obtain ⟨root', rooted', place⟩ := inside p passed
    rw [rooted] at rooted'
    exact beside.not_prefix (Option.some.inj rooted' ▸ place)
  · intro safe p passed
    cases rawPath with
    | none => cases passed
    | some raw =>
      obtain ⟨nonempty, plain, resolved, root, rooted, place⟩ := sanitized_iff.mp passed
      refine ⟨root, rooted, place.resolve_right fun beside => ?_⟩
      rcases safe raw rfl with empty | refused | apart
      · exact nonempty empty
      · rw [plain] at refused
        cases refused
      · exact apart ⟨root, p, rooted, resolved, beside⟩

end

/-- A laboratory, with an archive beside it. -/
def labTree : PathTree where
  toFileSystem := .ofEntries [([], .directory), (["srv"], .directory), (["srv", "lab"], .directory), (["srv", "lab-old"], .directory)]
    40 40 rfl (by decide)
  cwd := []
  cwdParts := by simp
  targets place absolute target known := by
    obtain ⟨before, after, entries, _⟩ := List.lookup_eq_some_iff.mp known
    have member : (place, Entry.symlink absolute target) ∈ before ++ (place, Entry.symlink absolute target) :: after := by simp
    rw [← entries] at member
    simp at member

/-- The archive passes for the laboratory. -/
theorem sanitized_beside : sanitizeAndResolvePath labTree (some "/srv/lab-old/x") "/srv/lab" = .ok ["srv", "lab-old", "x"] ∧
    labTree.resolve (.ofText "/srv/lab") = some ["srv", "lab"] ∧ ¬ ["srv", "lab"] <+: ["srv", "lab-old", "x"] := by
  decide

end ControlPlane.Directive
