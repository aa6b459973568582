import ControlPlane.Directive.CapabilityPaths
import ControlPlane.Directive.Watcher

/-!
# Where acknowledgements are written

`write_ack` opens `ack_dir / f"\x7bdirective_id\x7d.json"`, with the id as the document has it on most
branches of `poll_inbox`: a slash in it is a way out of the directory.
-/

namespace ControlPlane.Directive

open ControlPlane.Data

/-- The files of a machine with the directory of the acknowledgements, which is reached by no link. -/
structure AckTree (ackDir : Place) where
  fs : FileSystem
  names : ∀ part ∈ ackDir, IsName part
  directory : fs.entry ackDir = some .directory

/-- `self.ack_dir / f"\x7bdirective_id\x7d.json"` -/
def ackPath (ackDir : Place) (directiveId : String) : List String :=
  (PosixPath.join ⟨true, ackDir⟩ (directiveId ++ ".json")).parts

/-- `open` wants a path without NUL characters. -/
def openable (path : List String) : Bool := path.all fun part => !part.toList.contains '\x00'

/-- The file that `write_ack` makes or empties, where the system lets it. -/
def AckTree.created {ackDir : Place} (tree : AckTree ackDir) (directiveId : String) : Option Place :=
  if openable (ackPath ackDir directiveId) then tree.fs.creates tree.fs.links [] (ackPath ackDir directiveId) else none

/-- What the environment has to say about an acknowledgement: the files at that time, and whether the
file can be opened. -/
structure AckWrite (ackDir : Place) where
  tree : AckTree ackDir
  opens : Bool

def AckWrite.file {ackDir : Place} (write : AckWrite ackDir) (directiveId : String) : Option Place :=
  if write.opens then write.tree.created directiveId else none

/-- Before its last slash the path leads to another directory, which takes the file; or a link takes it out. -/
def AckTree.Leaves {ackDir : Place} (tree : AckTree ackDir) (directiveId : String) : Prop :=
  openable (ackPath ackDir directiveId) = true ∧ ∃ way name d, ackPath ackDir directiveId = way ++ [name] ∧
    tree.fs.search tree.fs.links [] way = some d ∧
    (d ≠ ackDir ∧ tree.fs.entry d = some .directory ∧ IsName name ∧
      (tree.fs.entry (d ++ [name]) = none ∨ ∃ links, tree.fs.entry (d ++ [name]) = some (.file links)) ∨
    ∃ absolute target, tree.fs.entry (d ++ [name]) = some (.symlink absolute target) ∧
      ∃ p, tree.fs.creates tree.fs.links [] (way ++ [name]) = some p ∧ ¬ ∃ last, p = ackDir ++ [last])

section

variable {ackDir : Place} {tree : AckTree ackDir} {directiveId : String} {p : Place}

/-- An id without a slash leaves the directory through a link in it only. -/
theorem leaves_plain (plain : '/' ∉ directiveId.toList) (leaves : tree.Leaves directiveId) :
    ∃ absolute target, tree.fs.entry (ackDir ++ [directiveId ++ ".json"]) = some (.symlink absolute target) := by
  have pieces : (directiveId ++ ".json").toList.splitOn '/' = [(directiveId ++ ".json").toList] := by
    refine List.splitOn_eq_singleton ?_
    rw [String.toList_append]
    intro member
    rcases List.mem_append.mp member with inside | inside
    · exact plain inside
    · exact absurd inside (by decide)
  have long : (directiveId ++ ".json").toList ≠ [] ∧ (directiveId ++ ".json").toList ≠ ['.'] := by
    constructor
    all_goals
      intro same
      have lengths := congrArg List.length same
      simp at lengths
  have parts : pathParts (directiveId ++ ".json") = [directiveId ++ ".json"] := by
    simp only [pathParts, pieces, List.filter_cons, List.filter_nil, long, ne_eq, not_false_eq_true, and_self, decide_true, if_true,
      List.map_cons, List.map_nil, String.ofList_toList]
  have relative : ¬ ['/'].isPrefixOf (directiveId ++ ".json").toList = true := by
    intro absolute
    obtain ⟨rest, text⟩ := List.isPrefixOf_iff_prefix.mp absolute
    have slash : '/' ∈ (directiveId ++ ".json").toList := text ▸ List.mem_append_left rest (List.mem_singleton_self '/')
    exact not_mem_of_mem_splitOn (pieces ▸ List.mem_singleton_self _) slash
  have whole : ackPath ackDir directiveId = ackDir ++ [directiveId ++ ".json"] := by
    rw [ackPath, PosixPath.join, PosixPath.ofText, if_neg relative, parts]
  obtain ⟨_, way, name, d, path, led, gone⟩ := leaves
  rw [whole] at path
  obtain ⟨rfl, last⟩ := List.append_inj' path rfl
  obtain rfl := List.singleton_inj.mp last
  have here : tree.fs.search tree.fs.links [] (ackDir ++ []) = tree.fs.search tree.fs.links ([] ++ ackDir) [] :=
    FileSystem.search_directories tree.names (FileSystem.directories_above tree.directory)
  rw [List.append_nil, FileSystem.search_nil, List.nil_append] at here
  obtain rfl := Option.some.inj (here.symm.trans led)
  rcases gone with ⟨apart, _⟩ | ⟨absolute, target, entry, _⟩
  · exact absurd rfl apart
  · exact ⟨absolute, target, entry⟩

end

end ControlPlane.Directive
