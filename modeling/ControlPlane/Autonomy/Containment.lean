import ControlPlane.Autonomy.AllOrNothing
import ControlPlane.Data.Lookup

/-!
# Paths of a plan in the tree they are looked up in

`_path` asks the system whether a directory on the way exists and leaves it alone if not;
only `resolve` then looks at it. A symbolic link that the system cannot go through, and
`resolve` can, is passed over.
-/

namespace ControlPlane.Autonomy

open Data

/-- A registered workspace in the tree of its machine. Its root was resolved, and is not
the root of the machine, which contains the repository. -/
structure Ground where
  site : Site
  fs : FileSystem
  root : Place
  names : ∀ part ∈ root, IsName part
  canonical : fs.entry root = some .directory
  below : root ≠ []
  /-- `_physical_id` of the root -/
  physicalId : Answer String

namespace Ground

variable (g : Ground)

/-- The loop over the parts of the parent. -/
def traverse (current : List String) : List String → Except Err Unit
  | [] => .ok ()
  | part :: rest => do
    let current := current ++ [part]
    require (g.fs.present current → ¬ g.fs.isSymlink current ∧ g.fs.stat current = some .directory)
      (.blocked "symlink or reparse traversal")
    traverse current rest

/-- `_path` -/
def path (relative : String) : Except Err (List String) := do
  require (g.site.allowed relative) (.blocked "configured protected path")
  require ((← g.physicalId) = g.site.workspace.physicalId) (.integrityBlocked "workspace physical identity changed")
  let parts := pathParts relative
  g.traverse g.root parts.dropLast
  let candidate := g.root ++ parts
  require (g.fs.present candidate → ¬ g.fs.isSymlink candidate) (.blocked "symlink or reparse target")
  require (g.fs.isFile candidate → g.fs.lstat candidate = some (.file 1)) (.blocked "hardlinked target")
  let resolved ← found (g.fs.resolve candidate.dropLast) (.other "OSError")
  require (g.root <+: resolved) (.blocked "workspace escape")
  return candidate

/-- What a path that is handed out should be. -/
structure Contained (p : List String) : Prop where
  below : ∃ parts, parts ≠ [] ∧ p = g.root ++ parts
  direct : ∀ ways, ways ≠ [] → g.root ++ ways <+: p → g.root ++ ways ≠ p →
    ∀ e, g.fs.entry (g.root ++ ways) = some e → ¬ e.isSymlink
  unprotected : ∀ pre ∈ g.site.protectedPaths, g.site.casefold (asPosix (p.drop g.root.length)) ≠ pre ∧
    ¬ pre.toList ++ ['/'] <+: (g.site.casefold (asPosix (p.drop g.root.length))).toList
  single : g.fs.isFile p → g.fs.lstat p = some (.file 1)

/-- Nothing but a link on the way speaks against the path, and the system cannot go through
the link. -/
structure Overlooks (relative : String) : Prop where
  allowed : g.site.allowed relative
  same : g.physicalId = .ok g.site.workspace.physicalId
  resolves : ∃ place, g.fs.resolve (g.root ++ pathParts relative).dropLast = some place ∧ g.root <+: place
  link : ∃ ways, ways ≠ [] ∧ ways <+: (pathParts relative).dropLast ∧
    (g.fs.entry (g.root ++ ways)).any Entry.isSymlink ∧ g.fs.present (g.root ++ ways) = false

end Ground

section

variable {g : Ground} {text : Text} {value relative : String} {current xs ways p : List String}

theorem normalizedRelative_parts (normalized : normalizedRelative text value = .ok relative) :
    relative = asPosix (pathParts relative) ∧ ∀ part ∈ pathParts relative, IsName part := by
  simp only [normalizedRelative, require_bind_ok, pure_ok] at normalized
  obtain ⟨_, _, _, ⟨_, _, inside⟩, rfl⟩ := normalized
  have parts := pathParts_asPosix fun part (member : part ∈ pathParts value) => isPart_of_mem member
  refine ⟨congrArg asPosix parts.symm, fun part member => ?_⟩
  rw [parts] at member
  obtain ⟨_, nonempty, dot⟩ := isPart_of_mem member
  exact ⟨nonempty, dot, fun dots => inside (dots ▸ member)⟩

theorem allowed_iff : g.site.allowed relative ↔ ∀ pre ∈ g.site.protectedPaths, g.site.casefold relative ≠ pre ∧
    ¬ pre.toList ++ ['/'] <+: (g.site.casefold relative).toList := by
  simp only [Site.allowed, Bool.not_eq_true', List.any_eq_false, Bool.or_eq_true, decide_eq_true_eq,
    List.isPrefixOf_iff_prefix, not_or]

theorem traverse_ok : g.traverse current xs = .ok () ↔ ∀ ways, ways ≠ [] → ways <+: xs →
    g.fs.present (current ++ ways) →
      ¬ g.fs.isSymlink (current ++ ways) ∧ g.fs.stat (current ++ ways) = some .directory := by
  induction xs generalizing current with
  | nil => exact ⟨fun _ ways some way => absurd (List.prefix_nil.mp way) some, fun _ => rfl⟩
  | cons part xs ih =>
    simp only [Ground.traverse, require_bind_ok, ih]
    constructor
    · intro ⟨here, later⟩ ways some way there
      obtain ⟨rest, rfl, more⟩ := (List.prefix_cons_iff.mp way).resolve_left some
      by_cases last : rest = []
      · subst last
        exact here there
      · have further := later rest last more
        rw [List.append_assoc] at further
        exact further there
    · intro each
      refine ⟨each [part] (List.cons_ne_nil _ _) ⟨xs, rfl⟩, fun ways some way => ?_⟩
      rw [List.append_assoc]
      exact each (part :: ways) (List.cons_ne_nil _ _) (List.cons_prefix_cons.mpr ⟨rfl, way⟩)

theorem ground_path_ok : g.path relative = .ok p ↔ p = g.root ++ pathParts relative ∧ g.site.allowed relative ∧
    g.physicalId = .ok g.site.workspace.physicalId ∧ g.traverse g.root (pathParts relative).dropLast = .ok () ∧
    (g.fs.present p → ¬ g.fs.isSymlink p) ∧ (g.fs.isFile p → g.fs.lstat p = some (.file 1)) ∧
    ∃ place, g.fs.resolve p.dropLast = some place ∧ g.root <+: place := by
  simp only [Ground.path, bind_ok, require_ok, found_ok, pure_ok, exists_const]
  constructor
  · rintro ⟨allowed, physicalId, known, same, _, traversed, link, single, place, resolved, below, here⟩
    subst here same
    exact ⟨rfl, allowed, known, traversed, link, single, place, resolved, below⟩
  · rintro ⟨here, allowed, known, traversed, link, single, place, resolved, below⟩
    subst here
    exact ⟨allowed, _, known, rfl, (), traversed, link, single, place, resolved, below, rfl⟩

theorem names_under (names : ∀ part ∈ xs, IsName part) : ∀ part ∈ g.root ++ xs, IsName part := by
  intro part member
  rcases List.mem_append.mp member with above | under
  · exact g.names part above
  · exact names part under

/-- A path with a part below the root is not the root. -/
theorem parts_of_below {place : Place} (resolved : g.fs.resolve (g.root ++ xs).dropLast = some place)
    (below : g.root <+: place) : xs ≠ [] := by
  intro none
  subst none
  have above : g.fs.entry g.root.dropLast = some .directory := by
    have parted := List.dropLast_append_getLast g.below
    exact g.fs.inside _ (g.root.getLast g.below) (by rw [parted, g.canonical]; exact Option.some_ne_none _)
  rw [List.append_nil, FileSystem.resolve,
    FileSystem.realpath_directories (fun part member => g.names part (List.dropLast_subset _ member))
      (FileSystem.directories_above above)] at resolved
  cases resolved
  have longer := below.length_le
  have some := List.length_pos_of_ne_nil g.below
  rw [List.nil_append, List.length_dropLast] at longer
  omega

/-- A shorter path to a place leads to a directory on the way. -/
theorem prefix_dropLast (way : ways <+: xs) (short : ways ≠ xs) : ways <+: xs.dropLast := by
  obtain ⟨rest, rfl⟩ := way
  have some : rest ≠ [] := by
    intro none
    rw [none, List.append_nil] at short
    exact short rfl
  exact ⟨rest.dropLast, (List.dropLast_append_of_ne_nil some).symm⟩

/-- A path that is handed out is contained, unless a link was overlooked on the way to it. -/
theorem contained_of_path (normalized : normalizedRelative text value = .ok relative)
    (seen : ¬ g.Overlooks relative) (passed : g.path relative = .ok p) : g.Contained p := by
  obtain ⟨rfl, allowed, same, traversed, _, single, place, resolved, below⟩ := ground_path_ok.mp passed
  obtain ⟨whole, names⟩ := normalizedRelative_parts normalized
  refine ⟨⟨_, parts_of_below resolved below, rfl⟩, ?_, ?_, single⟩
  · intro ways some way short e entry link
    have way : ways <+: pathParts relative := List.prefix_append_right_inj g.root |>.mp way
    have before := prefix_dropLast way fun same => short (congrArg (g.root ++ ·) same)
    have known : g.fs.entry (g.root ++ ways) ≠ none := entry ▸ Option.some_ne_none _
    have here := FileSystem.lstat_entry
      (names_under (g := g) fun part member => names part (way.subset member)) known
    cases present : g.fs.present (g.root ++ ways) with
    | true =>
      have plain := (traverse_ok.mp traversed ways some before present).1
      rw [FileSystem.isSymlink, here, entry, Option.any_some] at plain
      exact plain link
    | false => exact seen ⟨allowed, same, ⟨place, resolved, below⟩, ways, some, before, by rw [entry]; exact link, present⟩
  · rw [List.drop_left, ← whole]
    exact allowed_iff.mp allowed

/-- If a link is overlooked then the path is handed out. -/
theorem Ground.Overlooks.path (overlooks : g.Overlooks relative)
    (normalized : normalizedRelative text value = .ok relative) : g.path relative = .ok (g.root ++ pathParts relative) := by
  obtain ⟨allowed, same, resolves, ways, some, before, link, lost⟩ := overlooks
  obtain ⟨_, names⟩ := normalizedRelative_parts normalized
  have gone : g.fs.present (g.root ++ pathParts relative) = false := by
    obtain ⟨rest, whole⟩ := before.trans (List.dropLast_prefix _)
    rw [← whole, ← List.append_assoc]
    exact FileSystem.present_lost lost
  refine ground_path_ok.mpr ⟨rfl, allowed, same, traverse_ok.mpr ?_, ?_, ?_, resolves⟩
  · intro others _ other present
    rcases List.prefix_or_prefix_of_prefix before other with ⟨rest, rfl⟩ | ⟨rest, rfl⟩
    · rw [← List.append_assoc, FileSystem.present_lost lost] at present
      cases present
    · have last : rest ≠ [] := by
        intro none
        rw [none, List.append_nil] at lost
        rw [lost] at present
        cases present
      have directory : g.fs.entry (g.root ++ others) = Option.some .directory := by
        refine @FileSystem.entry_above g.fs (g.root ++ others) rest ?_ last
        intro none
        rw [List.append_assoc] at none
        rw [none] at link
        cases link
      have names := names_under (g := g) fun part member =>
        names part (List.dropLast_subset _ (other.subset member))
      exact FileSystem.directory_plain names directory
  · intro present
    rw [gone] at present
    cases present
  · intro file
    have present := FileSystem.present_of_isFile file
    rw [gone] at present
    cases present

/-- Plan paths stay in the workspace exactly when no link is overlooked. -/
theorem path_contained_iff (normalized : normalizedRelative text value = .ok relative) :
    (∀ p, g.path relative = .ok p → g.Contained p) ↔ ¬ g.Overlooks relative := by
  constructor
  · intro contained overlooks
    have direct := (contained _ (overlooks.path normalized)).direct
    obtain ⟨ways, some, before, link, _⟩ := overlooks.link
    obtain ⟨e, entry, link⟩ := (Option.any_eq_true _ _).mp link
    have longer := before.length_le
    refine direct ways some ?_ ?_ e entry link
    · exact (List.prefix_append_right_inj g.root).mpr (before.trans (List.dropLast_prefix _))
    · intro same
      have same := congrArg List.length same
      have some := List.length_pos_of_ne_nil some
      rw [List.length_append, List.length_append] at same
      rw [List.length_dropLast] at longer
      omega
  · exact fun seen p passed => contained_of_path normalized seen passed

/-! ### The tree that the controller works on -/

/-- What a node of the workspace is in the tree of the machine. -/
def entryOf (t : Tree Name Bytes) (absolute : Bool) (target : List String) : Node Name → Entry
  | .file i => .file (t.inodes i).links
  | .directory => .directory
  | .symlink _ => .symlink absolute target
  | .special => .special

/-- The workspace of the world is the one on the ground. -/
structure Ground.Shows (g : Ground) (w : World) : Prop where
  root : w.root = g.physicalId
  entries : ∀ x, x ≠ [] → ∃ absolute target, g.fs.entry (g.root ++ x) = (w.tree.names x).map (entryOf w.tree absolute target)
  stats : ∀ x, (w.tree.stat x).isSome = g.fs.present (g.root ++ x)

variable {w : World}

theorem mem_parents {x p : Name} : p ∈ parents x ↔ p ≠ [] ∧ p <+: x.dropLast := by
  unfold parents
  cases x.dropLast with
  | nil => simp
  | cons part rest =>
    rw [List.inits_cons, List.tail_cons, List.mem_map]
    constructor
    · rintro ⟨q, member, rfl⟩
      exact ⟨List.cons_ne_nil _ _, List.cons_prefix_cons.mpr ⟨rfl, (List.mem_inits _ _).mp member⟩⟩
    · rintro ⟨some, way⟩
      obtain ⟨q, rfl, below⟩ := (List.prefix_cons_iff.mp way).resolve_left some
      exact ⟨q, (List.mem_inits _ _).mpr below, rfl⟩

/-- What is there and passes the checks on a target is no link, and no file with another name. -/
theorem Ground.Shows.target (shows : g.Shows w) {x : Name} (some : x ≠ []) (present : g.fs.present (g.root ++ x))
    (link : w.tree.stat x = none ∨ ¬ w.tree.isSymlink x) (shared : w.tree.stat x = none ∨ w.tree.unshared x) :
    ∃ e, g.fs.entry (g.root ++ x) = Option.some e ∧ ¬ e.isSymlink ∧ ∀ links, e = .file links → links = 1 := by
  rw [← shows.stats] at present
  have there : w.tree.stat x ≠ none := Option.isSome_iff_ne_none.mp present
  have link := link.resolve_left there
  have shared := shared.resolve_left there
  obtain ⟨absolute, target, entry⟩ := shows.entries x some
  cases named : w.tree.names x with
  | none => exact absurd (Tree.stat_none named) there
  | some node =>
    rw [named] at entry
    refine ⟨_, entry, ?_⟩
    cases node with
    | file i =>
      refine ⟨Bool.false_ne_true, fun links same => ?_⟩
      cases same
      simpa [Tree.unshared, Tree.file?, named] using shared
    | symlink target =>
      refine absurd ?_ link
      rw [Tree.isSymlink, named]
    | directory => exact ⟨Bool.false_ne_true, fun _ impossible => by cases impossible⟩
    | special => exact ⟨Bool.false_ne_true, fun _ impossible => by cases impossible⟩

/-- What the controller's `_path` hands out is handed out on the ground, and no link was overlooked. -/
theorem Ground.Shows.path (shows : g.Shows w) (normalized : normalizedRelative text value = .ok relative)
    (passed : g.site.path w relative = .ok p) :
    g.path relative = .ok (g.root ++ p) ∧ g.Contained (g.root ++ p) := by
  obtain ⟨rfl, allowed, same, traversed, link, shared, found, below⟩ := path_ok.mp passed
  obtain ⟨_, names⟩ := normalizedRelative_parts normalized
  have ways : ∀ ws, ws ≠ [] → ws <+: (pathParts relative).dropLast → g.fs.entry (g.root ++ ws) = some .directory := by
    intro ws some way
    have parent := mem_parents.mpr ⟨some, way⟩
    have plain := List.all_eq_true.mp traversed ws parent
    have known := List.all_eq_true.mp found ws parent
    obtain ⟨absolute, target, entry⟩ := shows.entries ws some
    have directory : w.tree.isDirectory ws := by
      rcases Bool.or_eq_true_iff.mp plain with absent | directory
      · rw [Option.isNone_iff_eq_none.mp absent] at known
        cases known
      · exact directory
    unfold Tree.isDirectory at directory
    split at directory
    · rename_i named
      rw [entry, named]
      rfl
    · cases directory
  have clear : ¬ g.Overlooks relative := by
    intro overlooks
    obtain ⟨ws, some, way, link, _⟩ := overlooks.link
    rw [ways ws some way] at link
    cases link
  have parent : g.fs.entry (g.root ++ (pathParts relative).dropLast) = some .directory := by
    by_cases last : (pathParts relative).dropLast = []
    · rw [last, List.append_nil]
      exact g.canonical
    · exact ways _ last (List.prefix_refl _)
  have names_above : ∀ part ∈ g.root ++ (pathParts relative).dropLast, IsName part :=
    names_under fun part member => names part (List.dropLast_subset _ member)
  have there := names_under (g := g) names
  have passed : g.path relative = .ok (g.root ++ pathParts relative) := by
    refine ground_path_ok.mpr ⟨rfl, allowed, shows.root ▸ same, traverse_ok.mpr ?_, ?_, ?_, ?_⟩
    · intro ws some way _
      have directory := ways ws some way
      have names := names_under (g := g) fun part member => names part (List.dropLast_subset _ (way.subset member))
      exact FileSystem.directory_plain names directory
    · intro present
      obtain ⟨e, entry, plain, _⟩ := shows.target below present link shared
      rw [FileSystem.isSymlink, FileSystem.lstat_entry there (entry ▸ Option.some_ne_none _), entry]
      exact plain
    · intro file
      obtain ⟨e, entry, plain, single⟩ := shows.target below (FileSystem.present_of_isFile file) link shared
      have seen := FileSystem.stat_entry there entry plain
      rw [FileSystem.lstat_entry there (entry ▸ Option.some_ne_none _), entry]
      unfold FileSystem.isFile at file
      split at file
      · rename_i links known
        cases seen.symm.trans known
        rw [single links rfl]
      · cases file
    · refine ⟨g.root ++ (pathParts relative).dropLast, ?_, List.prefix_append _ _⟩
      rw [List.dropLast_append_of_ne_nil below, FileSystem.resolve,
        FileSystem.realpath_directories names_above (FileSystem.directories_above parent)]
      rfl
  exact ⟨passed, contained_of_path normalized clear passed⟩

end

namespace Disposable

theorem below_lab : [(([] : Place), Entry.directory), (["lab"], .directory), (["lab", "src"], .directory),
      (["lab", "f"], .file 1), (["lab", "a"], .symlink false ["f", ".."])].all (fun e => e.1 = [] ||
    [(([] : Place), Entry.directory), (["lab"], .directory), (["lab", "src"], .directory),
      (["lab", "f"], .file 1), (["lab", "a"], .symlink false ["f", ".."])].lookup e.1.dropLast = some .directory) := by
  decide

/-- A link that leads back to the root by way of a file. -/
def ground : Ground where
  site := site
  fs := .ofEntries [([], .directory), (["lab"], .directory), (["lab", "src"], .directory), (["lab", "f"], .file 1),
    (["lab", "a"], .symlink false ["f", ".."])] 40 900 rfl below_lab
  root := ["lab"]
  names := by
    intro part member
    obtain rfl := List.mem_singleton.mp member
    decide
  canonical := rfl
  below := List.cons_ne_nil _ _
  physicalId := .ok "7"

end Disposable

theorem path_contained_plain : Disposable.ground.path "src/b" = .ok ["lab", "src", "b"] ∧
    Disposable.ground.Contained ["lab", "src", "b"] := by
  have normalized : normalizedRelative Disposable.text "src/b" = .ok "src/b" := rfl
  have parent : (pathParts "src/b").dropLast = ["src"] := by decide
  have passed : Disposable.ground.path "src/b" = .ok ["lab", "src", "b"] := rfl
  refine ⟨passed, (path_contained_iff normalized).mpr (fun overlooks => ?_) _ passed⟩
  obtain ⟨ways, some, way, link, _⟩ := overlooks.link
  rw [parent] at way
  obtain ⟨rest, rfl, last⟩ := (List.prefix_cons_iff.mp way).resolve_left some
  obtain rfl := List.prefix_nil.mp last
  cases link

theorem overlooked_link : normalizedRelative Disposable.text "a/b" = .ok "a/b" ∧
    Disposable.ground.path "a/b" = .ok ["lab", "a", "b"] ∧ ¬ Disposable.ground.Contained ["lab", "a", "b"] := by
  refine ⟨rfl, rfl, fun contained => ?_⟩
  exact contained.direct ["a"] (List.cons_ne_nil _ _) ⟨["b"], rfl⟩ (by decide) _ rfl rfl

end ControlPlane.Autonomy
