import Mathlib.Data.List.Infix

/-!
# Looking up a path

A symbolic link sends a search elsewhere. The operating system wants a directory wherever
the search goes on, dots included, and gives up after so many links; a search in user
space that strikes the dots out of the text does neither.
-/

namespace ControlPlane.Data

/-- The names of the directories on the way, none of which is a link. -/
abbrev Place := List String

inductive Entry where
  | file (links : Nat)
  | directory
  | symlink (absolute : Bool) (target : List String)
  | special
  deriving DecidableEq

def Entry.isSymlink : Entry → Bool
  | .symlink .. => true
  | _ => false

structure FileSystem where
  entry : Place → Option Entry
  top : entry [] = some .directory
  inside : ∀ place part, entry (place ++ [part]) ≠ none → entry place = some .directory
  /-- the links that the system follows in one search -/
  links : Nat
  /-- the links whose targets `realpath` can be in the middle of -/
  depth : Nat

/-- A file system with the entries of a list. -/
def FileSystem.ofEntries (entries : List (Place × Entry)) (links depth : Nat)
    (top : entries.lookup [] = some .directory)
    (inside : entries.all fun e => e.1 = [] || entries.lookup e.1.dropLast = some .directory) : FileSystem where
  entry place := entries.lookup place
  top := top
  links := links
  depth := depth
  inside place part known := by
    obtain ⟨e, found⟩ := Option.ne_none_iff_exists'.mp known
    obtain ⟨before, after, rfl, _⟩ := List.lookup_eq_some_iff.mp found
    have above := List.all_eq_true.mp inside (place ++ [part], e) (by simp)
    simpa using above

/-- A part that is no dot. -/
def IsName (part : String) : Prop := part ≠ "" ∧ part ≠ "." ∧ part ≠ ".."

instance (part : String) : Decidable (IsName part) := inferInstanceAs (Decidable (_ ∧ _ ∧ _))

namespace FileSystem

variable (fs : FileSystem)

/-- The system's search from a place; `follow` is how it goes on from a link. -/
def searchBy (follow : Place → List String → Option Place) : Place → List String → Option Place
  | place, [] => some place
  | place, part :: rest =>
    if fs.entry place ≠ some .directory then none
    else if part = "" ∨ part = "." then searchBy follow place rest
    else if part = ".." then searchBy follow place.dropLast rest
    else match fs.entry (place ++ [part]) with
      | none => none
      | some (.symlink absolute target) => follow (if absolute then [] else place) (target ++ rest)
      | some _ => searchBy follow (place ++ [part]) rest

def search : Nat → Place → List String → Option Place
  | 0 => fs.searchBy fun _ _ => none
  | links + 1 => fs.searchBy (search links)

/-- `_joinrealpath` of `posixpath`, strict -/
def realpathBy (follow : Place → List String → Option Place) : Place → List String → Option Place
  | place, [] => some place
  | place, part :: rest =>
    if part = "" ∨ part = "." then realpathBy follow place rest
    else if part = ".." then realpathBy follow place.dropLast rest
    else match fs.entry (place ++ [part]) with
      | none => none
      | some (.symlink absolute target) =>
        (follow (if absolute then [] else place) target).bind fun place => realpathBy follow place rest
      | some _ => realpathBy follow (place ++ [part]) rest

def realpath : Nat → Place → List String → Option Place
  | 0 => fs.realpathBy fun _ _ => none
  | depth + 1 => fs.realpathBy (realpath depth)

/-- `resolve(strict=True)` -/
def resolve (path : List String) : Option Place := fs.realpath fs.depth [] path

/-- `_joinrealpath`, not strict: a part that has no entry is taken for what it is called. -/
def leadsBy (follow : Place → List String → Option Place) : Place → List String → Option Place
  | place, [] => some place
  | place, part :: rest =>
    if part = "" ∨ part = "." then leadsBy follow place rest
    else if part = ".." then leadsBy follow place.dropLast rest
    else match fs.entry (place ++ [part]) with
      | some (.symlink absolute target) =>
        (follow (if absolute then [] else place) target).bind fun place => leadsBy follow place rest
      | _ => leadsBy follow (place ++ [part]) rest

/-- Where a path leads; nothing where its links go in circles. -/
def leads : Nat → Place → List String → Option Place
  | 0 => fs.leadsBy fun _ _ => none
  | depth + 1 => fs.leadsBy (leads depth)

/-- The file that `open(path, "w")` makes or empties; `follow` is how it goes on from a link. -/
def createsBy (follow : Place → List String → Option Place) : Place → List String → Option Place
  | _, [] => none
  | place, part :: rest =>
    if fs.entry place ≠ some .directory then none
    else if rest = [] then
      if ¬ IsName part then none
      else match fs.entry (place ++ [part]) with
        | none => some (place ++ [part])
        | some (.file _) => some (place ++ [part])
        | some (.symlink absolute target) => follow (if absolute then [] else place) target
        | some _ => none
    else if part = "" ∨ part = "." then createsBy follow place rest
    else if part = ".." then createsBy follow place.dropLast rest
    else match fs.entry (place ++ [part]) with
      | none => none
      | some (.symlink absolute target) => follow (if absolute then [] else place) (target ++ rest)
      | some _ => createsBy follow (place ++ [part]) rest

def creates : Nat → Place → List String → Option Place
  | 0 => fs.createsBy fun _ _ => none
  | links + 1 => fs.createsBy (creates links)

def stat (path : List String) : Option Entry := (fs.search fs.links [] path).bind fs.entry

def lstat (path : List String) : Option Entry := do
  let place ← fs.search fs.links [] path.dropLast
  match path.getLast? with
  | none => fs.entry place
  | some part => fs.entry (place ++ [part])

/-- `path.exists()`; an error of the lookup is a no. -/
def present (path : List String) : Bool := (fs.stat path).isSome

/-- `path.is_file()` -/
def isFile (path : List String) : Bool :=
  match fs.stat path with
  | some (.file _) => true
  | _ => false

/-- `path.is_symlink()` -/
def isSymlink (path : List String) : Bool := (fs.lstat path).any Entry.isSymlink

section

variable {fs : FileSystem} {follow : Place → List String → Option Place} {place path : Place} {part : String}
  {xs ys : List String} {n : Nat}

/-- What has an entry stands in directories only. -/
theorem entry_above (known : fs.entry (xs ++ ys) ≠ none) (below : ys ≠ []) : fs.entry xs = some .directory := by
  induction ys using List.reverseRecOn with
  | nil => exact absurd rfl below
  | append_singleton ys part ih =>
    rw [← List.append_assoc] at known
    have above := fs.inside _ _ known
    by_cases last : ys = []
    · simpa only [last, List.append_nil] using above
    · refine ih ?_ last
      rw [above]
      exact Option.some_ne_none _

/-- A directory stands in directories, itself included. -/
theorem directories_above (directory : fs.entry path = some .directory) :
    ∀ ws, ws <+: path → fs.entry ([] ++ ws) = some .directory := by
  rintro ws ⟨rest, rfl⟩
  by_cases last : rest = []
  · rw [last, List.append_nil] at directory
    exact directory
  · exact entry_above (directory ▸ Option.some_ne_none _) last

theorem searchBy_name (name : IsName part) (directory : fs.entry place = some .directory) :
    fs.searchBy follow place (part :: ys) = match fs.entry (place ++ [part]) with
      | none => none
      | some (.symlink absolute target) => follow (if absolute then [] else place) (target ++ ys)
      | some _ => fs.searchBy follow (place ++ [part]) ys := by
  obtain ⟨nonempty, dot, dots⟩ := name
  rw [searchBy, if_neg (not_not_intro directory), if_neg (not_or.mpr ⟨nonempty, dot⟩), if_neg dots]

/-- The search goes through directories as it reads them. -/
theorem searchBy_directories (names : ∀ part ∈ xs, IsName part) (directory : fs.entry place = some .directory)
    (ways : ∀ ws, ws <+: xs → fs.entry (place ++ ws) = some .directory) :
    fs.searchBy follow place (xs ++ ys) = fs.searchBy follow (place ++ xs) ys := by
  induction xs generalizing place with
  | nil => rw [List.nil_append, List.append_nil]
  | cons part xs ih =>
    have next : fs.entry (place ++ [part]) = some .directory := ways [part] ⟨xs, rfl⟩
    rw [List.cons_append, searchBy_name (names part List.mem_cons_self) directory, next]
    have further : ∀ ws, ws <+: xs → fs.entry (place ++ [part] ++ ws) = some .directory := by
      intro ws way
      rw [List.append_assoc]
      exact ways (part :: ws) (List.cons_prefix_cons.mpr ⟨rfl, way⟩)
    have rest := ih (fun part member => names part (List.mem_cons_of_mem _ member)) next further
    rw [List.append_assoc] at rest
    exact rest

theorem search_directories (names : ∀ part ∈ xs, IsName part)
    (ways : ∀ ws, ws <+: xs → fs.entry (place ++ ws) = some .directory) :
    fs.search n place (xs ++ ys) = fs.search n (place ++ xs) ys := by
  have directory := ways [] List.nil_prefix
  rw [List.append_nil] at directory
  cases n with
  | zero => exact searchBy_directories names directory ways
  | succ n => exact searchBy_directories names directory ways

theorem search_part {e : Entry} (name : IsName part) (directory : fs.entry place = some .directory)
    (known : fs.entry (place ++ [part]) = some e) (plain : ¬ e.isSymlink) :
    fs.search n place [part] = some (place ++ [part]) := by
  have here (follow) : fs.searchBy follow place [part] = some (place ++ [part]) := by
    rw [searchBy_name name directory, known]
    cases e with
    | symlink absolute target => exact absurd rfl plain
    | file links => rfl
    | directory => rfl
    | special => rfl
  cases n with
  | zero => exact here _
  | succ n => exact here _

theorem realpathBy_directories (names : ∀ part ∈ xs, IsName part)
    (ways : ∀ ws, ws <+: xs → fs.entry (place ++ ws) = some .directory) :
    fs.realpathBy follow place xs = some (place ++ xs) := by
  induction xs generalizing place with
  | nil => rw [realpathBy, List.append_nil]
  | cons part xs ih =>
    have next : fs.entry (place ++ [part]) = some .directory := ways [part] ⟨xs, rfl⟩
    obtain ⟨nonempty, dot, dots⟩ := names part List.mem_cons_self
    rw [realpathBy, if_neg (not_or.mpr ⟨nonempty, dot⟩), if_neg dots, next]
    have further : ∀ ws, ws <+: xs → fs.entry (place ++ [part] ++ ws) = some .directory := by
      intro ws way
      rw [List.append_assoc]
      exact ways (part :: ws) (List.cons_prefix_cons.mpr ⟨rfl, way⟩)
    have rest := ih (fun part member => names part (List.mem_cons_of_mem _ member)) further
    rw [List.append_assoc] at rest
    exact rest

theorem realpath_directories (names : ∀ part ∈ xs, IsName part)
    (ways : ∀ ws, ws <+: xs → fs.entry (place ++ ws) = some .directory) : fs.realpath n place xs = some (place ++ xs) := by
  cases n with
  | zero => exact realpathBy_directories names ways
  | succ n => exact realpathBy_directories names ways

theorem search_nil : fs.search n place [] = some place := by
  cases n <;> rfl

section

variable (names : ∀ part ∈ path, IsName part)

include names

/-- What has an entry is looked at there. -/
theorem lstat_entry (known : fs.entry path ≠ none) : fs.lstat path = fs.entry path := by
  rcases List.eq_nil_or_concat path with rfl | ⟨ways, part, rfl⟩
  · simp only [lstat, List.dropLast_nil, List.getLast?_nil, search_nil, Option.bind_eq_bind, Option.bind_some]
  · rw [List.concat_eq_append] at names known ⊢
    have reached := @search_directories fs [] ways [] fs.links
      (fun part member => names part (List.mem_append_left _ member)) (directories_above (fs.inside _ _ known))
    rw [List.append_nil, search_nil] at reached
    rw [lstat, List.dropLast_concat, reached]
    simp only [List.nil_append, List.getLast?_concat, Option.bind_eq_bind, Option.bind_some]

theorem stat_entry {e : Entry} (known : fs.entry path = some e) (plain : ¬ e.isSymlink) : fs.stat path = some e := by
  rcases List.eq_nil_or_concat path with rfl | ⟨ways, part, rfl⟩
  · rw [stat, search_nil]
    exact known
  · rw [List.concat_eq_append] at names known ⊢
    have above := fs.inside ways part (known ▸ Option.some_ne_none _)
    have reached := @search_directories fs [] ways [part] fs.links
      (fun part member => names part (List.mem_append_left _ member)) (directories_above above)
    rw [stat, reached, List.nil_append]
    have last := search_part (n := fs.links) (names part (List.mem_append_right _ List.mem_cons_self)) above known plain
    rw [last]
    exact known

theorem directory_plain (directory : fs.entry path = some .directory) :
    ¬ fs.isSymlink path ∧ fs.stat path = some .directory := by
  refine ⟨?_, stat_entry names directory Bool.false_ne_true⟩
  rw [isSymlink, lstat_entry names (directory ▸ Option.some_ne_none _), directory]
  exact Bool.false_ne_true

end

theorem searchBy_lost (on : ∀ place xs ys, follow place xs = none → follow place (xs ++ ys) = none)
    (lost : fs.searchBy follow place xs = none) : fs.searchBy follow place (xs ++ ys) = none := by
  induction xs generalizing place with
  | nil => cases lost
  | cons part xs ih =>
    rw [List.cons_append]
    rw [searchBy] at lost ⊢
    by_cases directory : fs.entry place ≠ some .directory
    · exact if_pos directory
    rw [if_neg directory] at lost ⊢
    by_cases dot : part = "" ∨ part = "."
    · rw [if_pos dot] at lost ⊢
      exact ih lost
    rw [if_neg dot] at lost ⊢
    by_cases dots : part = ".."
    · rw [if_pos dots] at lost ⊢
      exact ih lost
    rw [if_neg dots] at lost ⊢
    cases entry : fs.entry (place ++ [part]) with
    | none => rfl
    | some node =>
      rw [entry] at lost
      cases node with
      | symlink absolute target =>
        have further := on _ (target ++ xs) ys lost
        rwa [List.append_assoc] at further
      | file links => exact ih lost
      | directory => exact ih lost
      | special => exact ih lost

/-- A search that was lost stays lost, however the path goes on. -/
theorem search_lost (lost : fs.search n place xs = none) : fs.search n place (xs ++ ys) = none := by
  induction n generalizing place xs ys with
  | zero => exact searchBy_lost (fun _ _ _ _ => rfl) lost
  | succ n ih => exact searchBy_lost (fun _ _ _ lost => ih lost) lost

theorem entry_dropLast (known : fs.entry place ≠ none) : fs.entry place.dropLast ≠ none := by
  rcases List.eq_nil_or_concat place with rfl | ⟨above, part, rfl⟩
  · exact known
  · rw [List.concat_eq_append] at known
    rw [List.concat_eq_append, List.dropLast_concat, fs.inside _ _ known]
    exact Option.some_ne_none _

theorem searchBy_entry (on : ∀ place xs p, follow place xs = some p → fs.entry place ≠ none → fs.entry p ≠ none)
    (reached : fs.searchBy follow place xs = some path) (known : fs.entry place ≠ none) : fs.entry path ≠ none := by
  induction xs generalizing place with
  | nil =>
    cases reached
    exact known
  | cons part xs ih =>
    rw [searchBy] at reached
    by_cases directory : fs.entry place ≠ some .directory
    · rw [if_pos directory] at reached
      cases reached
    rw [if_neg directory] at reached
    by_cases dot : part = "" ∨ part = "."
    · rw [if_pos dot] at reached
      exact ih reached known
    rw [if_neg dot] at reached
    by_cases dots : part = ".."
    · rw [if_pos dots] at reached
      exact ih reached (entry_dropLast known)
    rw [if_neg dots] at reached
    cases entry : fs.entry (place ++ [part]) with
    | none =>
      rw [entry] at reached
      cases reached
    | some node =>
      have next : fs.entry (place ++ [part]) ≠ none := entry ▸ Option.some_ne_none _
      rw [entry] at reached
      cases node with
      | symlink absolute target =>
        refine on _ _ _ reached ?_
        split
        · exact fs.top ▸ Option.some_ne_none _
        · exact known
      | file links => exact ih reached next
      | directory => exact ih reached next
      | special => exact ih reached next

/-- What a search finds is there. -/
theorem search_entry (reached : fs.search n place xs = some path) (known : fs.entry place ≠ none) :
    fs.entry path ≠ none := by
  induction n generalizing place xs path with
  | zero => exact searchBy_entry (fun _ _ _ lost => absurd lost (Option.some_ne_none _).symm) reached known
  | succ n ih => exact searchBy_entry (fun _ _ _ => ih) reached known

theorem present_iff : fs.present path = false ↔ fs.search fs.links [] path = none := by
  rw [present, Option.isSome_eq_false_iff, Option.isNone_iff_eq_none, stat]
  constructor
  · intro absent
    cases reached : fs.search fs.links [] path with
    | none => rfl
    | some place =>
      rw [reached] at absent
      exact absurd absent (search_entry reached (fs.top ▸ Option.some_ne_none _))
  · intro lost
    rw [lost]
    rfl

theorem present_lost (lost : fs.present xs = false) : fs.present (xs ++ ys) = false :=
  present_iff.mpr (search_lost (present_iff.mp lost))

section

variable {P Q : String → Prop} (plain : ∀ part, Q part → part ≠ "" → part ≠ "." → P part)

include plain

theorem leadsBy_parts (targets : ∀ place absolute target, fs.entry place = some (.symlink absolute target) → ∀ part ∈ target, Q part)
    (on : ∀ place xs p, follow place xs = some p → (∀ part ∈ place, P part) → (∀ part ∈ xs, Q part) → ∀ part ∈ p, P part)
    (reached : fs.leadsBy follow place xs = some path) (above : ∀ part ∈ place, P part) (parts : ∀ part ∈ xs, Q part) :
    ∀ part ∈ path, P part := by
  induction xs generalizing place with
  | nil =>
    cases reached
    exact above
  | cons part xs ih =>
    have later : ∀ part ∈ xs, Q part := fun part member => parts part (List.mem_cons_of_mem _ member)
    rw [leadsBy] at reached
    by_cases dot : part = "" ∨ part = "."
    · rw [if_pos dot] at reached
      exact ih reached above later
    rw [if_neg dot] at reached
    by_cases dots : part = ".."
    · rw [if_pos dots] at reached
      exact ih reached (fun part member => above part (List.dropLast_subset place member)) later
    rw [if_neg dots] at reached
    have name : P part := plain part (parts part List.mem_cons_self) (fun h => dot (.inl h)) fun h => dot (.inr h)
    have next : ∀ p ∈ place ++ [part], P p := by
      intro p member
      rcases List.mem_append.mp member with inside | last
      · exact above p inside
      · exact List.mem_singleton.mp last ▸ name
    split at reached
    · rename_i absolute target entry
      obtain ⟨place', followed, reached⟩ := Option.bind_eq_some_iff.mp reached
      refine ih reached (on _ _ _ followed ?_ (targets _ _ _ entry)) later
      split
      · exact fun _ member => absurd member List.not_mem_nil
      · exact above
    · exact ih reached next later

/-- Where a path leads there are the names of the path and of the links on it only. -/
theorem leads_parts (targets : ∀ place absolute target, fs.entry place = some (.symlink absolute target) → ∀ part ∈ target, Q part)
    (reached : fs.leads n place xs = some path) (above : ∀ part ∈ place, P part) (parts : ∀ part ∈ xs, Q part) :
    ∀ part ∈ path, P part := by
  induction n generalizing place xs path with
  | zero => exact leadsBy_parts plain targets (fun _ _ _ lost => absurd lost (Option.some_ne_none _).symm) reached above parts
  | succ n ih => exact leadsBy_parts plain targets (fun _ _ _ followed above parts => ih followed above parts) reached above parts

end

theorem present_of_isFile (file : fs.isFile path) : fs.present path := by
  unfold isFile at file
  split at file
  · rename_i links found
    rw [present, found]
    rfl
  · cases file


end

end FileSystem

end ControlPlane.Data
