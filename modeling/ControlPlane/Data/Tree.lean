import Mathlib.Logic.Function.Basic
import Mathlib.Data.List.Nodup

/-!
# A tree of files

Names are mapped to nodes, and a regular file is an inode with its content and its
count of links. Each operation is the system call of its name: it happens or it fails,
and then nothing has changed.
-/

namespace ControlPlane.Data

/-- Why a call fails. -/
inductive Errno where
  | exists_ | missing | directory
  deriving DecidableEq

inductive Node (ν : Type) where
  | file (inode : Nat)
  | directory
  | symlink (target : ν)
  | special

structure Inode (β : Type) where
  content : β
  links : Nat

/-- Every name of an inode is one of its links; there may be others elsewhere. -/
def Counted {ν β : Type} (names : ν → Option (Node ν)) (inodes : Nat → Inode β) : Prop :=
  ∀ i (xs : List ν), xs.Nodup → (∀ x ∈ xs, names x = some (.file i)) → xs.length ≤ (inodes i).links

structure Tree (ν β : Type) where
  names : ν → Option (Node ν)
  inodes : Nat → Inode β
  /-- No inode from here on is in use. -/
  next : Nat
  bounded : ∀ x i, names x = some (.file i) → i < next
  counted : Counted names inodes

/-- One link less to what the node is. -/
def dropLink {ν β : Type} (inodes : Nat → Inode β) : Option (Node ν) → Nat → Inode β
  | some (.file i) => Function.update inodes i { inodes i with links := (inodes i).links - 1 }
  | _ => inodes

section

variable {ν β : Type} [DecidableEq ν] {names : ν → Option (Node ν)} {inodes : Nat → Inode β} {x y : ν} {i j : Nat}

theorem bounded_update {node : Option (Node ν)} {n m : Nat} (bounded : ∀ x i, names x = some (.file i) → i < n)
    (more : n ≤ m) (fits : ∀ i, node = some (.file i) → i < m) :
    ∀ y i, Function.update names x node y = some (.file i) → i < m := by
  intro y i named
  by_cases same : y = x
  · subst same
    rw [Function.update_self] at named
    exact fits i named
  · rw [Function.update_of_ne same] at named
    exact Nat.lt_of_lt_of_le (bounded y i named) more

/-- One name more, of an inode that has a link to spare. -/
theorem Counted.add (counted : Counted names inodes) {inode : Inode β}
    (spare : ∀ ys : List ν, ys.Nodup → (∀ y ∈ ys, names y = some (.file i)) → ys.length + 1 ≤ inode.links) :
    Counted (Function.update names x (some (.file i))) (Function.update inodes i inode) := by
  intro j xs distinct named
  have others : ∀ y ∈ xs.erase x, names y = some (.file j) := by
    intro y member
    obtain ⟨apart, member⟩ := distinct.mem_erase_iff.mp member
    have here := named y member
    rwa [Function.update_of_ne apart] at here
  by_cases same : j = i
  · subst same
    rw [Function.update_self]
    have fewer := spare (xs.erase x) (distinct.erase x) others
    have shorter : xs.length ≤ (xs.erase x).length + 1 := by
      rw [List.length_erase]
      split <;> omega
    omega
  · rw [Function.update_of_ne same]
    have absent : x ∉ xs := by
      intro member
      have here := named x member
      rw [Function.update_self] at here
      cases here
      exact same rfl
    rw [List.erase_of_not_mem absent] at others
    exact counted j xs distinct others

/-- One name less and, if it was a file, one link less. -/
theorem Counted.remove (counted : Counted names inodes) :
    Counted (Function.update names x none) (dropLink inodes (names x)) := by
  intro j xs distinct named
  have absent : x ∉ xs := by
    intro member
    have here := named x member
    rw [Function.update_self] at here
    cases here
  have before : ∀ y ∈ xs, names y = some (.file j) := by
    intro y member
    have apart : y ≠ x := by
      rintro rfl
      exact absent member
    have here := named y member
    rwa [Function.update_of_ne apart] at here
  have fewer := counted j xs distinct before
  cases node : names x with
  | none => exact fewer
  | some node' =>
    cases node' with
    | file i =>
      by_cases same : j = i
      · subst same
        have all := counted j (x :: xs) (List.nodup_cons.mpr ⟨absent, distinct⟩)
          (List.forall_mem_cons.mpr ⟨node, before⟩)
        rw [List.length_cons] at all
        simp only [dropLink, Function.update_self]
        omega
      · simpa only [dropLink, Function.update_of_ne same] using fewer
    | directory => exact fewer
    | symlink target => exact fewer
    | special => exact fewer

/-- A name moves onto a free one. -/
theorem Counted.move (counted : Counted names inodes) (apart : x ≠ y) :
    Counted (Function.update (Function.update names y (names x)) x none) inodes := by
  intro j xs distinct named
  have absent : x ∉ xs := by
    intro member
    have here := named x member
    rw [Function.update_self] at here
    cases here
  have others : ∀ z ∈ xs.erase y, names z = some (.file j) := by
    intro z member
    obtain ⟨elsewhere, member⟩ := distinct.mem_erase_iff.mp member
    have moved : z ≠ x := by
      rintro rfl
      exact absent member
    have here := named z member
    rwa [Function.update_of_ne moved, Function.update_of_ne elsewhere] at here
  by_cases member : y ∈ xs
  · have here := named y member
    rw [Function.update_of_ne (Ne.symm apart), Function.update_self] at here
    have gone : x ∉ xs.erase y := fun inside => absent (List.mem_of_mem_erase inside)
    have all := counted j (x :: xs.erase y) (List.nodup_cons.mpr ⟨gone, distinct.erase y⟩)
      (List.forall_mem_cons.mpr ⟨here, others⟩)
    rw [List.length_cons] at all
    have := List.length_erase_add_one member
    omega
  · rw [List.erase_of_not_mem member] at others
    exact counted j xs distinct others

omit [DecidableEq ν] in
/-- Writing to an inode changes no count. -/
theorem Counted.write (counted : Counted names inodes) {content : β} :
    Counted names (Function.update inodes i { inodes i with content }) := by
  intro j xs distinct named
  have fewer := counted j xs distinct named
  by_cases same : j = i
  · subst same
    rwa [Function.update_self]
  · rwa [Function.update_of_ne same]

end

namespace Tree

variable {ν β : Type} {t t' t₁ t₂ : Tree ν β} {x y z : ν} {i : Nat} {b c empty : β}

/-! ### Looking -/

/-- What a name leads to after so many symbolic links. -/
def follow (t : Tree ν β) : Nat → ν → Option (Node ν)
  | 0, _ => none
  | n + 1, x =>
    match t.names x with
    | some (.symlink target) => t.follow n target
    | node => node

/-- What `stat` sees; a chain of more than forty links is a loop. -/
def stat (t : Tree ν β) (x : ν) : Option (Node ν) := t.follow 40 x

/-- The regular file that a name is, itself no link. -/
def file? (t : Tree ν β) (x : ν) : Option (Inode β) :=
  match t.names x with
  | some (.file i) => some (t.inodes i)
  | _ => none

/-- Nothing, a regular file with no other link, or neither. -/
inductive Seen (β : Type) where
  | absent
  | file (content : β)
  | irregular
  deriving DecidableEq

def seen (t : Tree ν β) (x : ν) : Seen β :=
  match t.stat x with
  | none => .absent
  | some _ =>
    match t.file? x with
    | some inode => if inode.links = 1 then .file inode.content else .irregular
    | none => .irregular

/-- A directory, itself no link. -/
def isDirectory (t : Tree ν β) (x : ν) : Bool :=
  match t.names x with
  | some .directory => true
  | _ => false

def isSymlink (t : Tree ν β) (x : ν) : Bool :=
  match t.names x with
  | some (.symlink _) => true
  | _ => false

/-- No more than one link, if it is a regular file. -/
def unshared (t : Tree ν β) (x : ν) : Bool :=
  match t.file? x with
  | some inode => inode.links = 1
  | none => true

theorem stat_file (named : t.names x = some (.file i)) : t.stat x = some (.file i) := by
  simp only [stat, follow, named]

theorem stat_none (free : t.names x = none) : t.stat x = none := by
  simp only [stat, follow, free]

theorem seen_absent : t.seen x = .absent ↔ t.stat x = none := by
  unfold seen
  split
  · exact iff_of_true rfl ‹_›
  · rename_i node found
    refine iff_of_false ?_ (by simp [found])
    split
    · split <;> simp
    · simp

theorem seen_file : t.seen x = .file b ↔ ∃ i, t.names x = some (.file i) ∧ t.inodes i = ⟨b, 1⟩ := by
  constructor
  · intro sees
    unfold seen at sees
    split at sees
    · cases sees
    · split at sees
      · rename_i inode found
        split at sees
        · rename_i single
          unfold file? at found
          split at found
          · rename_i i named
            cases found
            cases sees
            exact ⟨i, named, by rw [← single]⟩
          · cases found
        · cases sees
      · cases sees
  · rintro ⟨i, named, inode⟩
    simp [seen, stat_file named, file?, named, inode]

/-- A file with one link is nobody else's. -/
theorem names_ne_of_seen (sees : t.seen x = .file b) (named : t.names x = some (.file i)) (apart : y ≠ x) :
    t.names y ≠ some (.file i) := by
  intro shared
  obtain ⟨j, here, inode⟩ := seen_file.mp sees
  cases named.symm.trans here
  have two := t.counted i [x, y] (by simpa using Ne.symm apart) (by simp [named, shared])
  rw [inode] at two
  simp at two

theorem dropLink_of_ne {inodes : Nat → Inode β} {node : Option (Node ν)} (other : node ≠ some (.file i)) :
    dropLink inodes node i = inodes i := by
  cases node with
  | none => rfl
  | some node =>
    cases node with
    | file j =>
      refine Function.update_of_ne ?_ _ _
      rintro rfl
      exact other rfl
    | directory => rfl
    | symlink target => rfl
    | special => rfl

/-- No name at all. -/
def bare (nothing : β) : Tree ν β where
  names _ := none
  inodes _ := ⟨nothing, 0⟩
  next := 0
  bounded _ _ impossible := (Option.some_ne_none _ impossible.symm).elim
  counted _ xs _ named := by
    cases xs with
    | nil => exact Nat.zero_le _
    | cons x xs => cases named x List.mem_cons_self

/-! ### System calls -/

variable [DecidableEq ν]

/-- `open(x, O_CREAT | O_EXCL)`: a new inode under a name that is not there, not even as
a dangling link. -/
def create (t : Tree ν β) (x : ν) (empty : β) : Except Errno (Tree ν β) :=
  match t.names x with
  | some _ => .error .exists_
  | none => .ok
    { names := Function.update t.names x (some (.file t.next))
      inodes := Function.update t.inodes t.next ⟨empty, 1⟩
      next := t.next + 1
      bounded := bounded_update t.bounded (Nat.le_succ _) fun _ same => by
        cases same
        exact Nat.lt_succ_self _
      counted := t.counted.add fun ys _ named => by
        cases ys with
        | nil => exact Nat.le_refl 1
        | cons y ys => exact (Nat.lt_irrefl _ (t.bounded y _ (named y List.mem_cons_self))).elim }

/-- `write`, from the start, through a descriptor of the inode. -/
def write (t : Tree ν β) (i : Nat) (content : β) : Tree ν β :=
  { t with inodes := Function.update t.inodes i { t.inodes i with content }, counted := t.counted.write }

/-- `link(x, y)` of a regular file. -/
def link (t : Tree ν β) (x y : ν) : Except Errno (Tree ν β) :=
  match node : t.names x, t.names y with
  | _, some _ => .error .exists_
  | some (.file i), none => .ok
    { t with
      names := Function.update t.names y (some (.file i))
      inodes := Function.update t.inodes i { t.inodes i with links := (t.inodes i).links + 1 }
      bounded := bounded_update t.bounded (Nat.le_refl _) fun _ same => by
        cases same
        exact t.bounded x i node
      counted := t.counted.add fun ys distinct named => Nat.succ_le_succ (t.counted i ys distinct named) }
  | _, none => .error .missing

/-- The tree without the name. -/
def removed (t : Tree ν β) (x : ν) : Tree ν β :=
  { t with
    names := Function.update t.names x none
    inodes := dropLink t.inodes (t.names x)
    bounded := bounded_update t.bounded (Nat.le_refl _) fun _ impossible => (Option.some_ne_none _ impossible.symm).elim
    counted := t.counted.remove }

/-- `unlink(x)` -/
def unlink (t : Tree ν β) (x : ν) : Except Errno (Tree ν β) :=
  match t.names x with
  | none => .error .missing
  | some .directory => .error .directory
  | _ => .ok (t.removed x)

/-- The two names are one file already. -/
def sameFile (t : Tree ν β) (x y : ν) : Bool :=
  match t.names x, t.names y with
  | some (.file i), some (.file j) => i = j || x = y
  | _, _ => x = y

theorem sameFile_self {t : Tree ν β} {x : ν} : t.sameFile x x = true := by
  unfold sameFile
  split <;> simp

/-- The tree in which `y` is what `x` was, and `x` is gone. -/
def moved (t : Tree ν β) (x y : ν) (apart : x ≠ y) : Tree ν β :=
  { t with
    names := Function.update (Function.update t.names y (t.names x)) x none
    inodes := dropLink t.inodes (t.names y)
    bounded := bounded_update (bounded_update t.bounded (Nat.le_refl _) (t.bounded x)) (Nat.le_refl _)
      fun _ impossible => (Option.some_ne_none _ impossible.symm).elim
    counted := by
      have counted := (t.counted.remove (x := y)).move apart
      rwa [Function.update_idem, Function.update_of_ne apart] at counted }

/-- `rename(x, y)`: two links of one file are left alone; no directory is moved or replaced. -/
def replace (t : Tree ν β) (x y : ν) : Except Errno (Tree ν β) :=
  match t.names x, t.names y with
  | none, _ => .error .missing
  | some .directory, _ | _, some .directory => .error .directory
  | _, _ => .ok (if different : t.sameFile x y = false then
      t.moved x y fun same => Bool.false_ne_true (different.symm.trans (same ▸ sameFile_self)) else t)

/-! ### What they leave alone -/

theorem create_ok (created : t.create x empty = .ok t') : t.names x = none ∧
    t'.names = Function.update t.names x (some (.file t.next)) ∧
    t'.inodes = Function.update t.inodes t.next ⟨empty, 1⟩ := by
  unfold create at created
  split at created
  · cases created
  · rename_i free
    cases created
    exact ⟨free, rfl, rfl⟩

theorem unlink_ok (unlinked : t.unlink x = .ok t') : t' = t.removed x ∧ t.names x ≠ none ∧ t.names x ≠ some .directory := by
  unfold unlink at unlinked
  split at unlinked
  · cases unlinked
  · cases unlinked
  · rename_i present file
    cases unlinked
    exact ⟨rfl, present, file⟩

/-- Nothing that `rename` did not name is moved. -/
theorem replace_ok (replaced : t.replace x y = .ok t') : t' = t ∨ ∃ apart, t' = t.moved x y apart := by
  unfold replace at replaced
  split at replaced
  · cases replaced
  · cases replaced
  · cases replaced
  · split at replaced
    · cases replaced
      exact .inr ⟨_, rfl⟩
    · cases replaced
      exact .inl rfl

/-- Name by name, one tree is the other, up to which inode a file is. -/
def Alike (t t' : Tree ν β) : Prop :=
  ∀ z, t'.names z = t.names z ∨ ∃ i j, t.names z = some (.file i) ∧ t'.names z = some (.file j)

omit [DecidableEq ν] in
theorem Alike.follow (alike : Alike t t') (n : Nat) (x : ν) : (t'.follow n x).isSome = (t.follow n x).isSome := by
  induction n generalizing x with
  | zero => rfl
  | succ n ih =>
    rcases alike x with same | ⟨i, j, before, after⟩
    · unfold Tree.follow
      rw [same]
      split
      · exact ih _
      · rfl
    · simp only [Tree.follow, before, after, Option.isSome_some]

omit [DecidableEq ν] in
theorem Alike.seen_absent (alike : Alike t t') : t'.seen x = .absent ↔ t.seen x = .absent := by
  rw [Tree.seen_absent, Tree.seen_absent, ← Option.not_isSome_iff_eq_none, ← Option.not_isSome_iff_eq_none]
  exact not_congr (Bool.eq_iff_iff.mp (alike.follow 40 x))

omit [DecidableEq ν] in
theorem Alike.trans (first : Alike t t₁) (second : Alike t₁ t₂) : Alike t t₂ := by
  intro z
  rcases second z with same | ⟨i, j, before, after⟩
  · rw [same]
    exact first z
  · rcases first z with same | ⟨k, _, earlier, _⟩
    · exact .inr ⟨i, j, same ▸ before, after⟩
    · exact .inr ⟨k, j, earlier, after⟩

theorem create_directory (created : t.create y empty = .ok t') (directory : t.isDirectory x) : t'.isDirectory x := by
  obtain ⟨free, names, _⟩ := create_ok created
  have apart : x ≠ y := by
    rintro rfl
    simp [isDirectory, free] at directory
  simpa [isDirectory, names, Function.update_of_ne apart] using directory

theorem link_directory (linked : t.link y z = .ok t') (directory : t.isDirectory x) : t'.isDirectory x := by
  unfold link at linked
  split at linked
  · cases linked
  · rename_i i named free
    cases linked
    have apart : x ≠ z := by
      rintro rfl
      simp [isDirectory, free] at directory
    simpa [isDirectory, Function.update_of_ne apart] using directory
  · cases linked

theorem unlink_directory (unlinked : t.unlink y = .ok t') (directory : t.isDirectory x) : t'.isDirectory x := by
  obtain ⟨rfl, _, file⟩ := unlink_ok unlinked
  have apart : x ≠ y := by
    rintro rfl
    unfold isDirectory at directory
    split at directory
    · exact file ‹_›
    · cases directory
  simpa [isDirectory, removed, Function.update_of_ne apart] using directory

theorem replace_directory (replaced : t.replace y z = .ok t') (directory : t.isDirectory x) : t'.isDirectory x := by
  have named : t.names x = some .directory := by
    unfold isDirectory at directory
    split at directory
    · assumption
    · cases directory
  unfold replace at replaced
  split at replaced
  · cases replaced
  · cases replaced
  · cases replaced
  · rename_i notSource notTarget
    split at replaced
    · cases replaced
      have source : x ≠ y := by
        rintro rfl
        exact notSource named
      have target : x ≠ z := by
        rintro rfl
        exact notTarget named
      simpa [isDirectory, moved, Function.update_of_ne source, Function.update_of_ne target] using directory
    · cases replaced
      exact directory

end Tree

end ControlPlane.Data
