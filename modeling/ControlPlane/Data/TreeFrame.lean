import ControlPlane.Data.Tree

/-!
# Where a tree was changed

Everything outside a set of names is the same node with the same inode, and nothing has
become a symbolic link. A call whose names are in the set stays within it, if the files
that it gives up or writes to have no other name.
-/

namespace ControlPlane.Data.Tree

variable {ν β : Type}

/-- The name is what it was, down to the inode. -/
def SameAt (t t' : Tree ν β) (y : ν) : Prop :=
  t'.names y = t.names y ∧ ∀ i, t.names y = some (.file i) → t'.inodes i = t.inodes i

/-- If it is a file, it has no other name in the tree. -/
def Sole (t : Tree ν β) (x : ν) : Prop := ∀ i, t.names x = some (.file i) → ∀ y, t.names y = some (.file i) → y = x

/-- If it is a file, its names in the tree are among these. -/
def Own (S : ν → Prop) (t : Tree ν β) (x : ν) : Prop := ∀ i, t.names x = some (.file i) → ∀ y, t.names y = some (.file i) → S y

structure Within (S : ν → Prop) (t t' : Tree ν β) : Prop where
  same : ∀ y, ¬ S y → SameAt t t' y
  links : ∀ y target, t'.names y = some (.symlink target) → t.names y = some (.symlink target)

section

variable {S : ν → Prop} {t t' t₁ t₂ t₃ : Tree ν β} {x y : ν} {b : β} {i : Nat}

theorem Within.refl (t : Tree ν β) : Within S t t := ⟨fun _ _ => ⟨rfl, fun _ _ => rfl⟩, fun _ _ => id⟩

theorem Within.trans (first : Within S t₁ t₂) (second : Within S t₂ t₃) : Within S t₁ t₃ := by
  constructor
  · intro y outside
    obtain ⟨names, inodes⟩ := first.same y outside
    obtain ⟨names', inodes'⟩ := second.same y outside
    exact ⟨names'.trans names, fun i named => (inodes' i (names.trans named)).trans (inodes i named)⟩
  · exact fun y target link => first.links y target (second.links y target link)

theorem Sole.own (sole : t.Sole x) (inside : S x) : t.Own S x := fun i named y other => sole i named y other ▸ inside

theorem sole_of_seen (sees : t.seen x = .file b) : t.Sole x := by
  intro i named y other
  by_contra apart
  exact names_ne_of_seen sees named apart other

theorem sole_of_absent (absent : t.stat x = none) : t.Sole x := by
  intro i named
  rw [stat_file named] at absent
  cases absent

theorem sole_of_unshared [DecidableEq ν] (unshared : t.unshared x) : t.Sole x := by
  intro i named y other
  by_contra apart
  have two := t.counted i [x, y] (by simpa using Ne.symm apart) (by simp [named, other])
  have one : (t.inodes i).links = 1 := by simpa [Tree.unshared, file?, named] using unshared
  rw [one] at two
  simp at two

/-- Two names of one file are not unshared. -/
theorem not_unshared (named : t.names x = some (.file i)) (other : t.names y = some (.file i)) (apart : y ≠ x) :
    ¬ t.unshared x := by
  intro unshared
  classical exact apart (sole_of_unshared unshared i named y other)

variable [DecidableEq ν]

theorem removed_names : (t.removed x).names = Function.update t.names x none := rfl

theorem moved_names {apart : x ≠ y} :
    (t.moved x y apart).names = Function.update (Function.update t.names y (t.names x)) x none := rfl

/-- A name that is given something else is no link. -/
theorem links_update {names : ν → Option (Node ν)} {node : Option (Node ν)} {z target : ν}
    (plain : ∀ target, node ≠ some (.symlink target))
    (link : Function.update names x node z = some (.symlink target)) : names z = some (.symlink target) := by
  by_cases same : z = x
  · subst same
    rw [Function.update_self] at link
    exact absurd link (plain target)
  · rwa [Function.update_of_ne same] at link

theorem create_within (inside : S x) (created : t.create x b = .ok t') : Within S t t' := by
  obtain ⟨free, names, inodes⟩ := create_ok created
  constructor
  · intro y outside
    have apart : y ≠ x := fun same => outside (same ▸ inside)
    refine ⟨by rw [names, Function.update_of_ne apart], fun i named => ?_⟩
    rw [inodes, Function.update_of_ne (Nat.ne_of_lt (t.bounded y i named))]
  · intro y target link
    rw [names] at link
    exact links_update (fun _ impossible => by cases impossible) link

omit [DecidableEq ν] in
theorem write_within (own : ∀ y, t.names y = some (.file i) → S y) : Within S t (t.write i b) := by
  refine ⟨fun y outside => ⟨rfl, fun j named => ?_⟩, fun _ _ => id⟩
  have apart : j ≠ i := by
    intro same
    subst same
    exact outside (own y named)
  exact Function.update_of_ne apart ..

theorem link_ok (linked : t.link x y = .ok t') : ∃ i, t.names x = some (.file i) ∧ t.names y = none ∧
    t'.names = Function.update t.names y (some (.file i)) ∧
    t'.inodes = Function.update t.inodes i { t.inodes i with links := (t.inodes i).links + 1 } := by
  unfold link at linked
  split at linked
  · cases linked
  · rename_i i node free
    cases linked
    exact ⟨i, node, free, rfl, rfl⟩
  · cases linked

theorem link_within (target : S y) (own : t.Own S x) (linked : t.link x y = .ok t') : Within S t t' := by
  obtain ⟨i, named, free, names, inodes⟩ := link_ok linked
  constructor
  · intro z outside
    have apart : z ≠ y := fun same => outside (same ▸ target)
    refine ⟨by rw [names, Function.update_of_ne apart], fun j other => ?_⟩
    have different : j ≠ i := by
      intro same
      subst same
      exact outside (own j named z other)
    rw [inodes, Function.update_of_ne different]
  · intro z target link
    rw [names] at link
    exact links_update (fun _ impossible => by cases impossible) link

theorem removed_within (inside : S x) (own : t.Own S x) : Within S t (t.removed x) := by
  constructor
  · intro z outside
    have apart : z ≠ x := fun same => outside (same ▸ inside)
    refine ⟨Function.update_of_ne apart .., fun j named => dropLink_of_ne fun other => ?_⟩
    exact outside (own j other z named)
  · intro z target link
    rw [removed_names] at link
    exact links_update (fun _ impossible => by cases impossible) link

/-- A file with one name is not the file that it is renamed over. -/
theorem replace_moved (sole : t.Sole x) (apart : x ≠ y)
    (replaced : t.replace x y = .ok t') : t' = t.moved x y apart := by
  have different : t.sameFile x y = false := by
    unfold sameFile
    split
    · rename_i j k here there
      have other : j ≠ k := fun same => apart (sole k (same ▸ here) y there).symm
      simp [other, apart]
    · exact decide_eq_false apart
  unfold replace at replaced
  split at replaced
  · cases replaced
  · cases replaced
  · cases replaced
  · cases replaced
    exact dif_pos different

theorem moved_within (inside : S x) (target : S y) (own : t.Own S y) (named : t.names x = some (.file i)) {apart : x ≠ y} :
    Within S t (t.moved x y apart) := by
  constructor
  · intro z outside
    have other : z ≠ x := fun same => outside (same ▸ inside)
    have elsewhere : z ≠ y := fun same => outside (same ▸ target)
    refine ⟨(Function.update_of_ne other ..).trans (Function.update_of_ne elsewhere ..), fun j here => ?_⟩
    exact dropLink_of_ne fun shared => outside (own j shared z here)
  · intro z target link
    rw [moved_names, named] at link
    have before := links_update (fun _ impossible => by cases impossible) link
    exact links_update (fun _ impossible => by cases impossible) before

end

end ControlPlane.Data.Tree
