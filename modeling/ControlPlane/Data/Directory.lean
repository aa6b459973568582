import ControlPlane.Data.Dict
import Mathlib.Data.List.Sort
import Mathlib.Data.String.Basic

/-!
# Directories

The files of one directory under their names. No name comes twice.
-/

namespace ControlPlane.Data

namespace Dict

variable {κ ν : Type} [DecidableEq κ] {d : Dict κ ν} {k k' : κ} {v : ν} {e : κ × ν}

/-- `d.pop(k, None)` -/
def erase (d : Dict κ ν) (k : κ) : Dict κ ν := d.filter fun e => e.1 ≠ k

theorem mem_erase : e ∈ d.erase k ↔ e ∈ d ∧ e.1 ≠ k := by simp [erase]

theorem get?_erase : (d.erase k).get? k' = if k = k' then none else d.get? k' := by
  by_cases same : k = k'
  · rw [if_pos same, get?_none]
    intro member
    obtain ⟨e, kept, key⟩ := List.mem_map.mp member
    exact (mem_erase.mp kept).2 (key.trans same.symm)
  · rw [if_neg same]
    induction d with
    | nil => rfl
    | cons e d ih =>
      unfold erase at ih ⊢
      by_cases gone : e.1 = k
      · have other : ¬ e.1 = k' := fun here => same (gone.symm.trans here)
        rw [List.filter_cons_of_neg (by simpa using gone), ih, get?_cons, if_neg other]
      · rw [List.filter_cons_of_pos (by simpa using gone), get?_cons, get?_cons, ih]

theorem Distinct.erase (distinct : d.Distinct) : (d.erase k).Distinct := by
  unfold Distinct keys Dict.erase
  exact List.Nodup.sublist (List.Sublist.map Prod.fst List.filter_sublist) distinct

theorem get?_isSome : (d.get? k).isSome ↔ k ∈ d.keys := by
  constructor
  · intro found
    by_contra missing
    rw [get?_none.mpr missing] at found
    cases found
  · intro member
    by_contra missing
    exact get?_none.mp (Option.not_isSome_iff_eq_none.mp missing) member

end Dict

structure Directory (α : Type) where
  files : Dict String α
  distinct : files.Distinct

namespace Directory

variable {α : Type} {dir : Directory α} {name name' : String} {content : α}

def empty : Directory α := ⟨[], List.nodup_nil⟩

def get? (dir : Directory α) (name : String) : Option α := dir.files.get? name

def write (dir : Directory α) (name : String) (content : α) : Directory α :=
  ⟨dir.files.set name content, dir.distinct.set⟩

def remove (dir : Directory α) (name : String) : Directory α := ⟨dir.files.erase name, dir.distinct.erase⟩

/-- `sorted(dir.glob(..))` -/
def names (dir : Directory α) : List String := dir.files.keys.insertionSort (· ≤ ·)

@[simp] theorem get?_write_self : (dir.write name content).get? name = some content := Dict.get?_set_self

theorem get?_write : (dir.write name content).get? name' = if name = name' then some content else dir.get? name' :=
  Dict.get?_set

theorem get?_remove : (dir.remove name).get? name' = if name = name' then none else dir.get? name' := Dict.get?_erase

theorem mem_names : name ∈ dir.names ↔ (dir.get? name).isSome := by
  rw [names, List.mem_insertionSort]
  exact Dict.get?_isSome.symm

theorem names_nodup : dir.names.Nodup := (List.perm_insertionSort _ _).nodup_iff.mpr dir.distinct

end Directory

end ControlPlane.Data
