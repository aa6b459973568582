import Mathlib.Data.List.Nodup
import Mathlib.Data.List.Basic

/-!
# Dictionaries that keep their order

Entries in the order in which their keys came; a key that comes again keeps its place
and takes the new value.
-/

namespace ControlPlane.Data

/-- Entries in order. -/
abbrev Dict (κ ν : Type) := List (κ × ν)

namespace Dict

variable {κ ν : Type} [DecidableEq κ] {d : Dict κ ν} {k k' : κ} {v w : ν} {e : κ × ν}

def get? (d : Dict κ ν) (k : κ) : Option ν := (d.find? fun e => e.1 = k).map (·.2)

/-- `d[k] = v` -/
def set : Dict κ ν → κ → ν → Dict κ ν
  | [], k, v => [(k, v)]
  | e :: rest, k, v => if e.1 = k then (k, v) :: rest else e :: set rest k v

def keys (d : Dict κ ν) : List κ := d.map (·.1)

/-- `dict(entries)`: a key that comes twice keeps its first place and its last value. -/
def ofList (entries : List (κ × ν)) : Dict κ ν := entries.foldl (fun d e => d.set e.1 e.2) []

/-- No key comes twice. -/
def Distinct (d : Dict κ ν) : Prop := d.keys.Nodup

@[simp] theorem get?_nil : get? ([] : Dict κ ν) k = none := rfl

theorem get?_cons : get? (e :: d) k = if e.1 = k then some e.2 else get? d k := by
  unfold get?
  rw [List.find?_cons]
  by_cases same : e.1 = k <;> simp [same]

@[simp] theorem get?_set_self : (d.set k v).get? k = some v := by
  induction d with
  | nil => simp [set, get?_cons]
  | cons e rest ih =>
    unfold set
    split
    · simp [get?_cons]
    · rename_i other
      rw [get?_cons, if_neg other, ih]

theorem get?_set_of_ne (other : k ≠ k') : (d.set k v).get? k' = d.get? k' := by
  induction d with
  | nil => simp [set, get?_cons, other]
  | cons e rest ih =>
    unfold set
    split
    · rename_i same
      rw [get?_cons, get?_cons, if_neg other, if_neg (same ▸ other)]
    · rw [get?_cons, get?_cons, ih]

theorem get?_set : (d.set k v).get? k' = if k = k' then some v else d.get? k' := by
  split
  · rename_i same
    rw [← same, get?_set_self]
  · exact get?_set_of_ne ‹_›

theorem get?_none : d.get? k = none ↔ k ∉ d.keys := by
  simp only [get?, Option.map_eq_none_iff, List.find?_eq_none, keys, List.mem_map, not_exists, not_and,
    decide_eq_true_eq]

theorem mem_of_get? (found : d.get? k = some v) : (k, v) ∈ d := by
  obtain ⟨e, first, rfl⟩ := Option.map_eq_some_iff.mp found
  have same : e.1 = k := by simpa using List.find?_some first
  rw [← same]
  exact List.mem_of_find?_eq_some first

theorem get?_of_mem (distinct : d.Distinct) (member : (k, v) ∈ d) : d.get? k = some v := by
  induction d with
  | nil => cases member
  | cons e rest ih =>
    obtain ⟨fresh, later⟩ := List.nodup_cons.mp (show (e.1 :: keys rest).Nodup from distinct)
    rw [get?_cons]
    rcases List.mem_cons.mp member with same | member
    · rw [← same, if_pos rfl]
    · rw [if_neg, ih later member]
      intro same
      exact fresh (same ▸ List.mem_map_of_mem (f := Prod.fst) member)

theorem get?_iff (distinct : d.Distinct) : d.get? k = some v ↔ (k, v) ∈ d := ⟨mem_of_get?, get?_of_mem distinct⟩

omit [DecidableEq κ] in
@[simp] theorem keys_cons : keys (e :: d) = e.1 :: keys d := rfl

/-- Setting a key that is there leaves the keys as they are. -/
theorem keys_set : (d.set k v).keys = if k ∈ d.keys then d.keys else d.keys ++ [k] := by
  induction d with
  | nil => rfl
  | cons e rest ih =>
    by_cases same : e.1 = k
    · simp [set, same]
    · have other : k ≠ e.1 := Ne.symm same
      rw [set, if_neg same, keys_cons, keys_cons, ih]
      by_cases known : k ∈ keys rest
      · rw [if_pos known, if_pos (List.mem_cons_of_mem _ known)]
      · rw [if_neg known, if_neg fun member => known ((List.mem_cons.mp member).resolve_left other), List.cons_append]

theorem Distinct.set (distinct : d.Distinct) : (d.set k v).Distinct := by
  unfold Distinct
  rw [keys_set]
  split
  · exact distinct
  · rename_i fresh
    refine List.nodup_append.mpr ⟨distinct, List.nodup_singleton _, ?_⟩
    rintro a member _ (_ | ⟨_, ⟨⟩⟩) rfl
    exact fresh member

theorem mem_set (member : e ∈ d.set k v) : e = (k, v) ∨ e ∈ d := by
  induction d with
  | nil => exact .inl (List.mem_singleton.mp member)
  | cons f rest ih =>
    unfold set at member
    split at member
    · rcases List.mem_cons.mp member with same | member
      · exact .inl same
      · exact .inr (List.mem_cons_of_mem _ member)
    · rcases List.mem_cons.mp member with rfl | member
      · exact .inr List.mem_cons_self
      · rcases ih member with same | member
        · exact .inl same
        · exact .inr (List.mem_cons_of_mem _ member)

/-- A new key goes to the end. -/
theorem set_fresh (fresh : k ∉ d.keys) : d.set k v = d ++ [(k, v)] := by
  induction d with
  | nil => rfl
  | cons e rest ih =>
    obtain ⟨other, later⟩ := not_or.mp (fun member => fresh (List.mem_cons.mpr member) : ¬ (k = e.1 ∨ k ∈ keys rest))
    rw [set, if_neg (Ne.symm other), ih later]
    rfl

theorem ofList_append_of_distinct {entries : List (κ × ν)} (distinct : Distinct (d ++ entries)) :
    entries.foldl (fun d e => d.set e.1 e.2) d = d ++ entries := by
  induction entries generalizing d with
  | nil => simp
  | cons e rest ih =>
    have all : Distinct ((d ++ [e]) ++ rest) := by simpa using distinct
    have fresh : e.1 ∉ d.keys := by
      intro known
      unfold Distinct keys at distinct
      rw [List.map_append, List.map_cons] at distinct
      exact (List.nodup_append.mp distinct).2.2 _ known _ List.mem_cons_self rfl
    rw [List.foldl_cons, set_fresh fresh]
    exact (ih all).trans (by simp)

/-- Distinct keys make the dictionary that lists them. -/
theorem ofList_of_distinct (distinct : d.Distinct) : ofList d = d := ofList_append_of_distinct (d := []) distinct

theorem distinct_ofList (entries : List (κ × ν)) : (ofList entries).Distinct := by
  suffices grows : ∀ d : Dict κ ν, d.Distinct → (entries.foldl (fun d e => d.set e.1 e.2) d).Distinct from grows [] List.nodup_nil
  induction entries with
  | nil => exact fun d distinct => distinct
  | cons e rest ih => exact fun d distinct => ih _ distinct.set

end Dict

end ControlPlane.Data
