import Mathlib.Data.List.Infix
import Mathlib.Data.List.FinRange
import Mathlib.Data.List.Nodup

/-!
# Chains of records

Each record names the hash of the one before it, the first one a fixed value. If a hash tells
the hash it was built on, no hash comes twice, and what is left of a chain after its records
were dropped, repeated or moved is a chain only where it is an initial part.
-/

namespace ControlPlane.Data.HashChain

variable {R H : Type} {prev hash : R → H} {genesis : H} {rs ls : List R} {r : R}

/-- Every record names the hash before it; `genesis` comes first. -/
def Linked (prev hash : R → H) : H → List R → Prop
  | _, [] => True
  | expected, r :: rest => prev r = expected ∧ Linked prev hash (hash r) rest

/-- The hash that the next record has to name. -/
def tip (hash : R → H) : H → List R → H
  | expected, [] => expected
  | _, r :: rest => tip hash (hash r) rest

theorem linked_append : Linked prev hash genesis (rs ++ ls) ↔
    Linked prev hash genesis rs ∧ Linked prev hash (tip hash genesis rs) ls := by
  induction rs generalizing genesis with
  | nil => simp [Linked, tip]
  | cons r rs ih => simp [Linked, tip, ih, and_assoc]

theorem linked_concat : Linked prev hash genesis (rs ++ [r]) ↔
    Linked prev hash genesis rs ∧ prev r = tip hash genesis rs := by
  rw [linked_append]
  simp [Linked]

theorem tip_concat : tip hash genesis (rs ++ [r]) = hash r := by
  induction rs generalizing genesis with
  | nil => rfl
  | cons s rs ih => exact ih

/-- The record at a place names the hash of the part before it. -/
theorem prev_getElem (linked : Linked prev hash genesis rs) {i : Nat} (bound : i < rs.length) :
    prev rs[i] = tip hash genesis (rs.take i) := by
  have split : rs = rs.take i ++ rs[i] :: rs.drop (i + 1) := by simp
  rw [split] at linked
  exact (linked_append.mp linked).2.1

theorem tip_take_succ {i : Nat} (bound : i < rs.length) : tip hash genesis (rs.take (i + 1)) = hash rs[i] := by
  rw [List.take_succ_eq_append_getElem bound, tip_concat]

/-- What is assumed of the hashes of a chain: a hash tells the hash it was built on, and
`genesis` is none of them. -/
structure Tells (prev hash : R → H) (genesis : H) (rs : List R) : Prop where
  back : ∀ r ∈ rs, ∀ s ∈ rs, hash r = hash s → prev r = prev s
  fresh : ∀ r ∈ rs, hash r ≠ genesis

/-- The parts of a chain end in different hashes. -/
theorem tip_take_injective (linked : Linked prev hash genesis rs) (tells : Tells prev hash genesis rs) {i j : Nat}
    (boundI : i ≤ rs.length) (boundJ : j ≤ rs.length)
    (same : tip hash genesis (rs.take i) = tip hash genesis (rs.take j)) : i = j := by
  -- one step back on both sides; the shorter part ends in `genesis` first
  induction i generalizing j with
  | zero =>
    cases j with
    | zero => rfl
    | succ j =>
      rw [tip_take_succ boundJ] at same
      exact absurd same.symm (tells.fresh _ (List.getElem_mem _))
  | succ i ih =>
    cases j with
    | zero =>
      rw [tip_take_succ boundI] at same
      exact absurd same (tells.fresh _ (List.getElem_mem _))
    | succ j =>
      rw [tip_take_succ boundI, tip_take_succ boundJ] at same
      have before := tells.back _ (List.getElem_mem _) _ (List.getElem_mem _) same
      rw [prev_getElem linked boundI, prev_getElem linked boundJ] at before
      rw [ih (Nat.le_of_succ_le boundI) (Nat.le_of_succ_le boundJ) before]

/-- No record comes twice. -/
theorem nodup (linked : Linked prev hash genesis rs) (tells : Tells prev hash genesis rs) : rs.Nodup := by
  rw [List.nodup_iff_injective_get]
  intro i j same
  have ends : tip hash genesis (rs.take (i + 1)) = tip hash genesis (rs.take (j + 1)) := by
    rw [tip_take_succ i.isLt, tip_take_succ j.isLt]
    exact congrArg hash same
  have equal := tip_take_injective linked tells i.isLt j.isLt ends
  omega

/-- Records of a chain that are linked from one of its places are the records that follow there. -/
theorem prefix_drop (linked : Linked prev hash genesis rs) (tells : Tells prev hash genesis rs)
    {i : Nat} (bound : i ≤ rs.length) (drawn : ∀ r ∈ ls, r ∈ rs)
    (again : Linked prev hash (tip hash genesis (rs.take i)) ls) : ls <+: rs.drop i := by
  induction ls generalizing i with
  | nil => exact List.nil_prefix
  | cons l ls ih =>
    obtain ⟨named, later⟩ := again
    obtain ⟨j, boundJ, rfl⟩ := List.getElem_of_mem (drawn l List.mem_cons_self)
    have place : j = i := by
      rw [prev_getElem linked boundJ] at named
      exact tip_take_injective linked tells (Nat.le_of_lt boundJ) bound named
    subst place
    have next : tip hash genesis (rs.take (j + 1)) = hash rs[j] := tip_take_succ boundJ
    rw [← next] at later
    have rest := ih boundJ (fun r member => drawn r (List.mem_cons_of_mem _ member)) later
    rw [List.drop_eq_getElem_cons boundJ]
    exact List.cons_prefix_cons.mpr ⟨rfl, rest⟩

/-- Of the lists of records of a chain, its initial parts alone are chains. -/
theorem linked_iff_prefix (linked : Linked prev hash genesis rs) (tells : Tells prev hash genesis rs)
    (drawn : ∀ r ∈ ls, r ∈ rs) : Linked prev hash genesis ls ↔ ls <+: rs := by
  constructor
  · intro again
    exact prefix_drop linked tells (Nat.zero_le _) drawn again
  · intro initial
    obtain ⟨rest, rfl⟩ := initial
    exact (linked_append.mp linked).1

/-! ### Places of a chain -/

theorem map_prefix_iff (distinct : rs.Nodup) {ks : List (Fin rs.length)} :
    ks.map rs.get <+: rs ↔ ks <+: List.finRange rs.length := by
  have all : (List.finRange rs.length).map rs.get = rs := List.map_get_finRange rs
  constructor
  · intro initial
    refine (List.prefix_map_iff_of_injective (List.nodup_iff_injective_get.mp distinct)).mp ?_
    rw [all]
    exact initial
  · intro initial
    have mapped := initial.map rs.get
    rwa [all] at mapped

/-- Records drawn from a chain are a chain only where they are its first ones, in their order. -/
theorem linked_places (linked : Linked prev hash genesis rs) (tells : Tells prev hash genesis rs) {ks : List (Fin rs.length)} :
    Linked prev hash genesis (ks.map rs.get) ↔ ks <+: List.finRange rs.length := by
  have drawn : ∀ r ∈ ks.map rs.get, r ∈ rs := by
    intro r member
    obtain ⟨k, -, rfl⟩ := List.mem_map.mp member
    exact List.get_mem rs k
  rw [ linked_iff_prefix linked tells drawn, map_prefix_iff (nodup linked tells)]

end ControlPlane.Data.HashChain
