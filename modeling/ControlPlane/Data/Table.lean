import Mathlib.Data.List.Nodup
import Mathlib.Data.List.Basic

/-!
# Tables with a primary key

Rows in insertion order; no two rows share a key. `update` is the SQL statement:
it rewrites the rows that match, wherever they are, and cannot touch the key.
-/

namespace ControlPlane.Data

variable {ρ κ : Type}

structure Table (ρ : Type) {κ : Type} (key : ρ → κ) where
  rows : List ρ
  unique : (rows.map key).Nodup

namespace Table

variable {key : ρ → κ}

def empty : Table ρ key := ⟨[], List.nodup_nil⟩

def update (t : Table ρ key) (p : ρ → Prop) [DecidablePred p] (f : ρ → ρ) (keeps : ∀ r, key (f r) = key r) :
    Table ρ key where
  rows := t.rows.map fun r => if p r then f r else r
  unique := by
    have same : key ∘ (fun r => if p r then f r else r) = key := by
      funext r
      simp only [Function.comp_apply]
      split <;> simp [keeps]
    rw [List.map_map, same]
    exact t.unique

def insert (t : Table ρ key) (r : ρ) (fresh : key r ∉ t.rows.map key) : Table ρ key where
  rows := t.rows ++ [r]
  unique := by
    rw [List.map_append]
    exact List.nodup_append.mpr ⟨t.unique, by simp, fun a member b last same => fresh (by
      rw [List.map_singleton, List.mem_singleton] at last
      rwa [← last, ← same])⟩

section

variable [DecidableEq κ] (t : Table ρ key)

def find? (k : κ) : Option ρ := t.rows.find? fun r => key r = k

/-- `INSERT`: refused if the key is taken. -/
def insert? (r : ρ) : Option (Table ρ key) :=
  if fresh : key r ∉ t.rows.map key then some (t.insert r fresh) else none

/-- `INSERT .. ON CONFLICT(key) DO UPDATE`. -/
def upsert (r : ρ) (f : ρ → ρ) (keeps : ∀ r, key (f r) = key r) : Table ρ key :=
  if fresh : key r ∉ t.rows.map key then t.insert r fresh
  else t.update (fun old => key old = key r) f keeps

/-- `INSERT OR REPLACE`: every row that has the key, or clashes otherwise, makes way. -/
def replace (r : ρ) (clashes : ρ → Prop) [DecidablePred clashes] : Table ρ key where
  rows := t.rows.filter (fun s => key s ≠ key r ∧ ¬ clashes s) ++ [r]
  unique := by
    rw [List.map_append, List.map_singleton]
    refine List.nodup_append.mpr ⟨(t.unique.sublist (List.filter_sublist.map key)), by simp, ?_⟩
    intro k kept k' last same
    obtain ⟨s, member, rfl⟩ := List.mem_map.mp kept
    rw [List.mem_singleton] at last
    simpa [← last, ← same] using (List.mem_filter.mp member).2

end

/-- How many rows an `UPDATE` with this condition changes. -/
def rowcount (t : Table ρ key) (p : ρ → Prop) [DecidablePred p] : Nat := t.rows.countP fun r => p r

variable {t : Table ρ key} {r s : ρ} {p : ρ → Prop} [DecidablePred p] {f : ρ → ρ}
  {keeps : ∀ r, key (f r) = key r}

theorem eq_of_key (hr : r ∈ t.rows) (hs : s ∈ t.rows) (same : key r = key s) : r = s :=
  List.inj_on_of_nodup_map t.unique hr hs same

@[simp] theorem rows_empty : (empty : Table ρ key).rows = [] := rfl

@[simp] theorem rows_update :
    (t.update p f keeps).rows = t.rows.map fun r => if p r then f r else r := rfl

@[simp] theorem rows_insert {fresh : key r ∉ t.rows.map key} : (t.insert r fresh).rows = t.rows ++ [r] := rfl

@[simp] theorem mem_replace [DecidableEq κ] {clashes : ρ → Prop} [DecidablePred clashes] :
    s ∈ (t.replace r clashes).rows ↔ s ∈ t.rows ∧ key s ≠ key r ∧ ¬ clashes s ∨ s = r := by
  simp [replace]

theorem mem_update : s ∈ (t.update p f keeps).rows ↔ ∃ r ∈ t.rows, (if p r then f r else r) = s := by
  simp

section

variable [DecidableEq κ] {k : κ}

theorem find?_some : t.find? k = some r ↔ r ∈ t.rows ∧ key r = k := by
  constructor
  · intro found
    exact ⟨List.mem_of_find?_eq_some found, by simpa using List.find?_some found⟩
  · rintro ⟨member, rfl⟩
    cases found : t.find? (key r) with
    | none =>
      have absent := List.find?_eq_none.mp found r member
      simp at absent
    | some s =>
      have same : key s = key r := by simpa using List.find?_some found
      rw [eq_of_key (List.mem_of_find?_eq_some found) member same]

theorem find?_none : t.find? k = none ↔ ∀ r ∈ t.rows, key r ≠ k := by
  simp [find?]

theorem find?_update {u : Table ρ key} (updated : u.rows = t.rows.map fun r => if p r then f r else r)
    (keeps : ∀ r, key (f r) = key r) : u.find? k = (t.find? k).map fun r => if p r then f r else r := by
  have same : ((fun r => decide (key r = k)) ∘ fun r => if p r then f r else r) =
      fun r => decide (key r = k) := by
    funext r
    simp only [Function.comp_apply]
    split <;> simp [keeps]
  rw [find?, updated, List.find?_map, same]
  rfl

/-- An update under one key. -/
theorem find?_update_key (keeps : ∀ r, key (f r) = key r) {k' : κ} :
    (t.update (fun r => key r = k') f keeps).find? k = if k' = k then (t.find? k).map f else t.find? k := by
  rw [find?_update rfl keeps]
  cases found : t.find? k with
  | none => simp
  | some r =>
    obtain ⟨_, same⟩ := find?_some.mp found
    simp only [Option.map_some, same, eq_comm (a := k)]
    split <;> rfl

theorem find?_replace {clashes : ρ → Prop} [DecidablePred clashes] :
    (t.replace r clashes).find? k = if key r = k then some r else (t.find? k).filter fun s => ¬ clashes s := by
  split
  · rename_i same
    exact find?_some.mpr ⟨mem_replace.mpr (.inr rfl), same⟩
  · rename_i other
    refine Option.ext fun s => ?_
    rw [find?_some, mem_replace, Option.filter_eq_some_iff, find?_some]
    constructor
    · rintro ⟨⟨member, _, kept⟩ | rfl, same⟩
      · exact ⟨⟨member, same⟩, by simpa using kept⟩
      · exact absurd same other
    · rintro ⟨⟨member, same⟩, kept⟩
      exact ⟨.inl ⟨member, fun clash => other (clash ▸ same), by simpa using kept⟩, same⟩

theorem insert?_some {u : Table ρ key} (inserted : t.insert? r = some u) :
    (∀ s ∈ t.rows, key s ≠ key r) ∧ u.rows = t.rows ++ [r] := by
  unfold insert? at inserted
  split at inserted
  · rename_i fresh
    cases inserted
    exact ⟨fun s member same => fresh (same ▸ List.mem_map_of_mem member), rfl⟩
  · cases inserted

theorem insert?_fresh (fresh : ∀ s ∈ t.rows, key s ≠ key r) : ∃ u, t.insert? r = some u := by
  refine ⟨_, dif_pos fun clash => ?_⟩
  obtain ⟨s, member, same⟩ := List.mem_map.mp clash
  exact fresh s member same

theorem mem_inserted {u : Table ρ key} (inserted : t.insert? r = some u) : s ∈ u.rows ↔ s ∈ t.rows ∨ s = r := by
  rw [(insert?_some inserted).2, List.mem_append, List.mem_singleton]

/-- What an upsert leaves behind: an old row, a rewritten one, or the new one. -/
theorem find?_insert? {u : Table ρ key} {k : κ} (inserted : t.insert? r = some u) :
    u.find? k = if key r = k then some r else t.find? k := by
  by_cases same : key r = k
  · rw [if_pos same]
    exact find?_some.mpr ⟨(mem_inserted inserted).mpr (.inr rfl), same⟩
  · rw [if_neg same]
    cases found : t.find? k with
    | some s =>
      obtain ⟨member, named⟩ := find?_some.mp found
      exact find?_some.mpr ⟨(mem_inserted inserted).mpr (.inl member), named⟩
    | none =>
      refine find?_none.mpr fun s member => ?_
      rcases (mem_inserted inserted).mp member with earlier | new
      · exact find?_none.mp found s earlier
      · exact new ▸ same

theorem mem_upsert (member : s ∈ (t.upsert r f keeps).rows) :
    s ∈ t.rows ∨ (∃ old ∈ t.rows, key old = key r ∧ s = f old) ∨ s = r := by
  unfold upsert at member
  split at member
  · rcases List.mem_append.mp member with old | new
    · exact .inl old
    · exact .inr (.inr (List.mem_singleton.mp new))
  · obtain ⟨old, there, rfl⟩ := mem_update.mp member
    split
    · exact .inr (.inl ⟨old, there, ‹_›, rfl⟩)
    · exact .inl there

end

/-- A condition that names the key matches at most the row found under it. -/
theorem rowcount_key [DecidableEq κ] {k : κ} (named : ∀ r, p r → key r = k) :
    t.rowcount p = if ∃ r, t.find? k = some r ∧ p r then 1 else 0 := by
  have atMost : ∀ rows : List ρ, (rows.map key).Nodup →
      rows.countP (fun r => p r) = if ∃ r ∈ rows, p r then 1 else 0 := by
    intro rows nodup
    induction rows with
    | nil => simp
    | cons r rows ih =>
      rw [List.map_cons, List.nodup_cons] at nodup
      rw [List.countP_cons, ih nodup.2]
      by_cases hit : p r
      · have others : ¬ ∃ s ∈ rows, p s := by
          rintro ⟨s, member, matched⟩
          exact nodup.1 (named r hit ▸ named s matched ▸ List.mem_map_of_mem member)
        simp [hit, others]
      · simp [hit]
  rw [rowcount, atMost _ t.unique]
  congr 1
  refine propext ⟨?_, ?_⟩
  · rintro ⟨r, member, hit⟩
    exact ⟨r, find?_some.mpr ⟨member, named r hit⟩, hit⟩
  · rintro ⟨r, found, hit⟩
    exact ⟨r, (find?_some.mp found).1, hit⟩

/-! ### How a table can change

Rows stay where they are: each is kept or takes one step, and new rows follow. -/

def Evolves (Step : ρ → ρ → Prop) (New : ρ → Prop) (t u : Table ρ key) : Prop :=
  ∃ f added, u.rows = t.rows.map f ++ added ∧ (∀ r ∈ t.rows, f r = r ∨ Step r (f r)) ∧ ∀ r ∈ added, New r

section

variable {u : Table ρ key} {Step : ρ → ρ → Prop} {New : ρ → Prop}

theorem evolves_refl : Evolves Step New t t := ⟨id, [], by simp, fun _ _ => .inl rfl, by simp⟩

theorem evolves_update (updated : u.rows = t.rows.map fun r => if p r then f r else r)
    (steps : ∀ r ∈ t.rows, p r → Step r (f r)) : Evolves Step New t u := by
  refine ⟨fun r => if p r then f r else r, [], by simpa using updated, fun r member => ?_, by simp⟩
  dsimp only
  split
  · exact .inr (steps r member ‹_›)
  · exact .inl rfl

theorem evolves_insert (added : u.rows = t.rows ++ [r]) (new : New r) : Evolves Step New t u :=
  ⟨id, [r], by simpa using added, fun _ _ => .inl rfl, by simpa using new⟩

namespace Evolves

/-- A property of rows that every step keeps and every new row has. -/
theorem all {I : ρ → Prop} (evolves : Evolves Step New t u) (before : ∀ r ∈ t.rows, I r)
    (kept : ∀ r ∈ t.rows, ∀ r', Step r r' → I r → I r') (new : ∀ r, New r → I r) : ∀ r ∈ u.rows, I r := by
  obtain ⟨f, added, rows, steps, fresh⟩ := evolves
  intro r member
  rw [rows] at member
  rcases List.mem_append.mp member with old | late
  · obtain ⟨s, there, rfl⟩ := List.mem_map.mp old
    rcases steps s there with same | step
    · rw [same]
      exact before s there
    · exact kept s there _ step (before s there)
  · exact new r (fresh r late)

/-- Where a row of the later table comes from. -/
theorem source (evolves : Evolves Step New t u) (member : s ∈ u.rows) :
    (∃ r ∈ t.rows, s = r ∨ Step r s) ∨ New s := by
  obtain ⟨f, added, rows, steps, fresh⟩ := evolves
  rw [rows] at member
  rcases List.mem_append.mp member with old | late
  · obtain ⟨r, there, rfl⟩ := List.mem_map.mp old
    exact .inl ⟨r, there, steps r there⟩
  · exact .inr (fresh s late)

theorem kept (evolves : Evolves Step New t u) (member : r ∈ t.rows) : ∃ s ∈ u.rows, s = r ∨ Step r s := by
  obtain ⟨f, added, rows, steps, _⟩ := evolves
  exact ⟨f r, rows ▸ List.mem_append_left _ (List.mem_map_of_mem member), steps r member⟩

/-- The row under a key moves on under that key. -/
theorem find? [DecidableEq κ] {k : κ} (evolves : Evolves Step New t u) (keyed : ∀ r s, Step r s → key s = key r)
    (found : t.find? k = some r) : ∃ s, u.find? k = some s ∧ (s = r ∨ Step r s) := by
  obtain ⟨member, rfl⟩ := find?_some.mp found
  obtain ⟨s, there, moved⟩ := evolves.kept member
  refine ⟨s, find?_some.mpr ⟨there, ?_⟩, moved⟩
  rcases moved with rfl | step
  · rfl
  · exact keyed r s step

/-- Rows that match afterwards come from rows that matched before. -/
theorem rowcount_le {P Q : ρ → Prop} [DecidablePred P] [DecidablePred Q] (evolves : Evolves Step New t u)
    (kept : ∀ r ∈ t.rows, ∀ s, (s = r ∨ Step r s) → P s → Q r) (new : ∀ r, New r → ¬ P r) :
    u.rowcount P ≤ t.rowcount Q := by
  obtain ⟨f, added, rows, steps, fresh⟩ := evolves
  have none_added : added.countP (fun r => P r) = 0 :=
    List.countP_eq_zero.mpr fun r late => by simpa using new r (fresh r late)
  simp only [rowcount, rows, List.countP_append, none_added, List.countP_map]
  exact List.countP_mono_left fun r member matched => by
    simpa using kept r member _ (steps r member) (by simpa using matched)

end Evolves

end

/-- One key matches one row at most. -/
theorem rowcount_or_key_le [DecidableEq κ] {k : κ} :
    t.rowcount (fun r => p r ∨ key r = k) ≤ t.rowcount p + 1 := by
  have one : t.rowcount (fun r => key r = k) ≤ 1 := by
    rw [rowcount_key fun r named => named]
    split <;> omega
  have both : ∀ rows : List ρ, rows.countP (fun r => p r ∨ key r = k) ≤
      rows.countP (fun r => p r) + rows.countP (fun r => key r = k) := by
    intro rows
    induction rows with
    | nil => simp
    | cons r rows ih =>
      simp only [List.countP_cons, decide_eq_true_eq]
      by_cases hit : p r <;> by_cases named : key r = k <;>
        simp only [hit, named, or_self, or_true, true_or, if_true, if_false] <;> omega
  exact Nat.le_trans (both t.rows) (Nat.add_le_add_left one _)

end Table

end ControlPlane.Data
