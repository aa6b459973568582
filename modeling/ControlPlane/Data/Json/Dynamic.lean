import ControlPlane.Data.JsonLines

/-!
# JSON values in the hands of untyped code

Truth, use as a dictionary key, `v + 1` and `str(v)`: what code does with a field
without knowing its type.
-/

namespace ControlPlane.Data

/-- A dictionary that was read from JSON, or is about to be written. -/
abbrev Record := Dict String Json

namespace Json

/-- `bool(v)` -/
def truthy : Json → Bool
  | null => false
  | bool b => b
  | int i => i ≠ 0
  | float x => x ≠ .fin 0
  | str s => s ≠ ""
  | list xs => !xs.isEmpty
  | dict es => !es.isEmpty

/-- A truth value, where the value is one. -/
def bool? : Json → Option Bool
  | bool b => some b
  | _ => none

/-- A dictionary, where the value is one. -/
def dict? : Json → Option Record
  | dict es => some es
  | _ => none

/-- What a value is as a key of a dictionary; numbers that are equal are one key. -/
inductive Key where
  | none
  | num (x : PyFloat)
  | str (s : String)
  deriving DecidableEq

/-- Lists and dictionaries cannot be keys. -/
def key? : Json → Option Key
  | null => some .none
  | bool b => some (.num (.fin (if b then 1 else 0)))
  | int i => some (.num (.fin i))
  | float x => some (.num x)
  | str s => some (.str s)
  | list _ | dict _ => none

/-- `v + 1` -/
def increment : Json → Option Json
  | bool b => some (int (if b then 2 else 1))
  | int i => some (int (i + 1))
  | float x => some (float (x + .fin 1))
  | _ => none

/-- The number a value is compared as. -/
def number? : Json → Option PyFloat
  | bool b => some (.fin (if b then 1 else 0))
  | int i => some (.fin i)
  | float x => some x
  | _ => none

end Json

namespace Record

variable {r : Record} {k k' : String} {v : Json}

/-- `r.get(k)` -/
def field (r : Record) (k : String) : Json := (r.get? k).getD .null

@[simp] theorem field_set_self : field (r.set k v) k = v := by
  simp [field]

@[simp] theorem field_set_of_ne (other : k ≠ k') : field (r.set k v) k' = field r k' := by
  simp [field, Dict.get?_set_of_ne other]

/-- Neither a list nor a dictionary. -/
def Scalar : Json → Prop
  | .list _ | .dict _ => False
  | _ => True

/-- Distinct keys and no nesting. -/
structure Flat (r : Record) : Prop where
  distinct : Dict.Distinct r
  scalar : ∀ e ∈ r, Scalar e.2

theorem Scalar.keyed (scalar : Scalar v) : Json.Keyed v := by
  cases v <;> trivial

theorem Flat.keyed (flat : Flat r) : Json.Keyed (.dict r) := by
  refine ⟨flat.distinct, ?_⟩
  obtain ⟨-, scalar⟩ := flat
  induction r with
  | nil => trivial
  | cons e rest ih =>
    have here := scalar e List.mem_cons_self
    exact ⟨here.keyed, ih fun f member => scalar f (List.mem_cons_of_mem _ member)⟩

theorem Flat.set (flat : Flat r) (scalar : Scalar v) : Flat (r.set k v) where
  distinct := flat.distinct.set
  scalar e member := by
    rcases Dict.mem_set member with rfl | member
    · exact scalar
    · exact flat.scalar e member

end Record

end ControlPlane.Data
