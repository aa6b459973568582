import Mathlib.Data.Rat.Defs
import Mathlib.Algebra.Order.Ring.Rat

/-!
# Numbers as Python and SQLite compare them

Arithmetic on finite values is exact. `nan` is below, above and equal to nothing;
SQLite stores it as NULL.
-/

namespace ControlPlane.Data

inductive PyFloat where
  | nan
  | negInf
  | fin (q : ℚ)
  | posInf
  deriving DecidableEq

namespace PyFloat

def less : PyFloat → PyFloat → Bool
  | .fin a, .fin b => decide (a < b)
  | .negInf, .fin _ | .negInf, .posInf | .fin _, .posInf => true
  | _, _ => false

/-- `a <= b`. -/
def atMost : PyFloat → PyFloat → Bool
  | .fin a, .fin b => decide (a ≤ b)
  | .negInf, .negInf | .posInf, .posInf => true
  | a, b => less a b

instance : LT PyFloat := ⟨fun a b => less a b = true⟩
instance : LE PyFloat := ⟨fun a b => atMost a b = true⟩
instance (a b : PyFloat) : Decidable (a < b) := inferInstanceAs (Decidable (_ = true))
instance (a b : PyFloat) : Decidable (a ≤ b) := inferInstanceAs (Decidable (_ = true))

def add : PyFloat → PyFloat → PyFloat
  | .fin a, .fin b => .fin (a + b)
  | .nan, _ | _, .nan | .negInf, .posInf | .posInf, .negInf => .nan
  | .negInf, _ | _, .negInf => .negInf
  | .posInf, _ | _, .posInf => .posInf

instance : Add PyFloat := ⟨add⟩

/-- Python's `min(a, b)`. -/
def minimum (a b : PyFloat) : PyFloat := if b < a then b else a

/-- `float(v)` where only a finite value that is not negative is accepted. -/
def clock? : PyFloat → Option ℚ
  | .fin q => if 0 ≤ q then some q else none
  | _ => none

/-- What a REAL column holds after this value was bound to it. -/
def stored : PyFloat → Option PyFloat
  | .nan => none
  | v => some v

theorem fin_lt_fin {a b : ℚ} : PyFloat.fin a < .fin b ↔ a < b := decide_eq_true_iff

theorem fin_le_fin {a b : ℚ} : PyFloat.fin a ≤ .fin b ↔ a ≤ b := decide_eq_true_iff

theorem not_lt_of_le {a b : PyFloat} (h : a ≤ b) : ¬ b < a := by
  cases a <;> cases b <;> simp_all [LE.le, LT.lt, atMost, less]

/-- A deadline that lies ahead lay ahead before. -/
theorem lt_of_earlier {m n : ℚ} {e : PyFloat} (earlier : m ≤ n) (ahead : PyFloat.fin n < e) :
    PyFloat.fin m < e := by
  cases e with
  | fin q => exact fin_lt_fin.mpr (lt_of_le_of_lt earlier (fin_lt_fin.mp ahead))
  | posInf => rfl
  | negInf => exact (Bool.false_ne_true ahead).elim
  | nan => exact (Bool.false_ne_true ahead).elim

/-- A finite instant is past, or before, any stored deadline. -/
theorem le_or_lt {n : ℚ} {v e : PyFloat} (kept : v.stored = some e) : e ≤ .fin n ∨ PyFloat.fin n < e := by
  cases v with
  | nan => cases kept
  | fin q =>
    cases kept
    exact (le_or_gt q n).imp fin_le_fin.mpr fin_lt_fin.mpr
  | negInf =>
    cases kept
    exact .inl rfl
  | posInf =>
    cases kept
    exact .inr rfl

end PyFloat

end ControlPlane.Data
