import ControlPlane.Data.Json.RoundTrip

/-!
# One way to write the floats

Whole numbers as `json` writes them, other fractions with numerator and denominator. It
shows that a host can read back what it writes.
-/

namespace ControlPlane.Data.Json

/-- What stands behind the point. -/
def ratioTail (den : Nat) : List Char := if den = 1 then ['0'] else digits den

def ratioText (q : ℚ) : List Char := intText q.num ++ '.' :: ratioTail q.den

def ratioValue (s : String) : PyFloat :=
  let body := unsigned s.toList
  let whole : Int := digitsValue (body.takeWhile Char.isDigit)
  let behind := (body.dropWhile Char.isDigit).tail
  .fin (mkRat (if s.toList.head? = some '-' then -whole else whole) (if behind = ['0'] then 1 else digitsValue behind))

theorem ratioTail_digits (den : Nat) : isDigits (ratioTail den) = true := by
  unfold ratioTail
  split
  · decide
  · exact isDigits_digits

theorem ratioTail_value {den : Nat} (positive : den ≠ 0) : (if ratioTail den = ['0'] then 1 else digitsValue (ratioTail den)) = den := by
  unfold ratioTail
  by_cases one : den = 1
  · rw [if_pos one, if_pos rfl, one]
  · have other : digits den ≠ ['0'] := by
      intro zero
      have value := digitsValue_digits den
      rw [zero] at value
      exact positive value.symm
    rw [if_neg one, if_neg other, digitsValue_digits]

theorem digits_span (n : Nat) (tail : List Char) : (digits n ++ '.' :: tail).takeWhile Char.isDigit = digits n ∧
    (digits n ++ '.' :: tail).dropWhile Char.isDigit = '.' :: tail := by
  have all : ∀ c ∈ digits n, Char.isDigit c = true := digits_isDigit
  rw [List.takeWhile_append_of_pos all, List.dropWhile_append_of_pos all]
  simp [Char.isDigit]

theorem digits_head (n : Nat) (tail : List Char) : (digits n ++ tail).head? ≠ some '-' := by
  cases text : digits n with
  | nil => simp [digits] at text
  | cons c rest =>
    have digit : c.isDigit = true := digits_isDigit (n := n) c (text ▸ List.mem_cons_self)
    have other := digit_ne digit (by decide : '-'.isDigit = false)
    simp [Ne.symm other]

/-- The sign, and the digits behind it. -/
theorem ratio_cases (q : ℚ) : (unsigned (ratioText q) = digits q.num.natAbs ++ '.' :: ratioTail q.den) ∧
    (if (ratioText q).head? = some '-' then -(q.num.natAbs : Int) else q.num.natAbs) = q.num := by
  unfold ratioText
  cases sign : q.num with
  | ofNat n =>
    have plain := digits_head n ('.' :: ratioTail q.den)
    rw [intText, unsigned, if_neg plain, if_neg plain]
    exact ⟨rfl, rfl⟩
  | negSucc n =>
    rw [intText, unsigned, List.cons_append, List.head?_cons, if_pos rfl, if_pos rfl]
    exact ⟨rfl, rfl⟩

theorem ratio_written (q : ℚ) : isFloatText (ratioText q) = true := by
  obtain ⟨body, -⟩ := ratio_cases q
  obtain ⟨whole, rest⟩ := digits_span q.num.natAbs (ratioTail q.den)
  have tail := ratioTail_digits q.den
  have all : ∀ c ∈ ratioTail q.den, Char.isDigit c = true := by
    simp only [isDigits, Bool.and_eq_true, List.all_eq_true] at tail
    exact tail.2
  have taken : (ratioTail q.den).takeWhile Char.isDigit = ratioTail q.den := List.takeWhile_eq_self_iff.mpr all
  have left : (ratioTail q.den).dropWhile Char.isDigit = [] := List.dropWhile_eq_nil_iff.mpr all
  unfold isFloatText
  rw [body, whole, rest]
  simp [isWhole_digits, isFraction, taken, left, tail, isExponent]

theorem ratio_read (q : ℚ) : ratioValue (String.ofList (ratioText q)) = .fin q := by
  obtain ⟨body, sign⟩ := ratio_cases q
  obtain ⟨whole, rest⟩ := digits_span q.num.natAbs (ratioTail q.den)
  unfold ratioValue
  simp only [String.toList_ofList]
  rw [body, whole, rest, List.tail_cons, ratioTail_value q.den_nz, digitsValue_digits, sign, Rat.mkRat_self]

def ratioFloats : Floats where
  repr := ratioText
  parse := ratioValue
  written := ratio_written
  read := ratio_read

end ControlPlane.Data.Json
