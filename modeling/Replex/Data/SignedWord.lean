import Mathlib.Algebra.Order.Ring.Int

namespace Replex.Data.SignedWord

/-! Signed 64-bit arithmetic beside exact integers: an operation that reports
when its exact result leaves the range, and the wrapping one, which agrees
with the exact result where it does not. -/

def InRange (value : Int) : Prop :=
  -2 ^ 63 ≤ value ∧ value < 2 ^ 63

instance (value : Int) : Decidable (InRange value) :=
  inferInstanceAs (Decidable (_ ∧ _))

def checkedMul (left right : Int64) : Option Int64 :=
  if InRange (left.toInt * right.toInt) then some (left * right) else none

def checkedSub (left right : Int64) : Option Int64 :=
  if InRange (left.toInt - right.toInt) then some (left - right) else none

def checkedNeg (value : Int64) : Option Int64 :=
  if InRange (-value.toInt) then some (-value) else none

def checkedAbs (value : Int64) : Option Int64 :=
  if InRange (value.toInt.natAbs : Int) then some value.abs else none

section

variable {left right value : Int64}

theorem checkedMul_of_inRange (fits : InRange (left.toInt * right.toInt)) :
    checkedMul left right = some (left * right) :=
  if_pos fits

theorem checkedMul_of_not_inRange
    (wide : ¬ InRange (left.toInt * right.toInt)) :
    checkedMul left right = none :=
  if_neg wide

theorem checkedSub_of_inRange (fits : InRange (left.toInt - right.toInt)) :
    checkedSub left right = some (left - right) :=
  if_pos fits

theorem checkedSub_of_not_inRange
    (wide : ¬ InRange (left.toInt - right.toInt)) :
    checkedSub left right = none :=
  if_neg wide

theorem checkedNeg_of_inRange (fits : InRange (-value.toInt)) :
    checkedNeg value = some (-value) :=
  if_pos fits

theorem checkedNeg_of_not_inRange (wide : ¬ InRange (-value.toInt)) :
    checkedNeg value = none :=
  if_neg wide

theorem checkedAbs_of_inRange (fits : InRange (value.toInt.natAbs : Int)) :
    checkedAbs value = some value.abs :=
  if_pos fits

theorem checkedAbs_of_not_inRange
    (wide : ¬ InRange (value.toInt.natAbs : Int)) :
    checkedAbs value = none :=
  if_neg wide

end

theorem bmod_of_inRange {value : Int} (fits : InRange value) :
    value.bmod (2 ^ 64) = value := by
  obtain ⟨lower, upper⟩ := fits
  exact Int.bmod_eq_of_le (by omega) (by omega)

theorem toInt_mul {left right : Int64}
    (fits : InRange (left.toInt * right.toInt)) :
    (left * right).toInt = left.toInt * right.toInt := by
  rw [Int64.toInt_mul, bmod_of_inRange fits]

theorem toInt_mul_of_nonneg {left right : Int64} (first : 0 ≤ left)
    (second : 0 ≤ right)
    (fits : left.toInt.toNat * right.toInt.toNat < 2 ^ 63) :
    (left * right).toInt = (left.toInt.toNat * right.toInt.toNat : Nat) := by
  have first : 0 ≤ left.toInt := Int64.le_iff_toInt_le.mp first
  have second : 0 ≤ right.toInt := Int64.le_iff_toInt_le.mp second
  have exactProduct : ((left.toInt.toNat * right.toInt.toNat : Nat) : Int) =
      left.toInt * right.toInt := by
    rw [Int.natCast_mul, Int.toNat_of_nonneg first, Int.toNat_of_nonneg second]
  rw [exactProduct]
  apply toInt_mul
  rw [← exactProduct]
  unfold InRange
  omega

theorem toInt_sub {left right : Int64}
    (fits : InRange (left.toInt - right.toInt)) :
    (left - right).toInt = left.toInt - right.toInt := by
  rw [Int64.toInt_sub, bmod_of_inRange fits]

theorem toInt_neg {value : Int64} (fits : InRange (-value.toInt)) :
    (-value).toInt = -value.toInt := by
  rw [Int64.toInt_neg, bmod_of_inRange fits]

theorem toInt_abs {value : Int64}
    (fits : InRange (value.toInt.natAbs : Int)) :
    value.abs.toInt = value.toInt.natAbs := by
  have notMin : value.toBitVec ≠ BitVec.intMin 64 := by
    intro equal
    have least : value.toInt = -2 ^ 63 := by
      rw [← Int64.toInt_toBitVec, equal]
      decide
    rw [least] at fits
    exact absurd fits.2 (by decide)
  exact BitVec.toInt_abs_eq_natAbs_of_ne_intMin notMin

/-- Only the least value has neither a negation nor an absolute value. -/
theorem inRange_neg_iff (value : Int64) :
    InRange (-value.toInt) ↔ -2 ^ 63 < value.toInt := by
  have lower := value.le_toInt
  have upper := value.toInt_lt
  unfold InRange
  omega

theorem inRange_natAbs_iff (value : Int64) :
    InRange (value.toInt.natAbs : Int) ↔ -2 ^ 63 < value.toInt := by
  have lower := value.le_toInt
  have upper := value.toInt_lt
  unfold InRange
  omega

end Replex.Data.SignedWord
