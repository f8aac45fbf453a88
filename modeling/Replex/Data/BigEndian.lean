import Mathlib.Algebra.Order.Ring.Nat
import Mathlib.Tactic.Ring

namespace Replex.Data.BigEndian

/-! Natural numbers as bytes, the most significant one first. -/

def toBytes : Nat → Nat → List UInt8
  | 0, _ => []
  | width + 1, value =>
      UInt8.ofNat (value / 256 ^ width) :: toBytes width value

def ofBytes : List UInt8 → Nat
  | [] => 0
  | byte :: rest => byte.toNat * 256 ^ rest.length + ofBytes rest

@[simp] theorem length_toBytes (width value : Nat) :
    (toBytes width value).length = width := by
  induction width with
  | zero => rfl
  | succ width hypothesis => simp [toBytes, hypothesis]

theorem ofBytes_toBytes (width value : Nat) :
    ofBytes (toBytes width value) = value % 256 ^ width := by
  induction width with
  | zero => simp [toBytes, ofBytes, Nat.mod_one]
  | succ width hypothesis =>
      have high : (UInt8.ofNat (value / 256 ^ width)).toNat =
          value / 256 ^ width % 256 := by simp
      rw [toBytes, ofBytes, length_toBytes, hypothesis, high, Nat.pow_succ,
        Nat.mod_mul]
      ring

theorem ofBytes_lt (bytes : List UInt8) :
    ofBytes bytes < 256 ^ bytes.length := by
  induction bytes with
  | nil => simp [ofBytes]
  | cons byte rest hypothesis =>
      have high : byte.toNat + 1 ≤ 256 := byte.toNat_lt
      calc
        byte.toNat * 256 ^ rest.length + ofBytes rest
            < (byte.toNat + 1) * 256 ^ rest.length := by
          rw [Nat.add_mul, Nat.one_mul]
          exact Nat.add_lt_add_left hypothesis _
        _ ≤ 256 * 256 ^ rest.length := Nat.mul_le_mul_right _ high
        _ = 256 ^ (rest.length + 1) := by rw [Nat.pow_succ, Nat.mul_comm]

theorem toBytes_add_mul (width high low : Nat) :
    toBytes width (high * 256 ^ width + low) = toBytes width low := by
  induction width generalizing high with
  | zero => rfl
  | succ width hypothesis =>
      have split : high * 256 ^ (width + 1) + low =
          high * 256 * 256 ^ width + low := by
        rw [Nat.pow_succ]
        ring
      rw [split, toBytes, toBytes, hypothesis]
      congr 1
      apply UInt8.toNat_inj.mp
      rw [Nat.mul_comm (high * 256), Nat.add_comm,
        Nat.add_mul_div_left _ _ (Nat.pow_pos (by decide))]
      simp

theorem toBytes_ofBytes (bytes : List UInt8) :
    toBytes bytes.length (ofBytes bytes) = bytes := by
  induction bytes with
  | nil => rfl
  | cons byte rest hypothesis =>
      have head : (byte.toNat * 256 ^ rest.length + ofBytes rest) /
          256 ^ rest.length = byte.toNat := by
        rw [Nat.mul_comm, Nat.mul_add_div (Nat.pow_pos (by decide)),
          Nat.div_eq_of_lt (ofBytes_lt rest), Nat.add_zero]
      rw [List.length_cons, toBytes, ofBytes, head, toBytes_add_mul,
        hypothesis, UInt8.ofNat_toNat]

end Replex.Data.BigEndian
