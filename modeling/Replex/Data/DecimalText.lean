import Mathlib.Algebra.Order.Ring.Int
import Mathlib.Data.Option.Basic

namespace Replex.Data.DecimalText

/-! Reading and writing machine integers as decimal text. A sign is optional
and an empty digit string, a stray character or an overflow is refused. -/

def digits? (text : List Char) : Option Nat :=
  if text ≠ [] ∧ text.all Char.isDigit then
    some (Nat.ofDigitChars 10 text 0)
  else
    none

def magnitude? : List Char → Option Int
  | '-' :: digits => (digits? digits).map fun (value : Nat) => -(value : Int)
  | '+' :: digits => (digits? digits).map fun (value : Nat) => (value : Int)
  | digits => (digits? digits).map fun (value : Nat) => (value : Int)

/-- An unsigned reading: a leading `+` is allowed, a leading `-` is not. -/
def unsigned? (bound : Nat) (text : String) : Option Nat :=
  let value := match text.toList with
    | '+' :: digits => digits? digits
    | digits => digits? digits
  value.filter fun value => decide (value < bound)

def signed? (low high : Int) (text : String) : Option Int :=
  (magnitude? text.toList).filter fun value =>
    decide (low ≤ value ∧ value < high)

@[simp] theorem digits?_toDigits (value : Nat) :
    digits? (Nat.toDigits 10 value) = some value := by
  have allDigits : (Nat.toDigits 10 value).all Char.isDigit = true := by
    rw [List.all_eq_true]
    intro char member
    exact Nat.isDigit_of_mem_toDigits (by decide) (by decide) member
  simp [digits?, allDigits, Nat.toDigits_ne_nil]

/-- A decimal representation never starts with a sign. -/
theorem toDigits_eq_cons (value : Nat) :
    ∃ head tail, Nat.toDigits 10 value = head :: tail ∧
      head ≠ '+' ∧ head ≠ '-' := by
  cases equation : Nat.toDigits 10 value with
  | nil => exact absurd equation Nat.toDigits_ne_nil
  | cons head tail =>
      have digit : head.isDigit = true :=
        Nat.isDigit_of_mem_toDigits (b := 10) (n := value)
          (by decide) (by decide) (by simp [equation])
      refine ⟨head, tail, rfl, ?_, ?_⟩
      · rintro rfl
        exact absurd digit (by decide)
      · rintro rfl
        exact absurd digit (by decide)

@[simp] theorem magnitude?_toDigits (value : Nat) :
    magnitude? (Nat.toDigits 10 value) = some (value : Int) := by
  obtain ⟨head, tail, equation, notPlus, notMinus⟩ := toDigits_eq_cons value
  have read := digits?_toDigits value
  rw [equation] at read ⊢
  unfold magnitude?
  split
  · rename_i same
    exact absurd (List.cons.inj same).1 notMinus
  · rename_i same
    exact absurd (List.cons.inj same).1 notPlus
  · simp [read]

theorem unsigned?_toString {value bound : Nat} (inRange : value < bound) :
    unsigned? bound (toString value) = some value := by
  obtain ⟨head, tail, equation, notPlus, _⟩ := toDigits_eq_cons value
  have read := digits?_toDigits value
  have text : (toString value).toList = Nat.toDigits 10 value := by
    rw [Nat.toString_eq_ofList_toDigits, String.toList_ofList]
  unfold unsigned?
  rw [text]
  rw [equation] at read ⊢
  split
  · rename_i same
    exact absurd (List.cons.inj same).1 notPlus
  · simp [read, Option.filter, inRange]

theorem isDigit_of_mem_toString {value : Nat} {char : Char}
    (listed : char ∈ (toString value).toList) : char.isDigit = true := by
  rw [Nat.toString_eq_ofList_toDigits, String.toList_ofList] at listed
  exact Nat.isDigit_of_mem_toDigits (by decide) (by decide) listed

theorem unsigned?_toString_of_le {value bound : Nat} (large : bound ≤ value) :
    unsigned? bound (toString value) = none := by
  have read := unsigned?_toString (Nat.lt_succ_self value)
  unfold unsigned? at read ⊢
  obtain ⟨found, -⟩ := Option.filter_eq_some_iff.mp read
  rw [found]
  simp [Option.filter, large]

theorem toList_toString (value : Int) :
    (toString value).toList =
      if value < 0 then '-' :: Nat.toDigits 10 value.natAbs
      else Nat.toDigits 10 value.natAbs := by
  cases value with
  | ofNat value =>
      change (Nat.repr value).toList = _
      simp [Nat.toList_repr]
  | negSucc value =>
      change ("-" ++ (Nat.repr value.succ)).toList = _
      simp [Nat.toList_repr]

theorem magnitude?_toString (value : Int) :
    magnitude? (toString value).toList = some value := by
  rw [toList_toString]
  split
  · rename_i negative
    have absolute : -(value.natAbs : Int) = value := by omega
    simp only [magnitude?, digits?_toDigits, Option.map_some, absolute]
  · rename_i nonnegative
    rw [magnitude?_toDigits]
    have absolute : (value.natAbs : Int) = value := by omega
    rw [absolute]

theorem not_mem_toString (value : Int) {char : Char}
    (notDigit : char.isDigit = false) (notMinus : char ≠ '-') :
    char ∉ (toString value).toList := by
  have absent : char ∉ Nat.toDigits 10 value.natAbs := by
    intro member
    have digit := Nat.isDigit_of_mem_toDigits (by decide) (by decide) member
    exact absurd digit (by simp [notDigit])
  rw [toList_toString]
  split <;> simp [absent, notMinus]

/-- Printing and reading back is the identity exactly on the range. -/
theorem signed?_toString (low high value : Int) :
    signed? low high (toString value) =
      if low ≤ value ∧ value < high then some value else none := by
  unfold signed?
  rw [magnitude?_toString]
  by_cases inRange : low ≤ value ∧ value < high
  · simp [Option.filter, inRange]
  · rw [if_neg inRange]
    simpa [Option.filter] using inRange

/-! The instances the callers use. -/

def int64? (text : String) : Option Int64 :=
  (signed? (-2 ^ 63) (2 ^ 63) text).map Int64.ofInt

def int32? (text : String) : Option Int32 :=
  (signed? (-2 ^ 31) (2 ^ 31) text).map Int32.ofInt

def usize? (text : String) : Option Nat :=
  unsigned? (2 ^ 64) text

def uint32? (text : String) : Option Nat :=
  unsigned? (2 ^ 32) text

theorem int64?_toString (value : Int) :
    int64? (toString value) =
      if -2 ^ 63 ≤ value ∧ value < 2 ^ 63 then some (Int64.ofInt value)
      else none := by
  unfold int64?
  rw [signed?_toString]
  split <;> rfl

@[simp] theorem int64?_toString_toInt (value : Int64) :
    int64? (toString value.toInt) = some value := by
  rw [int64?_toString, if_pos ⟨value.le_toInt, value.toInt_lt⟩]
  simp

theorem usize?_toString {value : Nat} (inRange : value < 2 ^ 64) :
    usize? (toString value) = some value :=
  unsigned?_toString inRange

theorem uint32?_toString_of_le {value : Nat} (large : 2 ^ 32 ≤ value) :
    uint32? (toString value) = none :=
  unsigned?_toString_of_le large

theorem uint32?_toString {value : Nat} (inRange : value < 2 ^ 32) :
    uint32? (toString value) = some value :=
  unsigned?_toString inRange

end Replex.Data.DecimalText
