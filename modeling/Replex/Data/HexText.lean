import Mathlib.Tactic.IntervalCases

namespace Replex.Data

/-! Bytes as lowercase hexadecimal text. -/

namespace HexText

def isLower (char : Char) : Bool :=
  char.isDigit || ('a' ≤ char && char ≤ 'f')

/-- The high half first. -/
def digits (byte : UInt8) : List Char :=
  [(byte.toNat / 16).digitChar, (byte.toNat % 16).digitChar]

def lower (bytes : List UInt8) : String :=
  String.ofList (bytes.flatMap digits)

theorem isLower_digitChar {half : Nat} (small : half < 16) :
    isLower half.digitChar = true := by
  interval_cases half <;> decide

theorem length_flatMap_digits (bytes : List UInt8) :
    (bytes.flatMap digits).length = 2 * bytes.length := by
  induction bytes with
  | nil => rfl
  | cons byte bytes hypothesis =>
      rw [List.flatMap_cons, List.length_append, hypothesis,
        List.length_cons]
      change 2 + 2 * bytes.length = 2 * (bytes.length + 1)
      omega

theorem length_lower (bytes : List UInt8) :
    (lower bytes).toList.length = 2 * bytes.length := by
  rw [lower, String.toList_ofList, length_flatMap_digits]

theorem all_lower (bytes : List UInt8) :
    (lower bytes).toList.all isLower = true := by
  rw [lower, String.toList_ofList, List.all_eq_true]
  intro char listed
  obtain ⟨byte, -, among⟩ := List.mem_flatMap.mp listed
  have bound := byte.toNat_lt
  rcases List.mem_cons.mp among with rfl | among
  · exact isLower_digitChar (by omega)
  · cases List.mem_singleton.mp among
    exact isLower_digitChar (Nat.mod_lt _ (by decide))

theorem exists_half {char : Char} (hex : isLower char = true) :
    ∃ half < 16, half.digitChar = char := by
  simp only [isLower, Char.isDigit, Bool.or_eq_true, Bool.and_eq_true,
    decide_eq_true_eq, Char.le_def, ge_iff_le, UInt32.le_iff_toNat_le] at hex
  rcases hex with ⟨low, high⟩ | ⟨low, high⟩
  · refine ⟨char.toNat - 48, ?_, ?_⟩
    · change char.toNat ≤ 57 at high
      omega
    · change 48 ≤ char.toNat at low
      change char.toNat ≤ 57 at high
      rw [← Char.ofNat_toNat char]
      generalize char.toNat = code at low high
      interval_cases code <;> rfl
  · refine ⟨char.toNat - 87, ?_, ?_⟩
    · change char.toNat ≤ 102 at high
      omega
    · change 97 ≤ char.toNat at low
      change char.toNat ≤ 102 at high
      rw [← Char.ofNat_toNat char]
      generalize char.toNat = code at low high
      interval_cases code <;> rfl

theorem exists_byte {first second : Char} (high : isLower first = true)
    (low : isLower second = true) :
    ∃ byte : UInt8, digits byte = [first, second] := by
  obtain ⟨upper, small, rfl⟩ := exists_half high
  obtain ⟨below, little, rfl⟩ := exists_half low
  have value : (UInt8.ofNat (16 * upper + below)).toNat =
      16 * upper + below := by
    rw [UInt8.toNat_ofNat']
    omega
  refine ⟨UInt8.ofNat (16 * upper + below), ?_⟩
  unfold digits
  rw [value, show (16 * upper + below) / 16 = upper by omega,
    show (16 * upper + below) % 16 = below by omega]

/-- An even number of lowercase digits is the text of some bytes. -/
theorem exists_bytes {chars : List Char} {count : Nat}
    (length : chars.length = 2 * count)
    (hex : ∀ char ∈ chars, isLower char = true) :
    ∃ bytes : List UInt8, bytes.length = count ∧
      bytes.flatMap digits = chars := by
  induction count generalizing chars with
  | zero => exact ⟨[], rfl, (List.eq_nil_of_length_eq_zero length).symm⟩
  | succ count hypothesis =>
      match chars, length with
      | first :: second :: chars, length =>
          have shorter : chars.length = 2 * count := by
            simp only [List.length_cons] at length
            omega
          obtain ⟨byte, written⟩ := exists_byte
            (hex first List.mem_cons_self)
            (hex second (List.mem_cons_of_mem _ List.mem_cons_self))
          obtain ⟨bytes, counted, rest⟩ := hypothesis shorter
            fun char listed => hex char
              (List.mem_cons_of_mem _ (List.mem_cons_of_mem _ listed))
          refine ⟨byte :: bytes, congrArg Nat.succ counted, ?_⟩
          rw [List.flatMap_cons, written, rest]
          rfl

theorem exists_lower {text : String} {count : Nat}
    (length : text.toList.length = 2 * count)
    (hex : text.toList.all isLower = true) :
    ∃ bytes : List UInt8, bytes.length = count ∧ lower bytes = text := by
  obtain ⟨bytes, counted, written⟩ := exists_bytes length
    (List.all_eq_true.mp hex)
  refine ⟨bytes, counted, ?_⟩
  rw [lower, written, String.ofList_toList]

end HexText

end Replex.Data
