import Replex.Data.Text

namespace Replex.Data

/-! Queries as `application/x-www-form-urlencoded` texts. -/

namespace FormUrlEncoded

def hexDigit (value : Nat) : Char :=
  Char.ofNat (if value < 10 then 48 + value else 55 + value)

def hexValue? (char : Char) : Option Nat :=
  let code := char.toNat
  if 48 ≤ code ∧ code ≤ 57 then
    some (code - 48)
  else if 65 ≤ code ∧ code ≤ 70 then
    some (code - 55)
  else if 97 ≤ code ∧ code ≤ 102 then
    some (code - 87)
  else
    none

/-- Letters, digits and `*-._` stand for themselves. -/
def isPlain (byte : UInt8) : Bool :=
  let code := byte.toNat
  decide (48 ≤ code ∧ code ≤ 57) || decide (65 ≤ code ∧ code ≤ 90) ||
    decide (97 ≤ code ∧ code ≤ 122) || [42, 45, 46, 95].contains code

def encodeByte (byte : UInt8) : List Char :=
  if byte = 32 then
    ['+']
  else if isPlain byte then
    [Char.ofNat byte.toNat]
  else
    ['%', hexDigit (byte.toNat / 16), hexDigit (byte.toNat % 16)]

def plainByte (char : Char) : UInt8 :=
  if char = '+' then 32 else UInt8.ofNat char.toNat

def escapedByte? (char high low : Char) : Option UInt8 :=
  if char = '%' then
    match hexValue? high, hexValue? low with
    | some upper, some lower => some (UInt8.ofNat (16 * upper + lower))
    | _, _ => none
  else
    none

/-- A percent sign that no two hexadecimal digits follow is literal. The text
is ASCII, as a written URL is. -/
def decodeBytes : List Char → List UInt8
  | [] => []
  | [char] => [plainByte char]
  | [char, next] => [plainByte char, plainByte next]
  | char :: high :: low :: rest =>
      match escapedByte? char high low with
      | some byte => byte :: decodeBytes rest
      | none => plainByte char :: decodeBytes (high :: low :: rest)

def encodeText (text : String) : List Char :=
  (Text.toUtf8 text).flatMap encodeByte

/-- Bytes that are not UTF-8 are dropped as a whole. -/
def decodeText (chars : List Char) : String :=
  (Text.fromUtf8? (decodeBytes chars)).getD ""

def encodePair (pair : String × String) : List Char :=
  encodeText pair.1 ++ '=' :: encodeText pair.2

def decodePair (chars : List Char) : String × String :=
  (decodeText (chars.takeWhile (· ≠ '=')),
    decodeText ((chars.dropWhile (· ≠ '=')).drop 1))

def serialize (pairs : List (String × String)) : String :=
  String.ofList (['&'].intercalate (pairs.map encodePair))

def parse (query : List Char) : List (String × String) :=
  ((query.splitOn '&').filter (· ≠ [])).map decodePair

theorem decodeBytes_cons {char : Char} (plain : char ≠ '%')
    (rest : List Char) :
    decodeBytes (char :: rest) = plainByte char :: decodeBytes rest := by
  match rest with
  | [] => rfl
  | [next] => rfl
  | high :: low :: rest =>
      have literal : escapedByte? char high low = none := if_neg plain
      rw [decodeBytes, literal]

theorem hexValue?_hexDigit : ∀ value < 16,
    hexValue? (hexDigit value) = some value := by
  decide

theorem decodeBytes_escaped (byte : UInt8) (rest : List Char) :
    decodeBytes ('%' :: hexDigit (byte.toNat / 16) ::
      hexDigit (byte.toNat % 16) :: rest) = byte :: decodeBytes rest := by
  have bound : byte.toNat < 256 := byte.toNat_lt
  have joined : 16 * (byte.toNat / 16) + byte.toNat % 16 = byte.toNat :=
    Nat.div_add_mod _ _
  have escaped : escapedByte? '%' (hexDigit (byte.toNat / 16))
      (hexDigit (byte.toNat % 16)) = some byte := by
    rw [escapedByte?, if_pos rfl, hexValue?_hexDigit _ (by omega),
      hexValue?_hexDigit _ (by omega)]
    simp only [joined, UInt8.ofNat_toNat]
  rw [decodeBytes, escaped]

/-- What a plain byte is written as is read back, and separates nothing. -/
theorem plain_char : ∀ code < 256, isPlain (UInt8.ofNat code) = true →
    Char.ofNat code ≠ '%' ∧ plainByte (Char.ofNat code) = UInt8.ofNat code ∧
      Char.ofNat code ≠ '&' ∧ Char.ofNat code ≠ '=' := by
  decide +kernel

theorem hexDigit_ne : ∀ value < 16,
    hexDigit value ≠ '&' ∧ hexDigit value ≠ '=' := by
  decide

theorem decodeBytes_encodeByte (byte : UInt8) (rest : List Char) :
    decodeBytes (encodeByte byte ++ rest) = byte :: decodeBytes rest := by
  unfold encodeByte
  split
  next space =>
    subst space
    exact decodeBytes_cons (by decide) rest
  next =>
    split
    next plain =>
      have known := plain_char byte.toNat byte.toNat_lt
        (by rwa [UInt8.ofNat_toNat])
      rw [List.singleton_append, decodeBytes_cons known.1, known.2.1,
        UInt8.ofNat_toNat]
    next => exact decodeBytes_escaped byte rest

theorem decodeBytes_encodeBytes (bytes : List UInt8) :
    decodeBytes (bytes.flatMap encodeByte) = bytes := by
  induction bytes with
  | nil => rfl
  | cons byte bytes hypothesis =>
      rw [List.flatMap_cons, decodeBytes_encodeByte, hypothesis]

theorem separators_not_mem_encodeByte (byte : UInt8) :
    '&' ∉ encodeByte byte ∧ '=' ∉ encodeByte byte := by
  have bound : byte.toNat < 256 := byte.toNat_lt
  unfold encodeByte
  split
  · decide
  · split
    next plain =>
      have known := plain_char byte.toNat byte.toNat_lt
        (by rwa [UInt8.ofNat_toNat])
      simp [known.2.2.1.symm, known.2.2.2.symm]
    next =>
      have high := hexDigit_ne (byte.toNat / 16) (by omega)
      have low := hexDigit_ne (byte.toNat % 16) (by omega)
      simp [high.1.symm, high.2.symm, low.1.symm, low.2.symm]

theorem separators_not_mem_encodeText (text : String) :
    '&' ∉ encodeText text ∧ '=' ∉ encodeText text := by
  unfold encodeText
  constructor
  · intro listed
    obtain ⟨byte, -, held⟩ := List.mem_flatMap.mp listed
    exact (separators_not_mem_encodeByte byte).1 held
  · intro listed
    obtain ⟨byte, -, held⟩ := List.mem_flatMap.mp listed
    exact (separators_not_mem_encodeByte byte).2 held

theorem decodeText_encodeText (text : String) :
    decodeText (encodeText text) = text := by
  rw [decodeText, encodeText, decodeBytes_encodeBytes,
    Text.fromUtf8?_eq_some_iff.mpr rfl, Option.getD_some]

theorem decodePair_encodePair (pair : String × String) :
    decodePair (encodePair pair) = pair := by
  have name : ∀ char ∈ encodeText pair.1, decide (char ≠ '=') = true := by
    intro char listed
    have other : char ≠ '=' := by
      rintro rfl
      exact (separators_not_mem_encodeText pair.1).2 listed
    exact decide_eq_true other
  unfold decodePair encodePair
  rw [List.takeWhile_append_of_pos name, List.dropWhile_append_of_pos name]
  simp [decodeText_encodeText]

theorem parse_serialize (pairs : List (String × String)) :
    parse (serialize pairs).toList = pairs := by
  unfold parse serialize
  rw [String.toList_ofList]
  cases none : pairs with
  | nil => rfl
  | cons first others =>
      rw [← none]
      have pieces : ∀ chars ∈ pairs.map encodePair, '&' ∉ chars := by
        intro chars listed
        obtain ⟨pair, -, rfl⟩ := List.mem_map.mp listed
        simp [encodePair, (separators_not_mem_encodeText pair.1).1,
          (separators_not_mem_encodeText pair.2).1]
      have nonempty : (pairs.map encodePair).filter (· ≠ []) =
          pairs.map encodePair := by
        apply List.filter_eq_self.mpr
        intro chars listed
        obtain ⟨pair, -, rfl⟩ := List.mem_map.mp listed
        simp [encodePair]
      rw [List.splitOn_intercalate '&' pieces (by simp [none]), nonempty,
        List.map_map]
      simp [Function.comp_def, decodePair_encodePair]

theorem serialize_nil : serialize [] = "" :=
  rfl

end FormUrlEncoded

end Replex.Data
