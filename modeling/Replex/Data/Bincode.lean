import Replex.Data.BigEndian
import Replex.Data.Text

namespace Replex.Data

/-- A serialisation, which is relied on for the values that fit. -/
structure Codec (α : Type) where
  encode : α → List UInt8
  decode : List UInt8 → Option α
  fits : α → Prop
  decode_encode : ∀ {value}, fits value → decode (encode value) = some value

/-! Binary formats that are read from the front of a byte string, and the
values that bincode writes by default: lengths take eight bytes, the least
significant one first, and what follows a value is left alone. -/

structure Format (α : Type) where
  encode : α → List UInt8
  read : List UInt8 → Option (α × List UInt8)
  /-- Values with no part too long for its length to be written. -/
  fits : α → Prop
  read_encode : ∀ {value}, fits value → ∀ rest,
    read (encode value ++ rest) = some (value, rest)

namespace Format

variable {α β : Type}

def decode (format : Format α) (data : List UInt8) : Option α :=
  (format.read data).map Prod.fst

theorem decode_encode (format : Format α) {value : α}
    (fits : format.fits value) :
    format.decode (format.encode value) = some value := by
  have reads := format.read_encode fits []
  rw [List.append_nil] at reads
  rw [decode, reads]
  rfl

def codec (format : Format α) : Codec α where
  encode := format.encode
  decode := format.decode
  fits := format.fits
  decode_encode := format.decode_encode

def readSize (data : List UInt8) : Option (Nat × List UInt8) :=
  if data.length < 8 then
    none
  else
    some (BigEndian.ofBytes (data.take 8).reverse, data.drop 8)

def size : Format Nat where
  encode value := (BigEndian.toBytes 8 value).reverse
  read := readSize
  fits value := value < 2 ^ 64
  read_encode {value} fits rest := by
    have width : (BigEndian.toBytes 8 value).reverse.length = 8 := by simp
    have enough : ¬ ((BigEndian.toBytes 8 value).reverse ++ rest).length < 8 := by
      rw [List.length_append, width]
      omega
    rw [readSize, if_neg enough, List.take_left' width, List.drop_left' width,
      List.reverse_reverse, BigEndian.ofBytes_toBytes,
      Nat.mod_eq_of_lt (by simpa using fits)]

def readBytes (data : List UInt8) : Option (List UInt8 × List UInt8) :=
  match readSize data with
  | none => none
  | some (size, rest) =>
      if rest.length < size then none
      else some (rest.take size, rest.drop size)

def bytes : Format (List UInt8) where
  encode value := size.encode value.length ++ value
  read := readBytes
  fits value := value.length < 2 ^ 64
  read_encode {value} fits rest := by
    have sized : readSize (size.encode value.length ++ (value ++ rest)) =
        some (value.length, value ++ rest) :=
      size.read_encode fits _
    have enough : ¬ (value ++ rest).length < value.length := by
      rw [List.length_append]
      omega
    rw [readBytes, List.append_assoc, sized]
    dsimp only
    rw [if_neg enough, List.take_left, List.drop_left]

def readText (data : List UInt8) : Option (String × List UInt8) :=
  match readBytes data with
  | none => none
  | some (raw, rest) => (Text.fromUtf8? raw).map fun text => (text, rest)

def text : Format String where
  encode value := bytes.encode (Text.toUtf8 value)
  read := readText
  fits value := (Text.toUtf8 value).length < 2 ^ 64
  read_encode {value} fits rest := by
    have raw : readBytes (bytes.encode (Text.toUtf8 value) ++ rest) =
        some (Text.toUtf8 value, rest) :=
      bytes.read_encode fits rest
    have whole : Text.fromUtf8? (Text.toUtf8 value) = some value :=
      Text.fromUtf8?_eq_some_iff.mpr rfl
    rw [readText, raw]
    dsimp only
    rw [whole]
    rfl

def readOption (read : List UInt8 → Option (α × List UInt8)) :
    List UInt8 → Option (Option α × List UInt8)
  | [] => none
  | tag :: data =>
      if tag = 0 then some (none, data)
      else if tag = 1 then (read data).map fun held => (some held.1, held.2)
      else none

def option (format : Format α) : Format (Option α) where
  encode
    | none => [0]
    | some value => 1 :: format.encode value
  read := readOption format.read
  fits value := ∀ held ∈ value, format.fits held
  read_encode {value} fits rest := by
    cases value with
    | none => rfl
    | some held =>
        rw [List.cons_append, readOption, format.read_encode (fits held rfl)]
        rfl

def pair (first : Format α) (second : Format β) : Format (α × β) where
  encode value := first.encode value.1 ++ second.encode value.2
  read data :=
    match first.read data with
    | none => none
    | some (left, rest) =>
        (second.read rest).map fun right => ((left, right.1), right.2)
  fits value := first.fits value.1 ∧ second.fits value.2
  read_encode {value} fits rest := by
    rw [List.append_assoc, first.read_encode fits.1]
    dsimp only
    rw [second.read_encode fits.2]
    rfl

/-- A record as the tuple of its fields. -/
def record (format : Format α) (build : α → β) (fields : β → α)
    (built : ∀ value, build (fields value) = value) : Format β where
  encode value := format.encode (fields value)
  read data := (format.read data).map fun held => (build held.1, held.2)
  fits value := format.fits (fields value)
  read_encode {value} fits rest := by
    rw [format.read_encode fits, Option.map_some, built]

/-- A value with nothing behind it is no pair that needs more bytes. -/
theorem decode_pair_of_first_only (first : Format α) {second : Format β}
    (needsBytes : second.read [] = none) {value : α}
    (fits : first.fits value) :
    (first.pair second).decode (first.encode value) = none := by
  have reads := first.read_encode fits []
  rw [List.append_nil] at reads
  simp only [decode, pair, reads, needsBytes]
  rfl

theorem decode_record (format : Format α) (build : α → β) (fields : β → α)
    (built : ∀ value, build (fields value) = value) (data : List UInt8) :
    (format.record build fields built).decode data =
      (format.decode data).map build := by
  simp only [decode, record, Option.map_map]
  rfl

end Format

end Replex.Data
