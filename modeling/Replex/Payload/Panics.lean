import Replex.Data.Decoders
import Replex.Data.Text
import Replex.Payload

namespace Replex.Payload

open Data Data.Records

/-! Reading a body as it comes. -/

/-- `SpecialBool` unwraps, and the optional number takes a failure for a
missing number. -/
def onFailure : LeafKind → OnFailure
  | .specialBool => .panic
  | .optionNumberFromString => .absent
  | _ => .error

def decoders (conversions : Conversions) :
    Decoders (format conversions) where
  onFailure := onFailure
  forgiving := by
    intro leaf forgiven json
    cases leaf with
    | optionNumberFromString => rfl
    | _ => cases forgiven

/-- `parse` is what the JSON reader makes of the bytes. -/
def fromBytes (conversions : Conversions) (parse : List UInt8 → Draft)
    (bytes : List UInt8) : Outcome (Value RecordName Scalar) :=
  (decoders conversions).read (.record .mediaContainerWrapper) (parse bytes)

/-- Numbers that may be missing. -/
def isOptionalNumber : LeafKind → Bool
  | .optionNumberFromString => true
  | _ => false

/-- Everything in a body that cannot be read: values that are no booleans, no
numbers, no texts where such are asked for, and what is not laid out as the
models have it. An optional number is missing otherwise. -/
def bodyFaults (conversions : Conversions) (body : Draft) :
    List (Fault LeafKind) :=
  (format conversions).faults isOptionalNumber
    (.record .mediaContainerWrapper) body

/-- Bodies that are documents are read as documents. -/
theorem toOption_fromBytes {conversions : Conversions}
    {parse : List UInt8 → Draft} {bytes : List UInt8} {json : Json}
    (parsed : parse bytes = .ofJson json) :
    (fromBytes conversions parse bytes).toOption =
      (format conversions).readValue (.record .mediaContainerWrapper) json := by
  rw [fromBytes, parsed]
  exact Decoders.agrees json _

theorem isOptionalNumber_iff (conversions : Conversions) (leaf : LeafKind) :
    isOptionalNumber leaf = true ↔
      (decoders conversions).onFailure leaf = .absent := by
  cases leaf <;> simp [isOptionalNumber, decoders, onFailure]

/-- Only a special boolean is unwrapped. -/
theorem panics_iff (conversions : Conversions) (fault : Fault LeafKind) :
    (decoders conversions).panics fault = true ↔
      fault = .unreadable .specialBool := by
  cases fault with
  | malformed => exact iff_of_false (by simp [Decoders.panics]) (by simp)
  | unreadable leaf =>
      cases leaf <;> simp [Decoders.panics, decoders, onFailure]

theorem fromBytes_eq_panicked_iff (conversions : Conversions)
    (parse : List UInt8 → Draft) (bytes : List UInt8) :
    fromBytes conversions parse bytes = .panicked ↔
      (bodyFaults conversions (parse bytes)).head? =
        some (.unreadable .specialBool) := by
  have follows := Decoders.read_follows (isOptionalNumber_iff conversions)
    (.record .mediaContainerWrapper) (parse bytes)
  rw [fromBytes, follows.panicked_iff]
  simp only [panics_iff]
  exact exists_eq_right

/-- A body is read without a panic if and only if the first thing in it that
cannot be read, if anything, is not the value of a special boolean. -/
theorem from_bytes_never_panics_iff (conversions : Conversions)
    (parse : List UInt8 → Draft) (bytes : List UInt8) :
    fromBytes conversions parse bytes ≠ .panicked ↔
      (bodyFaults conversions (parse bytes)).head? ≠
        some (.unreadable .specialBool) :=
  not_congr (fromBytes_eq_panicked_iff conversions parse bytes)

/-- `{"MediaContainer":{"allowSync":"maybe"}}`. -/
def maybeBody : Draft :=
  .obj [("MediaContainer", .obj [("allowSync", .str "maybe")] true)] true

theorem maybe_panics :
    ¬ ∀ (conversions : Conversions) (parse : List UInt8 → Draft)
      (bytes : List UInt8), fromBytes conversions parse bytes ≠ .panicked := by
  intro never
  let text := Text.toUtf8
    "\x7b\"MediaContainer\":\x7b\"allowSync\":\"maybe\"\x7d\x7d"
  let parse (bytes : List UInt8) : Draft :=
    if bytes = text then maybeBody else .broken false
  apply never plainConversions parse text
  have parsed : parse text = maybeBody := if_pos rfl
  rw [fromBytes_eq_panicked_iff, parsed]
  decide +kernel

end Replex.Payload
