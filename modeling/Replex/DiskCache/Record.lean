import Replex.Data.BigEndian
import Replex.Data.Text

namespace Replex

open Data

/-! The record format of the disk cache. -/

/-- Bytes in memory: no allocation reaches half of the address space. -/
structure Slice where
  bytes : List UInt8
  bounded : bytes.length < 2 ^ 63

structure CacheRecord where
  contentType : Option String
  body : List UInt8
  deriving DecidableEq

inductive IoErrorKind where
  | invalidInput
  deriving DecidableEq

structure IoError where
  kind : IoErrorKind
  message : String
  deriving DecidableEq

/-- An index or a range outside of a slice. -/
inductive Panic where
  | outOfRange
  deriving DecidableEq

def cacheMagic : List UInt8 :=
  Text.toUtf8 "RPC1"

def encodeRecord (contentType : Option String) (body : Slice) :
    Except IoError (List UInt8) :=
  let contentType := Text.toUtf8 (contentType.getD "")
  if 2 ^ 16 ≤ contentType.length then
    .error ⟨.invalidInput, "cache content type is too large to encode"⟩
  else if 2 ^ 64 ≤ body.bytes.length then
    .error ⟨.invalidInput, "cache body is too large to encode"⟩
  else
    .ok (cacheMagic ++ (BigEndian.toBytes 2 contentType.length ++
      (contentType ++ (BigEndian.toBytes 8 body.bytes.length ++ body.bytes))))

def byteAt (data : List UInt8) (index : Nat) : Except Panic UInt8 :=
  match data[index]? with
  | some byte => .ok byte
  | none => .error .outOfRange

def slice (data : List UInt8) (start stop : Nat) :
    Except Panic (List UInt8) :=
  if start ≤ stop ∧ stop ≤ data.length then
    .ok ((data.drop start).take (stop - start))
  else
    .error .outOfRange

/-- Addition of `usize`, which has 64 bits. -/
def checkedAdd (left right : Nat) : Option Nat :=
  if left + right < 2 ^ 64 then some (left + right) else none

def decodeContentType (data : List UInt8) (start stop : Nat) :
    Except Panic (Option (Option String)) :=
  if start = stop then
    .ok (some none)
  else do
    let bytes ← slice data start stop
    .ok ((Text.fromUtf8? bytes).map some)

/-- Where the body's length stands, after a content type of this length. -/
def bodyLenRange (ctLen : Nat) : Option (Nat × Nat) := do
  let bodyLenStart ← checkedAdd 6 ctLen
  let bodyLenEnd ← checkedAdd bodyLenStart 8
  some (bodyLenStart, bodyLenEnd)

def decodeBody (data : List UInt8) (bodyLenStart bodyStart bodyEnd : Nat) :
    Except Panic (Option CacheRecord) := do
  match ← decodeContentType data 6 bodyLenStart with
  | none => .ok none
  | some contentType =>
      let body ← slice data bodyStart bodyEnd
      .ok (some { contentType, body })

def decodeSized (data : List UInt8) (bodyLenStart bodyLenEnd : Nat) :
    Except Panic (Option CacheRecord) :=
  if data.length < bodyLenEnd then
    .ok none
  else do
    let bodyLen ← slice data bodyLenStart bodyLenEnd
    match checkedAdd bodyLenEnd (BigEndian.ofBytes bodyLen) with
    | none => .ok none
    | some bodyEnd =>
        if data.length < bodyEnd then
          .ok none
        else
          decodeBody data bodyLenStart bodyLenEnd bodyEnd

/-- What follows the magic. Every length in it is untrusted. -/
def decodeCurrent (data : List UInt8) : Except Panic (Option CacheRecord) :=
  if data.length < 6 then
    .ok none
  else do
    let high ← byteAt data 4
    let low ← byteAt data 5
    match bodyLenRange (BigEndian.ofBytes [high, low]) with
    | none => .ok none
    | some (bodyLenStart, bodyLenEnd) =>
        decodeSized data bodyLenStart bodyLenEnd

/-- Files without the magic are from before the record format. -/
def decodeRecord (data : List UInt8) : Except Panic (Option CacheRecord) :=
  if data.length < 4 then
    .ok (some { contentType := none, body := data })
  else do
    let magic ← slice data 0 4
    if magic ≠ cacheMagic then
      .ok (some { contentType := none, body := data })
    else
      decodeCurrent data

/-! Decoding along the layout that encoding writes. -/

def readContentType (bytes : List UInt8) : Option (Option String) :=
  if bytes = [] then some none else (Text.fromUtf8? bytes).map some

/-- An encoded record up to its content type's being text, and trailing
bytes. -/
structure Layout (data contentType body trailing : List UInt8) : Prop where
  bytes : data = cacheMagic ++ (BigEndian.toBytes 2 contentType.length ++
    (contentType ++ (BigEndian.toBytes 8 body.length ++ (body ++ trailing))))
  contentTypeFits : contentType.length < 2 ^ 16
  bodyFits : body.length < 2 ^ 63

theorem ok_bind {α β : Type} (value : α) (next : α → Except Panic β) :
    (Except.ok value >>= next) = next value :=
  rfl

theorem slice_append {data middle : List UInt8} (front rest : List UInt8)
    {start stop : Nat}
    (parts : data = front ++ (middle ++ rest)) (starts : start = front.length)
    (stops : stop = start + middle.length) :
    slice data start stop = .ok middle := by
  subst parts starts stops
  have inside : front.length ≤ front.length + middle.length ∧
      front.length + middle.length ≤ (front ++ (middle ++ rest)).length := by
    simp only [List.length_append]
    omega
  simp [slice, inside]

theorem checkedAdd_of_lt {left right : Nat} (small : left + right < 2 ^ 64) :
    checkedAdd left right = some (left + right) :=
  if_pos small

theorem decodeContentType_of_slice {data bytes : List UInt8}
    {start stop : Nat} (sliced : slice data start stop = .ok bytes)
    (stops : stop = start + bytes.length) :
    decodeContentType data start stop = .ok (readContentType bytes) := by
  unfold decodeContentType readContentType
  by_cases empty : bytes = []
  · subst empty
    simp [stops]
  · have positive : start ≠ stop := by
      have := List.length_pos_of_ne_nil empty
      omega
    rw [if_neg positive, if_neg empty, sliced]
    rfl

/-- The six bytes in front of the content type. -/
theorem header_of_layout {data contentType body trailing : List UInt8}
    (layout : Layout data contentType body trailing) :
    ∃ high low, byteAt data 4 = .ok high ∧ byteAt data 5 = .ok low ∧
      BigEndian.ofBytes [high, low] = contentType.length := by
  have small : contentType.length < 256 ^ 2 := layout.contentTypeFits
  have width : (BigEndian.toBytes 2 contentType.length).length = 2 := by simp
  have reads := BigEndian.ofBytes_toBytes 2 contentType.length
  rw [Nat.mod_eq_of_lt small] at reads
  have parts := layout.bytes
  match lengthBytes : BigEndian.toBytes 2 contentType.length, width with
  | [high, low], _ =>
      rw [lengthBytes] at reads parts
      have magic : cacheMagic = [82, 80, 67, 49] := by decide
      rw [magic] at parts
      subst parts
      exact ⟨high, low, rfl, rfl, reads⟩

theorem bodyLenRange_of_fits {ctLen : Nat} (fits : ctLen < 2 ^ 16) :
    bodyLenRange ctLen = some (6 + ctLen, 6 + ctLen + 8) := by
  have starts : checkedAdd 6 ctLen = some (6 + ctLen) :=
    checkedAdd_of_lt (by omega)
  have ends : checkedAdd (6 + ctLen) 8 = some (6 + ctLen + 8) :=
    checkedAdd_of_lt (by omega)
  simp [bodyLenRange, starts, ends]

theorem decodeBody_of_slices {data contentType body : List UInt8}
    {bodyLenStart bodyStart bodyEnd : Nat}
    (typeSlice : slice data 6 bodyLenStart = .ok contentType)
    (stops : bodyLenStart = 6 + contentType.length)
    (bodySlice : slice data bodyStart bodyEnd = .ok body) :
    decodeBody data bodyLenStart bodyStart bodyEnd =
      .ok ((readContentType contentType).map fun contentType =>
        { contentType, body }) := by
  unfold decodeBody
  rw [decodeContentType_of_slice typeSlice stops, bodySlice]
  cases readContentType contentType with
  | none => rfl
  | some contentType => rfl

theorem decodeCurrent_of_header {data : List UInt8} {high low : UInt8}
    {ctLen : Nat} (longEnough : ¬ data.length < 6)
    (four : byteAt data 4 = .ok high) (five : byteAt data 5 = .ok low)
    (reads : BigEndian.ofBytes [high, low] = ctLen) :
    decodeCurrent data = decodeSized data (6 + ctLen) (6 + ctLen + 8) := by
  have small := BigEndian.ofBytes_lt [high, low]
  have fits : ctLen < 2 ^ 16 := by
    rw [reads] at small
    simpa using small
  unfold decodeCurrent
  rw [if_neg longEnough, four, ok_bind, five, ok_bind, reads,
    bodyLenRange_of_fits fits]

theorem decodeCurrent_of_layout {data contentType body trailing : List UInt8}
    (layout : Layout data contentType body trailing) :
    decodeCurrent data =
      .ok ((readContentType contentType).map fun contentType =>
        { contentType, body }) := by
  obtain ⟨high, low, four, five, reads⟩ := header_of_layout layout
  obtain ⟨parts, contentTypeFits, bodyFits⟩ := layout
  have magic : cacheMagic.length = 4 := rfl
  have length : data.length =
      14 + contentType.length + body.length + trailing.length := by
    simp only [parts, List.length_append, BigEndian.length_toBytes, magic]
    omega
  have lengthSlice : slice data (6 + contentType.length)
      (6 + contentType.length + 8) =
        .ok (BigEndian.toBytes 8 body.length) := by
    apply slice_append (cacheMagic ++
      (BigEndian.toBytes 2 contentType.length ++ contentType))
      (body ++ trailing)
    · simp only [parts, List.append_assoc]
    · simp only [List.length_append, BigEndian.length_toBytes, magic]
      omega
    · simp
  have typeSlice : slice data 6 (6 + contentType.length) =
      .ok contentType := by
    apply slice_append (cacheMagic ++
      BigEndian.toBytes 2 contentType.length)
      (BigEndian.toBytes 8 body.length ++ (body ++ trailing))
    · simp only [parts, List.append_assoc]
    · simp [magic]
    · rfl
  have bodySlice : slice data (6 + contentType.length + 8)
      (6 + contentType.length + 8 + body.length) = .ok body := by
    apply slice_append (cacheMagic ++
      (BigEndian.toBytes 2 contentType.length ++ (contentType ++
        BigEndian.toBytes 8 body.length))) trailing
    · simp only [parts, List.append_assoc]
    · simp only [List.length_append, BigEndian.length_toBytes, magic]
      omega
    · rfl
  have bodyReads : BigEndian.ofBytes (BigEndian.toBytes 8 body.length) =
      body.length := by
    rw [BigEndian.ofBytes_toBytes]
    exact Nat.mod_eq_of_lt (by omega)
  have total : checkedAdd (6 + contentType.length + 8) body.length =
      some (6 + contentType.length + 8 + body.length) :=
    checkedAdd_of_lt (by omega)
  have longEnough : ¬ data.length < 6 := by omega
  have lengthInside : ¬ data.length < 6 + contentType.length + 8 := by omega
  have bodyInside :
      ¬ data.length < 6 + contentType.length + 8 + body.length := by omega
  rw [decodeCurrent_of_header longEnough four five reads]
  unfold decodeSized
  rw [if_neg lengthInside, lengthSlice, ok_bind, bodyReads, total]
  dsimp only
  rw [if_neg bodyInside]
  exact decodeBody_of_slices typeSlice rfl bodySlice

theorem decodeRecord_of_magic {data : List UInt8}
    (magic : cacheMagic <+: data) : decodeRecord data = decodeCurrent data := by
  obtain ⟨rest, rfl⟩ := magic
  have four : ¬ (cacheMagic ++ rest).length < 4 := by
    have : cacheMagic.length = 4 := rfl
    simp only [List.length_append]
    omega
  have magic : slice (cacheMagic ++ rest) 0 4 = .ok cacheMagic :=
    slice_append [] rest rfl rfl rfl
  unfold decodeRecord
  rw [if_neg four, magic]
  rfl

theorem decodeCurrent_of_short {data : List UInt8} (short : data.length < 6) :
    decodeCurrent data = .ok none := by
  rw [decodeCurrent, if_pos short]

/-- A body's length that reaches too far, or overflows. -/
theorem decodeSized_of_outside {data bodyLen : List UInt8}
    {bodyLenStart bodyLenEnd : Nat} (inside : ¬ data.length < bodyLenEnd)
    (sliced : slice data bodyLenStart bodyLenEnd = .ok bodyLen)
    (outside : data.length < bodyLenEnd + BigEndian.ofBytes bodyLen) :
    decodeSized data bodyLenStart bodyLenEnd = .ok none := by
  unfold decodeSized
  rw [if_neg inside, sliced, ok_bind]
  cases total : checkedAdd bodyLenEnd (BigEndian.ofBytes bodyLen) with
  | none => rfl
  | some bodyEnd =>
      have equal : bodyLenEnd + BigEndian.ofBytes bodyLen = bodyEnd := by
        unfold checkedAdd at total
        split at total
        · exact Option.some.inj total
        · cases total
      rw [equal] at outside
      dsimp only
      rw [if_pos outside]

/-- Bytes that carry the magic are laid out as a record, or one of their
lengths reaches beyond their end. -/
theorem layout_or_none {data : List UInt8} (magic : cacheMagic <+: data)
    (bounded : data.length < 2 ^ 63) :
    decodeCurrent data = .ok none ∨
      ∃ contentType body trailing, Layout data contentType body trailing := by
  obtain ⟨fields, parts⟩ := magic
  have start : cacheMagic = [82, 80, 67, 49] := by decide
  match fields with
  | [] =>
      left
      apply decodeCurrent_of_short
      simp [← parts, start]
  | [_] =>
      left
      apply decodeCurrent_of_short
      simp [← parts, start]
  | high :: low :: fields =>
      have length : data.length = 6 + fields.length := by
        simp only [← parts, start, List.length_append, List.length_cons,
          List.length_nil]
        omega
      have four : byteAt data 4 = .ok high := by
        rw [← parts, start]
        rfl
      have five : byteAt data 5 = .ok low := by
        rw [← parts, start]
        rfl
      have small := BigEndian.ofBytes_lt [high, low]
      have fits : BigEndian.ofBytes [high, low] < 2 ^ 16 := by
        simpa using small
      have lengthBytes : BigEndian.toBytes 2 (BigEndian.ofBytes [high, low]) =
          [high, low] := BigEndian.toBytes_ofBytes [high, low]
      rw [decodeCurrent_of_header (by omega) four five rfl]
      generalize BigEndian.ofBytes [high, low] = ctLen at fits lengthBytes
      by_cases typeOutside : fields.length < ctLen + 8
      · left
        have outside : data.length < 6 + ctLen + 8 := by omega
        rw [decodeSized, if_pos outside]
      · -- The fields split into a content type, a length and the rest.
        obtain ⟨contentType, typeRest, fieldParts, typeLength⟩ :
            ∃ contentType rest, fields = contentType ++ rest ∧
              contentType.length = ctLen :=
          ⟨fields.take ctLen, fields.drop ctLen,
            (List.take_append_drop ctLen fields).symm,
            List.length_take_of_le (by omega)⟩
        have typeRestLength : fields.length = ctLen + typeRest.length := by
          rw [fieldParts, List.length_append, typeLength]
        obtain ⟨bodyLen, rest, typeRestParts, eight⟩ :
            ∃ bodyLen rest, typeRest = bodyLen ++ rest ∧ bodyLen.length = 8 :=
          ⟨typeRest.take 8, typeRest.drop 8,
            (List.take_append_drop 8 typeRest).symm,
            List.length_take_of_le (by omega)⟩
        have restLength : typeRest.length = 8 + rest.length := by
          rw [typeRestParts, List.length_append, eight]
        by_cases bodyOutside : rest.length < BigEndian.ofBytes bodyLen
        · left
          have sliced : slice data (6 + ctLen) (6 + ctLen + 8) =
              .ok bodyLen := by
            apply slice_append (cacheMagic ++ (high :: low :: contentType))
              rest
            · simp [← parts, fieldParts, typeRestParts]
            · simp only [start, List.length_append, List.length_cons,
                List.length_nil, typeLength]
              omega
            · rw [eight]
          exact decodeSized_of_outside (by omega) sliced (by omega)
        · right
          obtain ⟨body, trailing, restParts, bodyLength⟩ :
              ∃ body trailing, rest = body ++ trailing ∧
                body.length = BigEndian.ofBytes bodyLen :=
            ⟨rest.take _, rest.drop _, (List.take_append_drop _ rest).symm,
              List.length_take_of_le (by omega)⟩
          have bodyLenBytes := BigEndian.toBytes_ofBytes bodyLen
          rw [eight, ← bodyLength] at bodyLenBytes
          refine ⟨contentType, body, trailing, ?_, ?_, ?_⟩
          · rw [typeLength, lengthBytes, bodyLenBytes, ← restParts,
              ← typeRestParts, ← parts, fieldParts]
            rfl
          · omega
          · omega

/-! The format as a whole. -/

theorem readContentType_toUtf8 (given : Option String) :
    readContentType (Text.toUtf8 (given.getD "")) =
      some (given.filter (· ≠ "")) := by
  cases given with
  | none => rfl
  | some text =>
      rw [Option.getD_some, Option.filter_some]
      by_cases empty : text = ""
      · subst empty
        rfl
      · have filled : Text.toUtf8 text ≠ [] := by
          rwa [Ne, Text.toUtf8_eq_nil_iff]
        rw [readContentType, if_neg filled,
          Text.fromUtf8?_eq_some_iff.mpr rfl, if_pos (by simpa using empty)]
        rfl

theorem readContentType_eq_some_iff {bytes : List UInt8}
    {contentType : Option String} :
    readContentType bytes = some contentType ↔
      ∃ given : Option String, bytes = Text.toUtf8 (given.getD "") ∧
        contentType = given.filter (· ≠ "") := by
  constructor
  · intro read
    unfold readContentType at read
    by_cases empty : bytes = []
    · rw [if_pos empty] at read
      cases read
      exact ⟨none, empty, rfl⟩
    · rw [if_neg empty] at read
      obtain ⟨text, decoded, rfl⟩ := Option.map_eq_some_iff.mp read
      have same := Text.fromUtf8?_eq_some_iff.mp decoded
      refine ⟨some text, same, ?_⟩
      have again := readContentType_toUtf8 (some text)
      rw [Option.getD_some, ← same, readContentType, if_neg empty, decoded]
        at again
      exact Option.some.inj again
  · intro ⟨given, same, filtered⟩
    rw [same, filtered]
    exact readContentType_toUtf8 given

theorem encodeRecord_eq_ok_iff {contentType : Option String} {body : Slice}
    {encoded : List UInt8} :
    encodeRecord contentType body = .ok encoded ↔
      Layout encoded (Text.toUtf8 (contentType.getD "")) body.bytes [] := by
  have bodyFits := body.bounded
  unfold encodeRecord
  by_cases large : 2 ^ 16 ≤ (Text.toUtf8 (contentType.getD "")).length
  · rw [if_pos large]
    constructor
    · intro failed
      cases failed
    · intro layout
      have := layout.contentTypeFits
      omega
  · have bodySmall : ¬ 2 ^ 64 ≤ body.bytes.length := by omega
    rw [if_neg large, if_neg bodySmall]
    constructor
    · intro written
      cases written
      exact ⟨by rw [List.append_nil], by omega, bodyFits⟩
    · intro layout
      rw [layout.bytes, List.append_nil]

theorem Layout.append {data contentType body : List UInt8}
    (layout : Layout data contentType body []) (trailing : List UInt8) :
    Layout (data ++ trailing) contentType body trailing := by
  refine ⟨?_, layout.contentTypeFits, layout.bodyFits⟩
  rw [layout.bytes]
  simp only [List.append_assoc, List.append_nil]

theorem Layout.magic {data contentType body trailing : List UInt8}
    (layout : Layout data contentType body trailing) : cacheMagic <+: data :=
  ⟨_, layout.bytes.symm⟩

/-- Reading an encoded record ignores what follows it. -/
theorem decodeRecord_encoded {contentType : Option String} {body : Slice}
    {encoded : List UInt8} (written : encodeRecord contentType body = .ok encoded)
    (trailing : List UInt8) :
    decodeRecord (encoded ++ trailing) =
      .ok (some { contentType := contentType.filter (· ≠ "")
                  body := body.bytes }) := by
  have layout := (encodeRecord_eq_ok_iff.mp written).append trailing
  rw [decodeRecord_of_magic layout.magic, decodeCurrent_of_layout layout,
    readContentType_toUtf8]
  rfl

/-- Under the magic, only an encoded record reads back. -/
theorem encoded_of_decodeRecord {data : Slice} {record : CacheRecord}
    (magic : cacheMagic <+: data.bytes)
    (read : decodeRecord data.bytes = .ok (some record)) :
    ∃ (contentType : Option String) (body : Slice)
      (encoded trailing : List UInt8),
      encodeRecord contentType body = .ok encoded ∧
        data.bytes = encoded ++ trailing ∧
        record = { contentType := contentType.filter (· ≠ "")
                   body := body.bytes } := by
  rw [decodeRecord_of_magic magic] at read
  rcases layout_or_none magic data.bounded with
    corrupt | ⟨bytes, body, trailing, layout⟩
  · rw [corrupt] at read
    cases read
  · rw [decodeCurrent_of_layout layout] at read
    obtain ⟨contentType, decoded, rfl⟩ :=
      Option.map_eq_some_iff.mp (Except.ok.inj read)
    obtain ⟨given, same, rfl⟩ := readContentType_eq_some_iff.mp decoded
    obtain ⟨parts, contentTypeFits, bodyFits⟩ := layout
    subst same
    refine ⟨given, ⟨body, bodyFits⟩, _, trailing,
      encodeRecord_eq_ok_iff.mpr ⟨rfl, contentTypeFits, bodyFits⟩, ?_, rfl⟩
    rw [parts]
    simp only [List.append_assoc, List.append_nil]

theorem decodeRecord_total (data : Slice) :
    ∃ result, decodeRecord data.bytes = .ok result := by
  by_cases magic : cacheMagic <+: data.bytes
  · rw [decodeRecord_of_magic magic]
    rcases layout_or_none magic data.bounded with
      corrupt | ⟨contentType, body, trailing, layout⟩
    · exact ⟨none, corrupt⟩
    · exact ⟨_, decodeCurrent_of_layout layout⟩
  · unfold decodeRecord
    by_cases short : data.bytes.length < 4
    · exact ⟨_, if_pos short⟩
    · have inside : 0 ≤ 4 ∧ 4 ≤ data.bytes.length := by omega
      have other : (data.bytes.drop 0).take (4 - 0) ≠ cacheMagic := by
        intro same
        apply magic
        rw [← same]
        exact List.take_prefix 4 data.bytes
      rw [if_neg short, slice, if_pos inside, ok_bind, if_pos other]
      exact ⟨_, rfl⟩

theorem encodeRecord_fails_iff (contentType : Option String) (body : Slice) :
    (∃ error, encodeRecord contentType body = .error error) ↔
      65535 < (Text.toUtf8 (contentType.getD "")).length := by
  have bodyFits := body.bounded
  have bodySmall : ¬ 2 ^ 64 ≤ body.bytes.length := by omega
  unfold encodeRecord
  by_cases large : 2 ^ 16 ≤ (Text.toUtf8 (contentType.getD "")).length
  · rw [if_pos large]
    exact ⟨fun _ => by omega, fun _ => ⟨_, rfl⟩⟩
  · rw [if_neg large, if_neg bodySmall]
    constructor
    · intro ⟨error, failed⟩
      cases failed
    · intro outside
      omega

/-- Every record round-trips, and under the magic nothing else is a
record. -/
theorem record_format_exact :
    (∀ (contentType : Option String) (body : Slice),
      (Text.toUtf8 (contentType.getD "")).length ≤ 65535 →
        ∃ encoded, encodeRecord contentType body = .ok encoded ∧
          decodeRecord encoded =
            .ok (some { contentType := contentType.filter (· ≠ "")
                        body := body.bytes })) ∧
    (∀ (contentType : Option String) (body : Slice),
      (∃ error, encodeRecord contentType body = .error error) ↔
        65535 < (Text.toUtf8 (contentType.getD "")).length) ∧
    (∀ data : Slice, cacheMagic <+: data.bytes → ∀ record,
      decodeRecord data.bytes = .ok (some record) ↔
        ∃ (contentType : Option String) (body : Slice)
          (encoded trailing : List UInt8),
          encodeRecord contentType body = .ok encoded ∧
            data.bytes = encoded ++ trailing ∧
            record = { contentType := contentType.filter (· ≠ "")
                       body := body.bytes }) ∧
    (∀ data : Slice, ∃ result, decodeRecord data.bytes = .ok result) := by
  refine ⟨?_, encodeRecord_fails_iff, ?_, decodeRecord_total⟩
  · intro contentType body fits
    cases written : encodeRecord contentType body with
    | error error =>
        have := (encodeRecord_fails_iff contentType body).mp ⟨error, written⟩
        omega
    | ok encoded =>
        have read := decodeRecord_encoded written []
        rw [List.append_nil] at read
        exact ⟨encoded, rfl, read⟩
  · intro data magic record
    constructor
    · exact encoded_of_decodeRecord magic
    · intro ⟨contentType, body, encoded, trailing, written, parts, same⟩
      rw [parts, same]
      exact decodeRecord_encoded written trailing

end Replex
