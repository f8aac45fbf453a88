import Replex.AccountScope
import Replex.Config
import Replex.Data.HexText
import Replex.Data.Json
import Replex.Data.MultiMap
import Replex.Data.Store

namespace Replex

open Data

/-! The token identity map, read from the configuration. -/

/-- Of the digest function only the length of its results matters. -/
def TokenDigest.ofSha256 (sha256 : List UInt8 → Vector UInt8 32) :
    TokenDigest where
  tokenFingerprint token :=
    HexText.lower (sha256 (Text.toUtf8 token)).toList
  length_fingerprint token := by
    rw [HexText.length_lower, Vector.length_toList]
  hex_fingerprint _ := HexText.all_lower _

/-- Nothing in the form of the text keeps a token from having it as its
fingerprint. -/
def Producible (fingerprint : String) : Prop :=
  ∃ (sha256 : List UInt8 → Vector UInt8 32) (token : String),
    (TokenDigest.ofSha256 sha256).tokenFingerprint token = fingerprint

/-! Reading. -/

/-- A member that may be absent but must not come twice. -/
def memberOnce? (members : List (String × Json)) (key : String) :
    Option (Option Json) :=
  match members.filter (·.1 == key) with
  | [] => some none
  | [member] => some (some member.2)
  | _ => none

def readTokenIdentityBinding : Json → Option TokenIdentityBinding
  | .str username => some (.username username)
  | .obj members => do
      let username ← memberOnce? members "username"
      let clientIdentifier ← memberOnce? members "client_identifier"
      match username, clientIdentifier with
      | some (.str username), none => some (.detailed username none)
      | some (.str username), some .null => some (.detailed username none)
      | some (.str username), some (.str clientIdentifier) =>
          some (.detailed username (some clientIdentifier))
      | _, _ => none
  | _ => none

/-- A hash map holds the last value of each key. -/
def readHashMap {β : Type} (read : Json → Option β) :
    Json → Option (MultiMap String β)
  | .obj members =>
      members.foldlM (fun map member => do
        let value ← read member.2
        return map.set member.1 value) ⟨[]⟩
  | _ => none

/-- The setting may hold the object itself, or its text. -/
def deserializeJsonMap {β : Type} (read : Json → Option β)
    (fromStr : String → Option Json) : Json → Option (MultiMap String β)
  | .str text =>
      if Text.trim text = "" then some ⟨[]⟩
      else (fromStr text).bind (readHashMap read)
  | value => readHashMap read value

inductive TokenMapError where
  | json
  | custom (message : String)

def normalizedFingerprint (fingerprint : String) : String :=
  Text.toAsciiLowercase (Text.trim fingerprint)

def checkTokenBinding (entry : String × TokenIdentityBinding) :
    Except TokenMapError (String × TokenIdentityBinding) :=
  let fingerprint := normalizedFingerprint entry.1
  if Text.len fingerprint ≠ 64 ∨
      fingerprint.toList.all Text.isAsciiHexdigit = false then
    .error (.custom ("invalid token identity fingerprint '" ++ fingerprint ++
      "': expected 64 hexadecimal SHA256 characters"))
  else if Text.trim entry.2.boundUsername = "" then
    .error (.custom ("token identity binding for '" ++ fingerprint ++
      "' has an empty username"))
  else if entry.2.clientIdentifier.any (Text.trim · == "") then
    .error (.custom ("token identity binding for '" ++ fingerprint ++
      "' has an empty client_identifier"))
  else .ok (fingerprint, entry.2)

def insertTokenBinding (validated : Store String TokenIdentityBinding)
    (entry : String × TokenIdentityBinding) :
    Except TokenMapError (Store String TokenIdentityBinding) := do
  let checked ← checkTokenBinding entry
  return validated.insert checked.1 checked.2

/-- How a hash map happens to go through its entries: another way in each
process. -/
structure HashOrder where
  iterate : List (String × TokenIdentityBinding) →
    List (String × TokenIdentityBinding)
  perm : ∀ entries, (iterate entries).Perm entries

def deserializeTokenIdentityMap (fromStr : String → Option Json)
    (order : HashOrder) (value : Json) :
    Except TokenMapError (Store String TokenIdentityBinding) :=
  match deserializeJsonMap readTokenIdentityBinding fromStr value with
  | none => .error .json
  | some bindings =>
      (order.iterate bindings.pairs).foldlM insertTokenBinding Store.empty

/-! What is accepted. -/

structure ValidBinding (entry : String × TokenIdentityBinding) : Prop where
  length : Text.len (normalizedFingerprint entry.1) = 64
  hex : (normalizedFingerprint entry.1).toList.all Text.isAsciiHexdigit = true
  username : Text.trim entry.2.boundUsername ≠ ""
  clientIdentifier :
    ∀ client ∈ entry.2.clientIdentifier, Text.trim client ≠ ""

def normalizedEntry (entry : String × TokenIdentityBinding) :
    String × TokenIdentityBinding :=
  (normalizedFingerprint entry.1, entry.2)

theorem checkTokenBinding_eq_ok_iff
    {entry checked : String × TokenIdentityBinding} :
    checkTokenBinding entry = .ok checked ↔
      ValidBinding entry ∧ normalizedEntry entry = checked := by
  constructor
  · intro accepted
    unfold checkTokenBinding at accepted
    dsimp only at accepted
    split at accepted
    · simp at accepted
    next wellFormed =>
      obtain ⟨length, hex⟩ := not_or.mp wellFormed
      split at accepted
      · simp at accepted
      next named =>
        split at accepted
        · simp at accepted
        next filled =>
          refine ⟨⟨not_not.mp length, Bool.of_not_eq_false hex, named, ?_⟩,
            Except.ok.inj accepted⟩
          intro client bound empty
          apply filled
          exact (Option.any_eq_true _ _).mpr
            ⟨client, bound, beq_iff_eq.mpr empty⟩
  · rintro ⟨⟨length, hex, named, filled⟩, rfl⟩
    have wellFormed : ¬ (Text.len (normalizedFingerprint entry.1) ≠ 64 ∨
        (normalizedFingerprint entry.1).toList.all Text.isAsciiHexdigit =
          false) := by
      rw [hex]
      simpa using length
    have present : ¬ (entry.2.clientIdentifier.any (Text.trim · == "")) =
        true := by
      intro blank
      obtain ⟨client, bound, empty⟩ := (Option.any_eq_true _ _).mp blank
      exact filled client bound (beq_iff_eq.mp empty)
    unfold checkTokenBinding
    rw [if_neg wellFormed, if_neg named, if_neg present]
    rfl

theorem insertTokenBinding_of_valid {entry : String × TokenIdentityBinding}
    (valid : ValidBinding entry) (store : Store String TokenIdentityBinding) :
    insertTokenBinding store entry =
      .ok (store.insert (normalizedEntry entry).1
        (normalizedEntry entry).2) := by
  have checked := checkTokenBinding_eq_ok_iff.mpr
    ⟨valid, Eq.refl (normalizedEntry entry)⟩
  simp only [insertTokenBinding, checked, bind, Except.bind, pure,
    Except.pure]

theorem insertTokenBinding_of_not_valid
    {entry : String × TokenIdentityBinding} (refused : ¬ ValidBinding entry)
    (store : Store String TokenIdentityBinding) :
    ∃ error, insertTokenBinding store entry = .error error := by
  cases checked : checkTokenBinding entry with
  | ok result =>
      exact absurd (checkTokenBinding_eq_ok_iff.mp checked).1 refused
  | error error =>
      refine ⟨error, ?_⟩
      simp only [insertTokenBinding, checked, bind, Except.bind]

/-- Checked entries are inserted one by one, unless one of them is refused. -/
theorem foldlM_insertTokenBinding_eq_ok_iff
    {entries : List (String × TokenIdentityBinding)}
    {store map : Store String TokenIdentityBinding} :
    entries.foldlM insertTokenBinding store = .ok map ↔
      (∀ entry ∈ entries, ValidBinding entry) ∧
        store.insertAll (entries.map normalizedEntry) = map := by
  induction entries generalizing store with
  | nil => simp [Store.insertAll, pure, Except.pure]
  | cons entry entries hypothesis =>
      rw [List.foldlM_cons, List.forall_mem_cons, List.map_cons,
        Store.insertAll_cons]
      by_cases valid : ValidBinding entry
      · rw [insertTokenBinding_of_valid valid, and_iff_right valid,
          ← hypothesis]
        simp only [bind, Except.bind]
      · obtain ⟨error, refused⟩ := insertTokenBinding_of_not_valid valid store
        rw [refused]
        simp [valid, bind, Except.bind]

section

variable {fromStr : String → Option Json} {order : HashOrder} {value : Json}
  {map : Store String TokenIdentityBinding}

theorem deserializeTokenIdentityMap_eq_ok_iff :
    deserializeTokenIdentityMap fromStr order value = .ok map ↔
      ∃ bindings, deserializeJsonMap readTokenIdentityBinding fromStr value =
          some bindings ∧
        (∀ entry ∈ bindings.pairs, ValidBinding entry) ∧
        Store.empty.insertAll
          ((order.iterate bindings.pairs).map normalizedEntry) = map := by
  unfold deserializeTokenIdentityMap
  cases deserializeJsonMap readTokenIdentityBinding fromStr value with
  | none => simp
  | some bindings =>
      have same (entry : String × TokenIdentityBinding) :
          entry ∈ order.iterate bindings.pairs ↔ entry ∈ bindings.pairs :=
        (order.perm bindings.pairs).mem_iff
      simp only [foldlM_insertTokenBinding_eq_ok_iff, same,
        Option.some.injEq, exists_eq_left']

theorem producible_of_valid {entry : String × TokenIdentityBinding}
    (valid : ValidBinding entry) :
    Producible (normalizedFingerprint entry.1) := by
  have lowered : (normalizedFingerprint entry.1).toList.all HexText.isLower =
      true := by
    have hex := List.all_eq_true.mp valid.hex
    rw [List.all_eq_true]
    intro char listed
    have digit := hex char listed
    rw [normalizedFingerprint, Text.toAsciiLowercase, String.toList_ofList,
      List.mem_map] at listed
    obtain ⟨original, -, rfl⟩ := listed
    exact Text.isAsciiHexdigit_toLower digit
  have length : (normalizedFingerprint entry.1).toList.length = 2 * 32 := by
    rw [← Text.len_of_all_isAsciiHexdigit valid.hex, valid.length]
  obtain ⟨bytes, counted, written⟩ := HexText.exists_lower length lowered
  refine ⟨fun _ => ⟨bytes.toArray, by simpa using counted⟩, "", ?_⟩
  exact written

theorem exists_valid_of_accepted {fingerprint : String}
    {binding : TokenIdentityBinding}
    (accepted : deserializeTokenIdentityMap fromStr order value = .ok map)
    (bound : map.lookup fingerprint = some binding) :
    ∃ entry, ValidBinding entry ∧
      normalizedEntry entry = (fingerprint, binding) := by
  rw [deserializeTokenIdentityMap_eq_ok_iff] at accepted
  obtain ⟨bindings, -, valid, same⟩ := accepted
  rw [← same] at bound
  have listed := Store.lookup_insertAll_empty bound
  rw [List.mem_map] at listed
  obtain ⟨entry, among, same⟩ := listed
  exact ⟨entry, valid entry ((order.perm _).mem_iff.mp among), same⟩

theorem producible_of_accepted {fingerprint : String}
    {binding : TokenIdentityBinding}
    (accepted : deserializeTokenIdentityMap fromStr order value = .ok map)
    (bound : map.lookup fingerprint = some binding) :
    Producible fingerprint := by
  obtain ⟨entry, valid, same⟩ := exists_valid_of_accepted accepted bound
  rw [← (Prod.mk.inj same).1]
  exact producible_of_valid valid

end

/-! Order. -/

theorem exists_order {others entries : List (String × TokenIdentityBinding)}
    (same : others.Perm entries) :
    ∃ order : HashOrder, order.iterate entries = others := by
  refine ⟨⟨fun list => if list = entries then others else list, ?_⟩, ?_⟩
  · intro list
    split
    next equal => rw [equal]; exact same
    next => exact List.Perm.refl list
  · exact if_pos rfl

/-- No valid bindings of keys that are the same but for letter case and
surrounding whitespace differ. -/
def Distinguished (bindings : MultiMap String TokenIdentityBinding) : Prop :=
  (∀ entry ∈ bindings.pairs, ValidBinding entry) →
    Store.Agreeing (bindings.pairs.map normalizedEntry)

theorem orderless_iff (fromStr : String → Option Json) (value : Json) :
    (∀ order other map,
        deserializeTokenIdentityMap fromStr order value = .ok map →
          deserializeTokenIdentityMap fromStr other value = .ok map) ↔
      ∀ bindings, deserializeJsonMap readTokenIdentityBinding fromStr value =
        some bindings → Distinguished bindings := by
  constructor
  · intro orderless bindings read valid
    apply Store.agreeing_iff.mpr
    intro others same
    have orders := List.eq_map_comp_perm normalizedEntry
    have mapped : Relation.Comp (· = List.map normalizedEntry ·) List.Perm
        others bindings.pairs := by
      rw [orders]
      exact same
    obtain ⟨reordered, rfl, permuted⟩ := mapped
    obtain ⟨order, iterated⟩ := exists_order permuted
    obtain ⟨plain, same⟩ := exists_order (List.Perm.refl bindings.pairs)
    have reads (order : HashOrder) :
        deserializeTokenIdentityMap fromStr order value =
          .ok (Store.empty.insertAll
            ((order.iterate bindings.pairs).map normalizedEntry)) := by
      rw [deserializeTokenIdentityMap_eq_ok_iff]
      exact ⟨bindings, read, valid, Eq.refl _⟩
    have reordered := orderless order plain _ (reads order)
    rw [reads plain, iterated, same] at reordered
    exact (Except.ok.inj reordered).symm
  · intro distinguished order other map accepted
    obtain ⟨bindings, read, valid, rfl⟩ :=
      deserializeTokenIdentityMap_eq_ok_iff.mp accepted
    refine deserializeTokenIdentityMap_eq_ok_iff.mpr
      ⟨bindings, read, valid, ?_⟩
    have agreeing := distinguished bindings read valid
    have first := (order.perm bindings.pairs).map normalizedEntry
    have second := (other.perm bindings.pairs).map normalizedEntry
    rw [agreeing.insertAll_eq first, agreeing.insertAll_eq second]

/-- A map that is accepted is the same in every order, has one binding for the
keys that come to the same fingerprint, and binds fingerprints that a token can
have. -/
structure Unambiguous (fromStr : String → Option Json) (value : Json) :
    Prop where
  orderless : ∀ order other map,
    deserializeTokenIdentityMap fromStr order value = .ok map →
      deserializeTokenIdentityMap fromStr other value = .ok map
  apart : ∀ order map bindings,
    deserializeTokenIdentityMap fromStr order value = .ok map →
    deserializeJsonMap readTokenIdentityBinding fromStr value =
      some bindings →
    ∀ first ∈ bindings.pairs, ∀ second ∈ bindings.pairs,
      normalizedFingerprint first.1 = normalizedFingerprint second.1 →
        first.2 = second.2
  producible : ∀ order map fingerprint binding,
    deserializeTokenIdentityMap fromStr order value = .ok map →
      map.lookup fingerprint = some binding → Producible fingerprint

/-- Keys of one fingerprint must not come with different bindings. -/
theorem token_bindings_unambiguous_iff (fromStr : String → Option Json)
    (value : Json) :
    Unambiguous fromStr value ↔
      ∀ bindings, deserializeJsonMap readTokenIdentityBinding fromStr value =
        some bindings → Distinguished bindings := by
  constructor
  · intro unambiguous
    exact (orderless_iff fromStr value).mp unambiguous.orderless
  · intro distinguished
    refine ⟨(orderless_iff fromStr value).mpr distinguished, ?_,
      fun _ _ _ _ => producible_of_accepted⟩
    intro order map bindings accepted read first listed second other same
    rw [deserializeTokenIdentityMap_eq_ok_iff] at accepted
    obtain ⟨readings, again, valid, -⟩ := accepted
    obtain rfl : bindings = readings := Option.some.inj (read.symm.trans again)
    have agreeing := distinguished bindings read valid
      (normalizedEntry first) (List.mem_map_of_mem listed)
      (normalizedEntry second) (List.mem_map_of_mem other)
    simp only [normalizedEntry] at agreeing
    exact agreeing same

/-- One fingerprint in upper and in lower case, for two accounts. -/
def twoSpellings : Json :=
  .obj
    [("AAAAAAAAAAAAAAAAAAAAAAAAAAAAAAAAAAAAAAAAAAAAAAAAAAAAAAAAAAAAAAAA",
      .str "jodie"),
     ("aaaaaaaaaaaaaaaaaaaaaaaaaaaaaaaaaaaaaaaaaaaaaaaaaaaaaaaaaaaaaaaa",
      .str "mini")]

theorem spelling_decides_account :
    ¬ ∀ (fromStr : String → Option Json) (value : Json),
      Unambiguous fromStr value := by
  intro always
  have unambiguous := always (fun _ => none) twoSpellings
  let written : HashOrder := ⟨id, fun _ => List.Perm.refl _⟩
  let reversed : HashOrder := ⟨List.reverse, List.reverse_perm⟩
  let spelled :=
    "aaaaaaaaaaaaaaaaaaaaaaaaaaaaaaaaaaaaaaaaaaaaaaaaaaaaaaaaaaaaaaaa"
  have first : (deserializeTokenIdentityMap (fun _ => none) written
      twoSpellings).toOption.bind (·.lookup spelled) =
        some (.username "mini") := by
    decide +kernel
  have last : (deserializeTokenIdentityMap (fun _ => none) reversed
      twoSpellings).toOption.bind (·.lookup spelled) =
        some (.username "jodie") := by
    decide +kernel
  cases accepted : deserializeTokenIdentityMap (fun _ => none) written
      twoSpellings with
  | error error =>
      rw [accepted] at first
      cases first
  | ok map =>
      rw [unambiguous.orderless written reversed map accepted,
        ← accepted, first] at last
      revert last
      decide

end Replex
