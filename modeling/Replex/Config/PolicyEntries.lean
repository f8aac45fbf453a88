import Replex.Config.TokenBindings
import Replex.ResolutionPolicy

namespace Replex

open Data

/-! The rules for the accounts, read from the configuration. -/

structure RawPolicyEntry where
  username : Option String := none
  uuid : Option String := none
  maxResolution : String
  maxBitrate : Option Int64 := none
  visibleCollections : List String := []
  deriving DecidableEq

/-! Reading. -/

def readText : Json → Option String
  | .str text => some text
  | _ => none

def readInt64 : Json → Option Int64
  | .num (.int value) =>
      if -2 ^ 63 ≤ value ∧ value < 2 ^ 63 then some (Int64.ofInt value)
      else none
  | _ => none

def readTexts : Json → Option (List String)
  | .arr items => items.mapM readText
  | _ => none

/-- A value that may be missing, or null. -/
def readOptional {α : Type} (read : Json → Option α) :
    Option Json → Option (Option α)
  | none | some .null => some none
  | some value => (read value).map some

/-- The values of the fields, in the order of the record. -/
def RawPolicyEntry.ofFields
    (username uuid maxResolution maxBitrate visibleCollections : Option Json) :
    Option RawPolicyEntry := do
  let username ← readOptional readText username
  let uuid ← readOptional readText uuid
  let maxResolution ← maxResolution.bind readText
  let maxBitrate ← readOptional readInt64 maxBitrate
  let visibleCollections ← match visibleCollections with
    | none => some []
    | some value => readTexts value
  return { username, uuid, maxResolution, maxBitrate, visibleCollections }

/-- A record may be written as an object, where other members are ignored, or
as the list of its values. -/
def readRawPolicyEntry : Json → Option RawPolicyEntry
  | .obj members => do
      let username ← memberOnce? members "username"
      let uuid ← memberOnce? members "uuid"
      let maxResolution ← memberOnce? members "max_resolution"
      let maxBitrate ← memberOnce? members "max_bitrate"
      let visibleCollections ← memberOnce? members "visible_collections"
      RawPolicyEntry.ofFields username uuid maxResolution maxBitrate
        visibleCollections
  | .arr values =>
      if values.length ≤ 5 then
        RawPolicyEntry.ofFields values[0]? values[1]? values[2]? values[3]?
          values[4]?
      else none
  | _ => none

def readRawPolicyEntries : Json → Option (List RawPolicyEntry)
  | .arr items => items.mapM readRawPolicyEntry
  | _ => none

/-- The setting may hold the list itself, or its text. -/
def rawPolicyEntries (fromStr : String → Option Json) :
    Json → Option (List RawPolicyEntry)
  | .str text =>
      if Text.trim text = "" then some []
      else (fromStr text).bind readRawPolicyEntries
  | value => readRawPolicyEntries value

inductive PolicySettingError where
  | json
  | custom (message : String)
  deriving DecidableEq

def unknownResolutionText (maxResolution : String) : String :=
  "unknown max_resolution '" ++ maxResolution ++
    "', expected one of: 480, 720, 1080, 4k, unlimited"

def pushPolicyEntry (out : List PolicyEntry) (entry : RawPolicyEntry) :
    Except PolicySettingError (List PolicyEntry) :=
  if entry.username = none ∧ entry.uuid = none then
    .ok out
  else
    match ResolutionLimit.parse entry.maxResolution with
    | none => .error (.custom (unknownResolutionText entry.maxResolution))
    | some maxResolution =>
        .ok (out ++ [{
          username := entry.username
          uuid := entry.uuid
          maxResolution
          maxBitrate := entry.maxBitrate
          visibleCollections := entry.visibleCollections }])

def deserializeUserResolutionPolicies (fromStr : String → Option Json)
    (value : Json) : Except PolicySettingError (List PolicyEntry) :=
  match rawPolicyEntries fromStr value with
  | none => .error .json
  | some raw => raw.foldlM pushPolicyEntry []

/-! What loading comes to. -/

namespace RawPolicyEntry

/-- The rule is for somebody. -/
def Named (rule : RawPolicyEntry) : Prop :=
  rule.username.isSome = true ∨ rule.uuid.isSome = true

/-- The limit is one that is known, unless the rule is for nobody. -/
def Understood (rule : RawPolicyEntry) : Prop :=
  rule.Named → (ResolutionLimit.parse rule.maxResolution).isSome = true

def load (rule : RawPolicyEntry) : Option PolicyEntry :=
  if rule.username = none ∧ rule.uuid = none then
    none
  else
    (ResolutionLimit.parse rule.maxResolution).map fun maxResolution =>
      { username := rule.username
        uuid := rule.uuid
        maxResolution
        maxBitrate := rule.maxBitrate
        visibleCollections := rule.visibleCollections }

theorem named_iff {rule : RawPolicyEntry} :
    rule.Named ↔ ¬ (rule.username = none ∧ rule.uuid = none) := by
  unfold Named
  cases rule.username <;> cases rule.uuid <;> simp

theorem load_of_understood {rule : RawPolicyEntry}
    (understood : rule.Understood) (named : rule.Named) :
    ∃ limit, ResolutionLimit.parse rule.maxResolution = some limit ∧
      rule.load = some {
        username := rule.username
        uuid := rule.uuid
        maxResolution := limit
        maxBitrate := rule.maxBitrate
        visibleCollections := rule.visibleCollections } := by
  obtain ⟨limit, parsed⟩ := Option.isSome_iff_exists.mp (understood named)
  refine ⟨limit, parsed, ?_⟩
  rw [load, if_neg (named_iff.mp named), parsed, Option.map_some]

theorem names_of_load {rule : RawPolicyEntry} {entry : PolicyEntry}
    (loaded : rule.load = some entry) :
    entry.username = rule.username ∧ entry.uuid = rule.uuid := by
  unfold load at loaded
  split at loaded
  · cases loaded
  · obtain ⟨limit, -, rfl⟩ := Option.map_eq_some_iff.mp loaded
    exact ⟨rfl, rfl⟩

theorem pushPolicyEntry_of_understood {rule : RawPolicyEntry}
    (understood : rule.Understood) (out : List PolicyEntry) :
    pushPolicyEntry out rule = .ok (out ++ rule.load.toList) := by
  unfold pushPolicyEntry load
  split
  · simp
  next named =>
      obtain ⟨limit, parsed⟩ :=
        Option.isSome_iff_exists.mp (understood (named_iff.mpr named))
      simp [parsed]

theorem pushPolicyEntry_of_not_understood {rule : RawPolicyEntry}
    (puzzles : ¬ rule.Understood) (out : List PolicyEntry) :
    pushPolicyEntry out rule =
      .error (.custom (unknownResolutionText rule.maxResolution)) := by
  obtain ⟨named, unknown⟩ := Classical.not_imp.mp puzzles
  unfold pushPolicyEntry
  rw [if_neg (named_iff.mp named)]
  rw [Bool.not_eq_true, Option.isSome_eq_false_iff,
    Option.isNone_iff_eq_none] at unknown
  rw [unknown]

theorem foldlM_pushPolicyEntry {rules : List RawPolicyEntry}
    (understood : ∀ rule ∈ rules, rule.Understood) (out : List PolicyEntry) :
    rules.foldlM pushPolicyEntry out = .ok (out ++ rules.filterMap load) := by
  induction rules generalizing out with
  | nil => simp [pure, Except.pure]
  | cons rule rules hypothesis =>
      obtain ⟨first, rest⟩ := List.forall_mem_cons.mp understood
      rw [List.foldlM_cons, pushPolicyEntry_of_understood first]
      simp only [bind, Except.bind]
      rw [hypothesis rest, List.append_assoc]
      cases loaded : rule.load with
      | none => simp [loaded]
      | some entry => simp [loaded]

/-- The rule names the account by its id. -/
def NamesUuid (account : UserIdentity) (rule : RawPolicyEntry) : Prop :=
  rule.uuid = some account.uuid

def NamesUser (account : UserIdentity) (rule : RawPolicyEntry) : Prop :=
  rule.username = some account.username

/-- What the rule says of an account, when its limit is this one. -/
def policy (rule : RawPolicyEntry) (limit : ResolutionLimit)
    (hidden : List String) : ResolutionPolicy where
  limit
  maxBitrate := rule.maxBitrate
  hiddenCollections :=
    hidden.filter fun title => !rule.visibleCollections.contains title

end RawPolicyEntry

/-- The first of the values that has the property. -/
def FirstWith {α : Type} (holds : α → Prop) (values : List α) (value : α) :
    Prop :=
  ∃ before after, values = before ++ value :: after ∧ holds value ∧
    ∀ earlier ∈ before, ¬ holds earlier

/-- The first rule for the account's id, or else the first for its name. -/
def Governs (rules : List RawPolicyEntry) (account : UserIdentity)
    (rule : RawPolicyEntry) : Prop :=
  FirstWith (RawPolicyEntry.NamesUuid account) rules rule ∨
    (∀ other ∈ rules, ¬ other.NamesUuid account) ∧
      FirstWith (RawPolicyEntry.NamesUser account) rules rule

theorem firstWith_iff_find? {α : Type} {holds : α → Prop} {test : α → Bool}
    (decides : ∀ value, test value = true ↔ holds value) {values : List α}
    {value : α} :
    FirstWith holds values value ↔ values.find? test = some value := by
  have fails (earlier : α) : (!test earlier) = true ↔ ¬ holds earlier := by
    rw [Bool.not_eq_true', ← decides, Bool.not_eq_true]
  simp only [List.find?_eq_some_iff_append, FirstWith, decides, fails]
  constructor
  · rintro ⟨before, after, split, found, none⟩
    exact ⟨found, before, after, split, none⟩
  · rintro ⟨found, before, after, split, none⟩
    exact ⟨before, after, split, found, none⟩

/-- Loading keeps the first rule of a kind the first, if only rules for
somebody are of the kind. -/
theorem find?_load {rules : List RawPolicyEntry}
    (understood : ∀ rule ∈ rules, rule.Understood)
    {test : PolicyEntry → Bool} {ask : RawPolicyEntry → Bool}
    (named : ∀ rule, ask rule = true → rule.Named)
    (same : ∀ rule entry, rule.load = some entry → test entry = ask rule) :
    (rules.filterMap RawPolicyEntry.load).find? test =
      (rules.find? ask).bind RawPolicyEntry.load := by
  induction rules with
  | nil => rfl
  | cons rule rules hypothesis =>
      obtain ⟨first, rest⟩ := List.forall_mem_cons.mp understood
      cases loaded : rule.load with
      | none =>
          have passed : ask rule = false := by
            rw [← Bool.not_eq_true]
            intro asked
            obtain ⟨limit, -, kept⟩ :=
              RawPolicyEntry.load_of_understood first (named rule asked)
            rw [loaded] at kept
            cases kept
          rw [List.filterMap_cons_none loaded, hypothesis rest,
            List.find?_cons, passed]
      | some entry =>
          rw [List.filterMap_cons_some loaded, List.find?_cons,
            List.find?_cons, same rule entry loaded]
          cases ask rule with
          | true => exact loaded.symm
          | false => exact hypothesis rest

section

variable {rules : List RawPolicyEntry} {account : UserIdentity}

theorem firstWith_namesUuid_iff {rule : RawPolicyEntry} :
    FirstWith (RawPolicyEntry.NamesUuid account) rules rule ↔
      (rules.find? fun other => other.uuid == some account.uuid) =
        some rule :=
  firstWith_iff_find? fun _ => beq_iff_eq

theorem firstWith_namesUser_iff {rule : RawPolicyEntry} :
    FirstWith (RawPolicyEntry.NamesUser account) rules rule ↔
      (rules.find? fun other => other.username == some account.username) =
        some rule :=
  firstWith_iff_find? fun _ => beq_iff_eq

theorem governs_iff {rule : RawPolicyEntry} :
    Governs rules account rule ↔
      ((rules.find? fun other => other.uuid == some account.uuid).or
        (rules.find? fun other => other.username == some account.username)) =
          some rule := by
  rw [Option.or_eq_some_iff, ← firstWith_namesUuid_iff,
    ← firstWith_namesUser_iff, List.find?_eq_none]
  simp [Governs, RawPolicyEntry.NamesUuid]

theorem matchedEntry_load (understood : ∀ rule ∈ rules, rule.Understood)
    (account : UserIdentity) :
    matchedEntry (rules.filterMap RawPolicyEntry.load) account =
      ((rules.find? fun rule => rule.uuid == some account.uuid).bind
          RawPolicyEntry.load).or
        ((rules.find? fun rule => rule.username == some account.username).bind
          RawPolicyEntry.load) := by
  unfold matchedEntry
  congr 1
  · apply find?_load understood
    · intro rule asked
      exact .inr (by simp [beq_iff_eq.mp asked])
    · intro rule entry loaded
      rw [(RawPolicyEntry.names_of_load loaded).2]
  · apply find?_load understood
    · intro rule asked
      exact .inl (by simp [beq_iff_eq.mp asked])
    · intro rule entry loaded
      rw [(RawPolicyEntry.names_of_load loaded).1]

theorem named_of_governs {rule : RawPolicyEntry}
    (governs : Governs rules account rule) : rule ∈ rules ∧ rule.Named := by
  rcases governs with first | ⟨-, first⟩
  · obtain ⟨before, after, rfl, names, -⟩ := first
    exact ⟨by simp, .inr (by rw [names]; rfl)⟩
  · obtain ⟨before, after, rfl, names, -⟩ := first
    exact ⟨by simp, .inl (by rw [names]; rfl)⟩

/-- The entry that an account is matched with is that of the rule which governs
it. -/
theorem matchedEntry_load_eq (understood : ∀ rule ∈ rules, rule.Understood)
    (account : UserIdentity) :
    matchedEntry (rules.filterMap RawPolicyEntry.load) account =
      ((rules.find? fun rule => rule.uuid == some account.uuid).or
        (rules.find? fun rule => rule.username == some account.username)).bind
          RawPolicyEntry.load := by
  rw [matchedEntry_load understood]
  cases found : rules.find? fun rule => rule.uuid == some account.uuid with
  | none => simp
  | some rule =>
      have first := firstWith_namesUuid_iff.mpr found
      obtain ⟨listed, named⟩ := named_of_governs (.inl first)
      obtain ⟨limit, -, loaded⟩ :=
        RawPolicyEntry.load_of_understood (understood rule listed) named
      simp [loaded]

theorem resolve_load_of_governs
    (understood : ∀ rule ∈ rules, rule.Understood) {rule : RawPolicyEntry}
    (governs : Governs rules account rule) (default : ResolutionLimit)
    (hidden : List String) :
    ∃ limit, ResolutionLimit.parse rule.maxResolution = some limit ∧
      resolvePolicy (rules.filterMap RawPolicyEntry.load) default hidden
        account = rule.policy limit hidden := by
  obtain ⟨listed, named⟩ := named_of_governs governs
  obtain ⟨limit, parsed, loaded⟩ :=
    RawPolicyEntry.load_of_understood (understood rule listed) named
  refine ⟨limit, parsed, ?_⟩
  have matched := matchedEntry_load_eq understood account
  rw [governs_iff.mp governs, Option.bind_some, loaded] at matched
  rw [resolvePolicy, matched]
  rfl

theorem resolve_load_of_not_governs
    (understood : ∀ rule ∈ rules, rule.Understood)
    (free : ∀ rule, ¬ Governs rules account rule) (default : ResolutionLimit)
    (hidden : List String) :
    resolvePolicy (rules.filterMap RawPolicyEntry.load) default hidden
      account = { limit := default, hiddenCollections := hidden } := by
  have matched := matchedEntry_load_eq understood account
  have none := Option.eq_none_iff_forall_ne_some.mpr fun rule governs =>
    free rule (governs_iff.mpr governs)
  rw [none, Option.bind_none] at matched
  rw [resolvePolicy, matched]
  simp

theorem exists_puzzling (puzzles : ¬ ∀ rule ∈ rules, rule.Understood) :
    ∃ rule, FirstWith (fun rule => ¬ rule.Understood) rules rule := by
  induction rules with
  | nil => exact absurd nofun puzzles
  | cons rule rules hypothesis =>
      by_cases understood : rule.Understood
      · have later : ¬ ∀ other ∈ rules, other.Understood := by
          intro rest
          exact puzzles (List.forall_mem_cons.mpr ⟨understood, rest⟩)
        obtain ⟨first, before, after, rfl, puzzling, none⟩ := hypothesis later
        refine ⟨first, rule :: before, after, rfl, puzzling, ?_⟩
        exact List.forall_mem_cons.mpr ⟨not_not.mpr understood, none⟩
      · exact ⟨rule, [], rules, rfl, understood, nofun⟩

theorem foldlM_pushPolicyEntry_of_puzzling {rule : RawPolicyEntry}
    (first : FirstWith (fun rule => ¬ rule.Understood) rules rule)
    (out : List PolicyEntry) :
    rules.foldlM pushPolicyEntry out =
      .error (.custom (unknownResolutionText rule.maxResolution)) := by
  obtain ⟨before, after, rfl, puzzles, none⟩ := first
  have understood : ∀ earlier ∈ before, earlier.Understood :=
    fun earlier listed => not_not.mp (none earlier listed)
  rw [List.foldlM_append,
    RawPolicyEntry.foldlM_pushPolicyEntry understood out]
  simp only [bind, Except.bind, List.foldlM_cons]
  rw [RawPolicyEntry.pushPolicyEntry_of_not_understood puzzles]

end

/-- What comes of the setting: every account gets the policy of the rule that
governs it, or the default, and a rule for somebody whose limit is unknown is
what a refusal is about. -/
theorem written_policies_in_force (fromStr : String → Option Json)
    (value : Json) :
    match deserializeUserResolutionPolicies fromStr value with
    | .ok entries =>
        ∃ rules, rawPolicyEntries fromStr value = some rules ∧
          (∀ rule ∈ rules, rule.Understood) ∧
          ∀ snapshot : PolicySnapshot, snapshot.entries = entries →
            ∀ account,
              (∀ rule, Governs rules account rule →
                ∃ limit, ResolutionLimit.parse rule.maxResolution =
                    some limit ∧
                  snapshot.resolve account =
                    rule.policy limit snapshot.hiddenCollections) ∧
              ((∀ rule, ¬ Governs rules account rule) →
                snapshot.resolve account = {
                  limit := snapshot.defaultLimit
                  hiddenCollections := snapshot.hiddenCollections })
    | .error .json => rawPolicyEntries fromStr value = none
    | .error (.custom message) =>
        ∃ rules rule, rawPolicyEntries fromStr value = some rules ∧
          FirstWith (fun rule => ¬ rule.Understood) rules rule ∧
          message = unknownResolutionText rule.maxResolution := by
  unfold deserializeUserResolutionPolicies
  cases read : rawPolicyEntries fromStr value with
  | none => rfl
  | some rules =>
      dsimp only
      by_cases understood : ∀ rule ∈ rules, rule.Understood
      · rw [RawPolicyEntry.foldlM_pushPolicyEntry understood]
        refine ⟨rules, rfl, understood, ?_⟩
        intro snapshot same account
        rw [PolicySnapshot.resolve, same, List.nil_append]
        exact ⟨fun rule governs =>
            resolve_load_of_governs understood governs _ _,
          fun free => resolve_load_of_not_governs understood free _ _⟩
      · obtain ⟨rule, first⟩ := exists_puzzling understood
        rw [foldlM_pushPolicyEntry_of_puzzling first]
        exact ⟨rules, rule, rfl, first, rfl⟩

/-- A rule for nobody is left out, whatever its limit. -/
example : deserializeUserResolutionPolicies (fun _ => none)
    (.arr [.obj [("max_resolution", .str "8k")],
      .arr [.str "jodie", .null, .str "2K"]]) =
        .ok [{ username := some "jodie", maxResolution := .p1080 }] := by
  decide +kernel

end Replex
