import Replex.Data.Fields
import Replex.HubCache.Provenance

namespace Replex

open Data

/-! One cache key, and what is fetched from Plex for it. -/

/-- What is asked of Plex: the fragment of a fetch path is no part of it. -/
def requestedTarget (fetchPath : String) : String :=
  String.ofList (fetchPath.toList.takeWhile (· ≠ '#'))

/-- Why a hub payload is fetched: for a request, by its miss or by a refresh
behind it, or for a path of the warmer. -/
inductive FetchSource where
  | request (uri : Uri)
  | warmer (path : String)

/-- The HTTP library keeps queries and fragments out of paths. -/
def Uri.PlainPath (uri : Uri) : Prop :=
  '?' ∉ uri.path.toList ∧ '#' ∉ uri.path.toList

def HubFetch.MadeBy (digest : TokenDigest) (parseTarget : String → Option Uri)
    (fetch : HubFetch) : FetchSource → Prop
  | .request uri => uri.PlainPath ∧
      fetch.keyPath = cacheKeyForRequest uri ∧
      fetch.fetchPath = canonicalFetchPath uri fetch.keyPath ∧
      fetch.Keyed digest
  | .warmer path => (∃ sections, path ∈ warmPaths sections) ∧
      '#' ∉ path.toList ∧
      fetch.fetchPath = warmFetchPath path ∧
      (∃ uri, parseTarget fetch.fetchPath = some uri ∧
        fetch.keyPath = cacheKeyForRequest uri) ∧
      fetch.Keyed digest

/-- The parameters that reach Plex: a value with a fragment is cut short, and
nothing follows it. -/
def sentParams : List (String × String) → List (String × String)
  | [] => []
  | (name, value) :: params =>
      if '#' ∈ value.toList then
        [(name, String.ofList (value.toList.takeWhile (· ≠ '#')))]
      else
        (name, value) :: sentParams params

/-- Two requests that send the same parameters, two fetches of one warm path,
or a fetch of the one warm path without parameters. -/
def FetchSource.Alike : FetchSource → FetchSource → Prop
  | .request uri, .request other =>
      sentParams (canonicalParts uri.queries) =
        sentParams (canonicalParts other.queries)
  | .warmer path, .warmer other => path = other
  | .request _, .warmer path | .warmer path, .request _ => path = "/hubs/home"

/-! Equal keys have equal paths. -/

theorem keyPath_of_hubCacheKey_eq {digest : TokenDigest}
    {keyPath other : String} {token otherToken : Option String}
    (same : hubCacheKey digest keyPath token =
      hubCacheKey digest other otherToken) : keyPath = other := by
  have lists := congrArg String.toList same
  cases shared : isSharedPath keyPath with
  | true =>
      rw [toList_hubCacheKey_shared shared] at lists
      cases alsoShared : isSharedPath other with
      | true =>
          rw [toList_hubCacheKey_shared alsoShared,
            List.append_cancel_left_eq] at lists
          exact String.toList_injective lists
      | false =>
          rw [toList_hubCacheKey alsoShared] at lists
          simp at lists
  | false =>
      rw [toList_hubCacheKey shared] at lists
      cases alsoShared : isSharedPath other with
      | true =>
          rw [toList_hubCacheKey_shared alsoShared] at lists
          simp at lists
      | false =>
          rw [toList_hubCacheKey alsoShared, List.append_cancel_left_eq]
            at lists
          have paths := (Fields.append_cons_inj
            (colon_not_mem_tokenScope digest token)
            (colon_not_mem_tokenScope digest otherToken) lists).2
          exact String.toList_injective paths

/-! The two spellings of the parameters. -/

def fetchField (part : String × String) : List Char × List Char :=
  (part.1.toList, part.2.toList)

def keyField (part : String × String) : List Char × List Char :=
  (part.1.toList.map Text.lowerChar, part.2.toList)

def canonicalNames : List String :=
  ["contentDirectoryID", "pinnedContentDirectoryID",
    "X-Plex-Container-Start", "X-Plex-Container-Size"]

theorem name_of_mem_canonicalParts {queries : Queries}
    {part : String × String} (listed : part ∈ canonicalParts queries) :
    part.1 ∈ canonicalNames := by
  unfold canonicalParts at listed
  rw [List.mem_insertionSort] at listed
  obtain ⟨name, named, found⟩ := List.mem_filterMap.mp listed
  obtain ⟨value, -, rfl⟩ := Option.map_eq_some_iff.mp found
  exact named

/-- A character under both spellings. -/
def bothFields (part : String × String) :
    List (Char × Char) × List (Char × Char) :=
  (part.1.toList.map fun char => (char, Text.lowerChar char),
    part.2.toList.map fun char => (char, char))

theorem readable_bothFields {part : String × String}
    (named : part.1 ∈ canonicalNames) :
    Fields.Readable ('&', '&') ('=', '=') (fun pair => pair.1 ≠ pair.2)
      (bothFields part) := by
  obtain ⟨name, value⟩ := part
  have values : ∀ pair ∈ (bothFields (name, value)).2,
      ¬ pair.1 ≠ pair.2 := by
    intro pair listed
    obtain ⟨char, -, rfl⟩ := List.mem_map.mp listed
    exact not_not_intro rfl
  simp only [canonicalNames, List.mem_cons, List.not_mem_nil, or_false]
    at named
  rcases named with rfl | rfl | rfl | rfl
  all_goals
    refine ⟨?_, ?_, ?_, values⟩ <;> unfold bothFields <;> dsimp only <;> decide

theorem map_join {γ δ : Type} (change : γ → δ) (separator equals : γ)
    (fields : List (List γ × List γ)) :
    (Fields.join separator equals fields).map change =
      Fields.join (change separator) (change equals)
        (fields.map fun field => (field.1.map change, field.2.map change)) := by
  cases fields with
  | nil => rfl
  | cons field fields =>
      simp [Fields.join, Fields.following, List.map_flatMap, List.flatMap_map]

theorem fst_bothFields (parts : List (String × String)) :
    (Fields.join ('&', '&') ('=', '=') (parts.map bothFields)).map Prod.fst =
      Fields.join '&' '=' (parts.map fetchField) := by
  simp only [map_join, List.map_map, bothFields, Function.comp_def, List.map_id']
  rfl

theorem snd_bothFields (parts : List (String × String)) :
    (Fields.join ('&', '&') ('=', '=') (parts.map bothFields)).map Prod.snd =
      Fields.join '&' '=' (parts.map keyField) := by
  simp only [map_join, List.map_map, bothFields, Function.comp_def, List.map_id']
  rfl

theorem bothFields_injective : Function.Injective bothFields := by
  intro ⟨name, value⟩ ⟨other, otherValue⟩ same
  have names := congrArg (fun field => field.1.map Prod.fst) same
  have values := congrArg (fun field => field.2.map Prod.fst) same
  simp only [bothFields, List.map_map, Function.comp_def, List.map_id']
    at names values
  rw [String.toList_injective names, String.toList_injective values]

theorem readable_map_bothFields {parts : List (String × String)}
    (named : ∀ part ∈ parts, part.1 ∈ canonicalNames) :
    ∀ field ∈ parts.map bothFields, Fields.Readable ('&', '&') ('=', '=')
      (fun pair => pair.1 ≠ pair.2) field := by
  intro field listed
  obtain ⟨part, member, rfl⟩ := List.mem_map.mp listed
  exact readable_bothFields (named part member)

/-- The key and the fetch path together tell which parameters they are of. -/
theorem parts_of_spellings {parts others : List (String × String)}
    (named : ∀ part ∈ parts, part.1 ∈ canonicalNames)
    (alsoNamed : ∀ part ∈ others, part.1 ∈ canonicalNames)
    (fetches : Fields.join '&' '=' (parts.map fetchField) =
      Fields.join '&' '=' (others.map fetchField))
    (keys : Fields.join '&' '=' (parts.map keyField) =
      Fields.join '&' '=' (others.map keyField)) : parts = others := by
  have firsts : (Fields.join ('&', '&') ('=', '=')
      (parts.map bothFields)).map Prod.fst =
        (Fields.join ('&', '&') ('=', '=')
          (others.map bothFields)).map Prod.fst := by
    rw [fst_bothFields, fst_bothFields, fetches]
  have seconds : (Fields.join ('&', '&') ('=', '=')
      (parts.map bothFields)).map Prod.snd =
        (Fields.join ('&', '&') ('=', '=')
          (others.map bothFields)).map Prod.snd := by
    rw [snd_bothFields, snd_bothFields, keys]
  have both : Fields.join ('&', '&') ('=', '=') (parts.map bothFields) =
      Fields.join ('&', '&') ('=', '=') (others.map bothFields) := by
    rw [← List.zip_unzip (Fields.join _ _ (parts.map bothFields)),
      ← List.zip_unzip (Fields.join _ _ (others.map bothFields))]
    simp only [List.unzip_eq_map, firsts, seconds]
  have fields := Fields.join_inj (readable_map_bothFields named)
    (readable_map_bothFields alsoNamed) both
  exact List.map_injective_iff.mpr bothFields_injective fields

/-! Keys and fetch paths as characters. -/

theorem lowercase_toList (text : String) :
    (Text.toLowercase text).toList = text.toList.map Text.lowerChar := by
  simp [Text.toLowercase]

theorem toList_cacheKeyForRequest (uri : Uri) :
    (cacheKeyForRequest uri).toList =
      if canonicalParts uri.queries = [] then uri.path.toList
      else uri.path.toList ++
        '?' :: Fields.join '&' '='
          ((canonicalParts uri.queries).map keyField) := by
  unfold cacheKeyForRequest
  cases canonicalParts uri.queries with
  | nil => rfl
  | cons part parts =>
      have fields : ((part :: parts).map fun part =>
          Text.toLowercase part.1 ++ "=" ++ part.2).map String.toList =
            ((part :: parts).map keyField).map fun field =>
              field.1 ++ '=' :: field.2 := by
        rw [List.map_map, List.map_map]
        apply List.map_congr_left
        intro part _
        simp [keyField, lowercase_toList]
      rw [if_neg (List.cons_ne_nil part parts), Fields.join_eq_intercalate,
        ← fields]
      simp only [String.toList_append, String.toList_intercalate,
        List.append_assoc]
      rfl

/-- What every live fetch asks for besides its parameters. -/
def fetchSuffix : List Char :=
  "includeGuids=1&count=50".toList

theorem startsWith_part {start : String} {part : String × String}
    (named : part.1 ∈ canonicalNames)
    (asked : start = "includeGuids" ∨ start = "count=") :
    Text.startsWith (part.1 ++ "=" ++ part.2) start = false := by
  obtain ⟨name, value⟩ := part
  simp only [canonicalNames, List.mem_cons, List.not_mem_nil, or_false]
    at named
  unfold Text.startsWith
  rcases asked with rfl | rfl <;> rcases named with rfl | rfl | rfl | rfl <;>
    simp [List.isPrefixOf]

/-- The path in front of a key's query. -/
theorem head?_split_cacheKey {uri : Uri} (plain : uri.PlainPath) :
    (Text.split '?' (cacheKeyForRequest uri)).head? = some uri.path := by
  have chars := toList_cacheKeyForRequest uri
  unfold Text.split
  rw [chars]
  split
  · rw [List.splitOn_eq_singleton plain.1]
    simp
  · rw [List.splitOn_append_cons_self_of_not_mem plain.1]
    simp

theorem canonicalFetch_query (queries : Queries) :
    (let query := (canonicalParts queries).map fun part =>
        part.1 ++ "=" ++ part.2
      let query :=
        if query.any fun part => Text.startsWith part "includeGuids" then query
        else query ++ ["includeGuids=1"]
      if query.any fun part => Text.startsWith part "count=" then query
      else query ++ ["count=50"]) =
      ((canonicalParts queries).map fun part => part.1 ++ "=" ++ part.2) ++
        ["includeGuids=1", "count=50"] := by
  have unasked : ∀ start, start = "includeGuids" ∨ start = "count=" →
      (((canonicalParts queries).map fun part =>
        part.1 ++ "=" ++ part.2).any fun part =>
          Text.startsWith part start) = false := by
    intro start asked
    rw [List.any_eq_false]
    intro text listed
    obtain ⟨part, member, rfl⟩ := List.mem_map.mp listed
    rw [startsWith_part (name_of_mem_canonicalParts member) asked]
    exact Bool.false_ne_true
  have guids : Text.startsWith "includeGuids=1" "count=" = false := by decide
  dsimp only
  rw [unasked _ (.inl rfl)]
  simp only [Bool.false_eq_true, if_false, List.any_append, unasked _ (.inr rfl),
    List.any_cons, List.any_nil, guids, Bool.or_false]
  rw [List.append_assoc]
  rfl

theorem toList_fetchParts (parts : List (String × String)) :
    ("&".intercalate ((parts.map fun part => part.1 ++ "=" ++ part.2) ++
        ["includeGuids=1", "count=50"])).toList =
      if parts = [] then fetchSuffix
      else Fields.join '&' '=' (parts.map fetchField) ++
        '&' :: fetchSuffix := by
  cases parts with
  | nil => decide
  | cons part parts =>
      have fields : ((part :: parts).map fun part =>
          part.1 ++ "=" ++ part.2).map String.toList =
            ((part :: parts).map fetchField).map fun field =>
              field.1 ++ '=' :: field.2 := by
        rw [List.map_map, List.map_map]
        apply List.map_congr_left
        intro part _
        simp [fetchField]
      have suffix : ("&".intercalate
          ["includeGuids=1", "count=50"]).toList = fetchSuffix := by decide
      rw [if_neg (List.cons_ne_nil part parts), Fields.join_eq_intercalate,
        ← fields, String.intercalate_append_of_ne_nil (by simp) (by simp)]
      simp only [String.toList_append, suffix, String.toList_intercalate,
        List.append_assoc]
      rfl

theorem toList_canonicalFetchPath {uri : Uri} (plain : uri.PlainPath) :
    (canonicalFetchPath uri (cacheKeyForRequest uri)).toList =
      uri.path.toList ++ '?' ::
        if canonicalParts uri.queries = [] then fetchSuffix
        else Fields.join '&' '='
          ((canonicalParts uri.queries).map fetchField) ++
            '&' :: fetchSuffix := by
  have query := canonicalFetch_query uri.queries
  unfold canonicalFetchPath
  dsimp only at query ⊢
  rw [query, head?_split_cacheKey plain, Option.getD_some]
  rw [String.toList_append, String.toList_append, toList_fetchParts]
  simp

/-! Two requests with one key. -/

def HasFragment (parts : List (String × String)) : Prop :=
  ∃ part ∈ parts, '#' ∈ part.2.toList

instance (parts : List (String × String)) : Decidable (HasFragment parts) :=
  inferInstanceAs (Decidable (∃ part ∈ parts, _))

theorem upTo_map {spelled : String × String → List Char × List Char}
    (values : ∀ part, (spelled part).2 = part.2.toList)
    (names : ∀ name value other,
      (spelled (name, value)).1 = (spelled (name, other)).1)
    (parts : List (String × String)) :
    Fields.upTo '#' (parts.map spelled) = (sentParams parts).map spelled := by
  induction parts with
  | nil => rfl
  | cons part parts hypothesis =>
      obtain ⟨name, value⟩ := part
      rw [List.map_cons, Fields.upTo, sentParams, values, hypothesis]
      split
      · rw [List.map_singleton]
        congr 1
        apply Prod.ext
        · exact names name value _
        · rw [values, String.toList_ofList]
      · rfl

theorem takeWhile_spelled {spelled : String × String → List Char × List Char}
    (values : ∀ part, (spelled part).2 = part.2.toList)
    (names : ∀ name value other,
      (spelled (name, value)).1 = (spelled (name, other)).1)
    {parts : List (String × String)}
    (plain : ∀ part ∈ parts, '#' ∉ (spelled part).1) (rest : List Char) :
    (Fields.join '&' '=' (parts.map spelled) ++ rest).takeWhile (· ≠ '#') =
      Fields.join '&' '=' ((sentParams parts).map spelled) ++
        if HasFragment parts then [] else rest.takeWhile (· ≠ '#') := by
  have notSeparator : '#' ≠ '&' := by decide
  have notEquals : '#' ≠ '=' := by decide
  have plainFields : ∀ field ∈ parts.map spelled, '#' ∉ field.1 := by
    intro field listed
    obtain ⟨part, member, rfl⟩ := List.mem_map.mp listed
    exact plain part member
  have same : (∃ field ∈ parts.map spelled, '#' ∈ field.2) ↔
      HasFragment parts := by
    constructor
    · intro ⟨field, listed, fragment⟩
      obtain ⟨part, member, rfl⟩ := List.mem_map.mp listed
      exact ⟨part, member, values part ▸ fragment⟩
    · intro ⟨part, member, fragment⟩
      exact ⟨spelled part, List.mem_map_of_mem member,
        (values part).symm ▸ fragment⟩
  rw [Fields.takeWhile_join notSeparator notEquals rest plainFields,
    upTo_map values names]
  simp only [same]

theorem takeWhile_fetch {parts : List (String × String)}
    (named : ∀ part ∈ parts, part.1 ∈ canonicalNames) (rest : List Char) :
    (Fields.join '&' '=' (parts.map fetchField) ++ rest).takeWhile
        (· ≠ '#') =
      Fields.join '&' '=' ((sentParams parts).map fetchField) ++
        if HasFragment parts then [] else rest.takeWhile (· ≠ '#') := by
  have plainNames : ∀ name ∈ canonicalNames, '#' ∉ name.toList := by decide
  exact takeWhile_spelled (fun _ => rfl) (fun _ _ _ => rfl)
    (fun part member => plainNames part.1 (named part member)) rest

theorem takeWhile_key {parts : List (String × String)}
    (named : ∀ part ∈ parts, part.1 ∈ canonicalNames) (rest : List Char) :
    (Fields.join '&' '=' (parts.map keyField) ++ rest).takeWhile (· ≠ '#') =
      Fields.join '&' '=' ((sentParams parts).map keyField) ++
        if HasFragment parts then [] else rest.takeWhile (· ≠ '#') := by
  have plainNames : ∀ name ∈ canonicalNames,
      '#' ∉ name.toList.map Text.lowerChar := by decide
  exact takeWhile_spelled (fun _ => rfl) (fun _ _ _ => rfl)
    (fun part member => plainNames part.1 (named part member)) rest

theorem named_sentParams {parts : List (String × String)}
    (named : ∀ part ∈ parts, part.1 ∈ canonicalNames) :
    ∀ part ∈ sentParams parts, part.1 ∈ canonicalNames := by
  induction parts with
  | nil => exact named
  | cons part parts hypothesis =>
      obtain ⟨name, value⟩ := part
      have first := named (name, value) List.mem_cons_self
      have rest := hypothesis fun part member =>
        named part (List.mem_cons_of_mem _ member)
      unfold sentParams
      split
      · intro part listed
        cases List.mem_singleton.mp listed
        exact first
      · intro part listed
        rcases List.mem_cons.mp listed with rfl | later
        · exact first
        · exact rest part later

theorem toList_requestedTarget (fetchPath : String) :
    (requestedTarget fetchPath).toList =
      fetchPath.toList.takeWhile (· ≠ '#') := by
  rw [requestedTarget, String.toList_ofList]

/-- What a live fetch asks for after its path. -/
def sentQuery (parts : List (String × String)) : List Char :=
  if parts = [] then fetchSuffix
  else Fields.join '&' '=' ((sentParams parts).map fetchField) ++
    if HasFragment parts then [] else '&' :: fetchSuffix

theorem toList_requestedTarget_live {uri : Uri} (plain : uri.PlainPath) :
    (requestedTarget
        (canonicalFetchPath uri (cacheKeyForRequest uri))).toList =
      uri.path.toList ++ '?' :: sentQuery (canonicalParts uri.queries) := by
  have noFragment : fetchSuffix.takeWhile (· ≠ '#') = fetchSuffix := by decide
  rw [toList_requestedTarget, toList_canonicalFetchPath plain,
    Fields.takeWhile_of_notMem plain.2,
    List.takeWhile_cons_of_pos (by decide), sentQuery]
  split
  · rw [noFragment]
  · rw [takeWhile_fetch fun part member => name_of_mem_canonicalParts member,
      List.takeWhile_cons_of_pos (by decide), noFragment]

/-- Equal keys agree on what precedes a fragment, and on having one. -/
theorem sent_of_keys {parts others : List (String × String)}
    (named : ∀ part ∈ parts, part.1 ∈ canonicalNames)
    (alsoNamed : ∀ part ∈ others, part.1 ∈ canonicalNames)
    (keys : Fields.join '&' '=' (parts.map keyField) =
      Fields.join '&' '=' (others.map keyField)) :
    Fields.join '&' '=' ((sentParams parts).map keyField) =
        Fields.join '&' '=' ((sentParams others).map keyField) ∧
      (HasFragment parts ↔ HasFragment others) := by
  have cut := takeWhile_key named []
  have alsoCut := takeWhile_key alsoNamed []
  simp only [List.append_nil, List.takeWhile_nil, ite_self] at cut alsoCut
  have sent := cut.symm.trans ((congrArg _ keys).trans alsoCut)
  refine ⟨sent, ?_⟩
  have longer := takeWhile_key named ['&']
  have alsoLonger := takeWhile_key alsoNamed ['&']
  rw [keys, alsoLonger, sent, List.append_cancel_left_eq] at longer
  by_cases fragment : HasFragment parts <;>
    by_cases alsoFragment : HasFragment others <;>
      simp_all

/-- Of requests with one key, those ask Plex for the same that send the same
parameters. -/
theorem live_iff {uri other : Uri} (plain : uri.PlainPath)
    (alsoPlain : other.PlainPath)
    (keys : cacheKeyForRequest uri = cacheKeyForRequest other) :
    requestedTarget (canonicalFetchPath uri (cacheKeyForRequest uri)) =
        requestedTarget
          (canonicalFetchPath other (cacheKeyForRequest other)) ↔
      sentParams (canonicalParts uri.queries) =
        sentParams (canonicalParts other.queries) := by
  have named : ∀ part ∈ canonicalParts uri.queries,
      part.1 ∈ canonicalNames :=
    fun part member => name_of_mem_canonicalParts member
  have alsoNamed : ∀ part ∈ canonicalParts other.queries,
      part.1 ∈ canonicalNames :=
    fun part member => name_of_mem_canonicalParts member
  have lists := congrArg String.toList keys
  rw [toList_cacheKeyForRequest, toList_cacheKeyForRequest] at lists
  rw [← String.toList_inj, toList_requestedTarget_live plain,
    toList_requestedTarget_live alsoPlain]
  generalize canonicalParts uri.queries = parts at lists named ⊢
  generalize canonicalParts other.queries = others at lists alsoNamed ⊢
  by_cases none : parts = []
  · subst none
    rw [if_pos rfl] at lists
    by_cases alsoNone : others = []
    · subst alsoNone
      rw [if_pos rfl] at lists
      rw [lists]
      exact iff_of_true rfl rfl
    · rw [if_neg alsoNone] at lists
      apply absurd _ plain.1
      rw [lists]
      exact List.mem_append_right _ List.mem_cons_self
  · rw [if_neg none] at lists
    by_cases alsoNone : others = []
    · subst alsoNone
      rw [if_pos rfl] at lists
      apply absurd _ alsoPlain.1
      rw [← lists]
      exact List.mem_append_right _ List.mem_cons_self
    · rw [if_neg alsoNone] at lists
      obtain ⟨paths, keyFields⟩ :=
        Fields.append_cons_inj plain.1 alsoPlain.1 lists
      obtain ⟨sent, fragments⟩ := sent_of_keys named alsoNamed keyFields
      rw [paths, List.append_cancel_left_eq, List.cons.injEq, sentQuery,
        sentQuery, if_neg none, if_neg alsoNone]
      simp only [fragments, List.append_cancel_right_eq, true_and]
      constructor
      · intro fetches
        exact parts_of_spellings (named_sentParams named)
          (named_sentParams alsoNamed) fetches sent
      · intro same
        rw [same]

/-! Fetches of the warmer. -/

def plainChar (char : Char) : Bool :=
  char.isAlphanum || ['-', '.', '_', '~', '/', ','].contains char

/-- Targets of plain characters are read as they are written. -/
def ReadsPlainTargets (parseTarget : String → Option Uri) : Prop :=
  ∀ (path : String) (pairs : List (String × String)),
    path.toList.head? = some '/' → path.toList.all plainChar = true →
    pairs ≠ [] →
    (∀ pair ∈ pairs, pair.1.toList.all plainChar = true ∧
      pair.2.toList.all plainChar = true) →
    ∃ origin, parseTarget (path ++ "?" ++
        "&".intercalate (pairs.map fun pair => pair.1 ++ "=" ++ pair.2)) =
      some { origin, path, queries := ⟨pairs⟩ }

/-- A warm path with parameters, which are spelled in lower case. -/
def LowerCased (path : String) : Prop :=
  ∃ base rest : List Char, '?' ∉ base ∧
    path.toList = base ++ '?' :: ("contentdirectoryid=".toList ++ rest)

theorem lowerCased_append {base : String} (plain : '?' ∉ base.toList)
    (rest : String) :
    LowerCased (base ++ ("?contentdirectoryid=" ++ rest)) := by
  refine ⟨base.toList, rest.toList, plain, ?_⟩
  simp only [String.toList_append]
  rfl

theorem mem_warmPaths {sections : List String} {path : String}
    (listed : path ∈ warmPaths sections) :
    path = "/hubs/home" ∨ LowerCased path := by
  have promoted : "/hubs/promoted?contentdirectoryid=" =
      "/hubs/promoted" ++ "?contentdirectoryid=" := by decide
  have watching : "/hubs/continueWatching?contentdirectoryid=" =
      "/hubs/continueWatching" ++ "?contentdirectoryid=" := by decide
  unfold warmPaths at listed
  split at listed
  · cases listed
  · simp only [List.mem_append, List.mem_cons, List.mem_map, List.not_mem_nil,
      or_false, promoted, watching, String.append_assoc] at listed
    rcases listed with (rfl | rfl | rfl) | ⟨key, -, rfl⟩
    · exact .inr (lowerCased_append (by decide) _)
    · exact .inl rfl
    · exact .inr (lowerCased_append (by decide) _)
    · exact .inr (lowerCased_append (by decide) _)

theorem contains_question {path : String} :
    Text.contains path "?" = true ↔ '?' ∈ path.toList :=
  Text.contains_iff_mem rfl

theorem toList_warmFetchPath {path : String} (lowerCased : LowerCased path) :
    (warmFetchPath path).toList =
      path.toList ++ "&includeGuids=1&count=50".toList := by
  obtain ⟨base, rest, -, chars⟩ := lowerCased
  have question : Text.contains path "?" = true := by
    rw [contains_question, chars]
    exact List.mem_append_right _ List.mem_cons_self
  rw [warmFetchPath, if_pos question, String.toList_append]

/-- Nothing is cut off what the warmer asks for. -/
theorem requestedTarget_warm {path : String} (plain : '#' ∉ path.toList) :
    requestedTarget (warmFetchPath path) = warmFetchPath path := by
  have absent : '#' ∉ (warmFetchPath path).toList := by
    unfold warmFetchPath
    have suffixes : '#' ∉ "&includeGuids=1&count=50".toList ∧
        '#' ∉ "?includeGuids=1&count=50".toList := by decide
    split
    · simp only [String.toList_append, List.mem_append, plain, suffixes.1,
        or_self, not_false_eq_true]
    · simp only [String.toList_append, List.mem_append, plain, suffixes.2,
        or_self, not_false_eq_true]
  rw [← String.toList_inj, toList_requestedTarget]
  rw [← List.append_nil (warmFetchPath path).toList,
    Fields.takeWhile_of_notMem absent]
  rfl

theorem warmFetchPath_injective {path other : String}
    (warm : path = "/hubs/home" ∨ LowerCased path)
    (alsoWarm : other = "/hubs/home" ∨ LowerCased other)
    (same : warmFetchPath path = warmFetchPath other) : path = other := by
  have apart : ∀ lowered : String, LowerCased lowered →
      warmFetchPath lowered ≠ warmFetchPath "/hubs/home" := by
    intro lowered lowerCased equal
    have chars := congrArg String.toList equal
    have home : (warmFetchPath "/hubs/home").toList =
        "/hubs/home".toList ++ "?includeGuids=1&count=50".toList := by decide
    rw [toList_warmFetchPath lowerCased, home] at chars
    have suffixes := (List.append_inj' chars (by decide)).2
    revert suffixes
    decide
  rcases warm with rfl | lowerCased
  · rcases alsoWarm with rfl | alsoLowerCased
    · rfl
    · exact absurd same.symm (apart other alsoLowerCased)
  · rcases alsoWarm with rfl | alsoLowerCased
    · exact absurd same (apart path lowerCased)
    · have chars := congrArg String.toList same
      rw [toList_warmFetchPath lowerCased, toList_warmFetchPath alsoLowerCased,
        List.append_cancel_right_eq] at chars
      exact String.toList_injective chars

/-- Live fetches spell their parameters in another way. -/
theorem sentQuery_ne_lowerCased {parts : List (String × String)}
    (named : ∀ part ∈ parts, part.1 ∈ canonicalNames) (rest : List Char) :
    sentQuery parts ≠ "contentdirectoryid=".toList ++ rest := by
  intro same
  have starts := congrArg (List.take 8) same
  have lowered : ("contentdirectoryid=".toList ++ rest).take 8 =
      "contentd".toList := rfl
  rw [lowered] at starts
  cases parts with
  | nil =>
      revert starts
      decide
  | cons part parts =>
      obtain ⟨name, value⟩ := part
      obtain ⟨sent, others, cut⟩ : ∃ sent others,
          sentParams ((name, value) :: parts) = (name, sent) :: others := by
        unfold sentParams
        split <;> exact ⟨_, _, rfl⟩
      rw [sentQuery, if_neg (List.cons_ne_nil _ _), cut] at starts
      have spelled := named (name, value) List.mem_cons_self
      have long : ∀ name ∈ canonicalNames, 8 ≤ name.toList.length ∧
          name.toList.take 8 ≠ "contentd".toList := by decide
      obtain ⟨enough, different⟩ := long name spelled
      apply different
      rw [List.map_cons, Fields.join, List.append_assoc, fetchField,
        List.take_append_of_le_length enough] at starts
      exact starts

theorem mixed_iff {parseTarget : String → Option Uri}
    (reads : ReadsPlainTargets parseTarget) {uri warmUri : Uri}
    {path : String} (plain : uri.PlainPath)
    (warm : path = "/hubs/home" ∨ LowerCased path)
    (noFragment : '#' ∉ path.toList)
    (parsed : parseTarget (warmFetchPath path) = some warmUri)
    (keys : cacheKeyForRequest uri = cacheKeyForRequest warmUri) :
    requestedTarget (canonicalFetchPath uri (cacheKeyForRequest uri)) =
        requestedTarget (warmFetchPath path) ↔
      path = "/hubs/home" := by
  rw [requestedTarget_warm noFragment, ← String.toList_inj,
    toList_requestedTarget_live plain]
  constructor
  · intro same
    apply warm.resolve_right
    intro lowerCased
    rw [toList_warmFetchPath lowerCased] at same
    obtain ⟨base, rest, plainBase, chars⟩ := lowerCased
    rw [chars, List.append_assoc, List.cons_append] at same
    have queries := (Fields.append_cons_inj plain.1 plainBase same).2
    rw [List.append_assoc] at queries
    exact sentQuery_ne_lowerCased
      (fun part member => name_of_mem_canonicalParts member) _ queries
  · rintro rfl
    obtain ⟨origin, home⟩ := reads "/hubs/home"
      [("includeGuids", "1"), ("count", "50")] (by decide) (by decide)
      (by decide) (by decide)
    have target : "/hubs/home" ++ "?" ++ "&".intercalate
        ([("includeGuids", "1"), ("count", "50")].map fun pair =>
          pair.1 ++ "=" ++ pair.2) = warmFetchPath "/hubs/home" := by decide
    rw [target, parsed] at home
    cases home
    have noParts : canonicalParts
        ⟨[("includeGuids", "1"), ("count", "50")]⟩ = [] := by decide
    have warmKey := toList_cacheKeyForRequest
      { origin, path := "/hubs/home"
        queries := ⟨[("includeGuids", "1"), ("count", "50")]⟩ }
    rw [if_pos noParts] at warmKey
    have lists := congrArg String.toList keys
    rw [warmKey, toList_cacheKeyForRequest] at lists
    by_cases none : canonicalParts uri.queries = []
    · rw [if_pos none] at lists
      rw [lists, none]
      dsimp only
      decide
    · rw [if_neg none] at lists
      have question : '?' ∈ "/hubs/home".toList := by
        rw [← lists]
        exact List.mem_append_right _ List.mem_cons_self
      exact absurd question (by decide)

/-- Fetches that are stored under one key ask Plex for the same exactly when
their sources are alike. -/
theorem one_fetch_per_key_iff {digest : TokenDigest}
    {parseTarget : String → Option Uri}
    (reads : ReadsPlainTargets parseTarget) {first second : HubFetch}
    {source other : FetchSource}
    (made : first.MadeBy digest parseTarget source)
    (alsoMade : second.MadeBy digest parseTarget other)
    (sameKey : first.cacheKey = second.cacheKey) :
    requestedTarget first.fetchPath = requestedTarget second.fetchPath ↔
      source.Alike other := by
  cases source with
  | request uri =>
      obtain ⟨plain, keyPath, fetchPath, keyed⟩ := made
      cases other with
      | request otherUri =>
          obtain ⟨alsoPlain, otherKeyPath, otherPath, alsoKeyed⟩ := alsoMade
          rw [keyed, alsoKeyed] at sameKey
          have keys := keyPath_of_hubCacheKey_eq sameKey
          rw [keyPath, otherKeyPath] at keys
          rw [fetchPath, otherPath, keyPath, otherKeyPath]
          exact live_iff plain alsoPlain keys
      | warmer path =>
          obtain ⟨⟨sections, listed⟩, noFragment, otherPath,
            ⟨warmUri, parsed, otherKeyPath⟩, alsoKeyed⟩ := alsoMade
          rw [keyed, alsoKeyed] at sameKey
          have keys := keyPath_of_hubCacheKey_eq sameKey
          rw [keyPath, otherKeyPath] at keys
          rw [otherPath] at parsed
          rw [fetchPath, otherPath, keyPath]
          exact mixed_iff reads plain (mem_warmPaths listed) noFragment parsed
            keys
  | warmer path =>
      obtain ⟨⟨sections, listed⟩, noFragment, fetchPath,
        ⟨warmUri, parsed, keyPath⟩, keyed⟩ := made
      cases other with
      | request uri =>
          obtain ⟨plain, otherKeyPath, otherPath, alsoKeyed⟩ := alsoMade
          rw [keyed, alsoKeyed] at sameKey
          have keys := (keyPath_of_hubCacheKey_eq sameKey).symm
          rw [keyPath, otherKeyPath] at keys
          rw [fetchPath] at parsed
          rw [fetchPath, otherPath, otherKeyPath, eq_comm]
          exact mixed_iff reads plain (mem_warmPaths listed) noFragment parsed
            keys
      | warmer otherPath =>
          obtain ⟨⟨_, alsoListed⟩, alsoNoFragment, same, -, -⟩ := alsoMade
          rw [fetchPath, same, requestedTarget_warm noFragment,
            requestedTarget_warm alsoNoFragment]
          constructor
          · exact warmFetchPath_injective (mem_warmPaths listed)
              (mem_warmPaths alsoListed)
          · intro alike
            exact congrArg warmFetchPath alike

/-! Every fetch of a run has such a source. -/

/-- Requests come through the HTTP library, and section keys have no
fragments. -/
def HubAction.Plain : HubAction → Prop
  | .request _ received => received.uri.PlainPath
  | .warm sharedSections sections =>
      (∀ path ∈ warmPaths sharedSections, '#' ∉ path.toList) ∧
        ∀ token, ∀ path ∈ warmPaths (sections token), '#' ∉ path.toList
  | _ => True

structure HubState.Sourced (digest : TokenDigest)
    (parseTarget : String → Option Uri) (state : HubState) : Prop where
  tasks : ∀ task ∈ state.tasks, ∃ source,
    task.fetch.MadeBy digest parseTarget source
  queue : ∀ warm ∈ state.warmQueue,
    (∃ sections, warm.2 ∈ warmPaths sections) ∧ '#' ∉ warm.2.toList

section

variable {digest : TokenDigest} {config : Config}
  {parseTarget : String → Option Uri} {state : HubState}

theorem HubState.Sourced.addTask (sourced : state.Sourced digest parseTarget)
    {task : HubTask}
    (made : ∃ source, task.fetch.MadeBy digest parseTarget source) :
    (state.addTask task).Sourced digest parseTarget := by
  refine ⟨?_, sourced.queue⟩
  intro other listed
  rcases List.mem_append.mp listed with earlier | latest
  · exact sourced.tasks other earlier
  · cases List.mem_singleton.mp latest
    exact made

theorem made_of_hubFetch {depot : Depot} {request : Request}
    {fetch : HubFetch} (plain : request.uri.PlainPath)
    (found : hubFetch digest config depot request = some fetch) :
    fetch.MadeBy digest parseTarget (.request request.uri) := by
  unfold hubFetch at found
  split at found
  · cases found
  · split at found
    · cases found
    · cases found
      exact ⟨plain, rfl, rfl, rfl⟩

theorem HubState.Sourced.cachedHubsResponse {fetch : HubFetch}
    (sourced : state.Sourced digest parseTarget)
    (made : ∃ source, fetch.MadeBy digest parseTarget source) :
    (cachedHubsResponse config fetch state).Sourced digest parseTarget := by
  unfold Replex.cachedHubsResponse
  cases state.metadata.lookup fetch.cacheKey with
  | none => exact sourced.addTask made
  | some cached =>
      have answered : (state.answer fetch cached).Sourced digest
          parseTarget := ⟨sourced.tasks, sourced.queue⟩
      dsimp only
      split
      · exact answered.addTask made
      · exact answered

theorem HubState.Sourced.spawnHubRefresh {fetch : HubFetch}
    (sourced : state.Sourced digest parseTarget)
    (made : ∃ source, fetch.MadeBy digest parseTarget source) :
    (spawnHubRefresh fetch state).Sourced digest parseTarget := by
  unfold Replex.spawnHubRefresh
  dsimp only
  split
  · exact sourced
  · have claimed : (state.claim fetch.cacheKey).Sourced digest parseTarget :=
      ⟨sourced.tasks, sourced.queue⟩
    have added : ((state.claim fetch.cacheKey).addTask
        (.refresh fetch)).Sourced digest parseTarget := claimed.addTask made
    exact ⟨added.tasks, added.queue⟩

theorem HubState.Sourced.runTask {upstream : String → Reply MediaContainer}
    {task : HubTask} (sourced : state.Sourced digest parseTarget)
    (made : ∃ source, task.fetch.MadeBy digest parseTarget source) :
    (runTask upstream state task).Sourced digest parseTarget := by
  cases task with
  | miss fetch =>
      simp only [Replex.runTask, finishMiss]
      split
      · exact sourced
      · exact ⟨sourced.tasks, sourced.queue⟩
  | scheduled fetch => exact sourced.spawnHubRefresh made
  | refresh fetch =>
      simp only [Replex.runTask, refreshHubEntry]
      split <;> exact ⟨sourced.tasks, sourced.queue⟩
  | warm fetch =>
      simp only [Replex.runTask, refreshHubEntry]
      split <;> exact ⟨sourced.tasks, sourced.queue⟩

theorem HubState.Sourced.warmNext (sourced : state.Sourced digest parseTarget) :
    (warmNext digest parseTarget state).Sourced digest parseTarget := by
  unfold Replex.warmNext
  cases queue : state.warmQueue with
  | nil => exact sourced
  | cons warm rest =>
      obtain ⟨client, path⟩ := warm
      have listed := sourced.queue
      rw [queue] at listed
      have later : HubState.Sourced digest parseTarget
          { state with warmQueue := rest } :=
        ⟨sourced.tasks,
          fun warm member => listed warm (List.mem_cons_of_mem _ member)⟩
      dsimp only
      split
      · exact sourced
      · split
        · exact ⟨sourced.tasks, fun _ listed =>
            absurd listed List.not_mem_nil⟩
        next warmUri parsed =>
            split
            · exact later
            · obtain ⟨warmed, noFragment⟩ := listed _ List.mem_cons_self
              apply HubState.Sourced.addTask
              · exact ⟨later.tasks, later.queue⟩
              · refine ⟨.warmer path, warmed, noFragment, ?_,
                  ⟨warmUri, parsed, ?_⟩, ?_⟩
                · rw [warmFetchPath]
                  rfl
                · rfl
                · rfl

theorem mem_warmCycle {sharedSections : List String}
    {sections : String → List String} {warm : PlexClient × String}
    (listed : warm ∈ warmCycle config sharedSections sections) :
    warm.2 ∈ warmPaths sharedSections ∨
      ∃ token, warm.2 ∈ warmPaths (sections token) := by
  unfold warmCycle at listed
  split at listed
  · cases listed
  · rcases List.mem_append.mp listed with shared | own
    · obtain ⟨token, -, withToken⟩ := List.mem_flatMap.mp shared
      obtain ⟨client, -, withClient⟩ := List.mem_flatMap.mp withToken
      obtain ⟨path, kept, rfl⟩ := List.mem_map.mp withClient
      exact .inl (List.mem_of_mem_filter kept)
    · obtain ⟨token, -, withToken⟩ := List.mem_flatMap.mp own
      obtain ⟨client, -, withClient⟩ := List.mem_flatMap.mp withToken
      obtain ⟨path, kept, rfl⟩ := List.mem_map.mp withClient
      exact .inr ⟨token, List.mem_of_mem_filter kept⟩

theorem sourced_hubStep (state : HubState) (action : HubAction)
    (sourced : state.Sourced digest parseTarget) (plain : action.Plain) :
    (hubStep digest config parseTarget state action).Sourced digest
      parseTarget := by
  cases action with
  | request depot request =>
      simp only [hubStep]
      cases found : hubFetch digest config depot request with
      | none => exact sourced
      | some fetch =>
          exact sourced.cachedHubsResponse ⟨_, made_of_hubFetch plain found⟩
  | run index upstream =>
      simp only [hubStep]
      cases found : state.tasks[index]? with
      | none => exact sourced
      | some task =>
          have made := sourced.tasks task (List.mem_of_getElem? found)
          have fewer : HubState.Sourced digest parseTarget
              { state with tasks := state.tasks.eraseIdx index } :=
            ⟨fun task member =>
              sourced.tasks task (List.mem_of_mem_eraseIdx member),
              sourced.queue⟩
          exact fewer.runTask made
  | warm sharedSections sections =>
      simp only [hubStep]
      split
      · refine ⟨sourced.tasks, ?_⟩
        intro warm listed
        rcases mem_warmCycle listed with shared | ⟨token, own⟩
        · exact ⟨⟨_, shared⟩, plain.1 _ shared⟩
        · exact ⟨⟨_, own⟩, plain.2 token _ own⟩
      · exact sourced
  | warmNext => exact sourced.warmNext
  | getCached context lookup payload =>
      simp only [hubStep]
      split
      · exact sourced
      · exact ⟨sourced.tasks, sourced.queue⟩
  | forget key => exact ⟨sourced.tasks, sourced.queue⟩
  | markAllHubsStale => exact ⟨sourced.tasks, sourced.queue⟩
  | wait seconds => exact ⟨sourced.tasks, sourced.queue⟩

end

/-- What a run of the hub cache fetches, it fetches for a request or for a warm
path. -/
theorem sourced_hubRun (digest : TokenDigest) (config : Config)
    (parseTarget : String → Option Uri) {actions : List HubAction}
    (plain : ∀ action ∈ actions, action.Plain) :
    (hubRun digest config parseTarget actions).Sourced digest parseTarget := by
  have initial : HubState.Sourced digest parseTarget {} :=
    ⟨fun _ listed => absurd listed List.not_mem_nil,
      fun _ listed => absurd listed List.not_mem_nil⟩
  exact Transition.invariant_of_meets sourced_hubStep initial
    (Transition.meets_of_forall (hubStep digest config parseTarget) plain {})

/-! A reader of targets, and two requests for one key. -/

def readPair (text : String) : String × String :=
  match Text.split '=' text with
  | [name, value] => (name, value)
  | _ => (text, "")

def readTarget (target : String) : Option Uri :=
  match Text.split '?' target with
  | [path, query] =>
      some
        { origin := ""
          path
          queries := ⟨(Text.split '&' query).map readPair⟩ }
  | _ => none

theorem notMem_of_plain {text : List Char} (plain : text.all plainChar = true)
    {symbol : Char} (special : plainChar symbol = false) : symbol ∉ text := by
  intro listed
  have kept := List.all_eq_true.mp plain symbol listed
  rw [special] at kept
  cases kept

theorem readPair_append {name value : String}
    (plainName : '=' ∉ name.toList) (plainValue : '=' ∉ value.toList) :
    readPair (name ++ "=" ++ value) = (name, value) := by
  have single : "=".toList = ['='] := by decide
  rw [readPair, Text.split_append single, Text.split_of_not_mem plainName,
    Text.split_of_not_mem plainValue]
  rfl

/-- A text without the symbols that separate the parts of a target. -/
def Unseparated (text : String) : Prop :=
  ∀ symbol ∈ ['?', '&', '='], symbol ∉ text.toList

theorem unseparated_of_plain {text : String}
    (plain : text.toList.all plainChar = true) : Unseparated text := by
  intro symbol listed
  have special : ∀ symbol ∈ ['?', '&', '='], plainChar symbol = false := by
    intro symbol among
    simp only [List.mem_cons, List.not_mem_nil, or_false] at among
    rcases among with rfl | rfl | rfl <;> decide
  exact notMem_of_plain plain (special symbol listed)

theorem readTarget_eq {path : String} {pairs : List (String × String)}
    (plainPath : '?' ∉ path.toList) (some : pairs ≠ [])
    (plainPairs : ∀ pair ∈ pairs, Unseparated pair.1 ∧ Unseparated pair.2) :
    readTarget (path ++ "?" ++
        "&".intercalate (pairs.map fun pair => pair.1 ++ "=" ++ pair.2)) =
      .some { origin := "", path, queries := ⟨pairs⟩ } := by
  have single : "?".toList = ['?'] := by decide
  have absent : ∀ symbol ∈ ['?', '&', '='], symbol ≠ '=' →
      ∀ text ∈ pairs.map fun pair => pair.1 ++ "=" ++ pair.2,
        symbol ∉ text.toList := by
    intro symbol special different text listed
    obtain ⟨pair, member, rfl⟩ := List.mem_map.mp listed
    obtain ⟨plainName, plainValue⟩ := plainPairs pair member
    have equals : "=".toList = ['='] := by decide
    simp only [String.toList_append, List.mem_append, equals,
      List.mem_singleton]
    intro found
    rcases found with (early | separator) | late
    · exact plainName symbol special early
    · exact different separator
    · exact plainValue symbol special late
  have query : Text.split '?'
      ("&".intercalate (pairs.map fun pair => pair.1 ++ "=" ++ pair.2)) =
        ["&".intercalate (pairs.map fun pair => pair.1 ++ "=" ++ pair.2)] := by
    apply Text.split_of_not_mem
    intro listed
    rcases Text.mem_intercalate rfl listed with between | ⟨text, member, held⟩
    · exact absurd between (by decide)
    · exact absent '?' (by decide) (by decide) text member held
  have fields : Text.split '&'
      ("&".intercalate (pairs.map fun pair => pair.1 ++ "=" ++ pair.2)) =
        pairs.map fun pair => pair.1 ++ "=" ++ pair.2 :=
    Text.split_intercalate rfl (by simpa using some)
      (absent '&' (by decide) (by decide))
  have pairsBack : (pairs.map fun pair => pair.1 ++ "=" ++ pair.2).map
      readPair = pairs := by
    rw [List.map_map]
    conv => rhs; rw [← List.map_id pairs]
    apply List.map_congr_left
    intro pair member
    obtain ⟨plainName, plainValue⟩ := plainPairs pair member
    exact readPair_append (plainName '=' (by decide))
      (plainValue '=' (by decide))
  rw [readTarget, Text.split_append single, Text.split_of_not_mem plainPath,
    query]
  simp only [List.cons_append, List.nil_append, fields, pairsBack]

theorem readTarget_reads : ReadsPlainTargets readTarget := by
  intro path pairs _ plainPath some plainPairs
  refine ⟨"", readTarget_eq ?_ some ?_⟩
  · exact notMem_of_plain plainPath (by decide)
  · intro pair member
    obtain ⟨plainName, plainValue⟩ := plainPairs pair member
    exact ⟨unseparated_of_plain plainName, unseparated_of_plain plainValue⟩

/-- The fetch of a request, as a live miss makes it. -/
def promotedFetch (queries : Queries) : HubFetch :=
  let uri : Uri := { origin := "http://replex", path := "/hubs/promoted", queries }
  let keyPath := cacheKeyForRequest uri
  { client := { host := "http://plex:32400", context := {} }
    keyPath
    fetchPath := canonicalFetchPath uri keyPath
    cacheKey := hubCacheKey viewerDigest keyPath none }

theorem promotedFetch_made (queries : Queries) :
    (promotedFetch queries).MadeBy viewerDigest readTarget
      (.request
        { origin := "http://replex", path := "/hubs/promoted", queries }) := by
  refine ⟨⟨?_, ?_⟩, rfl, rfl, rfl⟩
  · show '?' ∉ "/hubs/promoted".toList
    decide
  · show '#' ∉ "/hubs/promoted".toList
    decide

theorem promotedFetch_cacheKey (queries : Queries) :
    (promotedFetch queries).cacheKey =
      hubCacheKey viewerDigest (promotedFetch queries).keyPath none :=
  rfl

theorem promotedFetch_sent_iff {queries others : Queries}
    (keys : (promotedFetch queries).keyPath =
      (promotedFetch others).keyPath) :
    requestedTarget (promotedFetch queries).fetchPath =
        requestedTarget (promotedFetch others).fetchPath ↔
      sentParams (canonicalParts queries) =
        sentParams (canonicalParts others) :=
  live_iff (promotedFetch_made queries).1 (promotedFetch_made others).1 keys

theorem directories_in_any_order_fetched_alike :
    requestedTarget
        (promotedFetch ⟨[("contentDirectoryID", "2,1")]⟩).fetchPath =
      requestedTarget
        (promotedFetch ⟨[("contentdirectoryid", "1, 2")]⟩).fetchPath := by
  have keys : (promotedFetch ⟨[("contentDirectoryID", "2,1")]⟩).keyPath =
      (promotedFetch ⟨[("contentdirectoryid", "1, 2")]⟩).keyPath := by
    decide +kernel
  apply (one_fetch_per_key_iff readTarget_reads
    (promotedFetch_made ⟨[("contentDirectoryID", "2,1")]⟩)
    (promotedFetch_made ⟨[("contentdirectoryid", "1, 2")]⟩)
    (by rw [promotedFetch_cacheKey, promotedFetch_cacheKey, keys])).mpr
  show sentParams _ = sentParams _
  decide +kernel

/-- A value with an ampersand reads like two parameters in the key, and the
warmer spells the parameters in another way than a request does. -/
theorem one_key_fetched_in_two_ways :
    (let joined := promotedFetch
        ⟨[("contentDirectoryID", "1&pinnedcontentdirectoryid=2")]⟩
      let separate := promotedFetch
        ⟨[("contentDirectoryID", "1"), ("pinnedContentDirectoryID", "2")]⟩
      joined.cacheKey = separate.cacheKey ∧
        requestedTarget joined.fetchPath ≠
          requestedTarget separate.fetchPath) ∧
    (let live := promotedFetch
        ⟨[("contentDirectoryID", "1"), ("pinnedContentDirectoryID", "1")]⟩
      ∃ path ∈ warmPaths ["1"],
        (readTarget (warmFetchPath path)).map (fun uri =>
          hubCacheKey viewerDigest (cacheKeyForRequest uri) none) =
            some live.cacheKey ∧
        requestedTarget (warmFetchPath path) ≠
          requestedTarget live.fetchPath) := by
  constructor
  · have keys : (promotedFetch
          ⟨[("contentDirectoryID", "1&pinnedcontentdirectoryid=2")]⟩).keyPath =
        (promotedFetch ⟨[("contentDirectoryID", "1"),
          ("pinnedContentDirectoryID", "2")]⟩).keyPath := by decide +kernel
    refine ⟨by rw [promotedFetch_cacheKey, promotedFetch_cacheKey, keys], ?_⟩
    rw [ne_eq, promotedFetch_sent_iff keys]
    decide +kernel
  · have listed :
        "/hubs/promoted?contentdirectoryid=1&pinnedcontentdirectoryid=1" ∈
          warmPaths ["1"] := List.mem_cons_self
    have keys : (readTarget (warmFetchPath
        "/hubs/promoted?contentdirectoryid=1&pinnedcontentdirectoryid=1")).map
          cacheKeyForRequest =
        some (promotedFetch ⟨[("contentDirectoryID", "1"),
          ("pinnedContentDirectoryID", "1")]⟩).keyPath := by decide +kernel
    obtain ⟨uri, parsed, same⟩ := Option.map_eq_some_iff.mp keys
    refine ⟨_, listed, ?_, ?_⟩
    · rw [parsed, Option.map_some, same, promotedFetch_cacheKey]
    · intro alike
      have made := promotedFetch_made ⟨[("contentDirectoryID", "1"),
        ("pinnedContentDirectoryID", "1")]⟩
      have home := (mixed_iff readTarget_reads made.1 (mem_warmPaths listed)
        (by decide) parsed same.symm).mp alike.symm
      revert home
      decide

end Replex
