import Replex.HubCache.Servers
import Replex.Routes.Surfaces

namespace Replex

open Data

/-! The slot decision in front of the promoted hubs, and the entries of the
warmer that the requests behind it find. -/

/-- `ctrl.skip_rest` accompanies the rendered container and nothing else. -/
structure DirectoryOutcome where
  uri : Uri
  status : Option StatusCode := none
  rendered : Option MediaContainer := none

def isMobileClient (plex : PlexContext) : Bool :=
  [Platform.ios, .android, .tvOS].contains (plex.platform.getD .generic)

/-- One request for all directories, the first slot, or no slot at all. -/
def isFirstSlot (plex : PlexContext) (firstPinned : String) : Bool :=
  match plex.contentDirectoryId with
  | some ids => decide (1 < ids.length) || ids.head? == some firstPinned
  | none => true

def transformReqContentDirectory (codec : UrlCodec) (config : Config)
    (depot : Depot) (uri : Uri) : DirectoryOutcome :=
  if depot.skipOptionalTransforms then
    { uri }
  else if !config.interleave then
    { uri }
  else
    match depot.requestContext with
    | none => { uri, status := some 400 }
    | some context =>
        match plexClientFromDepot config context.plex depot with
        | .error _ => { uri, status := some 401 }
        | .ok _ =>
            match context.plex.pinnedContentDirectoryId with
            | none | some [] => { uri }
            | some (firstPinned :: pinned) =>
                if !isFirstSlot context.plex firstPinned &&
                    !isMobileClient context.plex then
                  { uri, rendered := some { size := some 0 } }
                else
                  { uri := addQueryParamSalvo codec "contentDirectoryID"
                      (",".intercalate (firstPinned :: pinned)) uri }

section

variable {codec : UrlCodec} {config : Config} {depot : Depot}
  {context : RequestContext} {client : PlexClient}

/-- The empty container goes to the slots that are served one. -/
theorem rendered_transformReqContentDirectory
    (present : depot.requestContext = some context)
    (built : plexClientFromDepot config context.plex depot = .ok client)
    (lookups : Lookups) (uri : Uri) :
    (transformReqContentDirectory codec config depot uri).rendered =
      if servesEmptySlot
          { toLookups := lookups
            settings := config.toDisplaySettings
            options := context.plex } depot.skipOptionalTransforms then
        some { size := some 0 }
      else
        none := by
  unfold transformReqContentDirectory servesEmptySlot
  cases depot.skipOptionalTransforms with
  | true => rfl
  | false =>
      cases config.interleave with
      | false => rfl
      | true =>
          simp only [present, built]
          cases context.plex.pinnedContentDirectoryId with
          | none => rfl
          | some pinned =>
              cases pinned with
              | nil => rfl
              | cons firstPinned pinned =>
                  by_cases empty : (!isFirstSlot context.plex firstPinned &&
                      !isMobileClient context.plex) = true
                  · simp only [empty, if_true]
                    exact (if_pos empty).symm
                  · simp only [empty]
                    exact (if_neg empty).symm

end

/-! What a request says about its directories. -/

/-- The context holds the directories of the query, each under its exact
name. -/
structure DirectoriesExtracted (plex : PlexContext) (queries : Queries) :
    Prop where
  directory : plex.contentDirectoryId =
    deserializeCommaSeperatedString (queries.get? "contentDirectoryID")
  pinned : plex.pinnedContentDirectoryId =
    deserializeCommaSeperatedString (queries.get? "pinnedContentDirectoryID")

/-- The requests that are given the full merge of their pinned directories. -/
inductive AsksForMerge (plex : PlexContext) (firstPinned : String) : Prop where
  | absent (directory : plex.contentDirectoryId = none)
  | first (directory : plex.contentDirectoryId = some [firstPinned])
  | several {ids : List String} (directory : plex.contentDirectoryId = some ids)
      (listed : 1 < ids.length)
  | mobile (client : isMobileClient plex = true)

structure Uri.WithoutPaging (uri : Uri) : Prop where
  start : uri.queries.get? "X-Plex-Container-Start" = none
  startLower : uri.queries.get? "x-plex-container-start" = none
  size : uri.queries.get? "X-Plex-Container-Size" = none
  sizeLower : uri.queries.get? "x-plex-container-size" = none

/-- The target parses, keeps its path and converts back with the parameter. -/
def UrlCodec.Sets (codec : UrlCodec) (param value : String) (uri : Uri) :
    Prop :=
  ∃ origin, codec.parse? uri.origin uri.path = some (origin, uri.path) ∧
    codec.converts ⟨origin, uri.path, uri.queries.set param value⟩ = true

theorem addQueryParamSalvo_of_sets {codec : UrlCodec} {param value : String}
    {uri : Uri} (sets : codec.Sets param value uri) :
    (addQueryParamSalvo codec param value uri).path = uri.path ∧
      (addQueryParamSalvo codec param value uri).queries =
        uri.queries.set param value := by
  obtain ⟨origin, parsed, converts⟩ := sets
  unfold addQueryParamSalvo
  simp only [parsed, converts, if_true, and_self]

/-! Lists of section keys, and their canonical text. -/

/-- What a URL gives a meaning to, and white space. -/
def reservedChar (char : Char) : Bool :=
  Text.isWhiteSpace char || ":/?#[]@!$&'()*+,;=%".toList.contains char

structure SectionKey (key : String) : Prop where
  some : key ≠ ""
  unreserved : ∀ char ∈ key.toList, reservedChar char = false

theorem SectionKey.notMem {key : String} (plain : SectionKey key)
    {symbol : Char} (reserved : reservedChar symbol = true) :
    symbol ∉ key.toList := by
  intro listed
  have kept := plain.unreserved symbol listed
  rw [reserved] at kept
  cases kept

theorem SectionKey.trim {key : String} (plain : SectionKey key) :
    Text.trim key = key := by
  apply Text.trim_of_no_whiteSpace
  intro char listed
  have kept := plain.unreserved char listed
  unfold reservedChar at kept
  rw [Bool.or_eq_false_iff] at kept
  exact kept.1

theorem insertionSort_of_perm {keys others : List String}
    (same : keys.Perm others) :
    keys.insertionSort (· ≤ ·) = others.insertionSort (· ≤ ·) := by
  apply List.Perm.eq_of_pairwise' (r := (· ≤ ·))
  · exact List.pairwise_insertionSort (· ≤ ·) keys
  · exact List.pairwise_insertionSort (· ≤ ·) others
  · exact (List.perm_insertionSort (· ≤ ·) keys).trans
      (same.trans (List.perm_insertionSort (· ≤ ·) others).symm)

/-- A list of keys has one canonical text, whichever way it is ordered. -/
theorem canonicalIds_intercalate {keys : List String} (some : keys ≠ [])
    (plain : ∀ key ∈ keys, SectionKey key) :
    canonicalIds (",".intercalate keys) =
      ",".intercalate (keys.insertionSort (· ≤ ·)) := by
  have noComma : ∀ key ∈ keys, ',' ∉ key.toList := fun key listed =>
    (plain key listed).notMem (by decide)
  have parts : Text.split ',' (",".intercalate keys) = keys :=
    Text.split_intercalate rfl some noComma
  unfold canonicalIds
  split
  · have trimmed : keys.map Text.trim = keys := by
      conv => rhs; rw [← List.map_id keys]
      apply List.map_congr_left
      intro key listed
      exact (plain key listed).trim
    have kept : keys.filter (fun key => key ≠ "") = keys := by
      rw [List.filter_eq_self]
      intro key listed
      simpa using (plain key listed).some
    rw [parts, trimmed, kept]
  next single =>
      -- Without a comma there is only one key.
      have absent : ',' ∉ (",".intercalate keys).toList := fun listed =>
        single ((Text.contains_iff_mem rfl).mpr listed)
      rw [Text.split_of_not_mem absent] at parts
      rw [← parts]
      simp

/-- The cache key of a request for directories, whichever way it spells the
names of the parameters. -/
theorem cacheKeyForRequest_directories {uri : Uri} {directory pinned : String}
    (directories : (uri.queries.get? "contentDirectoryID").or
      (uri.queries.get? "contentdirectoryid") = some directory)
    (pins : (uri.queries.get? "pinnedContentDirectoryID").or
      (uri.queries.get? "pinnedcontentdirectoryid") = some pinned)
    (whole : uri.WithoutPaging) :
    cacheKeyForRequest uri =
      uri.path ++ "?" ++ "&".intercalate
        ["contentdirectoryid" ++ "=" ++ canonicalIds directory,
          "pinnedcontentdirectoryid" ++ "=" ++ canonicalIds pinned] := by
  have lower : ["contentDirectoryID", "pinnedContentDirectoryID",
      "X-Plex-Container-Start", "X-Plex-Container-Size"].map
        Text.toLowercase =
      ["contentdirectoryid", "pinnedcontentdirectoryid",
        "x-plex-container-start", "x-plex-container-size"] := by decide
  simp only [List.map_cons, List.map_nil, List.cons.injEq, and_true] at lower
  obtain ⟨directoryLower, pinnedLower, startLower, sizeLower⟩ := lower
  have ordered : ("contentDirectoryID" : String) ≤
      "pinnedContentDirectoryID" := by decide
  have parts : canonicalParts uri.queries =
      [("contentDirectoryID", canonicalIds directory),
        ("pinnedContentDirectoryID", canonicalIds pinned)] := by
    simp only [canonicalParts, List.filterMap_cons, List.filterMap_nil,
      directoryLower, pinnedLower, startLower, sizeLower, directories, pins,
      whole.start, whole.startLower, whole.size, whole.sizeLower,
      Option.or_none, Option.map_none, Option.map_some,
      List.insertionSort_cons, List.insertionSort_nil, List.orderedInsert_nil,
      List.orderedInsert_cons, ordered, if_true]
  simp only [cacheKeyForRequest, parts, List.map_cons, List.map_nil,
    directoryLower, pinnedLower]

/-- The path of the warmer that stands for all sections at once. -/
def aggregatePromotedPath (sections : List String) : String :=
  let joined := ",".intercalate (sections.insertionSort (· ≤ ·))
  "/hubs/promoted?contentdirectoryid=" ++ joined ++
    "&pinnedcontentdirectoryid=" ++ joined

theorem head?_warmPaths {sections : List String} (some : sections ≠ []) :
    (warmPaths sections).head? = .some (aggregatePromotedPath sections) := by
  rw [warmPaths, if_neg some]
  rfl

/-- Whatever the parser accepts, it reads as it is written, and it accepts
plain characters. -/
structure ReadsTargets (parseTarget : String → Option Uri) : Prop where
  plain : ReadsPlainTargets parseTarget
  unreserved : ∀ (path : String) (pairs : List (String × String)) (uri : Uri),
    path.toList.head? = some '/' → path.toList.all plainChar = true →
    pairs ≠ [] →
    (∀ pair ∈ pairs, ∀ char ∈ pair.1.toList ++ pair.2.toList,
      char = ',' ∨ reservedChar char = false) →
    parseTarget (path ++ "?" ++
      "&".intercalate (pairs.map fun pair => pair.1 ++ "=" ++ pair.2)) =
        some uri →
    uri.path = path ∧ uri.queries = ⟨pairs⟩

def aggregatePairs (sections : List String) : List (String × String) :=
  let joined := ",".intercalate (sections.insertionSort (· ≤ ·))
  [("contentdirectoryid", joined), ("pinnedcontentdirectoryid", joined),
    ("includeGuids", "1"), ("count", "50")]

theorem warmFetchPath_aggregate (sections : List String) :
    warmFetchPath (aggregatePromotedPath sections) =
      "/hubs/promoted" ++ "?" ++ "&".intercalate
        ((aggregatePairs sections).map fun pair =>
          pair.1 ++ "=" ++ pair.2) := by
  unfold warmFetchPath aggregatePromotedPath aggregatePairs
  generalize ",".intercalate (sections.insertionSort (· ≤ ·)) = joined
  rw [if_pos]
  · apply String.toList_injective
    simp [String.toList_append, String.intercalate_cons_of_ne_nil]
  · rw [contains_question]
    simp

/-- The key of a request that asks for all of these sections, in some order. -/
theorem cacheKey_of_sections {uri : Uri} {sections directory pinned : List String}
    (keys : ∀ key ∈ sections, SectionKey key) (some : sections ≠ [])
    (sameDirectory : directory.Perm sections) (samePinned : pinned.Perm sections)
    (directories : (uri.queries.get? "contentDirectoryID").or
      (uri.queries.get? "contentdirectoryid") =
        .some (",".intercalate directory))
    (pins : (uri.queries.get? "pinnedContentDirectoryID").or
      (uri.queries.get? "pinnedcontentdirectoryid") =
        .some (",".intercalate pinned))
    (whole : uri.WithoutPaging) :
    cacheKeyForRequest uri = uri.path ++ "?" ++ "&".intercalate
      ((aggregatePairs sections).take 2 |>.map fun pair =>
        pair.1 ++ "=" ++ pair.2) := by
  have canonical : ∀ ids : List String, ids.Perm sections →
      canonicalIds (",".intercalate ids) =
        ",".intercalate (sections.insertionSort (· ≤ ·)) := by
    intro ids same
    rw [canonicalIds_intercalate, insertionSort_of_perm same]
    · rintro rfl
      exact some same.nil_eq.symm
    · exact fun key listed => keys key (same.mem_iff.mp listed)
  rw [cacheKeyForRequest_directories directories pins whole,
    canonical directory sameDirectory, canonical pinned samePinned]
  rfl

theorem hubCacheKey_promoted (digest : TokenDigest) (rest : String)
    (token : Option String) :
    hubCacheKey digest ("/hubs/promoted" ++ rest) token =
      "hubcache:global:" ++ ("/hubs/promoted" ++ rest) := by
  have shared : isSharedPath ("/hubs/promoted" ++ rest) = true := by
    rw [isSharedPath, Text.startsWith_append, Bool.true_or]
  unfold hubCacheKey
  rw [if_pos shared]

section

variable {codec : UrlCodec} {config : Config} {depot : Depot}
  {context : RequestContext} {uri : Uri} {sections pinned : List String}

/-- A request for the promoted hubs of all pinned sections, from a client that
does not opt out of the transforms. -/
structure MergeRequest (codec : UrlCodec) (config : Config) (depot : Depot)
    (context : RequestContext) (uri : Uri) (pinned : List String) : Prop where
  promoted : uri.path = "/hubs/promoted"
  whole : uri.WithoutPaging
  pins : uri.queries.get? "pinnedContentDirectoryID" =
    some (",".intercalate pinned)
  present : depot.requestContext = some context
  extracted : DirectoriesExtracted context.plex uri.queries
  asks : ∃ firstPinned, pinned.head? = some firstPinned ∧
    AsksForMerge context.plex firstPinned
  interleave : config.interleave = true
  transforms : depot.skipOptionalTransforms = false
  sets : codec.Sets "contentDirectoryID" (",".intercalate pinned) uri

theorem transformReqContentDirectory_of_merge
    (merge : MergeRequest codec config depot context uri pinned)
    (keys : ∀ key ∈ pinned, SectionKey key) {client : PlexClient}
    (built : plexClientFromDepot config context.plex depot = .ok client) :
    (transformReqContentDirectory codec config depot uri).uri =
      addQueryParamSalvo codec "contentDirectoryID" (",".intercalate pinned)
        uri := by
  obtain ⟨firstPinned, head, asks⟩ := merge.asks
  obtain ⟨rest, rfl⟩ : ∃ rest, pinned = firstPinned :: rest := by
    cases pinned with
    | nil => cases head
    | cons key rest =>
        cases head
        exact ⟨rest, rfl⟩
  have pinnedIds : context.plex.pinnedContentDirectoryId =
      some (firstPinned :: rest) := by
    rw [merge.extracted.pinned, merge.pins, deserializeCommaSeperatedString,
      Option.map_some]
    congr 1
    apply Text.split_intercalate rfl (List.cons_ne_nil _ _)
    exact fun key listed => (keys key listed).notMem (by decide)
  have served : (!isFirstSlot context.plex firstPinned &&
      !isMobileClient context.plex) = false := by
    unfold isFirstSlot
    cases asks with
    | absent directory => simp [directory]
    | first directory => simp [directory]
    | several directory listed => simp [directory, listed]
    | mobile client => simp [client]
  unfold transformReqContentDirectory
  simp only [merge.transforms, merge.interleave, merge.present, built,
    pinnedIds, served, Bool.false_eq_true, if_false, Bool.not_true]

theorem cacheKey_of_merge
    (merge : MergeRequest codec config depot context uri pinned)
    (keys : ∀ key ∈ sections, SectionKey key) (some : sections ≠ [])
    (order : pinned.Perm sections) :
    cacheKeyForRequest (addQueryParamSalvo codec "contentDirectoryID"
        (",".intercalate pinned) uri) =
      "/hubs/promoted" ++ "?" ++ "&".intercalate
        ((aggregatePairs sections).take 2 |>.map fun pair =>
          pair.1 ++ "=" ++ pair.2) := by
  obtain ⟨path, queries⟩ := addQueryParamSalvo_of_sets merge.sets
  have kept : ∀ name : String, "contentDirectoryID" ≠ name →
      (addQueryParamSalvo codec "contentDirectoryID"
        (",".intercalate pinned) uri).queries.get? name =
          uri.queries.get? name := by
    intro name different
    rw [queries]
    exact MultiMap.get?_congr (MultiMap.getAll_set_of_ne _ different _)
  rw [← merge.promoted, ← path]
  apply cacheKey_of_sections keys some order order
  · rw [queries, MultiMap.get?, MultiMap.getAll_set_self]
    rfl
  · rw [kept "pinnedContentDirectoryID" (by decide), merge.pins]
    rfl
  · obtain ⟨start, startLower, size, sizeLower⟩ := merge.whole
    constructor
    · rw [kept _ (by decide), start]
    · rw [kept _ (by decide), startLower]
    · rw [kept _ (by decide), size]
    · rw [kept _ (by decide), sizeLower]

theorem cacheKey_of_aggregate {uri : Uri}
    (keys : ∀ key ∈ sections, SectionKey key) (some : sections ≠ [])
    (path : uri.path = "/hubs/promoted")
    (queries : uri.queries = ⟨aggregatePairs sections⟩) :
    cacheKeyForRequest uri =
      "/hubs/promoted" ++ "?" ++ "&".intercalate
        ((aggregatePairs sections).take 2 |>.map fun pair =>
          pair.1 ++ "=" ++ pair.2) := by
  have sorted := List.perm_insertionSort (· ≤ ·) sections
  rw [← path]
  apply cacheKey_of_sections keys some sorted sorted
  · rw [queries]
    rfl
  · rw [queries]
    rfl
  · constructor
    · rw [queries]
      rfl
    · rw [queries]
      rfl
    · rw [queries]
      rfl
    · rw [queries]
      rfl

def fixedTexts : List String :=
  ["contentdirectoryid", "pinnedcontentdirectoryid", "includeGuids", "count",
    "1", "50"]

/-- A character that the names and numbers of the target, the commas and the
keys all have a property of. -/
theorem forall_aggregatePairs {accepts : Char → Prop} (comma : accepts ',')
    (kept : ∀ key ∈ sections, ∀ char ∈ key.toList, accepts char)
    (fixed : ∀ text ∈ fixedTexts, ∀ char ∈ text.toList, accepts char) :
    ∀ pair ∈ aggregatePairs sections,
      ∀ char ∈ pair.1.toList ++ pair.2.toList, accepts char := by
  have joined : ∀ char ∈
      (",".intercalate (sections.insertionSort (· ≤ ·))).toList,
        accepts char := by
    intro char listed
    rcases Text.mem_intercalate rfl listed with rfl | ⟨key, member, held⟩
    · exact comma
    · exact kept key ((List.mem_insertionSort (· ≤ ·)).mp member) char held
  intro pair listed char held
  simp only [aggregatePairs, List.mem_cons, List.not_mem_nil, or_false]
    at listed
  rcases listed with rfl | rfl | rfl | rfl
  · rcases List.mem_append.mp held with name | value
    · exact fixed _ (by simp [fixedTexts]) char name
    · exact joined char value
  · rcases List.mem_append.mp held with name | value
    · exact fixed _ (by simp [fixedTexts]) char name
    · exact joined char value
  · rcases List.mem_append.mp held with name | value
    · exact fixed _ (by simp [fixedTexts]) char name
    · exact fixed _ (by simp [fixedTexts]) char value
  · rcases List.mem_append.mp held with name | value
    · exact fixed _ (by simp [fixedTexts]) char name
    · exact fixed _ (by simp [fixedTexts]) char value

/-- Where the warmer puts the promoted hubs of all sections is where a request
for them looks. -/
theorem warmed_promoted_entry_found {digest : TokenDigest}
    {parseTarget : String → Option Uri} (reads : ReadsTargets parseTarget)
    (keys : ∀ key ∈ sections, SectionKey key) (order : pinned.Perm sections)
    (merge : MergeRequest codec config depot context uri pinned)
    {request : Request} {fetch : HubFetch}
    (transformed : request.uri =
      (transformReqContentDirectory codec config depot uri).uri)
    (made : hubFetch digest config depot request = some fetch)
    {path : String} (first : (warmPaths sections).head? = some path)
    {state : HubState} {warmer : PlexClient}
    {queue : List (PlexClient × String)}
    (queued : state.warmQueue = (warmer, path) :: queue) :
    (∀ stored ∈ nextWarmKey digest parseTarget state,
      stored = (warmer, fetch.cacheKey)) ∧
    ((∀ key ∈ sections, key.toList.all plainChar = true) →
      nextWarmKey digest parseTarget state =
        some (warmer, fetch.cacheKey)) := by
  have some : sections ≠ [] := by
    rintro rfl
    cases first
  have samePath : aggregatePromotedPath sections = path :=
    Option.some.inj ((head?_warmPaths some).symm.trans first)
  subst samePath
  obtain ⟨client, built, cacheKey⟩ : ∃ client,
      plexClientFromDepot config context.plex depot = .ok client ∧
      fetch.cacheKey = hubCacheKey digest (cacheKeyForRequest
        (transformReqContentDirectory codec config depot uri).uri)
          client.context.token := by
    unfold hubFetch at made
    simp only [merge.present] at made
    split at made
    · cases made
    next client built =>
        cases made
        rw [← transformed]
        exact ⟨client, built, rfl⟩
  have pinnedKeys : ∀ key ∈ pinned, SectionKey key := fun key listed =>
    keys key (order.mem_iff.mp listed)
  rw [transformReqContentDirectory_of_merge merge pinnedKeys built,
    cacheKey_of_merge merge keys some order, String.append_assoc,
    hubCacheKey_promoted] at cacheKey
  have read : ∀ warmUri : Uri, warmUri.path = "/hubs/promoted" →
      warmUri.queries = ⟨aggregatePairs sections⟩ →
      hubCacheKey digest (cacheKeyForRequest warmUri) warmer.context.token =
        fetch.cacheKey := by
    intro warmUri path queries
    rw [cacheKey_of_aggregate keys some path queries, String.append_assoc,
      hubCacheKey_promoted, cacheKey]
  have target := warmFetchPath_aggregate sections
  unfold nextWarmKey
  simp only [queued]
  constructor
  · intro stored found
    obtain ⟨warmUri, parsed, rfl⟩ := Option.map_eq_some_iff.mp found
    rw [target] at parsed
    have fixed : ∀ text ∈ fixedTexts,
        text.toList.all (fun char => !reservedChar char) = true := by
      decide
    obtain ⟨path, queries⟩ := reads.unreserved "/hubs/promoted"
      (aggregatePairs sections) warmUri (by decide) (by decide)
      (List.cons_ne_nil _ _)
      (forall_aggregatePairs (.inl rfl)
        (fun key listed char member =>
          .inr ((keys key listed).unreserved char member))
        fun text listed char member => .inr (by
          simpa using List.all_eq_true.mp (fixed text listed) char member))
      parsed
    rw [read warmUri path queries]
  · intro plain
    have fixed : ∀ text ∈ fixedTexts, text.toList.all plainChar = true := by
      decide
    have each : ∀ pair ∈ aggregatePairs sections,
        ∀ char ∈ pair.1.toList ++ pair.2.toList, plainChar char = true :=
      forall_aggregatePairs (by decide)
        (fun key listed => List.all_eq_true.mp (plain key listed))
        fun text listed => List.all_eq_true.mp (fixed text listed)
    obtain ⟨origin, parsed⟩ := reads.plain "/hubs/promoted"
      (aggregatePairs sections) (by decide) (by decide)
      (List.cons_ne_nil _ _) fun pair listed =>
        ⟨List.all_eq_true.mpr fun char member =>
            each pair listed char (List.mem_append_left _ member),
          List.all_eq_true.mpr fun char member =>
            each pair listed char (List.mem_append_right _ member)⟩
    rw [target, parsed, Option.map_some, read _ rfl rfl]

end

/-! A viewer with two pinned sections, who asks for the first slot. -/

theorem readTarget_readsTargets : ReadsTargets readTarget where
  plain := readTarget_reads
  unreserved := by
    intro path pairs uri _ plainPath some unreserved accepted
    have special : ∀ symbol ∈ ['?', '&', '='],
        symbol ≠ ',' ∧ reservedChar symbol = true := by
      intro symbol among
      simp only [List.mem_cons, List.not_mem_nil, or_false] at among
      rcases among with rfl | rfl | rfl <;> decide
    have absent : ∀ pair ∈ pairs, Unseparated pair.1 ∧ Unseparated pair.2 := by
      intro pair member
      have kept : ∀ symbol ∈ ['?', '&', '='],
          symbol ∉ pair.1.toList ++ pair.2.toList := by
        intro symbol listed held
        obtain ⟨noComma, reserved⟩ := special symbol listed
        rcases unreserved pair member symbol held with comma | plain
        · exact noComma comma
        · rw [reserved] at plain
          cases plain
      constructor
      · exact fun symbol listed held =>
          kept symbol listed (List.mem_append_left _ held)
      · exact fun symbol listed held =>
          kept symbol listed (List.mem_append_right _ held)
    rw [readTarget_eq (notMem_of_plain plainPath (by decide)) some absent]
      at accepted
    cases accepted
    exact ⟨rfl, rfl⟩

def pinnedDepot (skipOptionalTransforms : Bool) : Depot where
  requestContext := some
    { plex :=
        { token := some "jodie-token"
          contentDirectoryId := some ["1"]
          pinnedContentDirectoryId := some ["1", "2"] }
      upstreamHost := viewerRequest.upstreamHost
      tokenScope := viewerRequest.tokenScope }
  skipOptionalTransforms := skipOptionalTransforms

def pinnedUri : Uri where
  origin := "http://replex"
  path := "/hubs/promoted"
  queries := ⟨[("contentDirectoryID", "1"), ("pinnedContentDirectoryID", "1,2")]⟩

def pinnedFetch (skipOptionalTransforms : Bool) : Option HubFetch :=
  let depot := pinnedDepot skipOptionalTransforms
  hubFetch viewerDigest viewerConfig depot
    { uri := (transformReqContentDirectory viewerCodec viewerConfig depot
        pinnedUri).uri }

def pinnedWarmer : PlexClient where
  host := "http://plex:32400"
  context :=
    { token := some "admin-token", clientIdentifier := some "replex-warmer" }

def warmingState : HubState where
  warmQueue := (warmPaths ["2", "1"]).map fun path => (pinnedWarmer, path)

theorem sectionKey_digit {key : String} (digit : key ∈ ["2", "1"]) :
    SectionKey key := by
  have each : ∀ key ∈ ["2", "1"],
      key ≠ "" ∧ key.toList.all (fun char => !reservedChar char) = true := by
    decide
  obtain ⟨some, unreserved⟩ := each key digit
  exact ⟨some, by simpa using unreserved⟩

theorem warmed_promoted_entry_found_pinned :
    ∃ fetch, pinnedFetch false = some fetch ∧
      nextWarmKey viewerDigest readTarget warmingState =
        some (pinnedWarmer, fetch.cacheKey) := by
  have merge : MergeRequest viewerCodec viewerConfig (pinnedDepot false)
      ((pinnedDepot false).requestContext.get rfl) pinnedUri ["1", "2"] :=
    { promoted := rfl
      whole := ⟨rfl, rfl, rfl, rfl⟩
      pins := rfl
      present := rfl
      extracted := ⟨by decide, by decide⟩
      asks := ⟨"1", rfl, .first rfl⟩
      interleave := rfl
      transforms := rfl
      sets := ⟨"http://replex", rfl, rfl⟩ }
  obtain ⟨fetch, made⟩ : ∃ fetch, pinnedFetch false = some fetch := ⟨_, rfl⟩
  refine ⟨fetch, made, ?_⟩
  exact (warmed_promoted_entry_found readTarget_readsTargets
    (fun key => sectionKey_digit)
    (List.Perm.swap "2" "1" []) merge rfl made rfl rfl).2 (by decide)

/-- The same request keeps the directory it names when the client opts out of
the transforms, and looks under the key of the single slot. -/
theorem untransformed_request_misses_aggregate :
    ∃ fetch, pinnedFetch true = some fetch ∧
      (nextWarmKey viewerDigest readTarget warmingState).isSome = true ∧
      nextWarmKey viewerDigest readTarget warmingState ≠
        some (pinnedWarmer, fetch.cacheKey) := by
  refine ⟨_, rfl, by decide +kernel, ?_⟩
  intro same
  have keys := congrArg (Option.map Prod.snd) same
  revert keys
  decide +kernel

end Replex
