import Replex.Routes.PolicyRoutes
import Replex.Transform.MergedHubs

namespace Replex

open Data

/-! The keys of merged rows, and the route that reads them. -/

def childrenKey (ids : String) : String :=
  "/library/collections/" ++ (ids ++ "/children")

/-- Plex names the children of a collection in two ways. -/
def NamesChildren (key ids : String) : Prop :=
  key = childrenKey ids ∨ key = "/hubs" ++ childrenKey ids

/-- Ids in decimal, with commas between them. -/
def IdText (ids : String) : Prop :=
  ∀ char ∈ ids.toList, char.isDigit = true ∨ char = ','

theorem IdText.not_mem {ids : String} (plain : IdText ids) {char : Char}
    (notDigit : char.isDigit = false) (notComma : char ≠ ',') :
    char ∉ ids.toList := by
  intro listed
  rcases plain char listed with digit | comma
  · rw [notDigit] at digit
    cases digit
  · exact notComma comma

theorem idText_toString (id : Nat) : IdText (toString id) :=
  fun _ listed => .inl (DecimalText.isDigit_of_mem_toString listed)

theorem IdText.append {left right : String} (plain : IdText left)
    (also : IdText right) : IdText (left ++ "," ++ right) := by
  intro char listed
  simp only [String.toList_append, List.mem_append] at listed
  rcases listed with (early | between) | late
  · exact plain char early
  · have comma : char ∈ [','] := between
    exact .inr (List.mem_singleton.mp comma)
  · exact also char late

theorem IdText.not_mem_children {ids : String} (plain : IdText ids)
    {char : Char} (notDigit : char.isDigit = false) (notComma : char ≠ ',')
    (absent : char ∉ "/children".toList) :
    char ∉ (ids ++ "/children").toList := by
  rw [String.toList_append, List.mem_append, not_or]
  exact ⟨plain.not_mem notDigit notComma, absent⟩

theorem replace_children {ids : String} (plain : IdText ids) :
    Text.replace (ids ++ "/children") "/children" "" = ids := by
  have noSlash : '/' ∉ ids.toList := plain.not_mem (by decide) (by decide)
  have starts : "/children".toList = '/' :: "children".toList := by simp
  have gone : Text.replace "/children" "/children" "" = "" := by
    decide +kernel
  rw [Text.replace_append_of_not_mem starts noSlash, gone,
    String.append_empty]

theorem replace_hubs {ids : String} (plain : IdText ids) :
    Text.replace (ids ++ "/children") "/hubs/library/collections/" "" =
      ids ++ "/children" := by
  have needed : 'u' ∈ "/hubs/library/collections/".toList := by simp
  have absent : 'u' ∉ (ids ++ "/children").toList :=
    plain.not_mem_children (by decide) (by decide) (by simp)
  exact Text.replace_of_not_mem needed absent ""

theorem replace_library {ids : String} (plain : IdText ids) :
    Text.replace (ids ++ "/children") "/library/collections/" "" =
      ids ++ "/children" := by
  have needed : 'y' ∈ "/library/collections/".toList := by simp
  have absent : 'y' ∉ (ids ++ "/children").toList :=
    plain.not_mem_children (by decide) (by decide) (by simp)
  exact Text.replace_of_not_mem needed absent ""

theorem replace_hubs_childrenKey {ids : String} (plain : IdText ids) :
    Text.replace (childrenKey ids) "/hubs/library/collections/" "" =
      childrenKey ids := by
  have needed : 'u' ∈ "/hubs/library/collections/".toList := by simp
  have front : 'u' ∉ "/library/collections/".toList := by simp
  have absent : 'u' ∉ (ids ++ "/children").toList :=
    plain.not_mem_children (by decide) (by decide) (by simp)
  have none : 'u' ∉ (childrenKey ids).toList := by
    unfold childrenKey
    rw [String.toList_append, List.mem_append, not_or]
    exact ⟨front, absent⟩
  exact Text.replace_of_not_mem needed none ""

/-- What is stripped is what stands around the ids, in this order. -/
theorem stripChildrenKey_eq {key ids : String} (plain : IdText ids)
    (names : NamesChildren key ids) : stripChildrenKey key = ids := by
  have hubsSome : "/hubs/library/collections/".toList ≠ [] := by simp
  have librarySome : "/library/collections/".toList ≠ [] := by simp
  unfold stripChildrenKey
  rw [List.foldl_cons, List.foldl_cons, List.foldl_cons, List.foldl_nil]
  rcases names with rfl | rfl
  · rw [replace_hubs_childrenKey plain]
    unfold childrenKey
    rw [Text.replace_pattern_append librarySome, replace_library plain,
      String.empty_append, replace_children plain]
  · have front : "/hubs" ++ childrenKey ids =
        "/hubs/library/collections/" ++ (ids ++ "/children") := by
      have joined : "/hubs".toList ++ "/library/collections/".toList =
          "/hubs/library/collections/".toList := by
        simp
      apply String.toList_injective
      unfold childrenKey
      simp only [String.toList_append, ← joined, List.append_assoc]
    rw [front, Text.replace_pattern_append hubsSome, replace_hubs plain,
      String.empty_append, replace_library plain, replace_children plain]

theorem mergeChildrenKeys_eq {left right leftIds rightIds : String}
    (leftPlain : IdText leftIds) (rightPlain : IdText rightIds)
    (leftNames : NamesChildren left leftIds)
    (rightNames : NamesChildren right rightIds) :
    mergeChildrenKeys left right =
      childrenKey (leftIds ++ "," ++ rightIds) := by
  apply String.toList_injective
  unfold mergeChildrenKeys childrenKey
  simp only [stripChildrenKey_eq leftPlain leftNames,
    stripChildrenKey_eq rightPlain rightNames, String.toList_append,
    List.append_assoc]

/-- A row of the collection `id`, under either of its keys. -/
structure NamesCollection (hub : MetaData) (id : Nat) : Prop where
  collection : hub.isCollectionHub = true
  key : ∃ key, hub.key = some key ∧ NamesChildren key (toString id)
  inRange : id < 2 ^ 31

theorem exists_namesCollection {hubs : List MetaData} {ids : List Nat}
    (named : List.Forall₂ NamesCollection hubs ids) {hub : MetaData}
    (listed : hub ∈ hubs) : ∃ id, NamesCollection hub id := by
  induction named with
  | nil => cases listed
  | @cons first id hubs ids source later hypothesis =>
      rcases List.mem_cons.mp listed with rfl | listed
      · exact ⟨id, source⟩
      · exact hypothesis listed

theorem inRange_of_named {hubs : List MetaData} {ids : List Nat}
    (named : List.Forall₂ NamesCollection hubs ids) {id : Nat}
    (listed : id ∈ ids) : id < 2 ^ 31 := by
  induction named with
  | nil => cases listed
  | cons source later hypothesis =>
      rcases List.mem_cons.mp listed with rfl | listed
      · exact source.inRange
      · exact hypothesis listed

def joinIds (ids : List Nat) : String :=
  ",".intercalate (ids.map toString)

theorem readIds_joinIds {ids : List Nat} (some : ids ≠ [])
    (inRange : ∀ id ∈ ids, id < 2 ^ 32) : readIds (joinIds ids) = ids := by
  unfold readIds joinIds
  rw [Text.split_intercalate rfl (by simpa using some)]
  · rw [List.filterMap_map]
    have read : ∀ id ∈ ids,
        (DecimalText.uint32? ∘ toString) id = Option.some id := by
      intro id listed
      exact DecimalText.uint32?_toString (inRange id listed)
    rw [List.filterMap_congr read, List.filterMap_some]
  · intro text listed
    obtain ⟨id, -, rfl⟩ := List.mem_map.mp listed
    intro listed
    have digit := DecimalText.isDigit_of_mem_toString listed
    revert digit
    decide

theorem joinIds_cons_cons (id next : Nat) (ids : List Nat) :
    joinIds (id :: next :: ids) =
      toString id ++ "," ++ joinIds (next :: ids) := by
  unfold joinIds
  rw [List.map_cons, String.intercalate_cons_of_ne_nil (by simp)]

/-- The key that a merge of rows ends with. -/
theorem key_foldl_mergeHub {hubs : List MetaData} {ids : List Nat}
    (named : List.Forall₂ NamesCollection hubs ids) {first : MetaData}
    {key left : String} (keyed : first.key = some key) (plain : IdText left)
    (names : NamesChildren key left) (some : ids ≠ []) :
    (hubs.foldl mergeHub first).key =
      .some (childrenKey (left ++ "," ++ joinIds ids)) := by
  induction named generalizing first key left with
  | nil => exact absurd rfl some
  | @cons hub id hubs ids source later hypothesis =>
      obtain ⟨right, rightKeyed, rightNames⟩ := source.key
      have merged : (mergeHub first hub).key =
          .some (childrenKey (left ++ "," ++ toString id)) := by
        have both := mergeChildrenKeys_eq plain (idText_toString id) names
          rightNames
        rw [← both]
        unfold mergeHub
        rw [MetaData.key_setChildren, keyed, rightKeyed]
        rfl
      rw [List.foldl_cons]
      cases later with
      | nil => exact merged
      | @cons next nextId hubs ids nextSource later =>
          have after := hypothesis merged
            (plain.append (idText_toString id)) (.inl rfl)
            (List.cons_ne_nil _ _)
          rw [after, joinIds_cons_cons]
          simp only [String.append_assoc]

theorem style_foldl_mergeHub (first : MetaData) (hubs : List MetaData) :
    (hubs.foldl mergeHub first).style = first.style := by
  induction hubs generalizing first with
  | nil => rfl
  | cons hub hubs hypothesis =>
      rw [List.foldl_cons, hypothesis]
      unfold mergeHub MetaData.setChildren
      grind

/-! Segments. -/

def isPathChar (char : Char) : Bool :=
  char.isAlphanum || "-._~!$&'()*+,;=:@".toList.contains char

/-- A segment that stands in a path as it is. -/
structure IsSegment (segment : String) : Prop where
  nonempty : segment ≠ ""
  notDot : segment ≠ "."
  notDots : segment ≠ ".."
  plain : ∀ char ∈ segment.toList, isPathChar char = true

def pathOf (segments : List String) : String :=
  segments.foldr (fun segment rest => "/" ++ (segment ++ rest)) ""

def patternSegments (pattern : String) : List String :=
  (Text.split '/' pattern).filter (· ≠ "")

/-- The name of a parameter that takes one whole segment. -/
def paramName? (segment : String) : Option String :=
  if Text.startsWith segment "<" && Text.endsWith segment ">" &&
      !Text.contains segment "*" && !Text.contains segment ":" then
    some (String.ofList (segment.toList.drop 1).dropLast)
  else
    none

/-- A pattern of literal segments and such parameters. -/
def isPlainPattern (pattern : String) : Bool :=
  (patternSegments pattern).all fun segment =>
    !Text.contains segment "<" || (paramName? segment).isSome

def bindSegments : List String → List String → Option Params
  | [], [] => some []
  | expected :: pattern, segment :: segments =>
      match paramName? expected with
      | some name =>
          (bindSegments pattern segments).map ((name, segment) :: ·)
      | none =>
          if expected = segment then bindSegments pattern segments else none
  | _, _ => none

/-- What the router library does with paths of plain segments: a plain pattern
is compared segment by segment, and any other takes at most what begins with
its literals. -/
structure MatchesSegments
    (matchPath : (pattern path : String) → Option Params) : Prop where
  plain : ∀ pattern segments, isPlainPattern pattern = true →
    (∀ segment ∈ segments, IsSegment segment) →
      matchPath pattern (pathOf segments) =
        bindSegments (patternSegments pattern) segments
  literals : ∀ pattern segments params,
    (∀ segment ∈ segments, IsSegment segment) →
    matchPath pattern (pathOf segments) = some params →
      literalSegments pattern <+: segments

theorem length_of_bindSegments {pattern segments : List String}
    {params : Params} (bound : bindSegments pattern segments = some params) :
    pattern.length = segments.length := by
  induction pattern generalizing segments params with
  | nil =>
      cases segments with
      | nil => rfl
      | cons segment segments => cases bound
  | cons expected pattern hypothesis =>
      cases segments with
      | nil => cases bound
      | cons segment segments =>
          rw [bindSegments] at bound
          split at bound
          · obtain ⟨rest, later, -⟩ := Option.map_eq_some_iff.mp bound
            rw [List.length_cons, List.length_cons, hypothesis later]
          · split at bound
            · rw [List.length_cons, List.length_cons, hypothesis bound]
            · cases bound

/-- The segments of a key that points back to the proxy. -/
def keySegments (style ids : String) : List String :=
  ["replex", style, "library", "collections", ids, "children"]

/-- A pattern that cannot match such a key. -/
def isElsewhere (pattern : String) : Bool :=
  (match literalSegments pattern with
    | [] => false
    | literal :: _ => literal != "replex") ||
  (isPlainPattern pattern && (patternSegments pattern).length != 6)

theorem isSegment_ofList {chars : List Char} (some : chars ≠ [])
    (notDot : chars ≠ ['.']) (notDots : chars ≠ ['.', '.'])
    (plain : chars.all isPathChar = true) :
    IsSegment (String.ofList chars) where
  nonempty := by simpa using some
  notDot same := notDot (String.ofList_injective same)
  notDots same := notDots (String.ofList_injective same)
  plain := by
    rw [String.toList_ofList]
    exact List.all_eq_true.mp plain

theorem isSegment_keySegments {style ids : String} (styled : IsSegment style)
    (segment : IsSegment ids) :
    ∀ part ∈ keySegments style ids, IsSegment part := by
  intro part listed
  simp only [keySegments, List.mem_cons, List.not_mem_nil, or_false] at listed
  rcases listed with rfl | rfl | rfl | rfl | rfl | rfl
  · exact isSegment_ofList (by simp) (by simp) (by simp) (by decide)
  · exact styled
  · exact isSegment_ofList (by simp) (by simp) (by simp) (by decide)
  · exact isSegment_ofList (by simp) (by simp) (by simp) (by decide)
  · exact segment
  · exact isSegment_ofList (by simp) (by simp) (by simp) (by decide)

theorem matchPath_elsewhere
    {matchPath : (pattern path : String) → Option Params}
    (matching : MatchesSegments matchPath) {pattern style ids : String}
    (elsewhere : isElsewhere pattern = true) (styled : IsSegment style)
    (segment : IsSegment ids) :
    matchPath pattern (pathOf (keySegments style ids)) = none := by
  have segments := isSegment_keySegments styled segment
  cases matched : matchPath pattern (pathOf (keySegments style ids)) with
  | none => rfl
  | some params =>
      have begins := matching.literals pattern _ params segments matched
      simp only [isElsewhere, Bool.or_eq_true, Bool.and_eq_true,
        bne_iff_ne, ne_eq] at elsewhere
      rcases elsewhere with opens | ⟨plain, length⟩
      · cases literals : literalSegments pattern with
        | nil => simp [literals] at opens
        | cons literal rest =>
            rw [literals] at begins opens
            have same := (List.cons_prefix_cons.mp begins).1
            simp [same] at opens
      · rw [matching.plain pattern _ plain segments] at matched
        exact absurd (length_of_bindSegments matched) length

/-! Patterns by their characters: a text need not be decoded to be told where
it leads. -/

def partsOf (chars : List Char) : List (List Char) :=
  (chars.splitOn '/').filter (· ≠ [])

def isParam (part : List Char) : Bool :=
  ['<'].isPrefixOf part && ['>'].isSuffixOf part && !part.contains '*' &&
    !part.contains ':'

def elsewhereChars (chars : List Char) : Bool :=
  (match (partsOf chars).takeWhile fun part => !part.contains '<' with
    | [] => false
    | literal :: _ => literal != ['r', 'e', 'p', 'l', 'e', 'x']) ||
  ((partsOf chars).all (fun part => !part.contains '<' || isParam part) &&
    (partsOf chars).length != 6)

theorem contains_ofList {part : String} (symbol : Char)
    (single : part.toList = [symbol]) (chars : List Char) :
    Text.contains (String.ofList chars) part = chars.contains symbol := by
  rw [Bool.eq_iff_iff, Text.contains_iff_mem single, String.toList_ofList,
    List.contains_iff_mem]

theorem patternSegments_ofList (chars : List Char) :
    patternSegments (String.ofList chars) =
      (partsOf chars).map String.ofList := by
  rw [patternSegments, Text.split, String.toList_ofList, List.filter_map,
    partsOf]
  congr 1
  apply List.filter_congr
  intro part _
  simp

theorem paramName?_ofList (part : List Char) :
    paramName? (String.ofList part) =
      if isParam part then some (String.ofList (part.drop 1).dropLast)
      else none := by
  have chars : (String.ofList part).toList = part := String.toList_ofList
  unfold paramName? isParam Text.startsWith Text.endsWith
  rw [contains_ofList '*' rfl, contains_ofList ':' rfl, chars]
  rfl

theorem isPlainPattern_ofList (chars : List Char) :
    isPlainPattern (String.ofList chars) =
      (partsOf chars).all fun part =>
        !part.contains '<' || isParam part := by
  rw [isPlainPattern, patternSegments_ofList, List.all_map]
  congr 1
  funext part
  rw [Function.comp_apply, contains_ofList '<' rfl, paramName?_ofList]
  cases isParam part with
  | true => rfl
  | false => rfl

theorem isElsewhere_ofList (chars : List Char) :
    isElsewhere (String.ofList chars) = elsewhereChars chars := by
  have literals : literalSegments (String.ofList chars) =
      ((partsOf chars).takeWhile fun part => !part.contains '<').map
        String.ofList := by
    have segments := patternSegments_ofList chars
    unfold patternSegments at segments
    rw [literalSegments, segments, List.takeWhile_map]
    congr 2
    funext part
    rw [Function.comp_apply, contains_ofList '<' rfl]
  unfold isElsewhere elsewhereChars
  rw [literals, isPlainPattern_ofList, patternSegments_ofList,
    List.length_map]
  congr 1
  cases (partsOf chars).takeWhile fun part => !part.contains '<' with
  | nil => rfl
  | cons literal rest =>
      have proxy : "replex" = String.ofList ['r', 'e', 'p', 'l', 'e', 'x'] :=
        rfl
      rw [List.map_cons, Bool.eq_iff_iff]
      dsimp only
      rw [proxy, bne_iff_ne, bne_iff_ne, ne_eq, ne_eq, String.ofList_inj]

theorem isElsewhere_routes {config : Config} {route : Route}
    (listed : route ∈ streamRoutes config ++ relatedRoutes config ++
      playbackRoutes config ++ policyRoutes config ++ hubRoutes config ++
      adminRoutes) : isElsewhere route.pattern = true := by
  simp only [List.mem_append] at listed
  rcases listed with
    ((((stream | related) | playback) | policy) | hub) | admin
  · unfold streamRoutes at stream
    split at stream
    · simp only [List.mem_cons, List.not_mem_nil, or_false] at stream
      rcases stream with rfl | rfl
      all_goals exact (isElsewhere_ofList _).trans (by decide)
    · cases stream
  · unfold relatedRoutes at related
    split at related
    · simp only [List.mem_cons, List.not_mem_nil, or_false] at related
      rcases related with rfl | rfl
      all_goals exact (isElsewhere_ofList _).trans (by decide)
    · cases related
  · simp only [playbackRoutes, List.map_cons, List.map_nil, List.mem_cons,
      List.not_mem_nil, or_false, String.reduceAppend] at playback
    rcases playback with rfl | rfl | rfl
    all_goals exact (isElsewhere_ofList _).trans (by decide)
  · unfold policyRoutes at policy
    split at policy
    · simp only [List.mem_cons, List.not_mem_nil, or_false] at policy
      rcases policy with rfl | rfl | rfl
      all_goals exact (isElsewhere_ofList _).trans (by decide)
    · cases policy
  · simp only [hubRoutes, List.mem_append, List.mem_ite_nil_right,
      List.mem_cons, List.not_mem_nil, or_false] at hub
    rcases hub with (⟨-, rfl⟩ | ⟨-, rfl⟩) | rfl | rfl | rfl | rfl | rfl | rfl
    all_goals exact (isElsewhere_ofList _).trans (by decide)
  · simp only [adminRoutes, List.map_cons, List.map_nil, List.mem_cons,
      List.not_mem_nil, or_false] at admin
    rcases admin with rfl | rfl | rfl | rfl | rfl | rfl | rfl | rfl | rfl
    all_goals exact (isElsewhere_ofList _).trans (by decide)

theorem patternSegments_collectionsChildren :
    patternSegments collectionsChildrenPattern =
      ["replex", "<style>", "library", "collections", "<ids>", "children"] :=
  patternSegments_ofList _

theorem isPlainPattern_collectionsChildren :
    isPlainPattern collectionsChildrenPattern = true :=
  (isPlainPattern_ofList _).trans (by decide)

theorem selectHandler_keySegments
    {matchPath : (pattern path : String) → Option Params}
    (matching : MatchesSegments matchPath) (config : Config)
    {style ids : String} (styled : IsSegment style)
    (segment : IsSegment ids) :
    selectHandler matchPath config .get (pathOf (keySegments style ids)) =
      .getCollectionsChildren ids := by
  have segments := isSegment_keySegments styled segment
  have earlier : (streamRoutes config ++ relatedRoutes config ++
      playbackRoutes config ++ policyRoutes config ++ hubRoutes config ++
      adminRoutes).findSome? (Route.select matchPath .get
        (pathOf (keySegments style ids))) = none := by
    rw [List.findSome?_eq_none_iff]
    intro route listed
    rw [Route.select, matchPath_elsewhere matching
      (isElsewhere_routes listed) styled segment]
    simp
  have bound : matchPath collectionsChildrenPattern
      (pathOf (keySegments style ids)) =
        some [("style", style), ("ids", ids)] := by
    have proxy : paramName? "replex" = none := paramName?_ofList _
    have styles : paramName? "<style>" = some "style" := paramName?_ofList _
    have library : paramName? "library" = none := paramName?_ofList _
    have collections : paramName? "collections" = none := paramName?_ofList _
    have merged : paramName? "<ids>" = some "ids" := paramName?_ofList _
    have children : paramName? "children" = none := paramName?_ofList _
    rw [matching.plain _ _ isPlainPattern_collectionsChildren segments,
      patternSegments_collectionsChildren]
    simp only [keySegments, bindSegments, proxy, styles, library, collections,
      merged, children, if_true, Option.map_some]
  rw [selectHandler_eq, routes, List.findSome?_append, earlier,
    Option.none_or, tailRoutes, List.findSome?_cons, Route.select,
    if_pos (by rfl)]
  dsimp only
  rw [bound]
  rfl

theorem pattern_of_getCollectionsChildren {config : Config} {route : Route}
    (listed : route ∈ routes config) {params : Params} {ids : String}
    (handled : route.handler params = .getCollectionsChildren ids) :
    route.pattern = collectionsChildrenPattern := by
  have rewritten : (route.handler params).isRewritten = true := by
    rw [handled]
    rfl
  rcases pattern_of_isRewritten listed rewritten with same | same
  · exact same
  rcases List.mem_append.mp listed with earlier | tail
  · have elsewhere := isElsewhere_routes earlier
    have here : isElsewhere defaultTransformPattern = false :=
      (isElsewhere_ofList _).trans (by decide)
    rw [same, here] at elsewhere
    cases elsewhere
  · unfold tailRoutes at tail
    grind

/-- A merged page is served only where its own pattern matches. -/
theorem exists_params_of_getCollectionsChildren
    {matchPath : (pattern path : String) → Option Params} {config : Config}
    {method : Method} {path ids : String}
    (selected : selectHandler matchPath config method path =
      .getCollectionsChildren ids) :
    ∃ params, matchPath collectionsChildrenPattern path = some params := by
  unfold selectHandler at selected
  cases found : (routes config).findSome? fun route =>
      if route.accepts method then
        (matchPath route.pattern path).map route.handler
      else
        none with
  | none =>
      rw [found] at selected
      cases selected
  | some handler =>
      obtain ⟨route, listed, reached⟩ :=
        List.exists_of_findSome?_eq_some found
      split at reached
      · obtain ⟨params, matched, rfl⟩ := Option.map_eq_some_iff.mp reached
        rw [found] at selected
        exact ⟨params, pattern_of_getCollectionsChildren listed selected ▸
          matched⟩
      · cases reached

theorem pathOf_keySegments (style ids : String) :
    "/replex/" ++ style ++ childrenKey ids =
      pathOf (keySegments style ids) := by
  have opening : "/replex/".toList =
      "/".toList ++ "replex".toList ++ "/".toList := by
    simp
  have middle : "/library/collections/".toList =
      "/".toList ++ "library".toList ++ "/".toList ++
        "collections".toList ++ "/".toList := by
    simp
  have ending : "/children".toList = "/".toList ++ "children".toList := by
    simp
  apply String.toList_injective
  unfold childrenKey pathOf keySegments
  simp only [List.foldr_cons, List.foldr_nil, String.toList_append, opening,
    middle, ending, List.append_assoc, String.append_empty]

theorem key_hubKeyTransform {hub : MetaData} (isHub : hub.isHub = true)
    {ids : String} (key : hub.key = some (childrenKey ids)) :
    (hubKeyTransform.transformMetadata hub).key =
      some (pathOf (keySegments (hub.style.getD "shelf") ids)) := by
  have fresh : Text.startsWith (childrenKey ids) "/replex" = false := by
    have chars : (childrenKey ids).toList =
        "/library/collections/".toList ++ (ids ++ "/children").toList :=
      String.toList_append ..
    rw [Text.startsWith, chars]
    rfl
  rw [← pathOf_keySegments]
  simp only [hubKeyTransform, isHub, key, fresh, Bool.false_eq_true, if_false]

/-- One row is left of a title, its key leads to the merged page, and the page
is that of the rows it was merged from. -/
def DecodesToSources
    (matchPath : (pattern path : String) → Option Params) (config : Config)
    (presentation : Presentation) (container : MediaContainer)
    (title : String) (ids : List Nat) : Prop :=
  ∃ merged key text,
    ((hubInterleaveTransform presentation).apply container).children.filter
        (fun hub => hub.title == title) = [merged] ∧
    (hubKeyTransform.transformMetadata merged).key = some key ∧
    selectHandler matchPath config .get key = .getCollectionsChildren text ∧
    readIds text = ids

theorem joinIds_eq {id : Nat} {ids : List Nat} (some : ids ≠ []) :
    joinIds (id :: ids) = toString id ++ "," ++ joinIds ids := by
  cases ids with
  | nil => exact absurd rfl some
  | cons next ids => exact joinIds_cons_cons id next ids

theorem idText_joinIds (ids : List Nat) : IdText (joinIds ids) := by
  intro char listed
  have comma : ",".toList = [','] := rfl
  rcases Text.mem_intercalate comma listed with same | ⟨text, member, within⟩
  · exact .inr same
  · obtain ⟨id, -, rfl⟩ := List.mem_map.mp member
    exact idText_toString id char within

theorem joinIds_ne_empty {ids : List Nat} (some : ids ≠ []) :
    joinIds ids ≠ "" := by
  cases ids with
  | nil => exact absurd rfl some
  | cons id ids =>
      cases ids with
      | nil =>
          unfold joinIds
          rw [List.map_cons, List.map_nil, String.intercalate_singleton]
          exact toString_ne_empty id
      | cons next ids =>
          rw [joinIds_cons_cons]
          intro empty
          have chars := congrArg String.toList empty
          simp at chars

theorem isSegment_joinIds {ids : List Nat} (some : ids ≠ []) :
    IsSegment (joinIds ids) := by
  have plain := idText_joinIds ids
  have noDot : '.' ∉ (joinIds ids).toList :=
    plain.not_mem (by decide) (by decide)
  refine ⟨joinIds_ne_empty some, ?_, ?_, ?_⟩
  · intro same
    rw [same] at noDot
    exact noDot (by simp)
  · intro same
    rw [same] at noDot
    exact noDot (by simp)
  · intro char listed
    rcases plain char listed with digit | rfl
    · simp [isPathChar, Char.isAlphanum, digit]
    · simp [isPathChar]

/-- Merged keys lead back to the collections they were made of, in order. -/
theorem merged_key_decodes
    {matchPath : (pattern path : String) → Option Params}
    (matching : MatchesSegments matchPath) (config : Config)
    {presentation : Presentation}
    (on : presentation.settings.interleave = true)
    {container : MediaContainer} {title : String} {first : MetaData}
    {rest : List MetaData} {ids : List Nat}
    (rows : container.children.filter (fun hub => hub.title == title) =
      first :: rest)
    (several : rest ≠ [])
    (named : List.Forall₂ NamesCollection (first :: rest) ids)
    (shown : ∀ hub ∈ first :: rest, isShown hub = true)
    (styled : IsSegment (first.style.getD "shelf")) :
    DecodesToSources matchPath config presentation container title ids := by
  have titled : titledHubs title container.children = first :: rest := by
    have all := List.filter_eq_self.mpr shown
    rw [← all, ← rows, titledHubs, List.filter_filter, List.filter_filter]
    simp only [Bool.and_comm (isShown _)]
    rfl
  have some : container.children.filter isShown ≠ [] := by
    intro none
    rw [titledHubs, none] at titled
    cases titled
  cases named with
  | @cons _ id _ ids source sources =>
      obtain ⟨key, keyed, names⟩ := source.key
      have accepted : ∀ hub ∈ rest,
          hubGathering.accepts first hub = true := by
        intro hub listed
        obtain ⟨other, among⟩ := exists_namesCollection sources listed
        obtain ⟨right, rightKeyed, -⟩ := among.key
        simp [hubGathering, keyed, rightKeyed, among.collection]
      have left : (rest.filter fun hub =>
          !hubGathering.accepts first hub) = [] := by
        rw [List.filter_eq_nil_iff]
        intro hub listed
        simp [accepted hub listed]
      have others : ids ≠ [] := by
        rintro rfl
        cases sources
        exact several rfl
      have merged := key_foldl_mergeHub sources keyed (idText_toString id)
        names others
      rw [← joinIds_eq others] at merged
      have isHub : (rest.foldl mergeHub first).isHub = true := by
        have collection := isCollectionHub_foldl_mergeHub first rest
        rw [source.collection] at collection
        exact (Bool.and_eq_true _ _ ▸ collection).1
      refine ⟨rest.foldl mergeHub first, _, joinIds (id :: ids), ?_,
        key_hubKeyTransform isHub merged, ?_, ?_⟩
      · have ours := gather_titledHubs titled
        rw [List.filter_eq_self.mpr accepted, left] at ours
        rw [children_apply_hubInterleave on some]
        exact ours
      · rw [style_foldl_mergeHub]
        exact selectHandler_keySegments matching config styled
          (isSegment_joinIds (List.cons_ne_nil id ids))
      · apply readIds_joinIds (List.cons_ne_nil id ids)
        intro other listed
        have range := inRange_of_named (.cons source sources) listed
        omega

/-! A matcher of literal segments, parameters and a rest at the end. -/

def bindPattern : List String → List String → Option Params
  | ["<**rest>"], segments =>
      some [("**rest", "/".intercalate segments)]
  | [], [] => some []
  | expected :: pattern, segment :: segments =>
      match paramName? expected with
      | some name =>
          (bindPattern pattern segments).map ((name, segment) :: ·)
      | none =>
          if expected = segment then bindPattern pattern segments else none
  | _, _ => none

def segmentMatch (pattern path : String) : Option Params :=
  bindPattern (patternSegments pattern) (patternSegments path)

theorem bindPattern_of_plain {pattern : List String}
    (plain : ∀ expected ∈ pattern, expected ≠ "<**rest>")
    (segments : List String) :
    bindPattern pattern segments = bindSegments pattern segments := by
  induction pattern generalizing segments with
  | nil => cases segments <;> rfl
  | cons expected pattern hypothesis =>
      have later := hypothesis fun other listed =>
        plain other (List.mem_cons_of_mem expected listed)
      have notRest : ∀ rest, expected :: pattern ≠ "<**rest>" :: rest := by
        intro rest same
        exact plain expected List.mem_cons_self (List.cons.inj same).1
      cases segments with
      | nil =>
          unfold bindPattern bindSegments
          split <;> grind
      | cons segment segments =>
          unfold bindPattern bindSegments
          split <;> grind

theorem paramName?_of_literal {segment : String}
    (literal : Text.contains segment "<" = false) :
    paramName? segment = none := by
  have symbol : "<".toList = ['<'] := rfl
  have notStart : Text.startsWith segment "<" = false := by
    rw [← Bool.not_eq_true] at literal ⊢
    intro starts
    apply literal
    rw [Text.contains_iff_mem symbol]
    have begins := List.isPrefixOf_iff_prefix.mp starts
    exact begins.subset (by rw [symbol]; exact List.mem_singleton_self '<')
  simp [paramName?, notStart]

theorem takeWhile_prefix_of_bindPattern {pattern segments : List String}
    {params : Params} (bound : bindPattern pattern segments = some params) :
    pattern.takeWhile (fun segment => !Text.contains segment "<") <+:
      segments := by
  induction pattern generalizing segments params with
  | nil => exact List.nil_prefix
  | cons expected pattern hypothesis =>
      cases open' : Text.contains expected "<" with
      | true => simp [open']
      | false =>
          have literal := paramName?_of_literal open'
          have notRest : expected ≠ "<**rest>" := by
            rintro rfl
            revert open'
            decide +kernel
          cases segments with
          | nil =>
              unfold bindPattern at bound
              split at bound <;> grind
          | cons segment segments =>
              rw [List.takeWhile_cons_of_pos (by simp [open'])]
              rw [bindPattern, literal] at bound
              · dsimp only at bound
                split at bound
                next same =>
                  rw [same, List.cons_prefix_cons]
                  exact ⟨rfl, hypothesis bound⟩
                next => cases bound
              · intro same _
                exact notRest same

theorem split_append_pathOf {text : String} (plain : '/' ∉ text.toList)
    {segments : List String}
    (parts : ∀ segment ∈ segments, '/' ∉ segment.toList) :
    Text.split '/' (text ++ pathOf segments) = text :: segments := by
  induction segments generalizing text with
  | nil =>
      have empty : pathOf [] = "" := rfl
      rw [empty, String.append_empty, Text.split_of_not_mem plain]
  | cons segment segments hypothesis =>
      have slash : "/".toList = ['/'] := rfl
      have front : text ++ pathOf (segment :: segments) =
          text ++ "/" ++ (segment ++ pathOf segments) := by
        apply String.toList_injective
        simp only [pathOf, List.foldr_cons, String.toList_append,
          List.append_assoc]
      have later := hypothesis (parts segment List.mem_cons_self)
        fun other listed => parts other (List.mem_cons_of_mem segment listed)
      rw [front, Text.split_append slash, Text.split_of_not_mem plain, later]
      rfl

theorem patternSegments_pathOf {segments : List String}
    (plain : ∀ segment ∈ segments, IsSegment segment) :
    patternSegments (pathOf segments) = segments := by
  have parts : ∀ segment ∈ segments, '/' ∉ segment.toList := by
    intro segment listed slash
    have char := (plain segment listed).plain '/' slash
    simp [isPathChar] at char
  have split := @split_append_pathOf "" (by simp) segments parts
  rw [String.empty_append] at split
  rw [patternSegments, split, List.filter_cons_of_neg (by decide),
    List.filter_eq_self]
  intro segment listed
  simpa using (plain segment listed).nonempty

theorem segmentMatch_matchesSegments : MatchesSegments segmentMatch where
  plain pattern segments plain parts := by
    rw [segmentMatch, patternSegments_pathOf parts]
    apply bindPattern_of_plain
    rintro expected listed rfl
    have known := List.all_eq_true.mp plain _ listed
    revert known
    decide +kernel
  literals pattern segments params parts matched := by
    rw [segmentMatch, patternSegments_pathOf parts] at matched
    exact takeWhile_prefix_of_bindPattern matched

def firstMovies : MetaData :=
  moviesRow "1" [{ title := "Alien" }]

def secondMovies : MetaData :=
  moviesRow "2" [{ title := "Heat" }]

theorem namesCollection_firstMovies (style : Option String) :
    NamesCollection { firstMovies with style } 1 := by
  have collection : firstMovies.isCollectionHub = true := by decide +kernel
  exact ⟨collection, ⟨_, rfl, .inl (by decide +kernel)⟩, by decide⟩

theorem namesCollection_secondMovies (size : Option Int32) :
    NamesCollection { secondMovies with size } 2 := by
  have collection : secondMovies.isCollectionHub = true := by decide +kernel
  exact ⟨collection, ⟨_, rfl, .inl (by decide +kernel)⟩, by decide⟩

theorem merged_movies_decode :
    DecodesToSources segmentMatch {} unwatchedPresentation
      { hub := [firstMovies, secondMovies] } "Movies" [1, 2] := by
  have rows : [firstMovies, secondMovies].filter
      (fun hub => hub.title == "Movies") = [firstMovies, secondMovies] := by
    rfl
  have named : List.Forall₂ NamesCollection [firstMovies, secondMovies]
      [1, 2] :=
    .cons (namesCollection_firstMovies none)
      (.cons (namesCollection_secondMovies (some 1)) .nil)
  exact merged_key_decodes segmentMatch_matchesSegments {} rfl rows (by simp)
    named (by decide +kernel)
    (isSegment_ofList (by simp) (by simp) (by simp) (by decide))

/-- A row that reports no size is not merged, and a style of two segments
leads to another route. -/
theorem unsized_or_oddly_styled_rows_do_not_decode :
    let unsized := [firstMovies, { secondMovies with size := none }]
    let styled := [{ firstMovies with style := some "wide/row" }, secondMovies]
    (List.Forall₂ NamesCollection unsized [1, 2] ∧
      ¬ DecodesToSources segmentMatch {} unwatchedPresentation
        { hub := unsized } "Movies" [1, 2]) ∧
    List.Forall₂ NamesCollection styled [1, 2] ∧
      ¬ DecodesToSources segmentMatch {} unwatchedPresentation
        { hub := styled } "Movies" [1, 2] := by
  intro unsized styled
  refine ⟨⟨?_, ?_⟩, ?_, ?_⟩
  · exact .cons (namesCollection_firstMovies none)
      (.cons (namesCollection_secondMovies none) .nil)
  · rintro ⟨merged, key, text, only, keyed, selected, read⟩
    have keys : ([merged].map fun hub =>
        (hubKeyTransform.transformMetadata hub).key) =
          [some "/replex/shelf/library/collections/1/children"] := by
      rw [← only]
      decide +kernel
    rw [List.map_singleton, keyed, List.singleton_inj, Option.some.injEq]
      at keys
    have path : "/replex/shelf/library/collections/1/children" =
        pathOf (keySegments "shelf" "1") := rfl
    rw [keys, path, selectHandler_keySegments segmentMatch_matchesSegments
      {} (isSegment_ofList (by simp) (by simp) (by simp) (by decide))
      (isSegment_ofList (by simp) (by simp) (by simp) (by decide))]
      at selected
    cases selected
    revert read
    decide +kernel
  · exact .cons (namesCollection_firstMovies (some "wide/row"))
      (.cons (namesCollection_secondMovies (some 1)) .nil)
  · rintro ⟨merged, key, text, only, keyed, selected, read⟩
    have keys : ([merged].map fun hub =>
        (hubKeyTransform.transformMetadata hub).key) =
          [some "/replex/wide/row/library/collections/1,2/children"] := by
      rw [← only]
      decide +kernel
    rw [List.map_singleton, keyed, List.singleton_inj, Option.some.injEq]
      at keys
    have path : "/replex/wide/row/library/collections/1,2/children" =
        pathOf ["replex", "wide", "row", "library", "collections", "1,2",
          "children"] := rfl
    rw [keys, path] at selected
    obtain ⟨params, matched⟩ :=
      exists_params_of_getCollectionsChildren selected
    rw [segmentMatch_matchesSegments.plain _ _
      isPlainPattern_collectionsChildren] at matched
    · have lengths := length_of_bindSegments matched
      rw [patternSegments_collectionsChildren] at lengths
      simp at lengths
    · simp only [List.forall_mem_cons, List.not_mem_nil, false_imp_iff,
        implies_true, and_true]
      refine ⟨?_, ?_, ?_, ?_, ?_, ?_, ?_⟩
      all_goals
        exact isSegment_ofList (by simp) (by simp) (by simp) (by decide)

end Replex
