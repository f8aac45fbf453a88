import Mathlib.Data.List.TakeWhile
import Mathlib.Data.String.Basic
import Replex.Data.FormUrlEncoded
import Replex.Routes.LibraryProvenance

namespace Replex

open Data

/-! What a library cache key tells apart, and where one request gets two. -/

theorem pairLe_total (left right : String × String) :
    PairLe left right ∨ PairLe right left := by
  unfold PairLe
  rcases lt_trichotomy left.1 right.1 with before | same | after
  · exact .inl (.inl before)
  · rcases le_total left.2 right.2 with lower | upper
    · exact .inl (.inr ⟨same, lower⟩)
    · exact .inr (.inr ⟨same.symm, upper⟩)
  · exact .inr (.inl after)

theorem pairLe_trans {left middle right : String × String}
    (first : PairLe left middle) (second : PairLe middle right) :
    PairLe left right := by
  unfold PairLe at *
  rcases first with before | ⟨same, lower⟩
  · rcases second with later | ⟨equal, -⟩
    · exact .inl (before.trans later)
    · exact .inl (equal ▸ before)
  · rcases second with later | ⟨equal, upper⟩
    · exact .inl (same ▸ later)
    · exact .inr ⟨same.trans equal, lower.trans upper⟩

theorem pairLe_antisymm {left right : String × String}
    (first : PairLe left right) (second : PairLe right left) :
    left = right := by
  unfold PairLe at *
  rcases first with before | ⟨same, lower⟩
  · rcases second with after | ⟨equal, -⟩
    · exact absurd after before.not_gt
    · exact absurd equal before.ne'
  · rcases second with after | ⟨-, upper⟩
    · exact absurd same after.ne'
    · exact Prod.ext same (lower.antisymm upper)

instance : Std.Total PairLe := ⟨pairLe_total⟩

instance : IsTrans (String × String) PairLe :=
  ⟨fun _ _ _ => pairLe_trans⟩

instance : Std.Antisymm PairLe := ⟨fun _ _ => pairLe_antisymm⟩

theorem insertionSort_pairLe_eq_iff {pairs others : List (String × String)} :
    pairs.insertionSort PairLe = others.insertionSort PairLe ↔
      pairs.Perm others := by
  have sorted := List.perm_insertionSort PairLe pairs
  have otherSorted := List.perm_insertionSort PairLe others
  constructor
  · intro same
    exact sorted.symm.trans ((List.Perm.of_eq same).trans otherSorted)
  · intro same
    exact (sorted.trans (same.trans otherSorted.symm)).eq_of_pairwise'
      (List.pairwise_insertionSort PairLe pairs)
      (List.pairwise_insertionSort PairLe others)

namespace TargetCodec

/-- Parsing is idempotent on what it wrote, and decoding undoes encoding. -/
structure Faithful (codec : TargetCodec) : Prop where
  urlPath_query : ∀ {raw path}, codec.urlPath? raw = some path → ∀ pairs,
    codec.urlPath? (path ++ "?" ++ codec.serialize pairs) = some path
  pairs_query : ∀ {raw path}, codec.urlPath? raw = some path → ∀ pairs,
    codec.pairs (path ++ "?" ++ codec.serialize pairs) = pairs
  urlPath_bare : ∀ {raw path}, codec.urlPath? raw = some path →
    codec.urlPath? path = some path
  pairs_bare : ∀ {raw path}, codec.urlPath? raw = some path →
    codec.pairs path = []
  serialize_nil : codec.serialize [] = ""

theorem Faithful.pairs_of_serialize_eq {codec : TargetCodec}
    (faithful : codec.Faithful) {raw path : String}
    (parsed : codec.urlPath? raw = some path)
    {pairs others : List (String × String)}
    (same : codec.serialize pairs = codec.serialize others) :
    pairs = others := by
  rw [← faithful.pairs_query parsed pairs, same,
    faithful.pairs_query parsed others]

theorem Faithful.lawful {codec : TargetCodec} (faithful : codec.Faithful) :
    codec.Lawful := by
  have read {raw path : String} (parsed : codec.urlPath? raw = some path)
      (pairs : List (String × String)) :
      codec.urlPath? (codec.withQuery path pairs) = some path ∧
        codec.pairs (codec.withQuery path pairs) = pairs := by
    unfold withQuery
    simp only
    split
    next empty =>
      have none : pairs = [] := by
        apply faithful.pairs_of_serialize_eq parsed
        rw [empty, faithful.serialize_nil]
      exact ⟨faithful.urlPath_bare parsed,
        (faithful.pairs_bare parsed).trans none.symm⟩
    next =>
      exact ⟨faithful.urlPath_query parsed pairs,
        faithful.pairs_query parsed pairs⟩
  constructor
  · intro raw path pairs parsed _
    exact (read parsed pairs).1
  · intro raw path pairs parsed _
    exact (read parsed pairs).2

/-- The pairs of a target that define its payload. -/
def keyPairs (codec : TargetCodec) (raw : String) : List (String × String) :=
  ((codec.pairs raw).filter fun pair => !isLibraryKeyNoise pair.1).map
    fun pair => (Text.toAsciiLowercase pair.1, pair.2)

/-- The same page at the same path, however it was asked for. -/
def SameRequest (codec : TargetCodec) (raw other : String) : Prop :=
  ∃ path, codec.urlPath? raw = some path ∧ codec.urlPath? other = some path ∧
    (codec.keyPairs raw).Perm (codec.keyPairs other)

end TargetCodec

section

variable {codec : TargetCodec} {digest : TokenDigest}

theorem canonicalLibraryPath_of_parsed {raw path : String}
    (parsed : codec.urlPath? raw = some path) :
    canonicalLibraryPath codec raw =
      "library:http://x" ++ (path ++ "?" ++
        codec.serialize ((codec.keyPairs raw).insertionSort PairLe)) := by
  simp only [canonicalLibraryPath, parsed, TargetCodec.keyPairs,
    String.append_assoc]

/-- What was written is read back, so a canonical path gives away the path and
the pairs it was made from. -/
theorem canonicalLibraryPath_eq_iff (faithful : codec.Faithful)
    {raw other : String} (parsed : (codec.urlPath? raw).isSome)
    (otherParsed : (codec.urlPath? other).isSome) :
    canonicalLibraryPath codec raw = canonicalLibraryPath codec other ↔
      codec.SameRequest raw other := by
  obtain ⟨path, found⟩ := Option.isSome_iff_exists.mp parsed
  obtain ⟨otherPath, otherFound⟩ := Option.isSome_iff_exists.mp otherParsed
  rw [canonicalLibraryPath_of_parsed found,
    canonicalLibraryPath_of_parsed otherFound, String.append_right_inj,
    TargetCodec.SameRequest, ← insertionSort_pairLe_eq_iff]
  generalize (codec.keyPairs raw).insertionSort PairLe = pairs
  generalize (codec.keyPairs other).insertionSort PairLe = others
  constructor
  · intro written
    refine ⟨path, found, ?_, ?_⟩
    · rw [otherFound, ← faithful.urlPath_query found pairs, written,
        faithful.urlPath_query otherFound others]
    · rw [← faithful.pairs_query found pairs, written,
        faithful.pairs_query otherFound others]
  · rintro ⟨shared, first, second, rfl⟩
    rw [Option.some.inj (found.symm.trans first),
      Option.some.inj (otherFound.symm.trans second)]

theorem libraryCacheKeyFor_eq_iff (faithful : codec.Faithful)
    {raw other : String} (parsed : (codec.urlPath? raw).isSome)
    (otherParsed : (codec.urlPath? other).isSome)
    (token otherToken : Option String) :
    libraryCacheKeyFor codec digest raw token =
        libraryCacheKeyFor codec digest other otherToken ↔
      digest.tokenScope token = digest.tokenScope otherToken ∧
        codec.SameRequest raw other := by
  rw [← canonicalLibraryPath_eq_iff faithful parsed otherParsed]
  constructor
  · intro same
    exact eq_of_libraryKey_eq same
  · rintro ⟨scope, path⟩
    rw [libraryCacheKeyFor, libraryCacheKeyFor, scope, path]

end

/-! The token that a multimap shows first. -/

def isTokenName (name : String) : Bool :=
  Text.eqIgnoreAsciiCase name "x-plex-token"

theorem isLibraryFetchShaping_of_isTokenName {name : String}
    (named : isTokenName name = true) : isLibraryFetchShaping name = false := by
  have lower : Text.toAsciiLowercase name = "x-plex-token" := by
    unfold isTokenName Text.eqIgnoreAsciiCase at named
    rw [Text.toAsciiLowercase, beq_iff_eq.mp named]
    decide
  rw [isLibraryFetchShaping, lower]
  decide

/-- An order that a hash map may well have. -/
def KeyOrder.showingFirst (pair : String × String) : KeyOrder where
  iterate queries :=
    queries.iter.filter (· = pair) ++ queries.iter.filter fun other =>
      !decide (other = pair)
  perm queries := List.filter_append_perm _ queries.iter

section

variable {codec : TargetCodec} {digest : TokenDigest}

theorem requestToken_of_bare (order : KeyOrder) {request : LibraryRequest}
    (bare : request.tokenHeader = none) :
    (∃ pair ∈ (codec.queries request.target).iter,
        isTokenName pair.1 = true ∧
          requestToken codec order request = some pair.2) ∨
      requestToken codec order request = none ∧
        ∀ pair ∈ (codec.queries request.target).iter,
          ¬ isTokenName pair.1 = true := by
  have shown (pair : String × String) :=
    (order.perm (codec.queries request.target)).mem_iff (a := pair)
  simp only [requestToken, bare]
  cases found : (order.iterate (codec.queries request.target)).find?
      fun pair => Text.eqIgnoreAsciiCase pair.1 "x-plex-token" with
  | some pair =>
      have listed := (shown pair).mp (List.mem_of_find?_eq_some found)
      have named := List.find?_some found
      exact .inl ⟨pair, listed, named, rfl⟩
  | none =>
      refine .inr ⟨rfl, ?_⟩
      intro pair listed
      exact List.find?_eq_none.mp found pair ((shown pair).mpr listed)

theorem requestToken_showingFirst {request : LibraryRequest}
    (bare : request.tokenHeader = none) {pair : String × String}
    (shown : pair ∈ (codec.queries request.target).iter)
    (named : isTokenName pair.1 = true) :
    requestToken codec (KeyOrder.showingFirst pair) request =
      some pair.2 := by
  have only (other : String × String)
      (listed : other ∈ (codec.queries request.target).iter.filter
        (· = pair)) : other = pair := by
    simpa using (List.mem_filter.mp listed).2
  have present : (((codec.queries request.target).iter.filter
      (· = pair)).find? fun other =>
        Text.eqIgnoreAsciiCase other.1 "x-plex-token").isSome = true :=
    List.find?_isSome.mpr
      ⟨pair, List.mem_filter.mpr ⟨shown, by simp⟩, named⟩
  obtain ⟨other, found⟩ := Option.isSome_iff_exists.mp present
  have same := only other (List.mem_of_find?_eq_some found)
  simp [requestToken, bare, KeyOrder.showingFirst, List.find?_append, found,
    same]

/-- The rewriting keeps every value of a name that it does not drop. -/
theorem get?_filter_of_not_shaping {pairs : List (String × String)}
    {name : String} (kept : isLibraryFetchShaping name = false) :
    MultiMap.get? ⟨pairs.filter fun pair => !isLibraryFetchShaping pair.1⟩
      name = MultiMap.get? ⟨pairs⟩ name := by
  apply MultiMap.get?_congr
  unfold MultiMap.getAll
  rw [List.filterMap_filter]
  congr 1
  funext pair
  by_cases same : pair.1 = name
  · simp [same, kept]
  · simp [same]

end

/-! The key of the lookup, of the store and of the warmer. -/

section

variable (codec : TargetCodec) (digest : TokenDigest)

namespace LibraryRequest

/-- `normalize_library_fetch` sets a new target. -/
def isRewritten (request : LibraryRequest) : Bool :=
  match codec.urlPath? request.target with
  | none => false
  | some path => codec.converts (codec.withQuery path
      ((codec.pairs request.target).filter fun pair =>
        !isLibraryFetchShaping pair.1))

/-- A request parses its query once, and again after its target was set. -/
def storeOrder (request : LibraryRequest) (lookup store : KeyOrder) :
    KeyOrder :=
  if request.isRewritten codec then store else lookup

/-- Lookup and store use one key, which is the warmer's for the same page and
scope. -/
def KeepsKey (request : LibraryRequest) : Prop :=
  ∀ lookup store,
    libraryCacheKey codec digest lookup request =
        libraryCacheKey codec digest (request.storeOrder codec lookup store)
          (normalizeLibraryFetch codec request) ∧
      ∀ token sectionId start,
        digest.tokenScope (requestToken codec lookup request) =
            digest.tokenScope (some token) →
          codec.SameRequest request.target
            (warmLibraryPath sectionId start) →
          libraryCacheKey codec digest lookup request =
            libraryCacheKeyFor codec digest (warmLibraryPath sectionId start)
              (some token)

/-- Without a header, the tokens in the query of a rewritten request belong to
one scope, however their names are spelled. -/
def OneTokenScope (request : LibraryRequest) : Prop :=
  request.tokenHeader = none → request.isRewritten codec = true →
    ∀ pair ∈ (codec.queries request.target).iter,
      ∀ other ∈ (codec.queries request.target).iter,
        isTokenName pair.1 = true → isTokenName other.1 = true →
          digest.tokenScope (some pair.2) = digest.tokenScope (some other.2)

end LibraryRequest

/-- Equal keys, equal scopes and one logical request. -/
def LibraryKeysIdentify : Prop :=
  ∀ raw other, (codec.urlPath? raw).isSome → (codec.urlPath? other).isSome →
    ∀ token otherToken,
      libraryCacheKeyFor codec digest raw token =
          libraryCacheKeyFor codec digest other otherToken ↔
        digest.tokenScope token = digest.tokenScope otherToken ∧
          codec.SameRequest raw other

variable {codec digest}

theorem normalizeLibraryFetch_of_not_isRewritten {request : LibraryRequest}
    (left : request.isRewritten codec = false) :
    normalizeLibraryFetch codec request = request := by
  unfold LibraryRequest.isRewritten at left
  unfold normalizeLibraryFetch
  split
  · rfl
  next path parsed =>
      rw [parsed] at left
      exact if_neg (by simpa using left)

theorem queries_normalizeLibraryFetch (faithful : codec.Faithful)
    {request : LibraryRequest} (rewritten : request.isRewritten codec = true) :
    codec.queries (normalizeLibraryFetch codec request).target =
      ⟨(codec.pairs request.target).filter fun pair =>
        !isLibraryFetchShaping pair.1⟩ := by
  unfold LibraryRequest.isRewritten at rewritten
  unfold normalizeLibraryFetch
  split
  next unparsed => simp [unparsed] at rewritten
  next path parsed =>
      simp only [parsed] at rewritten
      simp only [rewritten, if_true, TargetCodec.queries]
      rw [faithful.lawful.pairs_withQuery _ _ _ parsed List.filter_sublist]

theorem tokenHeader_normalizeLibraryFetch (codec : TargetCodec)
    (request : LibraryRequest) :
    (normalizeLibraryFetch codec request).tokenHeader =
      request.tokenHeader := by
  unfold normalizeLibraryFetch
  split
  · rfl
  · simp only
    split
    · rfl
    · rfl

/-- The tokens of the query survive the rewriting. -/
theorem mem_iter_normalizeLibraryFetch (faithful : codec.Faithful)
    {request : LibraryRequest} (rewritten : request.isRewritten codec = true)
    {pair : String × String} (named : isTokenName pair.1 = true) :
    pair ∈ (codec.queries (normalizeLibraryFetch codec
        request).target).iter ↔
      pair ∈ (codec.queries request.target).iter := by
  rw [queries_normalizeLibraryFetch faithful rewritten, MultiMap.mem_iter_iff,
    MultiMap.mem_iter_iff, TargetCodec.queries,
    get?_filter_of_not_shaping (isLibraryFetchShaping_of_isTokenName named)]

theorem tokenScope_normalizeLibraryFetch (faithful : codec.Faithful)
    {request : LibraryRequest} (one : request.OneTokenScope codec digest)
    (lookup store : KeyOrder) :
    digest.tokenScope (requestToken codec lookup request) =
      digest.tokenScope (requestToken codec
        (request.storeOrder codec lookup store)
        (normalizeLibraryFetch codec request)) := by
  cases rewritten : request.isRewritten codec with
  | false =>
      rw [normalizeLibraryFetch_of_not_isRewritten rewritten,
        LibraryRequest.storeOrder, rewritten, if_neg Bool.false_ne_true]
  | true =>
      have header := tokenHeader_normalizeLibraryFetch codec request
      rw [LibraryRequest.storeOrder, rewritten, if_pos rfl]
      cases bare : request.tokenHeader with
      | some token =>
          rw [bare] at header
          rw [requestToken, bare, requestToken, header]
      | none =>
          rw [bare] at header
          have kept {pair : String × String} :=
            @mem_iter_normalizeLibraryFetch codec faithful request rewritten
              pair
          rcases requestToken_of_bare lookup bare with
            ⟨pair, listed, named, read⟩ | ⟨read, absent⟩
          · rcases requestToken_of_bare store header with
              ⟨other, present, tagged, found⟩ | ⟨-, absent⟩
            · rw [read, found]
              exact one bare rewritten pair listed other
                ((kept tagged).mp present) named tagged
            · exact absurd named (absent pair ((kept named).mpr listed))
          · rcases requestToken_of_bare store header with
              ⟨other, present, tagged, -⟩ | ⟨found, -⟩
            · exact absurd tagged (absent other ((kept tagged).mp present))
            · rw [read, found]

/-- Two orders that show one token each lead to two keys. -/
theorem oneTokenScope_of_keepsKey (faithful : codec.Faithful)
    {request : LibraryRequest} (keeps : request.KeepsKey codec digest) :
    request.OneTokenScope codec digest := by
  intro bare rewritten pair listed other present named tagged
  have header := tokenHeader_normalizeLibraryFetch codec request
  rw [bare] at header
  have moved := (mem_iter_normalizeLibraryFetch faithful rewritten
    tagged).mpr present
  have same := (keeps (KeyOrder.showingFirst pair)
    (KeyOrder.showingFirst other)).1
  rw [LibraryRequest.storeOrder, rewritten, if_pos rfl, libraryCacheKey,
    libraryCacheKey, requestToken_showingFirst bare listed named,
    requestToken_showingFirst header moved tagged] at same
  exact (eq_of_libraryKey_eq same).1

/-- The keys tell logical requests apart and nothing else; a request keeps its
key unless the order of a hash map chooses between two accounts. -/
theorem library_keys_identify_requests_iff (faithful : codec.Faithful)
    (digest : TokenDigest) (request : LibraryRequest) :
    LibraryKeysIdentify codec digest ∧ request.KeepsKey codec digest ↔
      request.OneTokenScope codec digest := by
  have identify : LibraryKeysIdentify codec digest := by
    intro raw other parsed otherParsed token otherToken
    exact libraryCacheKeyFor_eq_iff faithful parsed otherParsed token
      otherToken
  constructor
  · rintro ⟨-, keeps⟩
    exact oneTokenScope_of_keepsKey faithful keeps
  · intro one
    refine ⟨identify, ?_⟩
    intro lookup store
    constructor
    · rw [libraryCacheKey, libraryCacheKey, libraryCacheKeyFor,
        libraryCacheKeyFor,
        canonicalLibraryPath_normalizeLibraryFetch faithful.lawful,
        tokenScope_normalizeLibraryFetch faithful one lookup store]
    · intro token sectionId start scope same
      obtain ⟨path, parsed, warmed, -⟩ := id same
      exact (identify _ _ (by simp [parsed]) (by simp [warmed]) _ _).mpr
        ⟨scope, same⟩

end

/-! Absolute paths with their queries as forms. -/

def formCodec : TargetCodec where
  path target := String.ofList (target.toList.takeWhile (· ≠ '?'))
  pairs target :=
    FormUrlEncoded.parse ((target.toList.dropWhile (· ≠ '?')).drop 1)
  urlPath? target :=
    if Text.startsWith target "/" then
      some (String.ofList (target.toList.takeWhile (· ≠ '?')))
    else
      none
  serialize := FormUrlEncoded.serialize
  converts _ := true

theorem eq_of_urlPath?_formCodec {raw path : String}
    (parsed : formCodec.urlPath? raw = some path) :
    Text.startsWith path "/" = true ∧
      ∀ char ∈ path.toList, decide (char ≠ '?') = true := by
  simp only [formCodec] at parsed
  split at parsed
  next absolute =>
      cases parsed
      rw [String.toList_ofList]
      constructor
      · unfold Text.startsWith at *
        rw [String.toList_ofList, List.isPrefixOf_iff_prefix] at *
        obtain ⟨rest, same⟩ := absolute
        rw [← same]
        simp
      · intro char listed
        have kept := List.mem_takeWhile_imp listed
        exact kept
  next => cases parsed

theorem faithful_formCodec : formCodec.Faithful := by
  have written {raw path : String}
      (parsed : formCodec.urlPath? raw = some path)
      (pairs : List (String × String)) :
      formCodec.urlPath? (path ++ "?" ++ formCodec.serialize pairs) =
          some path ∧
        formCodec.pairs (path ++ "?" ++ formCodec.serialize pairs) =
          pairs := by
    obtain ⟨absolute, plain⟩ := eq_of_urlPath?_formCodec parsed
    have mark : "?".toList = ['?'] := rfl
    have starts : Text.startsWith
        (path ++ "?" ++ FormUrlEncoded.serialize pairs) "/" = true := by
      unfold Text.startsWith at *
      rw [List.isPrefixOf_iff_prefix] at *
      rw [String.append_assoc, String.toList_append]
      exact absolute.trans (List.prefix_append _ _)
    simp only [formCodec, starts, if_true]
    simp only [String.append_assoc, String.toList_append, mark,
      List.takeWhile_append_of_pos plain, List.dropWhile_append_of_pos plain]
    simp [FormUrlEncoded.parse_serialize]
  have bare {raw path : String}
      (parsed : formCodec.urlPath? raw = some path) :
      formCodec.urlPath? path = some path ∧ formCodec.pairs path = [] := by
    obtain ⟨absolute, plain⟩ := eq_of_urlPath?_formCodec parsed
    have none : path.toList.dropWhile (· ≠ '?') = [] :=
      List.dropWhile_eq_nil_iff.mpr plain
    have whole : path.toList.takeWhile (· ≠ '?') = path.toList :=
      List.takeWhile_eq_self_iff.mpr plain
    simp only [formCodec, absolute, if_true, none, whole,
      String.ofList_toList]
    exact ⟨trivial, rfl⟩
  constructor
  · exact fun parsed pairs => (written parsed pairs).1
  · exact fun parsed pairs => (written parsed pairs).2
  · exact fun parsed => (bare parsed).1
  · exact fun parsed => (bare parsed).2
  · rfl

def noisyRequest : LibraryRequest where
  target :=
    "/library/sections/6/all?X-Plex-Token=jodie-token&includeFields=title"

theorem library_keys_identify_noisy_request :
    noisyRequest.KeepsKey formCodec viewerDigest := by
  have shown : (formCodec.queries noisyRequest.target).iter =
      [("X-Plex-Token", "jodie-token"), ("includeFields", "title")] := by
    decide +kernel
  have one : noisyRequest.OneTokenScope formCodec viewerDigest := by
    intro _ _ pair listed other present named tagged
    rw [shown] at listed present
    have token (pair : String × String)
        (listed : pair ∈
          [("X-Plex-Token", "jodie-token"), ("includeFields", "title")])
        (named : isTokenName pair.1 = true) : pair.2 = "jodie-token" := by
      rcases List.mem_pair.mp listed with rfl | rfl
      · rfl
      · revert named
        decide
    rw [token pair listed named, token other present tagged]
  exact ((library_keys_identify_requests_iff faithful_formCodec viewerDigest
    noisyRequest).mpr one).2

def twoTokenRequest : LibraryRequest where
  target :=
    "/library/sections/6/all?X-Plex-Token=jodie-token&x-plex-token=luke-token"

theorem two_token_request_gets_two_keys :
    twoTokenRequest.isRewritten formCodec = true ∧
      libraryCacheKey formCodec viewerDigest
          (KeyOrder.showingFirst ("X-Plex-Token", "jodie-token"))
          twoTokenRequest ≠
        libraryCacheKey formCodec viewerDigest
          (KeyOrder.showingFirst ("x-plex-token", "luke-token"))
          (normalizeLibraryFetch formCodec twoTokenRequest) := by
  decide +kernel

end Replex
