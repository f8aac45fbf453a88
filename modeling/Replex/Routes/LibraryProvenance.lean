import Replex.Data.Transition
import Replex.HubCache.Provenance
import Replex.Routes.LibraryReplay

namespace Replex

open Data

/-! A stored library body stays with the token scope and the canonical path it
was fetched for. -/

/-! The keys. -/

/-- A target rewritten with some of its pairs is read back as these, at the
same path. -/
structure TargetCodec.Lawful (codec : TargetCodec) : Prop where
  urlPath_withQuery : ∀ raw path pairs, codec.urlPath? raw = some path →
    pairs.Sublist (codec.pairs raw) →
    codec.urlPath? (codec.withQuery path pairs) = some path
  pairs_withQuery : ∀ raw path pairs, codec.urlPath? raw = some path →
    pairs.Sublist (codec.pairs raw) →
    codec.pairs (codec.withQuery path pairs) = pairs

theorem isLibraryKeyNoise_of_shaping {name : String}
    (shaping : isLibraryFetchShaping name = true) :
    isLibraryKeyNoise name = true := by
  unfold isLibraryFetchShaping at shaping
  unfold isLibraryKeyNoise
  simp only [List.contains_iff_mem, List.mem_cons, List.not_mem_nil, or_false]
    at shaping
  rcases shaping with lower | lower | lower
  · rw [lower]
    decide
  · rw [lower]
    decide
  · rw [lower]
    decide

/-- The rewriting between lookup and store drops nothing that is part of the
key. -/
theorem canonicalLibraryPath_normalizeLibraryFetch {codec : TargetCodec}
    (lawful : codec.Lawful) (request : LibraryRequest) :
    canonicalLibraryPath codec (normalizeLibraryFetch codec request).target =
      canonicalLibraryPath codec request.target := by
  unfold normalizeLibraryFetch
  split
  · rfl
  next path parsed =>
      simp only
      split
      · have kept : ((codec.pairs request.target).filter fun pair =>
              !isLibraryFetchShaping pair.1).filter (fun pair =>
                !isLibraryKeyNoise pair.1) =
            (codec.pairs request.target).filter fun pair =>
              !isLibraryKeyNoise pair.1 := by
          rw [List.filter_filter]
          apply List.filter_congr
          intro pair _
          cases shaping : isLibraryFetchShaping pair.1 with
          | false => simp
          | true => simp [isLibraryKeyNoise_of_shaping shaping]
        unfold canonicalLibraryPath
        rw [lawful.urlPath_withQuery _ _ _ parsed List.filter_sublist, parsed]
        simp only
        rw [lawful.pairs_withQuery _ _ _ parsed List.filter_sublist, kept]
      · rfl

theorem eq_of_libraryKey_eq {digest : TokenDigest}
    {token other : Option String} {path otherPath : String}
    (same : "library:u:" ++ digest.tokenScope token ++ ":" ++ path =
      "library:u:" ++ digest.tokenScope other ++ ":" ++ otherPath) :
    digest.tokenScope token = digest.tokenScope other ∧ path = otherPath := by
  have lists := congrArg String.toList same
  have colon : ":".toList = [':'] := rfl
  simp only [String.toList_append, List.append_assoc,
    List.append_cancel_left_eq, colon, List.singleton_append] at lists
  have scopes := congrArg (List.takeWhile (· ≠ ':')) lists
  rw [takeWhile_ne_colon (colon_not_mem_tokenScope digest token),
    takeWhile_ne_colon (colon_not_mem_tokenScope digest other)] at scopes
  rw [scopes, List.append_cancel_left_eq, List.cons.injEq] at lists
  exact ⟨String.toList_injective scopes, String.toList_injective lists.2⟩

/-! The tokens a request carries. -/

/-- Where the context reads its token from the query, every other place that
the key's token may come from holds the same one. -/
def LibraryRequest.TokensAgree (codec : TargetCodec)
    (request : LibraryRequest) : Prop :=
  ∀ token, (codec.queries request.target).get? "X-Plex-Token" = some token →
    match request.tokenHeader with
    | some header => header = token
    | none => ∀ pair ∈ (codec.queries request.target).iter,
        Text.eqIgnoreAsciiCase pair.1 "x-plex-token" = true → pair.2 = token

theorem exists_requestToken_of_query {codec : TargetCodec}
    {request : LibraryRequest} {token : String}
    (bare : request.tokenHeader = none)
    (query : (codec.queries request.target).get? "X-Plex-Token" = some token)
    (order : KeyOrder) :
    ∃ pair ∈ (codec.queries request.target).iter,
      Text.eqIgnoreAsciiCase pair.1 "x-plex-token" = true ∧
        requestToken codec order request = some pair.2 := by
  have shown : ("X-Plex-Token", token) ∈
      order.iterate (codec.queries request.target) :=
    (order.perm _).mem_iff.mpr (MultiMap.mem_iter_iff.mpr query)
  have named : Text.eqIgnoreAsciiCase "X-Plex-Token" "x-plex-token" = true := by
    decide
  have present : ((order.iterate (codec.queries request.target)).find?
      fun pair => Text.eqIgnoreAsciiCase pair.1 "x-plex-token").isSome = true :=
    List.find?_isSome.mpr ⟨_, shown, named⟩
  obtain ⟨pair, first⟩ := Option.isSome_iff_exists.mp present
  have matched := List.find?_some first
  refine ⟨pair, ?_, matched, ?_⟩
  · exact (order.perm _).mem_iff.mp (List.mem_of_find?_eq_some first)
  · simp [requestToken, bare, first]

theorem LibraryRequest.TokensAgree.requestToken_eq {codec : TargetCodec}
    {request : LibraryRequest} (agree : request.TokensAgree codec)
    (order : KeyOrder) {token : String}
    (found : contextToken codec request = some token) :
    requestToken codec order request = some token := by
  unfold contextToken at found
  cases header : request.tokenHeader with
  | some value =>
      have same : value = token := by
        cases query : (codec.queries request.target).get? "X-Plex-Token" with
        | none => simpa [query, header] using found
        | some first =>
            have agrees := agree first query
            simp only [header] at agrees
            rw [query, Option.some_or] at found
            exact agrees.trans (Option.some.inj found)
      simp [requestToken, header, same]
  | none =>
      have query : (codec.queries request.target).get? "X-Plex-Token" =
          some token := by
        simpa [header] using found
      obtain ⟨pair, shown, named, read⟩ :=
        exists_requestToken_of_query header query order
      have agrees := agree token query
      simp only [header] at agrees
      rw [read, agrees pair shown named]

/-! The account behind a request. -/

/-- On a protected path the handlers find the policy that was in force for the
context's account when the middleware ran. -/
theorem currentPolicy_requestDepot
    {identity : PlexClient → Except IdentityError ResolvedIdentity}
    {config : Config} {runtime : PolicySnapshot} {request : RequestContext}
    {path : String} {skipOptionalTransforms : Bool} {client : PlexClient}
    (required : requiresSecurityContext path = true)
    (built : plexClientFromDepot config request.plex
      (requestDepot identity config runtime request path
        skipOptionalTransforms) = .ok client) :
    currentPolicy identity runtime client =
      accountPolicy identity runtime request.upstreamHost request.plex := by
  cases enabled : runtime.enabled with
  | false => simp [currentPolicy, accountPolicy, enabled]
  | true =>
      cases fresh : PlexClient.fromContextWithState request.plex config with
      | error error => simp [plexClientFromDepot, requestDepot, fresh] at built
      | ok bare =>
          obtain ⟨host, rfl⟩ := PlexClient.eq_of_fromContextWithState fresh
          cases found : identity
              { host := request.upstreamHost, context := request.plex } with
          | error error =>
              have state : securityContextMiddleware identity config runtime
                  request path =
                    some (.unavailable runtime.failClosed error.text) := by
                simp [securityContextMiddleware, enabled, required, fresh,
                  found]
              simp [plexClientFromDepot, requestDepot, state, fresh] at built
              subst built
              simp [currentPolicy, accountPolicy, enabled, found]
          | ok resolved =>
              have state : securityContextMiddleware identity config runtime
                  request path = some (.resolved
                    { identity := resolved.identity
                      tokenScope := request.tokenScope
                      policy := runtime.resolve resolved.identity
                      identitySource := resolved.source }) := by
                simp [securityContextMiddleware, enabled, required, fresh,
                  found]
              simp [plexClientFromDepot, requestDepot, state, fresh] at built
              subst built
              simp [currentPolicy, accountPolicy, enabled, found]

theorem exists_token_of_plexClientFromDepot {config : Config}
    {context : PlexContext} {depot : Depot} {request : RequestContext}
    {client : PlexClient} (present : depot.requestContext = some request)
    (built : plexClientFromDepot config context depot = .ok client) :
    ∃ token, request.plex.token = some token := by
  cases held : request.plex.token with
  | some token => exact ⟨token, rfl⟩
  | none =>
      simp [plexClientFromDepot, present, PlexClient.fromContextWithState,
        held] at built

theorem LibraryVisit.plex_eq_of_tokensAgree {codec : TargetCodec}
    {visit : LibraryVisit} (agree : visit.request.TokensAgree codec)
    {token : String} (held : (visit.plex codec).token = some token) :
    { visit.plex codec with token := visit.token codec } =
      visit.plex codec := by
  have same : visit.token codec = (visit.plex codec).token := by
    unfold LibraryVisit.plex at held ⊢
    cases extracted : visit.extracted with
    | none => simp [extracted] at held
    | some plex =>
        have context : contextToken codec visit.request = some token := by
          simpa [extracted] using held
        simp only [context]
        exact agree.requestToken_eq visit.order context
  rw [same]

theorem requiresSecurityContext_of_inLibrarySections {codec : TargetCodec}
    {request : LibraryRequest}
    (within : inLibrarySections codec request = true) :
    requiresSecurityContext (codec.path request.target) = true := by
  have library : Text.startsWith (codec.path request.target) "/library/" =
      true := by
    unfold inLibrarySections Text.startsWith at within
    unfold Text.startsWith
    rw [List.isPrefixOf_iff_prefix] at within ⊢
    exact List.IsPrefix.trans (by decide) within
  simp [requiresSecurityContext, library]

/-! Runs. -/

section

variable (codec : TargetCodec) (digest : TokenDigest) (config : Config)
  (fromBytes : Bytes → Option MediaContainer)

def StoredUnder (key : String) (entry : LibraryEntry) : Prop :=
  key = "library:u:" ++ digest.tokenScope entry.fetch.token ++ ":" ++
    entry.fetch.canonicalPath

/-- The body was fetched for the scope and the canonical path of the request,
and what was sent is that body under the policy of the request's account. -/
structure LibraryReplay.KeepsProvenance (replay : LibraryReplay) : Prop where
  scope : digest.tokenScope replay.entry.fetch.token =
    digest.tokenScope replay.token
  path : replay.entry.fetch.canonicalPath =
    canonicalLibraryPath codec replay.request.target
  filtered : ∃ payload, fromBytes replay.entry.body = some payload ∧
    replay.sent =
      applyPolicyTransforms replay.policy replay.failClosed payload

structure LibraryState.Traced (state : LibraryState) : Prop where
  stored : state.disk.Holds (StoredUnder digest)
  replayed : ∀ replay ∈ state.replays,
    replay.KeepsProvenance codec digest fromBytes

def TokensAgreeEach (_ : LibraryState) : LibraryAction → Prop
  | .receive visit => visit.request.TokensAgree codec
  | _ => True

variable {codec digest config fromBytes}

theorem holds_libraryCacheStore {key : String} {fetch : LibraryFetch}
    (keyed : key = "library:u:" ++ digest.tokenScope fetch.token ++ ":" ++
      fetch.canonicalPath)
    (reply : LibraryReply) {disk : DiskCache}
    (holds : disk.Holds (StoredUnder digest)) :
    (libraryCacheStore key fetch reply disk).Holds (StoredUnder digest) := by
  unfold libraryCacheStore
  split
  · exact holds.insert keyed
  · exact holds

theorem holds_store (lawful : codec.Lawful) (order : KeyOrder)
    (reply : LibraryReply) {disk : DiskCache}
    (holds : disk.Holds (StoredUnder digest)) (task : LibraryTask) :
    (task.store codec digest order reply disk).Holds
      (StoredUnder digest) := by
  cases task with
  | proxied request =>
      simp only [LibraryTask.store]
      split
      · apply holds_libraryCacheStore _ reply holds
        simp only
        rw [libraryCacheKey, libraryCacheKeyFor,
          canonicalLibraryPath_normalizeLibraryFetch lawful]
      · exact holds
  | warmed token path =>
      simp only [LibraryTask.store]
      split
      · exact holds.insert rfl
      · exact holds

theorem holds_libraryCacheLookup (config : Config)
    (fromBytes : Bytes → Option MediaContainer)
    (identity : PlexClient → Except IdentityError ResolvedIdentity)
    (runtime : PolicySnapshot) (depot : Depot) (key : String)
    {disk : DiskCache} (holds : disk.Holds (StoredUnder digest)) :
    (libraryCacheLookup identity config runtime depot fromBytes key
      disk).2.Holds (StoredUnder digest) := by
  unfold libraryCacheLookup
  split
  · exact holds
  · split
    · exact holds
    · exact holds.evict key

theorem found_of_libraryCacheLookup
    {identity : PlexClient → Except IdentityError ResolvedIdentity}
    {runtime : PolicySnapshot} {depot : Depot} {key : String}
    {disk later : DiskCache} {entry : LibraryEntry} {sent : MediaContainer}
    (hit : libraryCacheLookup identity config runtime depot fromBytes key
      disk = (some (entry, sent), later)) :
    disk.lookup key = some entry ∧
      policyTransformed identity config runtime depot
        (fromBytes entry.body) = some sent := by
  unfold libraryCacheLookup at hit
  split at hit
  · cases hit
  next listed found =>
      split at hit
      next container transformed =>
          cases hit
          exact ⟨found, transformed⟩
      · cases hit

/-- A hit is rendered for the token that also led to the entry. -/
theorem keepsProvenance_of_hit {visit : LibraryVisit}
    {runtime : PolicySnapshot} {disk later : DiskCache}
    {entry : LibraryEntry} {sent : MediaContainer}
    (holds : disk.Holds (StoredUnder digest))
    (within : inLibrarySections codec visit.request = true)
    (agree : visit.request.TokensAgree codec)
    (hit : libraryCacheLookup visit.identity config runtime
      (visit.depot codec digest config runtime) fromBytes
      (libraryCacheKey codec digest visit.order visit.request) disk =
        (some (entry, sent), later)) :
    (visit.replay codec runtime entry sent).KeepsProvenance codec digest
      fromBytes := by
  obtain ⟨found, transformed⟩ := found_of_libraryCacheLookup hit
  have keyed : libraryCacheKey codec digest visit.order visit.request =
      "library:u:" ++ digest.tokenScope entry.fetch.token ++ ":" ++
        entry.fetch.canonicalPath := holds _ entry found
  obtain ⟨scope, path⟩ := eq_of_libraryKey_eq keyed.symm
  refine ⟨scope, path, ?_⟩
  obtain ⟨payload, request, client, parsed, present, built, rfl⟩ :=
    policyTransformed_eq_some_iff.mp transformed
  refine ⟨payload, parsed, ?_⟩
  cases Option.some.inj present
  have current := currentPolicy_requestDepot
    (requiresSecurityContext_of_inLibrarySections within) built
  -- Without a token in its context the request would have got no client.
  obtain ⟨token, held⟩ := exists_token_of_plexClientFromDepot present built
  simp only [LibraryVisit.replay, LibraryVisit.plex_eq_of_tokensAgree agree held,
    current]

theorem traced_libraryStep (lawful : codec.Lawful) (state : LibraryState)
    (action : LibraryAction) (holds : state.Traced codec digest fromBytes)
    (agree : TokensAgreeEach codec state action) :
    (libraryStep codec digest config fromBytes state action).Traced codec
      digest fromBytes := by
  cases action with
  | receive visit =>
      simp only [libraryStep]
      split
      next within =>
          have disk := holds_libraryCacheLookup config fromBytes
            visit.identity state.runtime
            (visit.depot codec digest config state.runtime)
            (libraryCacheKey codec digest visit.order visit.request)
            holds.stored
          split
          next entry sent later hit =>
              rw [hit] at disk
              refine ⟨disk, ?_⟩
              intro replay listed
              rcases List.mem_append.mp listed with earlier | latest
              · exact holds.replayed replay earlier
              · cases List.mem_singleton.mp latest
                exact keepsProvenance_of_hit holds.stored within agree hit
          next later missed =>
              rw [missed] at disk
              exact ⟨disk, holds.replayed⟩
      · exact holds
  | answer index order reply =>
      simp only [libraryStep]
      split
      · exact holds
      next task found =>
          exact ⟨holds_store lawful order reply holds.stored task,
            holds.replayed⟩
  | abandon index => exact ⟨holds.stored, holds.replayed⟩
  | warm token sectionId start =>
      simp only [libraryStep]
      split
      · exact holds
      · exact ⟨holds.stored, holds.replayed⟩
  | reload runtime => exact ⟨holds.stored, holds.replayed⟩
  | evict key => exact ⟨holds.stored.evict key, holds.replayed⟩

/-- In every state that a run passes through, every hit so far kept its
provenance, provided the tokens of each request agree. -/
theorem library_hits_keep_provenance (lawful : codec.Lawful)
    {startup : PolicySnapshot} {actions taken : List LibraryAction}
    (agree : Transition.Meets (libraryStep codec digest config fromBytes)
      (TokensAgreeEach codec) { runtime := startup } actions)
    (reached : taken <+: actions) :
    ∀ replay ∈
        (libraryRun codec digest config fromBytes startup taken).replays,
      replay.KeepsProvenance codec digest fromBytes := by
  have initial : LibraryState.Traced codec digest fromBytes
      { runtime := startup } :=
    ⟨Store.holds_empty _, by simp⟩
  have traced := Transition.invariant_of_meets (traced_libraryStep lawful)
    initial (Transition.meets_of_prefix agree reached)
  exact traced.replayed

end

/-! Two accounts and one library page. -/

def plainPairs : String → List (String × String)
  | "/library/sections/6/all?includeFields=title" =>
      [("includeFields", "title")]
  | "/library/sections/6/all?X-Plex-Token=luke-token" =>
      [("X-Plex-Token", "luke-token")]
  | _ => []

def plainCodec : TargetCodec where
  path target := ((Text.split '?' target).head?).getD target
  pairs := plainPairs
  urlPath? target :=
    if ["/library/sections/6/all", "/library/sections/6/all?includeFields=title",
        "/library/sections/6/all?X-Plex-Token=luke-token"].contains target then
      some "/library/sections/6/all"
    else
      none
  serialize pairs :=
    "&".intercalate (pairs.map fun pair => pair.1 ++ "=" ++ pair.2)
  converts _ := true

def plainOrder : KeyOrder where
  iterate := MultiMap.iter
  perm _ := List.Perm.refl _

theorem lawful_plainCodec : plainCodec.Lawful := by
  have read (raw path : String) (pairs : List (String × String))
      (parsed : plainCodec.urlPath? raw = some path)
      (part : pairs.Sublist (plainCodec.pairs raw)) :
      plainCodec.urlPath? (plainCodec.withQuery path pairs) = some path ∧
        plainCodec.pairs (plainCodec.withQuery path pairs) = pairs := by
    simp only [plainCodec, List.contains_iff_mem, List.mem_cons,
      List.not_mem_nil, or_false] at parsed
    split at parsed
    next known =>
        cases parsed
        rcases known with rfl | rfl | rfl
        · cases List.sublist_nil.mp part
          decide
        · rcases List.sublist_singleton.mp part with rfl | rfl
          · decide
          · decide
        · rcases List.sublist_singleton.mp part with rfl | rfl
          · decide
          · decide
    · cases parsed
  constructor
  · intro raw path pairs parsed part
    exact (read raw path pairs parsed part).1
  · intro raw path pairs parsed part
    exact (read raw path pairs parsed part).2

def libraryVisit (target : String) : LibraryVisit where
  request := { target, tokenHeader := some "jodie-token" }
  order := plainOrder
  extracted := some {}
  upstreamHost := "http://plex:32400"
  skipOptionalTransforms := false
  identity client :=
    if client.context.token = some "jodie-token" then
      jodieServices.currentIdentity client
    else
      .ok
        { identity := { id := 7, uuid := "shared-luke", username := "luke" }
          source := .sharedServer }

/-- The first account's page is fetched and stored, and asked for again. -/
def libraryPageActions (target : String) : List LibraryAction :=
  [.receive (libraryVisit "/library/sections/6/all?includeFields=title"),
    .answer 0 plainOrder { status := 200, body := [123, 125] },
    .reload { jodieRuntime with generation := 2 },
    .receive (libraryVisit target)]

def libraryPageRun (target : String) : LibraryState :=
  libraryRun plainCodec viewerDigest viewerConfig pageBytes jodieRuntime
    (libraryPageActions target)

theorem library_hits_keep_provenance_page :
    ∃ replay ∈ (libraryPageRun "/library/sections/6/all").replays,
      replay.KeepsProvenance plainCodec viewerDigest pageBytes := by
  have agree (target : String)
      (bare : (plainCodec.queries target).get? "X-Plex-Token" = none) :
      (libraryVisit target).request.TokensAgree plainCodec := by
    intro token query
    rw [libraryVisit, bare] at query
    cases query
  have meets : Transition.Meets
      (libraryStep plainCodec viewerDigest viewerConfig pageBytes)
      (TokensAgreeEach plainCodec) { runtime := jodieRuntime }
      (libraryPageActions "/library/sections/6/all") :=
    ⟨agree _ (by decide), trivial, trivial, agree _ (by decide), trivial⟩
  have hit : ∃ replay rest, (libraryPageRun
      "/library/sections/6/all").replays = replay :: rest := ⟨_, _, rfl⟩
  obtain ⟨replay, rest, listed⟩ := hit
  have among : replay ∈ (libraryPageRun "/library/sections/6/all").replays := by
    rw [listed]
    exact List.mem_cons_self
  exact ⟨replay, among, library_hits_keep_provenance lawful_plainCodec meets
    (List.prefix_refl _) replay among⟩

/-- The header leads to the first account's page, the query to the second
account's policy. -/
theorem two_tokens_lose_provenance :
    ∃ replay ∈ (libraryPageRun
        "/library/sections/6/all?X-Plex-Token=luke-token").replays,
      replay.token = some "jodie-token" ∧
        ¬ replay.KeepsProvenance plainCodec viewerDigest pageBytes := by
  refine ⟨_, List.mem_cons_self, rfl, ?_⟩
  rintro ⟨-, -, payload, parsed, sent⟩
  cases parsed
  have sizes := congrArg (fun container : MediaContainer =>
    container.metadata.length) sent
  revert sizes
  decide

end Replex
