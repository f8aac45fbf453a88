import Replex.PlexClient

namespace Replex

open Data

/-! Direct part and transcode session streams of policy-bound accounts. -/

inductive StreamDelivery where
  | proxy | redirect
  deriving DecidableEq, Repr

def streamDelivery (restricted redirectsEnabled : Bool) : StreamDelivery :=
  if restricted || !redirectsEnabled then .proxy else .redirect

/-- The two routes that share the handler, with the path parameters each
binds. -/
inductive StreamRoute where
  | session (rest : String)
  | part (itemid partid extension : String)
  deriving DecidableEq

def pathSegments (path : String) : List String :=
  (Text.split '/' path).filter fun segment => segment ≠ ""

def matchPartsRoute (path : String) : Option StreamRoute :=
  match pathSegments path with
  | ["library", "parts", itemid, partid, file] =>
      if Text.startsWith file "file." then
        some (.part itemid partid (String.ofList (file.toList.drop 5)))
      else
        none
  | _ => none

def partKey (id : Int64) (stamp : Int) (extension : String) : String :=
  "/library/parts" ++ "/" ++ toString id.toInt ++ "/" ++ toString stamp ++
    "/" ++ ("file." ++ extension)

theorem toString_ne_empty (value : Int) : toString value ≠ "" := by
  intro empty
  have read := DecimalText.magnitude?_toString value
  rw [empty] at read
  simp [DecimalText.magnitude?, DecimalText.digits?] at read

/-- The id Plex wrote into the key is the third segment; the stamp after it
is what the route calls `partid`. -/
theorem matchPartsRoute_partKey (id : Int64) (stamp : Int)
    {extension : String} (plain : '/' ∉ extension.toList) :
    matchPartsRoute (partKey id stamp extension) =
      some (.part (toString id.toInt) (toString stamp) extension) := by
  have slash : "/".toList = ['/'] := rfl
  have segments : pathSegments (partKey id stamp extension) =
      ["library", "parts", toString id.toInt, toString stamp,
        "file." ++ extension] := by
    have noSlash (value : Int) : '/' ∉ (toString value).toList :=
      DecimalText.not_mem_toString value rfl (by decide)
    have file : '/' ∉ ("file." ++ extension).toList := by simp [plain]
    have root : Text.split '/' "/library/parts" = ["", "library", "parts"] := by
      decide
    have named : "file." ++ extension ≠ "" := by
      intro empty
      simpa using congrArg String.toList empty
    unfold pathSegments partKey
    rw [Text.split_append slash, Text.split_append slash,
      Text.split_append slash, root, Text.split_of_not_mem (noSlash id.toInt),
      Text.split_of_not_mem (noSlash stamp), Text.split_of_not_mem file]
    simp only [List.cons_append, List.nil_append]
    simp [named]
    exact ⟨toString_ne_empty id.toInt, toString_ne_empty stamp⟩
  simp [matchPartsRoute, segments]

/-- `req.param::<i64>("partid")`: absent on a session route, and absent when
the segment is not an integer of that width. -/
def StreamRoute.partidParam : StreamRoute → Option Int64
  | session _ => none
  | part _ partid _ => DecimalText.int64? partid

inductive StreamOutcome where
  | deliver (delivery : StreamDelivery)
  | refuse (status : StatusCode)
  deriving DecidableEq

def StreamOutcome.Delivered (outcome : StreamOutcome) : Prop :=
  ∃ delivery, outcome = deliver delivery

def streamRestricted (policy : ResolutionPolicy) : Bool :=
  !policy.isUnrestricted || policy.maxBitrate.isSome

def PartPermitted (parts : PartMediaCache) (policy : ResolutionPolicy)
    (id : Int64) : Prop :=
  (parts.lookup id).any (partClassificationAllowed · policy) = true

instance (parts : PartMediaCache) (policy : ResolutionPolicy) (id : Int64) :
    Decidable (PartPermitted parts policy id) :=
  inferInstanceAs (Decidable (_ = true))

section

variable (identity : PlexClient → Except IdentityError ResolvedIdentity)
  (config : Config) (runtime : PolicySnapshot) (depot : Depot)

/-- The policy a stream is served under. `none` is the fail-open case. -/
def streamAccount (client : PlexClient) :
    Except StatusCode (Option ResolutionPolicy) :=
  match depot.securityState with
  | some (.resolved security) => .ok (some security.policy)
  | some (.unavailable failClosed _) =>
      if failClosed then .error 503 else .ok none
  | none =>
      match identity client with
      | .ok resolved => .ok (some (runtime.resolve resolved.identity))
      | .error _ => .error 503

/-- Serving under a known policy. A request without a part id is taken for a
transcode session. -/
def serveStream (policy : ResolutionPolicy) (parts : PartMediaCache)
    (route : StreamRoute) : StreamOutcome :=
  let restricted := streamRestricted policy
  if !restricted then
    .deliver (streamDelivery false config.redirectStreams)
  else
    match route.partidParam with
    | some partId =>
        match parts.lookup partId with
        | some classification =>
            if partClassificationAllowed classification policy then
              .deliver (streamDelivery restricted config.redirectStreams)
            else
              .refuse 403
        | none => .refuse 403
    | none => .deliver (streamDelivery restricted config.redirectStreams)

def protectedRedirectStream (parts : PartMediaCache) (route : StreamRoute) :
    StreamOutcome :=
  if !runtime.enabled then
    .deliver (streamDelivery false config.redirectStreams)
  else
    match depot.requestContext with
    | none => .refuse 400
    | some request =>
        match plexClientFromDepot config request.plex depot with
        | .error _ => .refuse 401
        | .ok client =>
            match streamAccount identity runtime depot client with
            | .error status => .refuse status
            | .ok none =>
                .deliver (streamDelivery false config.redirectStreams)
            | .ok (some policy) => serveStream config policy parts route

structure StreamPolicy (policy : ResolutionPolicy) : Prop where
  enabled : runtime.enabled = true
  account : ∃ request client,
    depot.requestContext = some request ∧
    plexClientFromDepot config request.plex depot = .ok client ∧
    streamAccount identity runtime depot client = .ok (some policy)

variable {identity config runtime depot}

theorem protectedRedirectStream_eq_serveStream {policy : ResolutionPolicy}
    (settled : StreamPolicy identity config runtime depot policy)
    (parts : PartMediaCache) (route : StreamRoute) :
    protectedRedirectStream identity config runtime depot parts route =
      serveStream config policy parts route := by
  obtain ⟨request, client, present, built, account⟩ := settled.account
  simp [protectedRedirectStream, settled.enabled, present, built, account]

/-- What a restricted account is delivered: a permitted part, or anything
that carries no part id. -/
theorem serveStream_delivered_iff {policy : ResolutionPolicy}
    (restricted : streamRestricted policy = true) (config : Config)
    (parts : PartMediaCache) (route : StreamRoute) :
    (serveStream config policy parts route).Delivered ↔
      ∀ partId, route.partidParam = some partId →
        PartPermitted parts policy partId := by
  unfold serveStream PartPermitted StreamOutcome.Delivered
  simp only [restricted, Bool.not_true, Bool.false_eq_true, if_false]
  cases route.partidParam with
  | none => simp
  | some partId =>
      cases found : parts.lookup partId with
      | none => simp [found]
      | some classification =>
          by_cases allowed : partClassificationAllowed classification policy
          · simp [found, allowed]
          · simp [found, allowed]

theorem serveStream_of_restricted {policy : ResolutionPolicy}
    (restricted : streamRestricted policy = true) (config : Config)
    (parts : PartMediaCache) (route : StreamRoute) :
    serveStream config policy parts route = .deliver .proxy ∨
      serveStream config policy parts route = .refuse 403 := by
  unfold serveStream
  simp only [restricted, streamDelivery]
  grind

def capturedVersion : Media where
  id := 270360
  bitrate := some 9005
  videoResolution := some "1080"
  height := some 1080
  width := some 1920
  parts := [{ id := 271990
              key := some "/library/parts/271990/1673839793/file.mkv" }]

theorem streamPolicy_viewer {policy : ResolutionPolicy} :
    StreamPolicy noIdentity viewerConfig viewerRuntime (viewerDepot policy)
      policy where
  enabled := rfl
  account := ⟨viewerRequest, _, rfl, rfl, rfl⟩

/-- A part request is held to the classification check exactly when its part
segment reads as an integer. -/
theorem part_request_checked_iff {policy : ResolutionPolicy}
    (settled : StreamPolicy identity config runtime depot policy)
    (restricted : streamRestricted policy = true)
    (parts : PartMediaCache) (itemid partid extension : String) :
    ((protectedRedirectStream identity config runtime depot parts
          (.part itemid partid extension)).Delivered →
        ∃ partId, DecimalText.int64? partid = some partId ∧
          PartPermitted parts policy partId) ↔
      (DecimalText.int64? partid).isSome = true := by
  rw [protectedRedirectStream_eq_serveStream settled,
    serveStream_delivered_iff restricted]
  simp only [StreamRoute.partidParam]
  cases read : DecimalText.int64? partid with
  | none => simp
  | some partId => simp

theorem part_request_checked_iff_known :
    ∃ partId, DecimalText.int64? "271990" = some partId ∧
      PartPermitted (cachePartClassification [capturedVersion] Store.empty)
        ⟨.p1080, none, []⟩ partId :=
  (part_request_checked_iff streamPolicy_viewer (by decide)
    (cachePartClassification [capturedVersion] Store.empty) "271990" "271990"
    "mkv").mpr (by decide) ⟨.proxy, by decide⟩

theorem unreadable_part_request_delivered :
    protectedRedirectStream noIdentity viewerConfig viewerRuntime
        (viewerDepot ⟨.p1080, none, []⟩) Store.empty
        (.part "9" "999x" "mkv") = .deliver .proxy ∧
      DecimalText.int64? "999x" = none :=
  ⟨by decide, by decide⟩

/-- For the parts Plex lists, the recorded facts decide exactly when the stamp
in the key, read as a part id, leads to the same decision as the part's own
id. A stamp too large for an id leaves the request unchecked. -/
theorem listed_part_delivered_iff {policy : ResolutionPolicy}
    (settled : StreamPolicy identity config runtime depot policy)
    (restricted : streamRestricted policy = true)
    (earlier : PartMediaCache) (media : List Media)
    {version : Media} {part : MediaPart}
    (listed : version ∈ media) (carries : part ∈ version.parts)
    (stamp : Int) (extension : String) (plain : '/' ∉ extension.toList)
    (key : part.key = some (partKey part.id stamp extension)) :
    let parts := cachePartClassification media earlier
    ∃ facts, parts.lookup part.id = some facts ∧
      (((∃ path route, part.key = some path ∧
            matchPartsRoute path = some route ∧
            (protectedRedirectStream identity config runtime depot parts
              route).Delivered) ↔
          partClassificationAllowed facts policy = true) ↔
        if -2 ^ 63 ≤ stamp ∧ stamp < 2 ^ 63 then
          (PartPermitted parts policy (Int64.ofInt stamp) ↔
            partClassificationAllowed facts policy = true)
        else
          partClassificationAllowed facts policy = true) := by
  intro parts
  obtain ⟨recorded, _, found⟩ :=
    lookup_cachePartClassification_isSome earlier listed carries
  refine ⟨recorded.classification, found, ?_⟩
  have served : (∃ path route, part.key = some path ∧
      matchPartsRoute path = some route ∧
      (protectedRedirectStream identity config runtime depot parts
        route).Delivered) ↔
      ∀ partId, DecimalText.int64? (toString stamp) = some partId →
        PartPermitted parts policy partId := by
    simp only [key, Option.some.injEq, exists_and_left, exists_eq_left',
      matchPartsRoute_partKey part.id stamp plain]
    rw [protectedRedirectStream_eq_serveStream settled,
      serveStream_delivered_iff restricted]
    rfl
  rw [served, DecimalText.int64?_toString]
  split
  · simp
  · simp

theorem listed_part_delivered_iff_captured :
    ∃ facts,
      (cachePartClassification [capturedVersion] Store.empty).lookup 271990 =
          some facts ∧
        (((∃ path route,
              some "/library/parts/271990/1673839793/file.mkv" = some path ∧
              matchPartsRoute path = some route ∧
              (protectedRedirectStream noIdentity viewerConfig viewerRuntime
                (viewerDepot ⟨.p1080, none, []⟩)
                (cachePartClassification [capturedVersion] Store.empty)
                route).Delivered) ↔
            partClassificationAllowed facts ⟨.p1080, none, []⟩ = true) ↔
          (PartPermitted
              (cachePartClassification [capturedVersion] Store.empty)
              ⟨.p1080, none, []⟩ (Int64.ofInt 1673839793) ↔
            partClassificationAllowed facts ⟨.p1080, none, []⟩ = true)) :=
  listed_part_delivered_iff streamPolicy_viewer (by decide) Store.empty
    [capturedVersion] (List.mem_singleton_self _) (List.mem_singleton_self _)
    1673839793 "mkv" (by decide) (by decide)

/-- The captured part is permitted at 1080p and refused all the same: its
stamp is looked up instead of its id. -/
theorem captured_part_refused :
    PartPermitted (cachePartClassification [capturedVersion] Store.empty)
        ⟨.p1080, none, []⟩ 271990 ∧
      (matchPartsRoute "/library/parts/271990/1673839793/file.mkv").map
          (protectedRedirectStream noIdentity viewerConfig viewerRuntime
            (viewerDepot ⟨.p1080, none, []⟩)
            (cachePartClassification [capturedVersion] Store.empty)) =
        some (.refuse 403) :=
  ⟨by decide, by decide⟩

end

end Replex
