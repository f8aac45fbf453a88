import Replex.Auth.Security
import Replex.Routes.Playback
import Replex.Routes.Router
import Replex.Transform.Restyled

namespace Replex

open Data

/-! What each handler renders of an upstream payload. -/

/-- The reply of the upstream, or of a cache that keeps its raw replies; an
unreadable body is no container. -/
structure Upstream where
  status : StatusCode
  container : Option MediaContainer
  children : ChildrenLoader

structure Response where
  status : StatusCode
  container : Option MediaContainer := none

def Upstream.raw (upstream : Upstream) : Response where
  status := upstream.status
  container := upstream.container

def limitChildren (count : Int32) (hub : MetaData) : MetaData :=
  if 0 ≤ count.toInt ∧ count.toInt.toNat < hub.childrenMut.length then
    { hub.modifyChildren (·.take count.toInt.toNat) with size := some count }
  else
    hub

def shapeCanonicalHubs (options : PlexContext) (container : MediaContainer) :
    MediaContainer :=
  container.modifyChildren fun hubs =>
    let hubs :=
      if options.excludeContinueWatching then
        hubs.filter fun hub =>
          !hub.hubIdentifier.any (Text.startsWith · "home.continue")
      else
        hubs
    match options.count with
    | some count => hubs.map (limitChildren count)
    | none => hubs

/-- Web-style clients fetch every slot of the promoted hubs and get an empty
container for all but the first. -/
def servesEmptySlot (presentation : Presentation)
    (skipOptionalTransforms : Bool) : Bool :=
  !skipOptionalTransforms && presentation.settings.interleave &&
    match presentation.options.pinnedContentDirectoryId with
    | some (firstPinned :: _) =>
        let mobileClient := [Platform.ios, .android, .tvOS].contains
          (presentation.options.platform.getD .generic)
        let isFirst := match presentation.options.contentDirectoryId with
          | some ids => decide (1 < ids.length) || ids.head? == some firstPinned
          | none => true
        !isFirst && !mobileClient
    | _ => false

def hubTransforms (presentation : Presentation) : List Transform :=
  [hubRestrictionTransform presentation, hubStyleTransform presentation,
    hubWatchedTransform presentation, hubInterleaveTransform presentation,
    userStateTransform presentation, hubKeyTransform]

/-- Collection visibility is applied to every client, everything else to those
that do not opt out. -/
def cachedHubsContainer (current : Except Unit ResolutionPolicy)
    (presentation : Presentation) (skipOptionalTransforms : Bool)
    (payload : MediaContainer) : MediaContainer :=
  let container := applyTo [collectionVisibilityTransform current] payload
  if skipOptionalTransforms then
    container
  else
    shapeCanonicalHubs presentation.options
      (applyTo (hubTransforms presentation) container)

def applyPolicyTransforms (current : Except Unit ResolutionPolicy)
    (failClosed : Bool) (payload : MediaContainer) : MediaContainer :=
  applyTo
    [resolutionPolicyTransform current failClosed,
      collectionVisibilityTransform current] payload

def defaultTransformContainer (presentation : Presentation) (style : Style)
    (payload : MediaContainer) : MediaContainer :=
  applyTo
    [hubRestrictionTransform presentation,
      mediaStyleTransform presentation style, userStateTransform presentation,
      hubWatchedTransform presentation, hubKeyTransform] payload

def readIds (ids : String) : List Nat :=
  (Text.split ',' ids).filterMap DecimalText.uint32?

def childrenOffset (excludeWatched : Bool) (options : PlexContext) : Int32 :=
  if excludeWatched then 0 else options.containerStart.getD 0

def childrenLimit (excludeWatched : Bool) (options : PlexContext) : Int32 :=
  if excludeWatched then 250 else options.containerSize.getD 50

def collectionsChildrenContainer (presentation : Presentation)
    (load : ChildrenLoader) (ids : List Nat) : MediaContainer :=
  let excludeWatched := presentation.settings.excludeWatched
  let offset := childrenOffset excludeWatched presentation.options
  let limit := childrenLimit excludeWatched presentation.options
  applyTo
    [libraryInterleaveTransform presentation load ids offset limit,
      hubRestrictionTransform presentation,
      collectionStyleTransform presentation ids,
      userStateTransform presentation]
    { size := some 0, offset := some offset }

section

variable (services : PlaybackServices) (config : Config)
  (runtime : PolicySnapshot) (parts : PartMediaCache) (depot : Depot)

def withClient (serve : PlexClient → Response) : Response :=
  match depot.requestContext with
  | none => { status := 500 }
  | some request =>
      match plexClientFromDepot config request.plex depot with
      | .error _ => { status := 500 }
      | .ok client => serve client

def playbackGate (uri : Uri) (enforced : Bool) : HoopOutcome :=
  if enforced then
    (enforceResolutionPolicy services config runtime depot parts uri).outcome
  else
    .forward uri

def presentationFor (lookups : Lookups) (client : PlexClient) :
    Presentation where
  toLookups := lookups
  settings := config.toDisplaySettings
  options := client.context

/-- The answer of a handler, given the upstream's reply to its request. The
optional hoops of a playback route rewrite the request or stop it; an error
that a handler returns is answered with status 500. -/
def respond (uri : Uri) (lookups : Lookups)
    (optionalHoops : Uri → HoopOutcome) (upstream : Upstream) :
    Handler → Response
  | .proxyRequest => upstream.raw
  | .ownPage => { status := 200 }
  | .emptyHandler => { status := 200, container := some {} }
  | .protectedRedirectStream route =>
      match protectedRedirectStream services.currentIdentity config runtime
          depot parts route with
      | .refuse status => { status }
      | .deliver .redirect => { status := 307 }
      | .deliver .proxy => upstream.raw
  | .playback enforced =>
      match playbackGate services config runtime parts depot uri enforced with
      | .stop status => { status }
      | .forward uri =>
          match optionalHoops uri with
          | .stop status => { status }
          | .forward _ => upstream.raw
  | .transformPolicyResponse =>
      if upstream.status ≠ 200 then
        upstream.raw
      else
        match upstream.container with
        | none => { status := 500 }
        | some payload => withClient config depot fun client =>
            { status := 200
              container := some (applyPolicyTransforms
                (currentPolicy services.currentIdentity runtime client)
                runtime.failClosed payload) }
  | .cachedHubsResponse slots => withClient config depot fun client =>
      let presentation := presentationFor config lookups client
      if slots && servesEmptySlot presentation depot.skipOptionalTransforms then
        { status := 200, container := some { size := some 0 } }
      else
        match upstream.status, upstream.container with
        | 200, some payload =>
            { status := 200
              container := some (cachedHubsContainer
                (currentPolicy services.currentIdentity runtime client)
                presentation depot.skipOptionalTransforms payload) }
        | _, _ => { status := 500 }
  | .getCollectionsChildren ids => withClient config depot fun client =>
      { status := 200
        container := some (collectionsChildrenContainer
          (presentationFor config lookups client) upstream.children
          (readIds ids)) }
  | .defaultTransform style => withClient config depot fun client =>
      match style, upstream.status, upstream.container with
      | some style, 200, some payload =>
          { status := 200
            container := some (defaultTransformContainer
              (presentationFor config lookups client) style payload) }
      | _, _, _ => { status := 500 }

end

end Replex
