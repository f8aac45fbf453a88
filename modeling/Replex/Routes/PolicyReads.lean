import Replex.Data.Reads
import Replex.Routes.Answers

namespace Replex

open Data

/-! The handlers as programs that read the policy snapshot each time the code
does. -/

section

variable {σ α : Type}

/-- `Sweep.loop` with a filter and a change that read. -/
def loopReads (keep : α → Reads σ Bool) (change : α → Reads σ α) :
    Nat → Nat → List (List α) → Reads σ (List (List α))
  | 0, _, lists => pure lists
  | fuel + 1, index, lists =>
      match (Sweep.current lists)[index]? with
      | none => pure lists
      | some item => do
          if ← keep item then
            let changed ← change item
            loopReads keep change fuel (index + 1)
              (Sweep.modifyCurrent (·.set index changed) lists)
          else
            loopReads keep change fuel index
              (Sweep.modifyCurrent (·.eraseIdx index) lists)

theorem under_loopReads (keep : α → Reads σ Bool) (change : α → Reads σ α)
    (value : σ) (fuel index : Nat) (lists : List (List α)) :
    (loopReads keep change fuel index lists).under value =
      Sweep.loop (fun item => (keep item).under value)
        (fun item => (change item).under value) fuel index lists := by
  induction fuel generalizing index lists with
  | zero => rfl
  | succ fuel hypothesis =>
      unfold loopReads Sweep.loop
      cases (Sweep.current lists)[index]? with
      | none => rfl
      | some item =>
          simp only [Reads.under_bind]
          cases (keep item).under value with
          | false => simp [hypothesis]
          | true => simp [hypothesis]

theorem steady_loopReads {alike : σ → Prop} {value : σ}
    {keep : α → Reads σ Bool} {change : α → Reads σ α}
    (kept : ∀ item, (keep item).Steady alike value)
    (changed : ∀ item, (change item).Steady alike value)
    (fuel index : Nat) (lists : List (List α)) :
    (loopReads keep change fuel index lists).Steady alike value := by
  induction fuel generalizing index lists with
  | zero => trivial
  | succ fuel hypothesis =>
      unfold loopReads
      cases (Sweep.current lists)[index]? with
      | none => trivial
      | some item =>
          apply (kept item).andThen
          intro shown
          split
          · apply (changed item).andThen
            intro changed
            exact hypothesis _ _
          · exact hypothesis _ _

end

section

variable (identity : PlexClient → Except IdentityError ResolvedIdentity)

def currentPolicyReads (client : PlexClient) :
    Reads PolicySnapshot (Except Unit ResolutionPolicy) := do
  let runtime ← Reads.current
  pure (currentPolicy identity runtime client)

/-- An unresolved account reads the snapshot a second time, for the
fail-closed mode. -/
def policyFilterReads (client : PlexClient) (item : MetaData) :
    Reads PolicySnapshot Bool := do
  match ← currentPolicyReads identity client with
  | .ok policy => pure (policyFilterMetadata (.ok policy) false item)
  | .error _ =>
      let runtime ← Reads.current
      pure (policyFilterMetadata (.error ()) runtime.failClosed item)

def policyTransformReads (client : PlexClient) (item : MetaData) :
    Reads PolicySnapshot MetaData := do
  match ← currentPolicyReads identity client with
  | .ok policy => pure (policyTransformMetadata (.ok policy) false item)
  | .error _ =>
      let runtime ← Reads.current
      pure (policyTransformMetadata (.error ()) runtime.failClosed item)

def visibilityFilterReads (client : PlexClient) (item : MetaData) :
    Reads PolicySnapshot Bool := do
  let current ← currentPolicyReads identity client
  pure (visibilityFilterMetadata current item)

def applyReads (keep : MetaData → Reads PolicySnapshot Bool)
    (change : MetaData → Reads PolicySnapshot MetaData)
    (container : MediaContainer) : Reads PolicySnapshot MediaContainer := do
  let lists ← loopReads keep change (Sweep.size container.lists) 0
    container.lists
  pure (container.withLists lists)

def applyPolicyTransformsReads (client : PlexClient)
    (payload : MediaContainer) : Reads PolicySnapshot MediaContainer := do
  let container ← applyReads (policyFilterReads identity client)
    (policyTransformReads identity client) payload
  let container ← applyReads (visibilityFilterReads identity client) pure
    container
  pure container.resize

def cachedHubsReads (client : PlexClient) (presentation : Presentation)
    (skipOptionalTransforms : Bool) (payload : MediaContainer) :
    Reads PolicySnapshot MediaContainer := do
  let container ← applyReads (visibilityFilterReads identity client) pure
    payload
  pure (if skipOptionalTransforms then
      container.resize
    else
      shapeCanonicalHubs presentation.options
        (applyTo (hubTransforms presentation) container.resize))

end

section

variable (services : PlaybackServices) (config : Config)
  (parts : PartMediaCache) (depot : Depot)

def withClientReads (serve : PlexClient → Reads PolicySnapshot Response) :
    Reads PolicySnapshot Response :=
  match depot.requestContext with
  | none => pure { status := 500 }
  | some request =>
      match plexClientFromDepot config request.plex depot with
      | .error _ => pure { status := 500 }
      | .ok client => serve client

/-- `respond`, reading the snapshot where the handlers do: the stream and
playback handlers once, the transforms for every item, the rest never. -/
def respondReads (uri : Uri) (lookups : Lookups)
    (optionalHoops : Uri → HoopOutcome) (upstream : Upstream) :
    Handler → Reads PolicySnapshot Response
  | .proxyRequest => pure upstream.raw
  | .ownPage => pure { status := 200 }
  | .emptyHandler => pure { status := 200, container := some {} }
  | .protectedRedirectStream route => do
      let runtime ← Reads.current
      pure (match protectedRedirectStream services.currentIdentity config
          runtime depot parts route with
        | .refuse status => { status }
        | .deliver .redirect => { status := 307 }
        | .deliver .proxy => upstream.raw)
  | .playback enforced => do
      let gate ←
        if enforced then do
          let runtime ← Reads.current
          pure (playbackGate services config runtime parts depot uri true)
        else
          pure (.forward uri)
      pure (match gate with
        | .stop status => { status }
        | .forward uri =>
            match optionalHoops uri with
            | .stop status => { status }
            | .forward _ => upstream.raw)
  | .transformPolicyResponse =>
      if upstream.status ≠ 200 then
        pure upstream.raw
      else
        match upstream.container with
        | none => pure { status := 500 }
        | some payload => withClientReads config depot fun client => do
            let container ← applyPolicyTransformsReads services.currentIdentity
              client payload
            pure { status := 200, container := some container }
  | .cachedHubsResponse slots => withClientReads config depot fun client =>
      let presentation := presentationFor config lookups client
      if slots && servesEmptySlot presentation depot.skipOptionalTransforms then
        pure { status := 200, container := some { size := some 0 } }
      else
        match upstream.status, upstream.container with
        | 200, some payload => do
            let container ← cachedHubsReads services.currentIdentity client
              presentation depot.skipOptionalTransforms payload
            pure { status := 200, container := some container }
        | _, _ => pure { status := 500 }
  | .getCollectionsChildren ids => pure <| withClient config depot
      fun client =>
        { status := 200
          container := some (collectionsChildrenContainer
            (presentationFor config lookups client) upstream.children
            (readIds ids)) }
  | .defaultTransform style => pure <| withClient config depot fun client =>
      match style, upstream.status, upstream.container with
      | some style, 200, some payload =>
          { status := 200
            container := some (defaultTransformContainer
              (presentationFor config lookups client) style payload) }
      | _, _, _ => { status := 500 }

end

/-! With one snapshot for every read, the programs are the handlers. -/

section

variable (identity : PlexClient → Except IdentityError ResolvedIdentity)
  (runtime : PolicySnapshot) (client : PlexClient)

theorem under_policyFilterReads (item : MetaData) :
    (policyFilterReads identity client item).under runtime =
      policyFilterMetadata (currentPolicy identity runtime client)
        runtime.failClosed item := by
  unfold policyFilterReads currentPolicyReads
  simp only [Reads.under_bind, Reads.under_current, Reads.under_pure]
  cases currentPolicy identity runtime client with
  | error failure => rfl
  | ok policy => simp [policyFilterMetadata]

theorem under_policyTransformReads (item : MetaData) :
    (policyTransformReads identity client item).under runtime =
      policyTransformMetadata (currentPolicy identity runtime client)
        runtime.failClosed item := by
  unfold policyTransformReads currentPolicyReads
  simp only [Reads.under_bind, Reads.under_current, Reads.under_pure]
  cases currentPolicy identity runtime client with
  | error failure => rfl
  | ok policy => simp [policyTransformMetadata]

theorem under_visibilityFilterReads (item : MetaData) :
    (visibilityFilterReads identity client item).under runtime =
      visibilityFilterMetadata (currentPolicy identity runtime client) item :=
  rfl

theorem under_applyReads (transform : Transform)
    (plain : transform.transformMediacontainer = id)
    {keep : MetaData → Reads PolicySnapshot Bool}
    {change : MetaData → Reads PolicySnapshot MetaData}
    (kept : ∀ item, (keep item).under runtime = transform.filterMetadata item)
    (changed : ∀ item,
      (change item).under runtime = transform.transformMetadata item)
    (container : MediaContainer) :
    (applyReads keep change container).under runtime =
      transform.apply container := by
  unfold applyReads Transform.apply
  simp only [Reads.under_bind, Reads.under_pure, under_loopReads, kept, changed,
    plain]
  rfl

theorem under_applyPolicyTransformsReads (payload : MediaContainer) :
    (applyPolicyTransformsReads identity client payload).under runtime =
      applyPolicyTransforms (currentPolicy identity runtime client)
        runtime.failClosed payload := by
  have versions := under_applyReads runtime
    (resolutionPolicyTransform (currentPolicy identity runtime client)
      runtime.failClosed) rfl
    (under_policyFilterReads identity runtime client)
    (under_policyTransformReads identity runtime client)
  have visibility := under_applyReads runtime
    (collectionVisibilityTransform (currentPolicy identity runtime client)) rfl
    (under_visibilityFilterReads identity runtime client)
    (fun item => Reads.under_pure runtime item)
  unfold applyPolicyTransformsReads
  simp only [Reads.under_bind, Reads.under_pure, versions, visibility]
  rfl

theorem under_cachedHubsReads (presentation : Presentation)
    (skipOptionalTransforms : Bool) (payload : MediaContainer) :
    (cachedHubsReads identity client presentation skipOptionalTransforms
        payload).under runtime =
      cachedHubsContainer (currentPolicy identity runtime client) presentation
        skipOptionalTransforms payload := by
  have visibility := under_applyReads runtime
    (collectionVisibilityTransform (currentPolicy identity runtime client)) rfl
    (under_visibilityFilterReads identity runtime client)
    (fun item => Reads.under_pure runtime item)
  unfold cachedHubsReads
  simp only [Reads.under_bind, Reads.under_pure, visibility]
  rfl

end

theorem under_withClientReads (config : Config) (depot : Depot)
    (runtime : PolicySnapshot)
    {serve : PlexClient → Reads PolicySnapshot Response}
    {plain : PlexClient → Response}
    (each : ∀ client, (serve client).under runtime = plain client) :
    (withClientReads config depot serve).under runtime =
      withClient config depot plain := by
  unfold withClientReads withClient
  cases depot.requestContext with
  | none => rfl
  | some request =>
      dsimp only
      cases plexClientFromDepot config request.plex depot with
      | error error => rfl
      | ok client => exact each client

theorem under_respondReads (services : PlaybackServices) (config : Config)
    (parts : PartMediaCache) (depot : Depot) (uri : Uri) (lookups : Lookups)
    (optionalHoops : Uri → HoopOutcome) (upstream : Upstream)
    (runtime : PolicySnapshot) (handler : Handler) :
    (respondReads services config parts depot uri lookups optionalHoops
        upstream handler).under runtime =
      respond services config runtime parts depot uri lookups optionalHoops
        upstream handler := by
  cases handler with
  | proxyRequest => rfl
  | ownPage => rfl
  | emptyHandler => rfl
  | protectedRedirectStream route => rfl
  | playback enforced =>
      cases enforced with
      | false => rfl
      | true => rfl
  | transformPolicyResponse =>
      simp only [respondReads, respond]
      by_cases other : upstream.status ≠ 200
      · rw [if_pos other, if_pos other, Reads.under_pure]
      · rw [if_neg other, if_neg other]
        cases upstream.container with
        | none => rfl
        | some payload =>
            apply under_withClientReads
            intro client
            rw [Reads.under_bind, under_applyPolicyTransformsReads]
            rfl
  | cachedHubsResponse slots =>
      simp only [respondReads, respond]
      apply under_withClientReads
      intro client
      generalize presentationFor config lookups client = presentation
      cases slots && servesEmptySlot presentation
          depot.skipOptionalTransforms with
      | true => rfl
      | false =>
          simp only [Bool.false_eq_true, if_false]
          by_cases ok : upstream.status = 200
          · cases parsed : upstream.container with
            | none => simp [ok]
            | some payload =>
                simp only [ok]
                rw [Reads.under_bind, under_cachedHubsReads]
                rfl
          · simp [ok]
  | getCollectionsChildren ids => rfl
  | defaultTransform style => rfl

/-! What the snapshot may change between the reads of one request. -/

/-- The rules an identity is resolved under. -/
structure SameRules (first later : PolicySnapshot) : Prop where
  entries : later.entries = first.entries
  defaultLimit : later.defaultLimit = first.defaultLimit
  hiddenCollections : later.hiddenCollections = first.hiddenCollections

theorem SameRules.resolve {first later : PolicySnapshot}
    (same : SameRules first later) (identity : UserIdentity) :
    later.resolve identity = first.resolve identity := by
  simp [PolicySnapshot.resolve, same.entries, same.defaultLimit,
    same.hiddenCollections]

/-- A reload that none of the remaining reads can tell from the first
snapshot: an account resolved by the middleware keeps its policy, so only
playback still asks for the fail-closed mode; an unresolved account has its
mode read again for every item; without a security state the rules are read
every time. -/
def ReadsAlike (state : Option SecurityContextState) (handler : Handler)
    (first later : PolicySnapshot) : Prop :=
  match state with
  | some (.resolved _) =>
      handler = .playback true → later.failClosed = first.failClosed
  | some (.unavailable _ _) =>
      handler = .transformPolicyResponse → later.failClosed = first.failClosed
  | none =>
      first.enabled = true → SameRules first later ∧
        (handler = .playback true ∨ handler = .transformPolicyResponse →
          later.failClosed = first.failClosed)

end Replex
