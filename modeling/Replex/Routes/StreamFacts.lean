import Replex.Data.Transition
import Replex.Routes.Streams

namespace Replex

open Data

/-! How a stream request is answered, and what the answer depends on. -/

inductive StreamAnswer where
  | proxied
  | redirected (location : String)
  | failed (status : StatusCode)
  deriving DecidableEq

def performStreamRedirect (config : Config) (depot : Depot)
    (pathAndQuery : String) : Option String :=
  depot.requestContext.map fun request =>
    config.redirectStreamsHost.getD request.upstreamHost ++ pathAndQuery

def deliverStream (config : Config) (depot : Depot) (pathAndQuery : String) :
    StreamDelivery → StreamAnswer
  | .proxy => .proxied
  | .redirect =>
      match performStreamRedirect config depot pathAndQuery with
      | some location => .redirected location
      | none => .failed 500

def StreamOutcome.answer (outcome : StreamOutcome) (config : Config)
    (depot : Depot) (pathAndQuery : String) : StreamAnswer :=
  match outcome with
  | deliver delivery => deliverStream config depot pathAndQuery delivery
  | refuse status => .failed status

/-! The transport of restricted accounts. -/

section

variable (identity : PlexClient → Except IdentityError ResolvedIdentity)
  (config : Config) (runtime : PolicySnapshot) (depot : Depot)

/-- The two ways the handler comes by the policy of an account. -/
inductive PolicyObtained (client : PlexClient) (policy : ResolutionPolicy) :
    Prop where
  | fromContext {security : RequestSecurityContext}
      (present : depot.securityState = some (.resolved security))
      (carried : security.policy = policy)
  | fromLookup {resolved : ResolvedIdentity}
      (absent : depot.securityState = none)
      (found : identity client = .ok resolved)
      (applies : runtime.resolve resolved.identity = policy)

variable {identity config runtime depot}

theorem PolicyObtained.streamAccount {client : PlexClient}
    {policy : ResolutionPolicy}
    (obtained : PolicyObtained identity runtime depot client policy) :
    streamAccount identity runtime depot client = .ok (some policy) := by
  cases obtained with
  | fromContext present carried =>
      simp [Replex.streamAccount, present, carried]
  | fromLookup absent found applies =>
      simp [Replex.streamAccount, absent, found, applies]

/-- Wherever the policy came from, a restricted account is proxied or refused:
the exits before the policy is known refuse, and every later one passes on
that the account is restricted. -/
theorem restricted_stream_not_redirected {policy : ResolutionPolicy}
    (enabled : runtime.enabled = true)
    (obtained : ∀ request client, depot.requestContext = some request →
      plexClientFromDepot config request.plex depot = .ok client →
      PolicyObtained identity runtime depot client policy)
    (restricted : streamRestricted policy = true)
    (parts : PartMediaCache) (route : StreamRoute) (pathAndQuery : String) :
    let answer := (protectedRedirectStream identity config runtime depot parts
      route).answer config depot pathAndQuery
    answer = .proxied ∨ ∃ status, answer = .failed status ∧ 400 ≤ status := by
  intro answer
  cases present : depot.requestContext with
  | none =>
      have refused : answer = .failed 400 := by
        simp [answer, protectedRedirectStream, enabled, present,
          StreamOutcome.answer]
      exact .inr ⟨400, refused, Nat.le_refl _⟩
  | some request =>
      cases built : plexClientFromDepot config request.plex depot with
      | error error =>
          have refused : answer = .failed 401 := by
            simp [answer, protectedRedirectStream, enabled, present, built,
              StreamOutcome.answer]
          exact .inr ⟨401, refused, Nat.le_succ 400⟩
      | ok client =>
          have settled : StreamPolicy identity config runtime depot policy :=
            ⟨enabled, request, client, present, built,
              (obtained request client present built).streamAccount⟩
          have served : answer =
              (serveStream config policy parts route).answer config depot
                pathAndQuery := by
            rw [← protectedRedirectStream_eq_serveStream settled]
          rcases serveStream_of_restricted restricted config parts route with
            passed | refused
          · rw [passed] at served
            exact .inl served
          · rw [refused] at served
            exact .inr ⟨403, served, by decide⟩

end

theorem restricted_stream_not_redirected_viewer :
    let answer := (protectedRedirectStream noIdentity
      { viewerConfig with redirectStreams := true } viewerRuntime
      (viewerDepot ⟨.p1080, none, []⟩) Store.empty (.session "1/base")).answer
        { viewerConfig with redirectStreams := true }
        (viewerDepot ⟨.p1080, none, []⟩)
        "/video/:/transcode/universal/session/1/base"
    answer = .proxied ∨ ∃ status, answer = .failed status ∧ 400 ≤ status :=
  restricted_stream_not_redirected rfl
    (fun _ _ _ _ => .fromContext rfl rfl) (by decide) Store.empty _ _

/-! Runs of recordings, and what they leave for a later request. -/

/-- The facts that one call inserts, in order. -/
def partInserts (media : List Media) : List (Int64 × Media) :=
  media.flatMap fun version => version.parts.map fun part => (part.id, version)

def recordPart (cache : PartMediaCache) (insert : Int64 × Media) :
    PartMediaCache :=
  cache.insert insert.1 insert.2.classification

theorem cachePartClassification_eq_foldl (media : List Media)
    (cache : PartMediaCache) :
    cachePartClassification media cache =
      (partInserts media).foldl recordPart cache := by
  unfold cachePartClassification partInserts
  rw [List.foldl_flatMap]
  congr 1
  funext cache version
  rw [List.foldl_map]
  rfl

/-- Calls run side by side: each waits between two inserts. -/
structure RecordingState where
  parts : PartMediaCache := .empty
  runtime : PolicySnapshot
  calls : List (List (Int64 × Media)) := []
  /-- What has been inserted, the latest first; nothing reads it. -/
  recorded : List (Int64 × Media) := []

inductive RecordingAction where
  | call (client : PlexClient) (media : List Media)
  | insertNext (index : Nat)
  | reload (snapshot : PolicySnapshot)

def recordingStep (state : RecordingState) : RecordingAction → RecordingState
  | .call _ media => { state with calls := state.calls ++ [partInserts media] }
  | .insertNext index =>
      match state.calls[index]? with
      | some (insert :: rest) =>
          { state with
            parts := recordPart state.parts insert
            calls := state.calls.set index rest
            recorded := insert :: state.recorded }
      | _ => state
  | .reload snapshot => { state with runtime := snapshot }

def recordingRun (startup : PolicySnapshot) (actions : List RecordingAction) :
    RecordingState :=
  actions.foldl recordingStep { runtime := startup }

def RecordingState.lastRecorded (state : RecordingState) (partId : Int64) :
    Option Media :=
  (state.recorded.find? fun insert => insert.1 == partId).map Prod.snd

/-- A call that nothing interrupts records what `cachePartClassification`
does. -/
theorem parts_uninterrupted_call (state : RecordingState)
    (idle : state.calls = []) (client : PlexClient) (media : List Media) :
    ((.call client media :: List.replicate (partInserts media).length
        (.insertNext 0)).foldl recordingStep state).parts =
      cachePartClassification media state.parts := by
  have inserts (pending : List (Int64 × Media)) (state : RecordingState)
      (under : state.calls = [pending]) :
      ((List.replicate pending.length (.insertNext 0)).foldl recordingStep
        state).parts = pending.foldl recordPart state.parts := by
    induction pending generalizing state with
    | nil => rfl
    | cons insert rest hypothesis =>
        have step : recordingStep state (.insertNext 0) =
            { state with
              parts := recordPart state.parts insert
              calls := [rest]
              recorded := insert :: state.recorded } := by
          simp [recordingStep, under]
        rw [List.length_cons, List.replicate_succ, List.foldl_cons, step,
          hypothesis _ rfl]
        rfl
  rw [List.foldl_cons, cachePartClassification_eq_foldl]
  apply inserts
  simp [recordingStep, idle]

/-- The cache holds the facts of the version recorded last. -/
def RecordingState.Faithful (state : RecordingState) : Prop :=
  ∀ partId, state.parts.lookup partId =
    (state.lastRecorded partId).map Media.classification

theorem faithful_recordingStep (state : RecordingState)
    (action : RecordingAction) (holds : state.Faithful) :
    (recordingStep state action).Faithful := by
  cases action with
  | call client media => exact holds
  | reload snapshot => exact holds
  | insertNext index =>
      simp only [recordingStep]
      split
      next insert rest found =>
          intro partId
          by_cases same : insert.1 = partId
          · subst same
            simp [RecordingState.lastRecorded, recordPart]
          · have earlier := holds partId
            unfold RecordingState.lastRecorded at earlier ⊢
            simp [recordPart, same, earlier,
              Store.lookup_insert_of_ne _ (Ne.symm same)]
      · exact holds

/-- The check on recorded facts is the check on the version itself, with the
bitrate read as a cap on the file. -/
theorem partClassificationAllowed_iff (version : Media)
    (policy : ResolutionPolicy) :
    partClassificationAllowed version.classification policy = true ↔
      mediaAllowed version policy = true ∧
        ∀ cap, policy.maxBitrate = some cap →
          ∃ bitrate, version.bitrate = some bitrate ∧ bitrate ≤ cap := by
  unfold partClassificationAllowed mediaAllowed Media.classification
  cases policy.isUnrestricted with
  | true =>
      cases policy.maxBitrate with
      | none => simp
      | some cap => simp [Option.any_eq_true]
  | false =>
      cases classify version with
      | none => simp
      | some limit =>
          by_cases within : limit ≤ policy.limit
          · cases policy.maxBitrate with
            | none => simp [within]
            | some cap => simp [within, Option.any_eq_true]
          · simp [within]

section

variable {identity : PlexClient → Except IdentityError ResolvedIdentity}
  {config : Config} {startup : PolicySnapshot}
  {actions : List RecordingAction}

/-- After any run, a part is delivered to a restricted account exactly when
its policy permits the version recorded last for the part. -/
theorem part_delivered_iff_last_recorded {depot : Depot}
    {policy : ResolutionPolicy} {partId : Int64}
    {itemid partid extension : String}
    (settled : StreamPolicy identity config
      (recordingRun startup actions).runtime depot policy)
    (restricted : streamRestricted policy = true)
    (read : DecimalText.int64? partid = some partId) :
    (protectedRedirectStream identity config
        (recordingRun startup actions).runtime depot
        (recordingRun startup actions).parts
        (.part itemid partid extension)).Delivered ↔
      ∃ version,
        (recordingRun startup actions).lastRecorded partId = some version ∧
        mediaAllowed version policy = true ∧
        ∀ cap, policy.maxBitrate = some cap →
          ∃ bitrate, version.bitrate = some bitrate ∧ bitrate ≤ cap := by
  have initial : RecordingState.Faithful { runtime := startup } :=
    fun _ => rfl
  have faithful : (recordingRun startup actions).Faithful :=
    Transition.invariant_of_steps faithful_recordingStep initial actions
  rw [protectedRedirectStream_eq_serveStream settled,
    serveStream_delivered_iff restricted]
  have only : (∀ other, (StreamRoute.part itemid partid extension).partidParam =
        some other →
      PartPermitted (recordingRun startup actions).parts policy other) ↔
      PartPermitted (recordingRun startup actions).parts policy partId := by
    simp [StreamRoute.partidParam, read]
  rw [only, PartPermitted, faithful partId]
  cases (recordingRun startup actions).lastRecorded partId with
  | none => simp
  | some version => simp [partClassificationAllowed_iff]

end

/-- Two accounts list one part, in a version of each; the permitted version is
inserted last. -/
def twoAccountsRecorded : RecordingState :=
  recordingRun viewerRuntime
    [.call { host := "http://plex:32400", context := { token := "luke-token" } }
        [{ capturedVersion with videoResolution := some "4k" }],
      .call { host := "http://plex:32400", context := viewerRequest.plex }
        [capturedVersion],
      .insertNext 0, .reload { viewerRuntime with generation := 2 },
      .insertNext 1]

theorem part_delivered_iff_last_recorded_viewer :
    (protectedRedirectStream noIdentity viewerConfig
      twoAccountsRecorded.runtime
      (viewerDepot ⟨.p1080, some 10000, []⟩) twoAccountsRecorded.parts
      (.part "9" "271990" "mkv")).Delivered := by
  have settled : StreamPolicy noIdentity viewerConfig
      twoAccountsRecorded.runtime (viewerDepot ⟨.p1080, some 10000, []⟩)
      ⟨.p1080, some 10000, []⟩ :=
    ⟨rfl, viewerRequest, _, rfl, rfl, rfl⟩
  apply (part_delivered_iff_last_recorded settled (by decide)
    (by decide : DecimalText.int64? "271990" = some 271990)).mpr
  refine ⟨capturedVersion, by decide, by decide, ?_⟩
  intro cap capped
  cases capped
  exact ⟨9005, rfl, by decide⟩

end Replex
