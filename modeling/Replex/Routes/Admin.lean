import Replex.Data.Scanning
import Replex.Config.Validation
import Replex.HubCache.Provenance
import Replex.Routes.PhotoCache
import Replex.Routes.Playback

namespace Replex

open Data

/-! The administrator's requests: purging caches, reloading the policy, and
explaining a playback decision. -/

def PolicySnapshot.fromConfig (config : ServiceConfig)
    (generation : UInt64) : PolicySnapshot where
  enabled := config.resolutionPolicyEnabled
  entries := config.userResolutionPolicies
  defaultLimit := config.resolutionDefault
  failClosed := config.resolutionPolicyFailClosed
  hiddenCollections := config.hiddenCollections.getD []
  generation := generation

/-- The caches of the process, without the one on disk. -/
structure ServiceCaches where
  metadata : Store String MediaContainer := .empty
  identity : Store String ResolvedIdentity := .empty
  photos : Store String CachedImage := .empty
  parts : Store Int64 PartMediaClassification := .empty
  global : Store String Bytes := .empty

structure AdminState where
  config : ServiceConfig
  policy : PolicySnapshot
  caches : ServiceCaches := {}

structure ExplainedVersion where
  index : Nat
  id : Int64
  resolution : Option String
  width : Option Int64
  height : Option Int64
  allowed : Option Bool
  rejectionReason : Option String
  deriving DecidableEq

structure Explanation where
  path : String
  policyGeneration : UInt64
  policySource : String
  selectedMediaIndex : Option Nat
  versions : List ExplainedVersion
  deriving DecidableEq

inductive AdminBody where
  | empty
  | error (text : String)
  | purged (cls : String) (removed : Nat)
  | reloaded (snapshot : PolicySnapshot)
  | explained (explanation : Explanation)

structure AdminAnswer where
  status : StatusCode := 200
  body : AdminBody := .empty

def adminAuthorized (digest : TokenDigest) (config : Config)
    (request : RequestContext) : Bool :=
  match config.token, request.plex.token with
  | some configured, some presented =>
      digest.tokenFingerprint configured == digest.tokenFingerprint presented
  | _, _ => false

/-! Purging. -/

def inScope (scope key : String) : Bool :=
  Text.contains key (":u:" ++ scope ++ ":")

/-- `iterated` are the keys that iterating over the cache comes to. -/
def purgeScope {ν : Type} (scope : String) (iterated : List String)
    (store : Store String ν) : Store String ν × Nat :=
  iterated.foldl
    (fun purged key =>
      if inScope scope key then (purged.1.evict key, purged.2 + 1) else purged)
    (store, 0)

inductive PurgeClass where
  | metadata | identity | photos | parts | global | disk
  deriving DecidableEq

def PurgeClass.read : String → Option PurgeClass
  | "metadata" => some metadata
  | "identity" => some identity
  | "photos" => some photos
  | "parts" => some parts
  | "global" => some global
  | "disk" => some disk
  | _ => none

/-- A purge of all accounts reports how many entries the cache has counted;
clearing the disk counts files, and may fail. -/
structure PurgeRequest where
  cls : String
  account : Option String := none
  iterated : List String := []
  entryCount : Nat := 0
  cleared : Option Nat := none

def notScopedText : String :=
  "this cache class is not account-scoped; use ?account=all"

def cachePurge (digest : TokenDigest) (request : RequestContext)
    (purge : PurgeRequest) (caches : ServiceCaches) :
    ServiceCaches × AdminAnswer :=
  let all := purge.account == some "all"
  let done (caches : ServiceCaches) (removed : Nat) :
      ServiceCaches × AdminAnswer :=
    (caches, { body := .purged purge.cls removed })
  match PurgeClass.read purge.cls, all with
  | some .metadata, true =>
      done { caches with metadata := .empty } purge.entryCount
  | some .metadata, false =>
      let (metadata, removed) :=
        purgeScope request.tokenScope purge.iterated caches.metadata
      done { caches with metadata } removed
  | some .identity, true =>
      done { caches with identity := .empty } purge.entryCount
  | some .identity, false =>
      match request.plex.token with
      | some token =>
          done
            { caches with
              identity :=
                caches.identity.evict (digest.tokenFingerprint token) } 1
      | none => done caches 0
  | some .photos, true => done { caches with photos := .empty } purge.entryCount
  | some .photos, false =>
      let (photos, removed) :=
        purgeScope request.tokenScope purge.iterated caches.photos
      done { caches with photos } removed
  | some .parts, true => done { caches with parts := .empty } purge.entryCount
  | some .global, true => done { caches with global := .empty } purge.entryCount
  -- The files of the disk cache are not among these caches.
  | some .disk, true =>
      match purge.cleared with
      | some removed => done caches removed
      | none => (caches, { status := 500 })
  | some .parts, false | some .global, false | some .disk, false =>
      (caches, { status := 400, body := .error notScopedText })
  | none, _ => (caches, { status := 404 })

/-! Reloading. -/

def needsRestartText : String :=
  "enabling or disabling policy routing requires a restart"

/-- `loaded` is what the environment now holds. -/
def policyReloadFrom (parseUrl : String → Option ParsedUrl)
    (config : ServiceConfig) (loaded : Except String ServiceConfig)
    (maxGb : Option String) (policy : PolicySnapshot) :
    PolicySnapshot × AdminAnswer :=
  match loaded with
  | .error text => (policy, { status := 400, body := .error text })
  | .ok next =>
      match next.validate parseUrl maxGb with
      | .error error => (policy, { status := 400, body := .error error.text })
      | .ok () =>
          if next.resolutionPolicyEnabled ≠ config.resolutionPolicyEnabled then
            (policy, { status := 409, body := .error needsRestartText })
          else
            let next :=
              PolicySnapshot.fromConfig next (policy.generation + 1)
            (next, { body := .reloaded next })

/-! Explaining. -/

def explainVersions (policy : Option ResolutionPolicy) (media : List Media) :
    List ExplainedVersion :=
  media.zipIdx.map fun (version, index) =>
    { index
      id := version.id
      resolution := version.videoResolution
      width := version.width
      height := version.height
      allowed := policy.map (mediaAllowed version)
      rejectionReason := policy.bind fun policy =>
        if !mediaAllowed version policy then
          some "exceeds policy or has unknown resolution"
        else none }

def explainPlayback
    (getItemByKey : PlexClient → String → Except String MediaContainer)
    (config : Config) (runtime : PolicySnapshot) (depot : Depot)
    (path : Option String) : AdminAnswer :=
  match path, depot.requestContext with
  | none, _ | _, none => { status := 400 }
  | some path, some request =>
      match plexClientFromDepot config request.plex depot with
      | .error _ => { status := 500 }
      | .ok client =>
          match getItemByKey client path with
          | .error text => { status := 502, body := .error text }
          | .ok item =>
              let media := (item.metadata.head?.map MetaData.media).getD []
              let policy := depot.securityState.bind fun
                | .resolved security => some security.policy
                | .unavailable _ _ => none
              { body := .explained
                  { path
                    policyGeneration := runtime.generation
                    policySource :=
                      if depot.securityState.isSome then "request_identity"
                      else "unavailable"
                    selectedMediaIndex := policy.bind fun policy =>
                      pinnedIndex media policy (screenOf request.plex)
                    versions := explainVersions policy media } }

/-! Runs, with everything that others do to the caches in between. -/

inductive AdminRequest where
  | purge (purge : PurgeRequest)
  | reload (loaded : Except String ServiceConfig) (maxGb : Option String)
  | explain (path : Option String)

inductive AdminEvent where
  | visit (request : RequestContext) (admin : AdminRequest)
  | others (change : ServiceCaches → ServiceCaches)

structure AdminRun where
  state : AdminState
  answers : List AdminAnswer := []

def explainPath : String :=
  "/replex/admin/playback/explain"

section

variable (parseUrl : String → Option ParsedUrl) (digest : TokenDigest)
  (identity : PlexClient → Except IdentityError ResolvedIdentity)
  (getItemByKey : PlexClient → String → Except String MediaContainer)

def adminAnswer (state : AdminState) (request : RequestContext) :
    AdminRequest → AdminState × AdminAnswer
  | .purge purge =>
      let (caches, answer) := cachePurge digest request purge state.caches
      ({ state with caches }, answer)
  | .reload loaded maxGb =>
      let (policy, answer) :=
        policyReloadFrom parseUrl state.config loaded maxGb state.policy
      ({ state with policy }, answer)
  | .explain path =>
      (state, explainPlayback getItemByKey state.config.toConfig state.policy
        (requestDepot identity state.config.toConfig state.policy request
          explainPath false) path)

/-- Every handler asks for the administrator's token first. -/
def adminStep (run : AdminRun) : AdminEvent → AdminRun
  | .visit request admin =>
      if adminAuthorized digest run.state.config.toConfig request then
        let (state, answer) := adminAnswer parseUrl digest identity
          getItemByKey run.state request admin
        { state, answers := run.answers ++ [answer] }
      else
        { run with answers := run.answers ++ [{ status := 403 }] }
  | .others change =>
      { run with
        state := { run.state with caches := change run.state.caches } }

def adminRun (config : ServiceConfig) (events : List AdminEvent) : AdminRun :=
  events.foldl (adminStep parseUrl digest identity getItemByKey)
    { state := { config, policy := .fromConfig config 1 } }

def AdminAnswer.generation (answer : AdminAnswer) : Option UInt64 :=
  match answer.body with
  | .reloaded snapshot => some snapshot.generation
  | _ => none

/-- The generations that were reported so far. -/
def AdminRun.generations (run : AdminRun) : List UInt64 :=
  run.answers.filterMap AdminAnswer.generation

/-- The policy is that of an offered configuration that passes its checks, and
the reports have counted upwards from the second generation. -/
structure AdminRun.InForce (config : ServiceConfig)
    (offered : ServiceConfig → Option String → Prop) (run : AdminRun) :
    Prop where
  same : run.state.config = config
  policy : ∃ accepted maxGb, offered accepted maxGb ∧
    accepted.validate parseUrl maxGb = .ok () ∧
    accepted.resolutionPolicyEnabled = config.resolutionPolicyEnabled ∧
    run.state.policy =
      .fromConfig accepted (UInt64.ofNat (run.generations.length + 1))
  reports : run.generations =
    (List.range' 2 run.generations.length).map UInt64.ofNat

variable {parseUrl} {digest} {identity} {getItemByKey}
  {config : ServiceConfig} {offered : ServiceConfig → Option String → Prop}
  {run : AdminRun}

theorem AdminRun.generations_of_none {answer : AdminAnswer}
    (silent : answer.generation = none) (state : AdminState) :
    AdminRun.generations { state, answers := run.answers ++ [answer] } =
      run.generations := by
  simp [generations, silent]

/-- An answer that reports no generation, of a request that leaves the policy
alone. -/
theorem AdminRun.InForce.silent (inForce : run.InForce parseUrl config offered)
    {state : AdminState} (sameConfig : state.config = run.state.config)
    (samePolicy : state.policy = run.state.policy) {answer : AdminAnswer}
    (silent : answer.generation = none) :
    AdminRun.InForce parseUrl config offered
      { state, answers := run.answers ++ [answer] } := by
  refine ⟨sameConfig.trans inForce.same, ?_, ?_⟩
  · rw [generations_of_none silent, samePolicy]
    exact inForce.policy
  · rw [generations_of_none silent]
    exact inForce.reports

theorem AdminRun.InForce.reload (inForce : run.InForce parseUrl config offered)
    {loaded : Except String ServiceConfig} {maxGb : Option String}
    (known : ∀ next, loaded = .ok next → offered next maxGb) :
    let reloaded := policyReloadFrom parseUrl run.state.config loaded maxGb
      run.state.policy
    AdminRun.InForce parseUrl config offered
      { state := { run.state with policy := reloaded.1 }
        answers := run.answers ++ [reloaded.2] } := by
  cases loaded with
  | error text => exact inForce.silent rfl rfl rfl
  | ok next =>
      cases checked : next.validate parseUrl maxGb with
      | error error =>
          simp only [policyReloadFrom, checked]
          exact inForce.silent rfl rfl rfl
      | ok done =>
          simp only [policyReloadFrom, checked]
          split
          · exact inForce.silent rfl rfl rfl
          · rename_i same
            have same := not_not.mp same
            obtain ⟨accepted, acceptedGb, -, -, -, policy⟩ := inForce.policy
            have generation : run.state.policy.generation + 1 =
                UInt64.ofNat (run.generations.length + 1 + 1) := by
              rw [policy, UInt64.ofNat_add (run.generations.length + 1) 1]
              rfl
            have reports (state : AdminState) : AdminRun.generations
                { state
                  answers := run.answers ++
                    [{ body := .reloaded (.fromConfig next
                      (run.state.policy.generation + 1)) }] } =
                run.generations ++
                  [UInt64.ofNat (run.generations.length + 1 + 1)] := by
              simp [generations, AdminAnswer.generation,
                PolicySnapshot.fromConfig, generation]
            refine ⟨inForce.same, ⟨next, maxGb, known next rfl, checked,
              same.trans (by rw [inForce.same]), ?_⟩, ?_⟩
            · rw [reports, generation, List.length_append]
              rfl
            · rw [reports, List.length_append, List.length_singleton,
                List.range'_concat, List.map_append, ← inForce.reports,
                Nat.one_mul, Nat.add_comm 2]
              rfl

/-- Purges and explanations report no generation. -/
theorem generation_cachePurge (request : RequestContext)
    (purge : PurgeRequest) (caches : ServiceCaches) :
    (cachePurge digest request purge caches).2.generation = none := by
  unfold cachePurge
  dsimp only
  split <;> try rfl
  · split <;> rfl
  · split <;> rfl

theorem generation_explainPlayback (config : Config)
    (runtime : PolicySnapshot) (depot : Depot) (path : Option String) :
    (explainPlayback getItemByKey config runtime depot path).generation =
      none := by
  unfold explainPlayback
  split
  · rfl
  · rfl
  · split
    · rfl
    · dsimp only
      split <;> rfl

/-- What an authorised reload offers. -/
def AdminEvent.Offers (config : ServiceConfig) (digest : TokenDigest)
    (offered : ServiceConfig → Option String → Prop) : AdminEvent → Prop
  | .visit request (.reload (.ok next) maxGb) =>
      adminAuthorized digest config.toConfig request = true →
        offered next maxGb
  | _ => True

theorem AdminRun.InForce.step (inForce : run.InForce parseUrl config offered)
    {event : AdminEvent} (known : event.Offers config digest offered) :
    AdminRun.InForce parseUrl config offered
      (adminStep parseUrl digest identity getItemByKey run event) := by
  cases event with
  | others change =>
      exact ⟨inForce.same, inForce.policy, inForce.reports⟩
  | visit request admin =>
      simp only [adminStep]
      split
      · rename_i authorized
        cases admin with
        | purge purge =>
            simp only [adminAnswer]
            refine inForce.silent ?_ ?_ (generation_cachePurge request purge _)
            · rfl
            · rfl
        | explain path =>
            exact inForce.silent rfl rfl
              (generation_explainPlayback _ _ _ _)
        | reload loaded maxGb =>
            apply inForce.reload
            rintro next rfl
            rw [inForce.same] at authorized
            exact known authorized
      · exact inForce.silent rfl rfl rfl

theorem PolicySnapshot.bitrate_pos {maxGb : Option String}
    (valid : config.Valid parseUrl maxGb) (generation : UInt64)
    (account : UserIdentity) {bitrate : Int64}
    (capped : ((PolicySnapshot.fromConfig config generation).resolve
      account).maxBitrate = some bitrate) : 0 < bitrate := by
  simp only [PolicySnapshot.resolve, PolicySnapshot.fromConfig, resolvePolicy,
    Option.bind_eq_some_iff] at capped
  obtain ⟨entry, found, held⟩ := capped
  have listed : entry ∈ config.userResolutionPolicies := by
    rcases Option.or_eq_some_iff.mp found with byUuid | ⟨-, byName⟩
    · exact List.mem_of_find?_eq_some byUuid
    · exact List.mem_of_find?_eq_some byName
  exact (valid.policies entry listed).bitrate bitrate held

/-- Whatever requests come in, the policy in force is that of a configuration
that passes all checks: the one at the start or one that the administrator has
had loaded. Reloads count upwards without a gap, none turns the policy on or
off, and no account ever has a bitrate cap that is not positive. -/
theorem policy_in_force_is_validated {maxGb : Option String}
    (startup : config.validate parseUrl maxGb = .ok ())
    (events : List AdminEvent) :
    let reached := adminRun parseUrl digest identity getItemByKey config events
    (∃ accepted loadedGb,
      (accepted = config ∧ loadedGb = maxGb ∨ ∃ request,
        .visit request (.reload (.ok accepted) loadedGb) ∈ events ∧
          adminAuthorized digest config.toConfig request = true) ∧
        accepted.validate parseUrl loadedGb = .ok () ∧
        reached.state.policy =
          .fromConfig accepted
            (UInt64.ofNat (reached.generations.length + 1))) ∧
      reached.state.policy.enabled = config.resolutionPolicyEnabled ∧
      reached.generations =
        (List.range' 2 reached.generations.length).map UInt64.ofNat ∧
      ∀ account bitrate,
        (reached.state.policy.resolve account).maxBitrate = some bitrate →
          0 < bitrate := by
  let offered (accepted : ServiceConfig) (loadedGb : Option String) : Prop :=
    accepted = config ∧ loadedGb = maxGb ∨ ∃ request,
      AdminEvent.visit request (.reload (.ok accepted) loadedGb) ∈ events ∧
        adminAuthorized digest config.toConfig request = true
  intro reached
  have initial : AdminRun.InForce parseUrl config offered
      { state := { config, policy := .fromConfig config 1 } } :=
    ⟨rfl, ⟨config, maxGb, .inl ⟨rfl, rfl⟩, startup, rfl, rfl⟩, rfl⟩
  have known : ∀ event ∈ events, event.Offers config digest offered := by
    intro event listed
    match event with
    | .visit request (.reload (.ok next) loadedGb) =>
        intro authorized
        exact .inr ⟨request, listed, authorized⟩
    | .visit _ (.reload (.error _) _) | .visit _ (.purge _)
    | .visit _ (.explain _) | .others _ => trivial
  have inForce : AdminRun.InForce parseUrl config offered reached :=
    @Transition.invariant_of_meets _ _ _ _
      (AdminRun.InForce parseUrl config offered)
      (fun _ _ inForce known => inForce.step known) _ _ initial
      (Transition.meets_of_forall _ known _)
  obtain ⟨accepted, loadedGb, source, checked, same, policy⟩ := inForce.policy
  refine ⟨⟨accepted, loadedGb, source, checked, policy⟩, ?_, inForce.reports,
    ?_⟩
  · rw [policy]
    exact same
  · intro account bitrate capped
    rw [policy] at capped
    have valid := (startup_validation_is_exact _ accepted loadedGb).1.mp checked
    exact PolicySnapshot.bitrate_pos valid _ account capped

end

def adminConfig : ServiceConfig :=
  { annexServiceConfig with
    token := some "jodie-token"
    resolutionPolicyEnabled := true }

/-- A reload that caps the bitrate, and one that would turn the policy off. -/
def adminReloads : List AdminEvent :=
  [.visit viewerRequest (.reload (.ok { adminConfig with
      userResolutionPolicies :=
        [{ username := some "luke", maxResolution := .p480,
           maxBitrate := some 2000 }] }) none),
    .visit viewerRequest (.reload (.ok annexServiceConfig) none)]

theorem reload_that_caps_is_taken :
    let reached := adminRun annexReader.parseUrl viewerDigest noIdentity
      (fun _ _ => .error "") adminConfig adminReloads
    reached.state.policy.enabled = true ∧ reached.generations = [2] := by
  have startup : adminConfig.validate annexReader.parseUrl none =
      .ok () := by decide +kernel
  intro reached
  obtain ⟨-, enabled, reports, -⟩ :=
    @policy_in_force_is_validated annexReader.parseUrl viewerDigest
      noIdentity (fun _ _ => .error "") adminConfig none startup adminReloads
  refine ⟨enabled, reports.trans ?_⟩
  have one : reached.generations.length = 1 := by decide +kernel
  rw [one]
  rfl

/-! What a purge for one account forgets, and what it leaves. -/

section

variable {ν : Type} {scope : String} {iterated : List String}
  {store : Store String ν}

theorem purgeScope_eq (scope : String) (iterated : List String)
    (store : Store String ν) :
    (∀ key, (purgeScope scope iterated store).1.lookup key =
        if inScope scope key = true ∧ key ∈ iterated then none
        else store.lookup key) ∧
      (purgeScope scope iterated store).2 =
        (iterated.filter (inScope scope)).length := by
  induction iterated using List.reverseRecOn with
  | nil => simp [purgeScope]
  | append_singleton front last hypothesis =>
      obtain ⟨lookups, count⟩ := hypothesis
      have split : purgeScope scope (front ++ [last]) store =
          if inScope scope last then
            ((purgeScope scope front store).1.evict last,
              (purgeScope scope front store).2 + 1)
          else purgeScope scope front store := by
        simp [purgeScope]
      rw [split]
      cases within : inScope scope last with
      | true =>
          refine ⟨fun key => ?_, ?_⟩
          · by_cases same : key = last
            · subst same
              simp [Store.evict, within]
            · simp [Store.evict, same, lookups]
          · simp [count, within]
      | false =>
          refine ⟨fun key => ?_, ?_⟩
          · rw [if_neg Bool.false_ne_true, lookups]
            by_cases same : key = last
            · subst same
              simp [within]
            · simp [same]
          · simp [count, within]

/-- With all keys iterated over. -/
theorem lookup_purgeScope
    (covers : ∀ key value, store.lookup key = some value → key ∈ iterated)
    (key : String) :
    (purgeScope scope iterated store).1.lookup key =
      if inScope scope key = true then none else store.lookup key := by
  rw [(purgeScope_eq scope iterated store).1]
  by_cases listed : key ∈ iterated
  · simp [listed]
  · have absent : store.lookup key = none := by
      cases found : store.lookup key with
      | none => rfl
      | some value => exact absurd (covers key value found) listed
    simp [absent]

end

theorem inScope_of_parts {scope front rest : String} :
    inScope scope (front ++ ":u:" ++ scope ++ ":" ++ rest) = true := by
  rw [inScope, Text.contains_iff_infix]
  exact ⟨front.toList, rest.toList, by simp⟩

theorem inScope_hubCacheKey {digest : TokenDigest} {keyPath : String}
    (own : isSharedPath keyPath = false) (token : Option String) :
    inScope (digest.tokenScope token) (hubCacheKey digest keyPath token) =
      true := by
  rw [← @inScope_of_parts (digest.tokenScope token) "hubcache" keyPath]
  congr 1
  apply String.toList_injective
  rw [toList_hubCacheKey own]
  simp

theorem inScope_photoCacheKeyFor {codec : TargetCodec} {digest : TokenDigest}
    (raw : String) (token : Option String) :
    inScope (digest.tokenScope token)
      (photoCacheKeyFor codec digest raw token) = true := by
  rw [← @inScope_of_parts (digest.tokenScope token) "photo"
    (canonicalPhotoKey codec raw)]
  simp [photoCacheKeyFor, String.append_assoc]

/-! The lookups of transforms are kept under the raw token. -/

theorem splitOn_of_not_mem {separator : Char} {text : List Char}
    (absent : separator ∉ text) : text.splitOn separator = [text] := by
  have split := Text.splitOn_append_of_not_mem absent []
  rwa [List.append_nil, List.splitOn_nil, List.modifyHead_cons,
    List.append_nil] at split

/-- A piece between two separators is one of the pieces, and not the last. -/
theorem mem_dropLast_splitOn {separator : Char} {piece text : List Char}
    (plain : separator ∉ piece)
    (found : separator :: piece ++ [separator] <:+: text) :
    piece ∈ (text.splitOn separator).dropLast := by
  obtain ⟨front, back, rfl⟩ := found
  have parts : front ++ (separator :: piece ++ [separator]) ++ back =
      front ++ separator :: (piece ++ separator :: back) := by simp
  rw [parts, List.splitOn_append_cons_self, List.splitOn_append_cons_self,
    splitOn_of_not_mem plain, ← List.append_assoc]
  cases rest : back.splitOn separator with
  | nil => exact absurd rest (List.splitOn_ne_nil separator back)
  | cons head tail =>
      rw [List.dropLast_append_of_ne_nil (List.cons_ne_nil head tail)]
      simp

/-- The name of a lookup between its colons. -/
def SideLookup.words : SideLookup → List (List Char)
  | collection id => ["collection".toList, (toString id).toList]
  | sectionCollections id => ["sectioncollections".toList, (toString id).toList]
  | collectionChildren id offset limit =>
      ["get_collection_children".toList, (toString id).toList,
        (toString offset).toList, (toString limit).toList]

theorem SideLookup.toList_key (lookup : SideLookup) {token : String}
    {context : PlexContext} (held : context.token = some token) :
    (generateCacheKey lookup.name context).toList =
      [':'].intercalate (lookup.words ++ [token.toList]) := by
  have colon : ":".toList = [':'] := rfl
  rw [generateCacheKey, held, Option.getD_some]
  cases lookup with
  | collection id =>
      have name : (collection id).name =
          "collection" ++ ":" ++ toString id := rfl
      rw [name]
      simp [colon, words, List.intercalate]
  | sectionCollections id =>
      have name : (sectionCollections id).name =
          "sectioncollections" ++ ":" ++ toString id := rfl
      rw [name]
      simp [colon, words, List.intercalate]
  | collectionChildren id offset limit =>
      have name : (collectionChildren id offset limit).name =
          "get_collection_children" ++ ":" ++ toString id ++ ":" ++
            toString offset ++ ":" ++ toString limit := rfl
      rw [name]
      simp [colon, words, List.intercalate]

theorem SideLookup.plain_words (lookup : SideLookup) :
    ∀ word ∈ lookup.words, ':' ∉ word ∧ word ≠ ['u'] := by
  have number (value : Int) : ':' ∉ (toString value).toList ∧
      (toString value).toList ≠ ['u'] := by
    refine ⟨DecimalText.not_mem_toString value (by decide) (by decide), ?_⟩
    intro same
    have letter : 'u' ∈ (toString value).toList := by rw [same]; simp
    exact DecimalText.not_mem_toString value (by decide) (by decide) letter
  intro word listed
  cases lookup with
  | collection id =>
      rcases List.mem_cons.mp listed with rfl | listed
      · decide
      · cases List.mem_singleton.mp listed
        exact number id
  | sectionCollections id =>
      rcases List.mem_cons.mp listed with rfl | listed
      · decide
      · cases List.mem_singleton.mp listed
        exact number id
  | collectionChildren id offset limit =>
      simp only [words, List.mem_cons, List.not_mem_nil, or_false] at listed
      rcases listed with rfl | rfl | rfl | rfl
      · decide
      · exact number id
      · exact number offset
      · exact number limit

theorem not_inScope_generateCacheKey {token : String}
    (plain : ':' ∉ token.toList) (scope : String) (lookup : SideLookup)
    {context : PlexContext} (held : context.token = some token) :
    inScope scope (generateCacheKey lookup.name context) = false := by
  rw [inScope, ← Bool.not_eq_true, Text.contains_iff_infix]
  intro found
  have marked : ':' :: ['u'] ++ [':'] <:+:
      (generateCacheKey lookup.name context).toList := by
    refine List.IsInfix.trans ?_ found
    exact ⟨[], scope.toList ++ [':'], by simp⟩
  have piece := mem_dropLast_splitOn (by decide) marked
  have words : ∀ word ∈ lookup.words ++ [token.toList], ':' ∉ word := by
    intro word listed
    rcases List.mem_append.mp listed with early | last
    · exact (lookup.plain_words word early).1
    · cases List.mem_singleton.mp last
      exact plain
  rw [lookup.toList_key held, List.splitOn_intercalate ':' words (by simp),
    List.dropLast_concat] at piece
  exact (lookup.plain_words _ piece).2 rfl

/-- What a purge for the account of this token comes to. -/
structure PurgesAccount (digest : TokenDigest) (token : String)
    (kind : Option PurgeClass) (before after : ServiceCaches)
    (answer : AdminAnswer) : Prop where
  metadata : ∀ key, after.metadata.lookup key =
    if kind = some .metadata ∧
        inScope (digest.tokenScope (some token)) key = true then none
    else before.metadata.lookup key
  photos : ∀ key, after.photos.lookup key =
    if kind = some .photos ∧
        inScope (digest.tokenScope (some token)) key = true then none
    else before.photos.lookup key
  identity : ∀ key, after.identity.lookup key =
    if kind = some .identity ∧ key = digest.tokenFingerprint token then none
    else before.identity.lookup key
  parts : after.parts = before.parts
  global : after.global = before.global
  status : answer.status =
    match kind with
    | some .metadata | some .identity | some .photos => 200
    | some .parts | some .global | some .disk => 400
    | none => 404

/-- The token of an authorised request has the scope and the fingerprint of
the configured one. -/
theorem token_of_adminAuthorized {digest : TokenDigest} {config : Config}
    {request : RequestContext}
    (authorized : adminAuthorized digest config request = true) :
    ∃ configured presented, config.token = some configured ∧
      request.plex.token = some presented ∧
      digest.tokenFingerprint presented = digest.tokenFingerprint configured ∧
      digest.tokenScope (some presented) =
        digest.tokenScope (some configured) := by
  unfold adminAuthorized at authorized
  split at authorized
  · rename_i configured presented held given
    have same := eq_of_beq authorized
    refine ⟨configured, presented, held, given, same.symm, ?_⟩
    rw [TokenDigest.tokenScope, TokenDigest.tokenScope, same]
  · cases authorized

theorem tokenScope_of_admitted {reader : HostReader} {digest : TokenDigest}
    {config : Config} {plex : PlexContext} {received : Request}
    {request : RequestContext}
    (admitted : requestContextMiddleware reader digest config plex received =
      .ok request) :
    request.tokenScope = digest.tokenScope request.plex.token := by
  simp only [requestContextMiddleware] at admitted
  split at admitted
  · cases admitted
  · cases admitted
    rfl

theorem purgesAccount_cachePurge {digest : TokenDigest}
    {request : RequestContext} {configured presented : String}
    (given : request.plex.token = some presented)
    (fingerprint : digest.tokenFingerprint presented =
      digest.tokenFingerprint configured)
    (scope : request.tokenScope = digest.tokenScope (some configured))
    {purge : PurgeRequest} (own : purge.account ≠ some "all")
    {caches : ServiceCaches}
    (metadata : PurgeClass.read purge.cls = some .metadata → ∀ key value,
      caches.metadata.lookup key = some value → key ∈ purge.iterated)
    (photos : PurgeClass.read purge.cls = some .photos → ∀ key value,
      caches.photos.lookup key = some value → key ∈ purge.iterated) :
    PurgesAccount digest configured (PurgeClass.read purge.cls) caches
      (cachePurge digest request purge caches).1
      (cachePurge digest request purge caches).2 := by
  have single : (purge.account == some "all") = false := beq_false_of_ne own
  unfold cachePurge
  simp only [single, given, scope, fingerprint]
  cases read : PurgeClass.read purge.cls with
  | none =>
      exact ⟨by simp, by simp, by simp, rfl, rfl, rfl⟩
  | some kind =>
      cases kind with
      | metadata =>
          refine ⟨fun key => ?_, by simp, by simp, rfl, rfl, rfl⟩
          simpa using lookup_purgeScope (metadata read) key
      | photos =>
          refine ⟨by simp, fun key => ?_, by simp, rfl, rfl, rfl⟩
          simpa using lookup_purgeScope (photos read) key
      | identity =>
          refine ⟨by simp, by simp, fun key => ?_, rfl, rfl, rfl⟩
          simp [Store.evict]
      | parts => exact ⟨by simp, by simp, by simp, rfl, rfl, rfl⟩
      | global => exact ⟨by simp, by simp, by simp, rfl, rfl, rfl⟩
      | disk => exact ⟨by simp, by simp, by simp, rfl, rfl, rfl⟩

/-- Whoever purges one account purges the administrator's, and exactly the
entries under its scope, which the account's hub payloads and artwork are, but
not the lookups of transforms. -/
theorem account_purge_is_exact {reader : HostReader} {digest : TokenDigest}
    {config : Config} {plex : PlexContext} {received : Request}
    {request : RequestContext}
    (admitted : requestContextMiddleware reader digest config plex received =
      .ok request)
    (authorized : adminAuthorized digest config request = true)
    {purge : PurgeRequest} (own : purge.account ≠ some "all")
    {caches : ServiceCaches}
    (metadata : PurgeClass.read purge.cls = some .metadata → ∀ key value,
      caches.metadata.lookup key = some value → key ∈ purge.iterated)
    (photos : PurgeClass.read purge.cls = some .photos → ∀ key value,
      caches.photos.lookup key = some value → key ∈ purge.iterated) :
    ∃ configured, config.token = some configured ∧
      PurgesAccount digest configured (PurgeClass.read purge.cls) caches
        (cachePurge digest request purge caches).1
        (cachePurge digest request purge caches).2 ∧
      (∀ keyPath, isSharedPath keyPath = false →
        inScope (digest.tokenScope (some configured))
          (hubCacheKey digest keyPath (some configured)) = true) ∧
      (∀ codec raw, inScope (digest.tokenScope (some configured))
        (photoCacheKeyFor codec digest raw (some configured)) = true) ∧
      ∀ (lookup : SideLookup) (context : PlexContext) (token : String),
        context.token = some token → ':' ∉ token.toList →
          inScope (digest.tokenScope (some configured))
            (generateCacheKey lookup.name context) = false := by
  obtain ⟨configured, presented, held, given, fingerprint, scope⟩ :=
    token_of_adminAuthorized authorized
  have requestScope : request.tokenScope =
      digest.tokenScope (some configured) := by
    rw [tokenScope_of_admitted admitted, given, scope]
  refine ⟨configured, held,
    purgesAccount_cachePurge given fingerprint requestScope own metadata photos,
    ?_, ?_, ?_⟩
  · intro keyPath shared
    exact inScope_hubCacheKey shared (some configured)
  · intro codec raw
    exact inScope_photoCacheKeyFor raw (some configured)
  · intro lookup context token carried plain
    exact not_inScope_generateCacheKey plain _ lookup carried

def adminRequest : RequestContext where
  plex := viewerRequest.plex
  upstreamHost := "http://plex:32400"
  tokenScope := "1b59c4148be3f711"

def watchingKey : String :=
  "hubcache:u:1b59c4148be3f711:/hubs/continueWatching"

def watchingCaches : ServiceCaches where
  metadata := Store.empty.insert watchingKey {}

def watchingPurge : PurgeRequest where
  cls := "metadata"
  iterated := [watchingKey]

theorem watching_is_purged :
    (cachePurge viewerDigest adminRequest watchingPurge
      watchingCaches).1.metadata.lookup watchingKey = none := by
  have admitted : requestContextMiddleware annexReader viewerDigest
      adminConfig.toConfig viewerRequest.plex
      { uri := ⟨"http://replex", "/replex/admin/cache/metadata", ⟨[]⟩⟩ } =
        .ok adminRequest := rfl
  have iterated : ∀ key value,
      watchingCaches.metadata.lookup key = some value →
        key ∈ watchingPurge.iterated := by
    intro key value found
    by_cases same : key = watchingKey
    · exact List.mem_singleton.mpr same
    · rw [watchingCaches, Store.lookup_insert_of_ne _ same] at found
      cases found
  have read : PurgeClass.read watchingPurge.cls = some .metadata := rfl
  obtain ⟨configured, held, purges, -, -, -⟩ :=
    account_purge_is_exact admitted (by decide +kernel)
      (by decide : watchingPurge.account ≠ some "all") (fun _ => iterated)
      (fun photos => absurd (read.symm.trans photos) (by decide))
  cases held
  rw [purges.metadata, if_pos ⟨read, by decide +kernel⟩]

end Replex
