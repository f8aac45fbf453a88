import Replex.Data.Transition
import Replex.PlexClient.Identity

namespace Replex

open Data

/-! Runs of identity requests over the shared caches, and when a remembered
identity is the one the request would be given afresh. -/

section

variable (endpoints : IdentityEndpoints) (digest : TokenDigest)
  (config : Config)

def freshIdentity (client : PlexClient) :
    Except IdentityError ResolvedIdentity :=
  (getCurrentIdentity endpoints digest config client .empty).1

structure IdentityState where
  caches : IdentityCaches
  /-- The request that wrote each remembered identity; nothing reads it. -/
  writers : Store String PlexClient
  answers : List (PlexClient × Except IdentityError ResolvedIdentity)

def IdentityState.initial : IdentityState := ⟨.empty, .empty, []⟩

inductive IdentityAction where
  | request (client : PlexClient)
  | forgetIdentity (fingerprint : String)
  | forgetMachineId (host : String)

def recordWriter (client : PlexClient) (caches : IdentityCaches)
    (writers : Store String PlexClient) : Store String PlexClient :=
  match client.context.token with
  | none => writers
  | some token =>
      match caches.identities.lookup (digest.tokenFingerprint token) with
      | some _ => writers
      | none => writers.insert (digest.tokenFingerprint token) client

def identityStep (state : IdentityState) : IdentityAction → IdentityState
  | .request client =>
      let answer :=
        getCurrentIdentity endpoints digest config client state.caches
      { caches := answer.2
        writers := recordWriter digest client state.caches state.writers
        answers := state.answers ++ [(client, answer.1)] }
  | .forgetIdentity fingerprint =>
      { state with caches :=
          { state.caches with
            identities := state.caches.identities.evict fingerprint } }
  | .forgetMachineId host =>
      { state with caches :=
          { state.caches with
            machineIds := state.caches.machineIds.evict host } }

/-! When a request may be answered from an entry that another request wrote. -/

/-- What the request itself presents, beside its token, is what an identity of
the given source rests on. -/
def PresentsSame (token : String) (writer client : PlexContext) :
    IdentitySource → Prop
  | .verifiedPlex | .sharedResource | .sharedServer => True
  | .tokenFingerprint =>
      ∀ binding,
        config.tokenIdentityMap (digest.tokenFingerprint token) =
          some binding →
        ∀ required, binding.clientIdentifier = some required →
          client.clientIdentifier = some required
  | .legacyClientIdentifier =>
      client.clientIdentifier = writer.clientIdentifier
  | .usernameFallback =>
      client.username = writer.username ∧
        client.clientIdentifier.bind config.clientIdentityMap.get? = none

def Reusable (token : String) (writer client : PlexClient)
    (source : IdentitySource) : Prop :=
  writer.context.token = some token ∧
    (source = .verifiedPlex ∨
      (rootMachineId endpoints writer.host token =
          rootMachineId endpoints client.host token ∧
        PresentsSame digest config token writer.context client.context source))

def MachineIdCurrent (host token : String) (machineIds : MachineIds) : Prop :=
  ∀ machineId, machineIds.lookup host = some machineId →
    rootMachineId endpoints host token = .ok machineId

def IdentityEndpoints.rejects (token : String) : Prop :=
  ∃ status body, endpoints.user token = .answered status body ∧
    (status = 401 ∨ status = 403)

def CachesFit (state : IdentityState) : IdentityAction → Prop
  | .request client =>
      ∀ token, client.context.token = some token →
        match state.caches.identities.lookup
            (digest.tokenFingerprint token) with
        | some resolved =>
            ∀ writer,
              state.writers.lookup (digest.tokenFingerprint token) =
                some writer →
              Reusable endpoints digest config token writer client
                resolved.source
        | none =>
            endpoints.rejects token →
              MachineIdCurrent endpoints client.host token
                state.caches.machineIds
  | .forgetIdentity _ | .forgetMachineId _ => True

/-! A fetch depends on the remembered machine identifiers only through the one
of the request's own server. -/

theorem serverMachineId_again {host token machineId : String}
    {machineIds after : MachineIds}
    (found : serverMachineId endpoints host token machineIds =
      (.ok machineId, after)) :
    serverMachineId endpoints host token after = (.ok machineId, after) := by
  unfold serverMachineId at found
  split at found
  next remembered lookup =>
      cases found
      simp [serverMachineId, lookup]
  next lookup =>
      split at found
      · cases found
      · cases found
        simp [serverMachineId]

theorem serverMachineId_of_current {host token : String}
    {machineIds : MachineIds}
    (current : MachineIdCurrent endpoints host token machineIds) :
    (serverMachineId endpoints host token machineIds).1 =
      rootMachineId endpoints host token := by
  unfold serverMachineId
  split
  next machineId lookup =>
      exact (current machineId lookup).symm
  next lookup =>
      split
      next error root => exact root.symm
      next machineId root => exact root.symm

theorem machineIdCurrent_empty (host token : String) :
    MachineIdCurrent endpoints host token .empty := by
  intro machineId lookup
  cases lookup

def remoteIdentity (machineId token : String) :
    Except IdentityError (Option ResolvedIdentity) :=
  match resourcesUser endpoints machineId token with
  | .error error => .error error
  | .ok (some identity) => .ok (some { identity, source := .sharedResource })
  | .ok none =>
      match config.token with
      | none => .ok none
      | some adminToken =>
          match sharedServersUser endpoints adminToken machineId token with
          | .error error => .error error
          | .ok found => .ok (found.map fun identity =>
              { identity, source := .sharedServer })

def identityOnServer (context : PlexContext) (token : String)
    (machineId : Except IdentityError String) :
    Except IdentityError ResolvedIdentity :=
  match machineId with
  | .error error => .error error
  | .ok machineId =>
      match remoteIdentity endpoints config machineId token with
      | .error error => .error error
      | .ok (some resolved) => .ok resolved
      | .ok none => configuredIdentity digest config context token

theorem rejectedIdentity_eq (client : PlexClient) (token : String)
    (machineIds : MachineIds) :
    (rejectedIdentity endpoints digest config client token machineIds).1 =
      identityOnServer endpoints digest config client.context token
        (serverMachineId endpoints client.host token machineIds).1 := by
  unfold rejectedIdentity resolveSharedUser identityOnServer
  rcases found : serverMachineId endpoints client.host token machineIds with
    ⟨error | machineId, after⟩
  · rfl
  · have again := serverMachineId_again endpoints found
    simp only [remoteIdentity]
    cases resourcesUser endpoints machineId token with
    | error error => rfl
    | ok listed =>
        cases listed with
        | some identity => rfl
        | none =>
            simp only [resolveViaSharedServers]
            cases config.token with
            | none => rfl
            | some adminToken =>
                simp only [again]
                rcases sharedServersUser endpoints adminToken machineId
                  token with error | (_ | identity)
                · rfl
                · rfl
                · rfl

/-- Either nothing but the token decides the answer, or the account API
rejects the token and the later lookups decide. -/
theorem fetchCurrentIdentity_cases (token : String) :
    (∃ answer : Except IdentityError ResolvedIdentity,
      (∀ resolved, answer = .ok resolved →
        resolved.source = .verifiedPlex) ∧
      ∀ client machineIds,
        fetchCurrentIdentity endpoints digest config client token machineIds =
          (answer, machineIds)) ∨
    (endpoints.rejects token ∧ ∀ client machineIds,
      fetchCurrentIdentity endpoints digest config client token machineIds =
        rejectedIdentity endpoints digest config client token
          machineIds) := by
  unfold fetchCurrentIdentity tokenHeader
  by_cases valid : token.toList.all isHeaderChar = true
  · simp only [valid, if_true]
    cases answered : endpoints.user token with
    | failed reason =>
        exact .inl ⟨.error _, nofun, fun client machineIds => rfl⟩
    | answered status body =>
        by_cases accepted : status = 200
        · left
          simp only [accepted, if_true]
          cases body with
          | error reason => exact ⟨.error _, nofun, fun client machineIds => rfl⟩
          | ok raw =>
              refine ⟨.ok raw.resolved, ?_, fun client machineIds => rfl⟩
              intro resolved accepted
              cases accepted
              rfl
        · by_cases rejected : status = 401 ∨ status = 403
          · right
            refine ⟨⟨status, body, answered, rejected⟩, ?_⟩
            intro client machineIds
            simp only [if_neg accepted, if_pos rejected]
          · left
            simp only [if_neg accepted, if_neg rejected]
            exact ⟨.error _, nofun, fun client machineIds => rfl⟩
  · simp only [valid]
    exact .inl ⟨.error _, nofun, fun client machineIds => rfl⟩

theorem fetchCurrentIdentity_of_current {client : PlexClient}
    {token : String} {machineIds : MachineIds}
    (current : endpoints.rejects token →
      MachineIdCurrent endpoints client.host token machineIds) :
    (fetchCurrentIdentity endpoints digest config client token
        machineIds).1 =
      (fetchCurrentIdentity endpoints digest config client token
        .empty).1 := by
  rcases fetchCurrentIdentity_cases endpoints digest config token with
    ⟨answer, -, same⟩ | ⟨rejects, same⟩
  · rw [same, same]
  · rw [same, same, rejectedIdentity_eq, rejectedIdentity_eq,
      serverMachineId_of_current endpoints (current rejects),
      serverMachineId_of_current endpoints
        (machineIdCurrent_empty endpoints client.host token)]

/-! Requests that present the same are given the same. -/

theorem source_configuredIdentity {context : PlexContext} {token : String}
    {resolved : ResolvedIdentity}
    (found : configuredIdentity digest config context token = .ok resolved) :
    resolved.source ≠ .verifiedPlex := by
  unfold configuredIdentity at found
  grind

theorem configuredIdentity_of_presentsSame {writer client : PlexContext}
    {token : String} {resolved : ResolvedIdentity}
    (found : configuredIdentity digest config writer token = .ok resolved)
    (same : PresentsSame digest config token writer client
      resolved.source) :
    configuredIdentity digest config client token = .ok resolved := by
  unfold configuredIdentity at found ⊢
  cases bound : config.tokenIdentityMap (digest.tokenFingerprint token) with
  | some binding =>
      simp only [bound] at found ⊢
      split at found
      · cases found
      · cases found
        have required := same binding bound
        rw [if_neg]
        cases constraint : binding.clientIdentifier with
        | none => simp
        | some clientId => simp [required clientId constraint]
  | none =>
      simp only [bound] at found ⊢
      split at found
      next clientId username mapped =>
          cases found
          have presented : client.clientIdentifier =
            writer.clientIdentifier := same
          rw [presented, mapped]
      next unmapped =>
          split at found
          next username named =>
              split at found
              next allowed =>
                  cases found
                  obtain ⟨presented, unknown⟩ := same
                  have clientUnmapped : (client.clientIdentifier.bind
                      fun clientId =>
                        (config.clientIdentityMap.get? clientId).map
                          fun username => (clientId, username)) = none := by
                    simpa using unknown
                  rw [clientUnmapped, presented, named]
                  exact if_pos allowed
              · cases found
          · cases found

theorem source_remoteIdentity {machineId token : String}
    {resolved : ResolvedIdentity}
    (found : remoteIdentity endpoints config machineId token =
      .ok (some resolved)) :
    resolved.source = .sharedResource ∨ resolved.source = .sharedServer := by
  unfold remoteIdentity at found
  split at found
  · cases found
  · cases found
    exact .inl rfl
  · split at found
    · cases found
    · split at found
      · cases found
      · simp only [Except.ok.injEq, Option.map_eq_some_iff] at found
        obtain ⟨identity, -, rfl⟩ := found
        exact .inr rfl

theorem source_identityOnServer {context : PlexContext} {token : String}
    {machineId : Except IdentityError String} {resolved : ResolvedIdentity}
    (found : identityOnServer endpoints digest config context token
      machineId = .ok resolved) :
    resolved.source ≠ .verifiedPlex := by
  unfold identityOnServer at found
  split at found
  · cases found
  · split at found
    · cases found
    next remote =>
        cases found
        rcases source_remoteIdentity endpoints config remote with
          shared | shared
        · simp [shared]
        · simp [shared]
    · exact source_configuredIdentity digest config found

theorem identityOnServer_of_presentsSame {writer client : PlexContext}
    {token : String} {machineId : Except IdentityError String}
    {resolved : ResolvedIdentity}
    (found : identityOnServer endpoints digest config writer token
      machineId = .ok resolved)
    (same : PresentsSame digest config token writer client
      resolved.source) :
    identityOnServer endpoints digest config client token machineId =
      .ok resolved := by
  unfold identityOnServer at found ⊢
  cases machineId with
  | error error => exact found
  | ok machineId =>
      simp only at found ⊢
      split at found
      · cases found
      · exact found
      · exact configuredIdentity_of_presentsSame digest config found same

theorem fetchCurrentIdentity_of_reusable {writer client : PlexClient}
    {token : String} {resolved : ResolvedIdentity}
    (written : (fetchCurrentIdentity endpoints digest config writer token
      .empty).1 = .ok resolved)
    (reusable : Reusable endpoints digest config token writer client
      resolved.source) :
    (fetchCurrentIdentity endpoints digest config client token .empty).1 =
      .ok resolved := by
  rcases fetchCurrentIdentity_cases endpoints digest config token with
    ⟨answer, -, same⟩ | ⟨-, same⟩
  · rw [same] at written ⊢
    exact written
  · rw [same, rejectedIdentity_eq,
      serverMachineId_of_current endpoints
        (machineIdCurrent_empty endpoints _ token)] at written ⊢
    obtain ⟨-, verified | ⟨sameServer, presents⟩⟩ := reusable
    · exact absurd verified
        (source_identityOnServer endpoints digest config written)
    · rw [← sameServer]
      exact identityOnServer_of_presentsSame endpoints digest config written
        presents

/-! What one request does to the caches. -/

theorem freshIdentity_of_token {client : PlexClient} {token : String}
    (presented : client.context.token = some token) :
    freshIdentity endpoints digest config client =
      (fetchCurrentIdentity endpoints digest config client token
        .empty).1 := by
  unfold freshIdentity getCurrentIdentity
  simp only [presented, IdentityCaches.empty, Store.lookup_empty]
  split
  next fetched => simp [fetched]
  next fetched => simp [fetched]

theorem getCurrentIdentity_remembered {client : PlexClient} {token : String}
    {caches : IdentityCaches} {resolved : ResolvedIdentity}
    (presented : client.context.token = some token)
    (remembered : caches.identities.lookup (digest.tokenFingerprint token) =
      some resolved) :
    getCurrentIdentity endpoints digest config client caches =
      (.ok resolved, caches) := by
  simp [getCurrentIdentity, presented, remembered]

theorem getCurrentIdentity_fetched {client : PlexClient} {token : String}
    {caches : IdentityCaches}
    (presented : client.context.token = some token)
    (absent : caches.identities.lookup (digest.tokenFingerprint token) =
      none) :
    (getCurrentIdentity endpoints digest config client caches).1 =
      (fetchCurrentIdentity endpoints digest config client token
        caches.machineIds).1 := by
  simp only [getCurrentIdentity, presented, absent]
  split
  next fetched => simp [fetched]
  next fetched => simp [fetched]

/-- Only the request's own fingerprint can gain an entry, and only the
identity it was just given. -/
theorem lookup_getCurrentIdentity {client : PlexClient} {token : String}
    {caches : IdentityCaches} {fingerprint : String}
    {resolved : ResolvedIdentity}
    (presented : client.context.token = some token)
    (absent : caches.identities.lookup (digest.tokenFingerprint token) = none)
    (found : (getCurrentIdentity endpoints digest config client
      caches).2.identities.lookup fingerprint = some resolved) :
    (fingerprint = digest.tokenFingerprint token ∧
      (getCurrentIdentity endpoints digest config client caches).1 =
        .ok resolved) ∨
    (fingerprint ≠ digest.tokenFingerprint token ∧
      caches.identities.lookup fingerprint = some resolved) := by
  simp only [getCurrentIdentity, presented, absent] at found ⊢
  split at found
  next error machineIds fetched =>
      right
      refine ⟨?_, found⟩
      intro same
      rw [same, absent] at found
      cases found
  next answer machineIds fetched =>
      by_cases same : fingerprint = digest.tokenFingerprint token
      · left
        rw [same, Store.lookup_insert_self] at found
        cases found
        exact ⟨same, rfl⟩
      · right
        rw [Store.lookup_insert_of_ne _ same] at found
        exact ⟨same, found⟩

/-! The invariant of a run, and its step. -/

/-- Every entry is what its writer was due, and every answer what its request
was due. -/
structure IdentityState.Transparent (state : IdentityState) : Prop where
  remembered : ∀ fingerprint resolved,
    state.caches.identities.lookup fingerprint = some resolved →
      ∃ writer token, state.writers.lookup fingerprint = some writer ∧
        writer.context.token = some token ∧
        freshIdentity endpoints digest config writer = .ok resolved
  answered : ∀ answer ∈ state.answers,
    answer.2 = freshIdentity endpoints digest config answer.1

theorem transparent_initial :
    IdentityState.initial.Transparent endpoints digest config where
  remembered fingerprint resolved found := by cases found
  answered answer listed := by cases listed

theorem getCurrentIdentity_of_fit {state : IdentityState}
    {client : PlexClient}
    (transparent : state.Transparent endpoints digest config)
    (fit : CachesFit endpoints digest config state (.request client)) :
    (getCurrentIdentity endpoints digest config client state.caches).1 =
      freshIdentity endpoints digest config client := by
  cases presented : client.context.token with
  | none => simp [freshIdentity, getCurrentIdentity, presented]
  | some token =>
      rw [freshIdentity_of_token endpoints digest config presented]
      have condition := fit token presented
      cases entry : state.caches.identities.lookup
          (digest.tokenFingerprint token) with
      | none =>
          -- Only the remembered machine identifier can differ from nothing.
          rw [getCurrentIdentity_fetched endpoints digest config presented
            entry]
          simp only [entry] at condition
          exact fetchCurrentIdentity_of_current endpoints digest config
            condition
      | some resolved =>
          rw [getCurrentIdentity_remembered endpoints digest config presented
            entry]
          simp only [entry] at condition
          -- The entry is what its writer was due, by the invariant.
          obtain ⟨writer, writerToken, wrote, -, due⟩ :=
            transparent.remembered _ resolved entry
          have reusable := condition writer wrote
          rw [freshIdentity_of_token endpoints digest config
            reusable.1] at due
          exact (fetchCurrentIdentity_of_reusable endpoints digest config due
            reusable).symm

theorem transparent_request {state : IdentityState} {client : PlexClient}
    (transparent : state.Transparent endpoints digest config)
    (fit : CachesFit endpoints digest config state (.request client)) :
    (identityStep endpoints digest config state
      (.request client)).Transparent endpoints digest config := by
  have due := getCurrentIdentity_of_fit endpoints digest config transparent
    fit
  constructor
  · intro fingerprint resolved found
    cases presented : client.context.token with
    | none =>
        simp only [identityStep, getCurrentIdentity, recordWriter,
          presented] at found ⊢
        exact transparent.remembered fingerprint resolved found
    | some token =>
        cases entry : state.caches.identities.lookup
            (digest.tokenFingerprint token) with
        | some remembered =>
            simp only [identityStep, getCurrentIdentity, recordWriter,
              presented, entry] at found ⊢
            exact transparent.remembered fingerprint resolved found
        | none =>
            simp only [identityStep, recordWriter, presented, entry] at found ⊢
            rcases lookup_getCurrentIdentity endpoints digest config presented
              entry found with ⟨rfl, answer⟩ | ⟨other, earlier⟩
            · refine ⟨client, token, Store.lookup_insert_self .., presented,
                ?_⟩
              exact due.symm.trans answer
            · rw [Store.lookup_insert_of_ne _ other]
              exact transparent.remembered fingerprint resolved earlier
  · intro answer listed
    simp only [identityStep, List.mem_append, List.mem_singleton] at listed
    rcases listed with earlier | rfl
    · exact transparent.answered answer earlier
    · exact due

theorem transparent_identityStep (state : IdentityState)
    (action : IdentityAction)
    (transparent : state.Transparent endpoints digest config)
    (fit : CachesFit endpoints digest config state action) :
    (identityStep endpoints digest config state action).Transparent endpoints
      digest config := by
  cases action with
  | request client =>
      exact transparent_request endpoints digest config transparent fit
  | forgetIdentity fingerprint =>
      refine ⟨?_, transparent.answered⟩
      intro other resolved found
      apply transparent.remembered other resolved
      exact Store.lookup_of_evict found
  | forgetMachineId host =>
      exact ⟨transparent.remembered, transparent.answered⟩

/-! A constrained binding answers only its own client. -/

/-- An identity that rests on a binding restricted to one client is given to
that client alone. -/
def BindingRespected (client : PlexContext)
    (answer : Except IdentityError ResolvedIdentity) : Prop :=
  ∀ resolved, answer = .ok resolved → resolved.source = .tokenFingerprint →
    ∀ token binding required, client.token = some token →
      config.tokenIdentityMap (digest.tokenFingerprint token) =
        some binding →
      binding.clientIdentifier = some required →
      client.clientIdentifier = some required

theorem clientIdentifier_of_configuredIdentity {context : PlexContext}
    {token required : String} {resolved : ResolvedIdentity}
    {binding : TokenIdentityBinding}
    (found : configuredIdentity digest config context token = .ok resolved)
    (bound : config.tokenIdentityMap (digest.tokenFingerprint token) =
      some binding)
    (restricted : binding.clientIdentifier = some required) :
    context.clientIdentifier = some required := by
  simp only [configuredIdentity, bound, restricted] at found
  split at found
  · cases found
  next presented => simpa using presented

theorem bindingRespected_freshIdentity (client : PlexClient) :
    BindingRespected digest config client.context
      (freshIdentity endpoints digest config client) := by
  intro resolved given source token binding required presented bound restricted
  rw [freshIdentity_of_token endpoints digest config presented] at given
  rcases fetchCurrentIdentity_cases endpoints digest config token with
    ⟨answer, verified, same⟩ | ⟨-, same⟩
  · rw [same] at given
    rw [verified resolved given] at source
    cases source
  · rw [same, rejectedIdentity_eq] at given
    unfold identityOnServer at given
    split at given
    · cases given
    · split at given
      · cases given
      next remote =>
          cases given
          rcases source_remoteIdentity endpoints config remote with
            shared | shared
          · rw [shared] at source
            cases source
          · rw [shared] at source
            cases source
      · exact clientIdentifier_of_configuredIdentity digest config given
          bound restricted

/-! Whole runs. -/

/-- Every answer so far is the one its request would be given with nothing
remembered. -/
def AnsweredAfresh (state : IdentityState) : Prop :=
  ∀ answer ∈ state.answers,
    answer.2 = freshIdentity endpoints digest config answer.1 ∧
      BindingRespected digest config answer.1.context answer.2

def identityRun (actions : List IdentityAction) : IdentityState :=
  actions.foldl (identityStep endpoints digest config) .initial

theorem identity_answers_afresh {actions : List IdentityAction}
    (fit : Transition.Meets (identityStep endpoints digest config)
      (CachesFit endpoints digest config) .initial actions) :
    AnsweredAfresh endpoints digest config
      (identityRun endpoints digest config actions) := by
  have transparent := Transition.invariant_of_meets
    (transparent_identityStep endpoints digest config)
    (transparent_initial endpoints digest config) fit
  intro answer listed
  have due := transparent.answered answer listed
  refine ⟨due, ?_⟩
  rw [due]
  exact bindingRespected_freshIdentity endpoints digest config answer.1

end

/-! One token bound to one client, which no Plex service identifies. -/

def rejectingEndpoints : IdentityEndpoints where
  user _ := .answered 401 (.error "")
  resources _ := .answered 401 (.error "")
  root _ _ := .answered 200 (.ok "test-machine")
  sharedServers _ _ := .answered 404 (.error "")
  statusText _ := ""

def boundConfig : Config :=
  { viewerConfig with
    tokenIdentityMap := fun fingerprint =>
      if fingerprint = viewerDigest.tokenFingerprint "jodie-token" then
        some (.detailed "constrained-user" (some "bound-client"))
      else
        none }

def clientPresenting (clientIdentifier : String) : PlexClient where
  host := viewerRequest.upstreamHost
  context :=
    { viewerRequest.plex with clientIdentifier := some clientIdentifier }

def forgettingActions : List IdentityAction :=
  [.request (clientPresenting "bound-client"),
    .request (clientPresenting "bound-client"),
    .forgetIdentity (viewerDigest.tokenFingerprint "jodie-token"),
    .request (clientPresenting "other-client")]

theorem identity_answers_afresh_bound :
    AnsweredAfresh rejectingEndpoints viewerDigest boundConfig
      (identityRun rejectingEndpoints viewerDigest boundConfig
        forgettingActions) := by
  apply identity_answers_afresh
  refine ⟨?_, ?_, trivial, ?_, trivial⟩
  · intro token presented
    cases presented
    intro rejects machineId lookup
    cases lookup
  · intro token presented
    cases presented
    intro writer wrote
    cases wrote
    refine ⟨rfl, .inr ⟨rfl, ?_⟩⟩
    intro binding bound required restricted
    cases bound
    cases restricted
    rfl
  · intro token presented
    cases presented
    intro rejects machineId lookup
    cases lookup
    rfl

theorem constrained_binding_reused :
    ∃ answer ∈ (identityRun rejectingEndpoints viewerDigest boundConfig
        [.request (clientPresenting "bound-client"),
          .request (clientPresenting "other-client")]).answers,
      answer.1 = clientPresenting "other-client" ∧
        answer.2.toOption.map ResolvedIdentity.source =
          some .tokenFingerprint ∧
        freshIdentity rejectingEndpoints viewerDigest boundConfig answer.1 =
          .error .invalidToken := by
  refine ⟨_, List.mem_cons_of_mem _ List.mem_cons_self, rfl, rfl, rfl⟩

end Replex
