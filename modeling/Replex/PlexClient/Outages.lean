import Replex.PlexClient.IdentityCache

namespace Replex

open Data

/-! What the three remote lookups find out, and when an outage leads to an
identity that rests on less. -/

inductive LookupOutcome where
  | identity (identity : UserIdentity)
  | negative
  | transient
  deriving DecidableEq

/-- The sources below the remote ones. -/
def IdentitySource.isConfigured : IdentitySource → Bool
  | .tokenFingerprint | .legacyClientIdentifier | .usernameFallback => true
  | .verifiedPlex | .sharedResource | .sharedServer => false

section

variable (endpoints : IdentityEndpoints)

def accountOutcome (token : String) : LookupOutcome :=
  match tokenHeader token with
  | .error _ => .transient
  | .ok token =>
      match endpoints.user token with
      | .failed _ => .transient
      | .answered status body =>
          if status = 200 then
            match body with
            | .error _ => .transient
            | .ok raw => .identity raw.resolved.identity
          else if status = 401 ∨ status = 403 then
            .negative
          else
            .transient

/-- Both lookups for shared users need the identifier of the server. -/
def resourcesOutcome (machineId : Except IdentityError String)
    (token : String) : LookupOutcome :=
  match machineId with
  | .error _ => .transient
  | .ok machineId =>
      match tokenHeader token with
      | .error _ => .transient
      | .ok token =>
          match endpoints.resources token with
          | .failed _ => .transient
          | .answered status body =>
              if status = 200 then
                match body with
                | .error _ => .transient
                | .ok resources =>
                    match listedUser machineId resources with
                    | some identity => .identity identity
                    | none => .negative
              else if status = 401 ∨ status = 403 ∨ status = 404 then
                .negative
              else
                .transient

/-- `refusals` are the statuses that deny the list for good. -/
def sharedServersOutcome (refusals : List StatusCode) (adminToken : String)
    (machineId : Except IdentityError String) (token : String) :
    LookupOutcome :=
  match machineId with
  | .error _ => .transient
  | .ok machineId =>
      match endpoints.sharedServers adminToken machineId with
      | .failed _ => .transient
      | .answered status body =>
          if status = 200 then
            match body with
            | .error _ => .transient
            | .ok body =>
                match ((Text.splitText "<SharedServer " body).drop 1).findSome?
                    (sharedServerEntry token) with
                | some identity => .identity identity
                | none => .negative
          else if status ∈ refusals then
            .negative
          else
            .transient

/-- The list of shared servers came with a status that means nothing, or could
not be read. -/
def SharedServersUnread (refusals : List StatusCode) (adminToken : String)
    (machineId : Except IdentityError String) : Prop :=
  match machineId with
  | .error _ => False
  | .ok machineId =>
      match endpoints.sharedServers adminToken machineId with
      | .failed _ => False
      | .answered status body =>
          if status = 200 then body.toOption = none else status ∉ refusals

end

/-- An identity that was configured, not looked up, stands only where all
lookups deny one; a lookup that fails leads to an error. A lookup is made where
those before it have denied one. -/
structure NeverDowngrades
    (account resources sharedServers : LookupOutcome)
    (answer : Except IdentityError ResolvedIdentity) : Prop where
  denied : ∀ resolved, answer = .ok resolved →
    resolved.source.isConfigured = true →
      account = .negative ∧ resources = .negative ∧ sharedServers = .negative
  failed : account = .transient ∨
      account = .negative ∧
        (resources = .transient ∨
          resources = .negative ∧ sharedServers = .transient) →
    ∃ reason, answer = .error (.upstream reason)

/-! What each lookup makes of its outcome. -/

section

variable {endpoints : IdentityEndpoints} {digest : TokenDigest}
  {config : Config} {client : PlexClient} {token : String}
  {machineIds : MachineIds}

theorem exists_upstream_of_tokenHeader {error : IdentityError}
    (failed : tokenHeader token = .error error) :
    ∃ reason, error = .upstream reason := by
  unfold tokenHeader at failed
  split at failed
  · cases failed
  · cases failed
    exact ⟨_, rfl⟩

theorem eq_of_tokenHeader {other : String}
    (valid : tokenHeader token = .ok other) : other = token := by
  unfold tokenHeader at valid
  split at valid
  · cases valid
    rfl
  · cases valid

theorem exists_upstream_of_serverMachineId {host : String}
    {error : IdentityError}
    (failed : (serverMachineId endpoints host token machineIds).1 =
      .error error) :
    ∃ reason, error = .upstream reason := by
  unfold serverMachineId at failed
  split at failed
  · cases failed
  · split at failed
    next other root =>
        cases failed
        unfold rootMachineId at root
        split at root <;> cases root <;> exact ⟨_, rfl⟩
    next => cases failed

/-- The account lookup decides, hands on, or fails. -/
theorem fetchCurrentIdentity_of_account :
    (∃ identity, accountOutcome endpoints token = .identity identity ∧
      (fetchCurrentIdentity endpoints digest config client token
        machineIds).1 = .ok { identity, source := .verifiedPlex }) ∨
    (accountOutcome endpoints token = .negative ∧
      (fetchCurrentIdentity endpoints digest config client token
        machineIds).1 =
          identityOnServer endpoints digest config client.context token
            (serverMachineId endpoints client.host token machineIds).1) ∨
    (accountOutcome endpoints token = .transient ∧
      ∃ reason, (fetchCurrentIdentity endpoints digest config client token
        machineIds).1 = .error (.upstream reason)) := by
  unfold accountOutcome fetchCurrentIdentity
  cases header : tokenHeader token with
  | error error =>
      obtain ⟨reason, rfl⟩ := exists_upstream_of_tokenHeader header
      exact .inr (.inr ⟨rfl, reason, rfl⟩)
  | ok other =>
      have same := eq_of_tokenHeader header
      subst same
      simp only
      cases reply : endpoints.user other with
      | failed reason => exact .inr (.inr ⟨rfl, _, rfl⟩)
      | answered status body =>
          by_cases found : status = 200
          · simp only [if_pos found]
            cases body with
            | error reason => exact .inr (.inr ⟨rfl, _, rfl⟩)
            | ok raw => exact .inl ⟨_, rfl, rfl⟩
          · by_cases rejected : status = 401 ∨ status = 403
            · simp only [if_neg found, if_pos rejected]
              exact .inr (.inl ⟨trivial, rejectedIdentity_eq ..⟩)
            · simp only [if_neg found, if_neg rejected]
              exact .inr (.inr ⟨trivial, _, rfl⟩)

/-- The lookup among the resources decides, hands on, or fails. -/
theorem identityOnServer_of_resources {machineId : Except IdentityError String}
    (upstream : ∀ error, machineId = .error error →
      ∃ reason, error = .upstream reason) (context : PlexContext) :
    (∃ identity,
      resourcesOutcome endpoints machineId token = .identity identity ∧
        identityOnServer endpoints digest config context token machineId =
          .ok { identity, source := .sharedResource }) ∨
    (∃ found, machineId = .ok found ∧
      resourcesOutcome endpoints machineId token = .negative ∧
        resourcesUser endpoints found token = .ok none) ∨
    (resourcesOutcome endpoints machineId token = .transient ∧
      ∃ reason, identityOnServer endpoints digest config context token
        machineId = .error (.upstream reason)) := by
  cases machineId with
  | error error =>
      obtain ⟨reason, rfl⟩ := upstream error rfl
      exact .inr (.inr ⟨rfl, reason, rfl⟩)
  | ok machineId =>
      unfold resourcesOutcome identityOnServer remoteIdentity resourcesUser
      cases header : tokenHeader token with
      | error error =>
          obtain ⟨reason, rfl⟩ := exists_upstream_of_tokenHeader header
          exact .inr (.inr ⟨rfl, reason, rfl⟩)
      | ok other =>
          simp only [eq_of_tokenHeader header]
          cases endpoints.resources token with
          | failed reason => exact .inr (.inr ⟨rfl, _, rfl⟩)
          | answered status body =>
              by_cases found : status = 200
              · simp only [if_pos found]
                cases body with
                | error reason => exact .inr (.inr ⟨rfl, _, rfl⟩)
                | ok resources =>
                    cases listed : listedUser machineId resources with
                    | none =>
                        refine .inr (.inl ⟨machineId, rfl, ?_, ?_⟩)
                        · simp only [listed]
                        · simp only [listed]
                    | some identity =>
                        refine .inl ⟨identity, ?_, ?_⟩
                        · simp only [listed]
                        · simp only [listed]
              · by_cases refused : status = 401 ∨ status = 403 ∨ status = 404
                · simp only [if_neg found, if_pos refused]
                  exact .inr (.inl ⟨machineId, rfl, trivial, trivial⟩)
                · simp only [if_neg found, if_neg refused]
                  exact .inr (.inr ⟨trivial, _, rfl⟩)

theorem sharedServersUser_of_outcome (refusals : List StatusCode)
    (adminToken machineId token : String) :
    let outcome := sharedServersOutcome endpoints refusals adminToken
      (.ok machineId) token
    let unread := SharedServersUnread endpoints refusals adminToken
      (.ok machineId)
    let answer := sharedServersUser endpoints adminToken machineId token
    (∃ identity, outcome = .identity identity ∧ ¬ unread ∧
        answer = .ok (some identity)) ∨
      (outcome = .negative ∧ ¬ unread ∧ answer = .ok none) ∨
        (outcome = .transient ∧ unread ∧ answer = .ok none) ∨
          (outcome = .transient ∧ ¬ unread ∧
            ∃ reason, answer = .error (.upstream reason)) := by
  simp only [sharedServersOutcome, SharedServersUnread, sharedServersUser]
  cases endpoints.sharedServers adminToken machineId with
  | failed reason => exact .inr (.inr (.inr ⟨rfl, not_false, _, rfl⟩))
  | answered status body =>
      by_cases found : status = 200
      · simp only [if_pos found]
        cases body with
        | error reason => exact .inr (.inr (.inl ⟨rfl, rfl, rfl⟩))
        | ok body =>
            have read : (Except.ok body : Except String String).toOption =
                some body := rfl
            simp only [read, Option.getD_some, reduceCtorEq]
            cases listed : ((Text.splitText "<SharedServer " body).drop
                1).findSome? (sharedServerEntry token) with
            | none => exact .inr (.inl ⟨rfl, not_false, rfl⟩)
            | some identity => exact .inl ⟨identity, rfl, not_false, rfl⟩
      · simp only [if_neg found]
        by_cases refused : status ∈ refusals
        · simp only [if_pos refused]
          exact .inr (.inl ⟨trivial, fun missed => missed refused, trivial⟩)
        · simp only [if_neg refused]
          exact .inr (.inr (.inl ⟨trivial, refused, trivial⟩))

theorem configuredIdentity_ne_upstream (context : PlexContext)
    (reason : String) :
    configuredIdentity digest config context token ≠
      .error (.upstream reason) := by
  unfold configuredIdentity
  grind

theorem identityOnServer_of_sharedServers {adminToken machineId : String}
    (owner : config.token = some adminToken)
    (handed : resourcesUser endpoints machineId token = .ok none)
    (context : PlexContext) :
    identityOnServer endpoints digest config context token (.ok machineId) =
      match sharedServersUser endpoints adminToken machineId token with
      | .error error => .error error
      | .ok (some identity) => .ok { identity, source := .sharedServer }
      | .ok none => configuredIdentity digest config context token := by
  simp only [identityOnServer, remoteIdentity, handed, owner]
  rcases sharedServersUser endpoints adminToken machineId token with
    error | (_ | identity)
  · rfl
  · rfl
  · rfl

theorem neverDowngrades_of_error {account resources sharedServers :
    LookupOutcome} (reason : String) :
    NeverDowngrades account resources sharedServers
      (.error (.upstream reason)) :=
  ⟨nofun, fun _ => ⟨reason, rfl⟩⟩

theorem neverDowngrades_of_remote {account resources sharedServers :
    LookupOutcome} {resolved : ResolvedIdentity}
    (remote : resolved.source.isConfigured = false)
    (settled : ¬ (account = .transient ∨
      account = .negative ∧
        (resources = .transient ∨
          resources = .negative ∧ sharedServers = .transient))) :
    NeverDowngrades account resources sharedServers (.ok resolved) := by
  refine ⟨?_, fun missed => absurd missed settled⟩
  intro other same configured
  cases same
  rw [remote] at configured
  cases configured

end

/-- Exactly a list of shared servers that is not read lets an outage pass. -/
theorem outage_never_downgrades_iff (endpoints : IdentityEndpoints)
    (digest : TokenDigest) {config : Config} {adminToken : String}
    (owner : config.token = some adminToken) (client : PlexClient)
    (token : String) (machineIds : MachineIds) (refusals : List StatusCode) :
    let machineId := (serverMachineId endpoints client.host token machineIds).1
    let account := accountOutcome endpoints token
    let resources := resourcesOutcome endpoints machineId token
    NeverDowngrades account resources
        (sharedServersOutcome endpoints refusals adminToken machineId token)
        (fetchCurrentIdentity endpoints digest config client token
          machineIds).1 ↔
      ¬ (account = .negative ∧ resources = .negative ∧
        SharedServersUnread endpoints refusals adminToken machineId) := by
  intro machineId account resources
  rcases fetchCurrentIdentity_of_account with
    ⟨identity, outcome, answer⟩ | ⟨outcome, answer⟩ | ⟨outcome, reason, answer⟩
  · rw [answer]
    exact iff_of_true
      (neverDowngrades_of_remote rfl (by simp [account, outcome]))
      (by simp [account, outcome])
  · rw [answer]
    change NeverDowngrades account resources _
      (identityOnServer endpoints digest config client.context token
        machineId) ↔ _
    have upstream : ∀ error, machineId = .error error →
        ∃ reason, error = .upstream reason :=
      fun error failed => exists_upstream_of_serverMachineId failed
    rcases identityOnServer_of_resources upstream client.context with
      ⟨identity, listed, answer⟩ | ⟨found, known, listed, handed⟩ |
        ⟨listed, reason, answer⟩
    · rw [answer]
      exact iff_of_true
        (neverDowngrades_of_remote rfl
          (by simp [account, outcome, resources, listed]))
        (by simp [resources, listed])
    · rw [known, identityOnServer_of_sharedServers owner handed]
      rcases sharedServersUser_of_outcome refusals adminToken found token with
        ⟨identity, shared, read, answer⟩ | ⟨shared, read, answer⟩ |
          ⟨shared, unread, answer⟩ | ⟨shared, read, reason, answer⟩
      · rw [answer]
        exact iff_of_true
          (neverDowngrades_of_remote rfl
            (by simp [account, outcome, resources, listed, shared]))
          fun missed => read missed.2.2
      · rw [answer, shared]
        refine iff_of_true ⟨?_, ?_⟩ fun missed => read missed.2.2
        · exact fun _ _ _ => ⟨outcome, listed, rfl⟩
        · simp [account, outcome, resources, listed]
      · rw [answer, shared]
        refine iff_of_false ?_ (not_not_intro ⟨outcome, listed, unread⟩)
        intro never
        obtain ⟨reason, failed⟩ := never.failed (.inr ⟨outcome, .inr
          ⟨listed, rfl⟩⟩)
        exact configuredIdentity_ne_upstream _ reason failed
      · rw [answer]
        exact iff_of_true (neverDowngrades_of_error reason)
          fun missed => read missed.2.2
    · rw [answer]
      exact iff_of_true (neverDowngrades_of_error reason)
        fun missed => by simp [resources, listed] at missed
  · rw [answer]
    exact iff_of_true (neverDowngrades_of_error reason)
      fun missed => by simp [account, outcome] at missed

/-! A bound token, with a list of shared servers that is denied and with one
that is not to be had. -/

def ownerConfig : Config :=
  { boundConfig with token := some "admin-token" }

theorem denied_list_never_downgrades :
    NeverDowngrades .negative .negative .negative
      (fetchCurrentIdentity rejectingEndpoints viewerDigest ownerConfig
        (clientPresenting "bound-client") "jodie-token" .empty).1 := by
  have owner : ownerConfig.token = some "admin-token" := rfl
  apply (outage_never_downgrades_iff rejectingEndpoints viewerDigest owner
    (clientPresenting "bound-client") "jodie-token" .empty
    [401, 403, 404]).mpr
  rintro ⟨-, -, unread⟩
  have refused : 404 ∉ [401, 403, 404] := unread
  exact refused (by decide)

def outageEndpoints : IdentityEndpoints :=
  { rejectingEndpoints with
    sharedServers := fun _ _ => .answered 503 (.error "") }

/-- The binding stands in for the list that could not be asked. -/
theorem shared_servers_outage_downgrades :
    let answer := (fetchCurrentIdentity outageEndpoints viewerDigest
      ownerConfig (clientPresenting "bound-client") "jodie-token" .empty).1
    answer.toOption.map ResolvedIdentity.source = some .tokenFingerprint ∧
      ¬ NeverDowngrades (accountOutcome outageEndpoints "jodie-token")
        (resourcesOutcome outageEndpoints (.ok "test-machine") "jodie-token")
        (sharedServersOutcome outageEndpoints [401, 403, 404] "admin-token"
          (.ok "test-machine") "jodie-token") answer := by
  refine ⟨rfl, ?_⟩
  intro never
  obtain ⟨reason, failed⟩ := never.failed (.inr ⟨rfl, .inr ⟨rfl, rfl⟩⟩)
  cases failed

end Replex
