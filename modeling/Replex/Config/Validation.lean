import Replex.Data.Checks
import Replex.Data.DecimalText
import Replex.DiskCache.Tasks
import Replex.PlexClient

namespace Replex

open Data

/-! The whole configuration of a process, and what is checked of it before it
comes into force. -/

structure ServiceConfig extends Config where
  port : Option Nat := none
  sslEnable : Bool := false
  sslDomain : Option String := none
  identityApiBase : Option String := none
  userResolutionPolicies : List PolicyEntry := []
  resolutionDefault : ResolutionLimit := .unlimited
  resolutionPolicyFailClosed : Bool := true
  hiddenCollections : Option (List String) := none

inductive ConfigValidationError where
  | missingHost
  | invalidBaseUrl (field value : String)
  | invalidPort (port : Nat)
  | missingSslDomain
  | invalidClientIdentityBinding
  | invalidPolicyIdentity
  | invalidBitrate (bitrate : Int64)
  | invalidDiskCacheSize (raw : String)
  deriving DecidableEq

def ConfigValidationError.text : ConfigValidationError → String
  | missingHost => "REPLEX_HOST is required"
  | invalidBaseUrl field value =>
      field ++ " must be an absolute http or https base URL: " ++ value
  | invalidPort port =>
      "REPLEX_PORT must be between 1 and 65535, got " ++ toString port
  | missingSslDomain =>
      "REPLEX_SSL_DOMAIN is required when REPLEX_SSL_ENABLE is true"
  | invalidClientIdentityBinding =>
      "REPLEX_CLIENT_IDENTITY_MAP contains an empty client id or username"
  | invalidPolicyIdentity =>
      "resolution policy identities must not be empty strings"
  | invalidBitrate bitrate =>
      "resolution policy max_bitrate must be greater than zero, got " ++
        toString bitrate
  | invalidDiskCacheSize raw =>
      "REPLEX_DISK_CACHE_MAX_GB must be a positive integer that fits in bytes: "
        ++ raw

/-- Nothing but white space. -/
def isBlank (text : String) : Bool :=
  Text.trim text == ""

def bytesPerGb : Nat :=
  1024 * 1024 * 1024

section

variable (parseUrl : String → Option ParsedUrl)

def validateBaseUrl (field value : String) :
    Except ConfigValidationError Unit :=
  if ¬ (parseUrl value).any ParsedUrl.isBase then
    .error (.invalidBaseUrl field value)
  else .ok ()

def validateHost (config : ServiceConfig) :
    Except ConfigValidationError Unit :=
  match config.host with
  | none => .error .missingHost
  | some host => validateBaseUrl parseUrl "REPLEX_HOST" host

def validatePort (port : Nat) : Except ConfigValidationError Unit :=
  if port = 0 ∨ 65535 < port then .error (.invalidPort port) else .ok ()

def validateSsl (config : ServiceConfig) :
    Except ConfigValidationError Unit :=
  if config.sslEnable = true ∧ config.sslDomain.all isBlank = true then
    .error .missingSslDomain
  else .ok ()

def validateClientIdentity (binding : String × String) :
    Except ConfigValidationError Unit :=
  if isBlank binding.1 = true ∨ isBlank binding.2 = true then
    .error .invalidClientIdentityBinding
  else .ok ()

def validatePolicy (policy : PolicyEntry) :
    Except ConfigValidationError Unit :=
  if policy.username.any isBlank = true ∨ policy.uuid.any isBlank = true then
    .error .invalidPolicyIdentity
  else if policy.maxBitrate.any (· ≤ 0) = true then
    .error (.invalidBitrate (policy.maxBitrate.getD 0))
  else .ok ()

def parseGb (raw : String) : Option Nat :=
  DecimalText.unsigned? (2 ^ 64) (Text.trim raw)

def validateDiskCacheSize (raw : String) :
    Except ConfigValidationError Unit :=
  match parseGb raw with
  | none => .error (.invalidDiskCacheSize raw)
  | some gb =>
      if gb = 0 ∨ 2 ^ 64 ≤ gb * bytesPerGb then
        .error (.invalidDiskCacheSize raw)
      else .ok ()

/-- `maxGb` is the text of `REPLEX_DISK_CACHE_MAX_GB`. -/
def ServiceConfig.validate (config : ServiceConfig) (maxGb : Option String) :
    Except ConfigValidationError Unit := do
  validateHost parseUrl config
  forM config.redirectStreamsHost.toList
    (validateBaseUrl parseUrl "REPLEX_REDIRECT_STREAMS_HOST")
  forM (config.allowedUpstreamHosts.getD [])
    (validateBaseUrl parseUrl "REPLEX_ALLOWED_UPSTREAM_HOSTS")
  forM config.identityApiBase.toList
    (validateBaseUrl parseUrl "REPLEX_IDENTITY_API_BASE")
  forM config.port.toList validatePort
  validateSsl config
  forM config.clientIdentityMap.pairs validateClientIdentity
  forM config.userResolutionPolicies validatePolicy
  forM maxGb.toList validateDiskCacheSize

def defaultMaxSize : Nat :=
  45 * bytesPerGb

/-- The largest size of the disk cache; a product out of range would wrap. -/
def maxSize (maxGb : Option String) : Nat :=
  match maxGb.bind parseGb with
  | some gb => if 0 < gb then gb * bytesPerGb % 2 ^ 64 else defaultMaxSize
  | none => defaultMaxSize

/-! What the checks come to. -/

def IsBaseUrl (value : String) : Prop :=
  (parseUrl value).any ParsedUrl.isBase = true

instance (value : String) : Decidable (IsBaseUrl parseUrl value) :=
  inferInstanceAs (Decidable (_ = true))

structure PolicyEntry.Valid (policy : PolicyEntry) : Prop where
  username : ∀ name ∈ policy.username, isBlank name = false
  uuid : ∀ uuid ∈ policy.uuid, isBlank uuid = false
  bitrate : ∀ bitrate ∈ policy.maxBitrate, 0 < bitrate

def FitsInBytes (raw : String) : Prop :=
  ∃ gb, parseGb raw = some gb ∧ 0 < gb ∧ gb * bytesPerGb < 2 ^ 64

structure ServiceConfig.Valid (config : ServiceConfig)
    (maxGb : Option String) : Prop where
  host : ∃ host, config.host = some host ∧ IsBaseUrl parseUrl host
  redirect : ∀ host ∈ config.redirectStreamsHost, IsBaseUrl parseUrl host
  upstreams : ∀ host ∈ config.allowedUpstreamHosts.getD [],
    IsBaseUrl parseUrl host
  identityApi : ∀ base ∈ config.identityApiBase, IsBaseUrl parseUrl base
  port : ∀ port ∈ config.port, 0 < port ∧ port ≤ 65535
  ssl : config.sslEnable = true →
    ∃ domain ∈ config.sslDomain, isBlank domain = false
  clients : ∀ binding ∈ config.clientIdentityMap.pairs,
    isBlank binding.1 = false ∧ isBlank binding.2 = false
  policies : ∀ policy ∈ config.userResolutionPolicies, policy.Valid
  diskCache : ∀ raw ∈ maxGb, FitsInBytes raw

/-- What an error tells about the configuration. -/
def ConfigValidationError.Reports (config : ServiceConfig)
    (maxGb : Option String) : ConfigValidationError → Prop
  | missingHost => config.host = none
  | invalidBaseUrl field value => ¬ IsBaseUrl parseUrl value ∧
      ((field = "REPLEX_HOST" ∧ config.host = some value) ∨
        (field = "REPLEX_REDIRECT_STREAMS_HOST" ∧
          config.redirectStreamsHost = some value) ∨
        (field = "REPLEX_ALLOWED_UPSTREAM_HOSTS" ∧
          value ∈ config.allowedUpstreamHosts.getD []) ∨
        (field = "REPLEX_IDENTITY_API_BASE" ∧
          config.identityApiBase = some value))
  | invalidPort port => config.port = some port ∧ ¬ (0 < port ∧ port ≤ 65535)
  | missingSslDomain => config.sslEnable = true ∧
      ∀ domain ∈ config.sslDomain, isBlank domain = true
  | invalidClientIdentityBinding => ∃ binding ∈ config.clientIdentityMap.pairs,
      isBlank binding.1 = true ∨ isBlank binding.2 = true
  | invalidPolicyIdentity => ∃ policy ∈ config.userResolutionPolicies,
      (∃ name ∈ policy.username, isBlank name = true) ∨
        ∃ uuid ∈ policy.uuid, isBlank uuid = true
  | invalidBitrate bitrate => bitrate ≤ 0 ∧
      ∃ policy ∈ config.userResolutionPolicies,
        policy.maxBitrate = some bitrate
  | invalidDiskCacheSize raw => maxGb = some raw ∧ ¬ FitsInBytes raw

variable {parseUrl} {config : ServiceConfig} {maxGb : Option String}
  {reports : ConfigValidationError → Prop}

theorem checks_validateBaseUrl {field value : String}
    (told : ¬ IsBaseUrl parseUrl value →
      reports (.invalidBaseUrl field value)) :
    Checks (validateBaseUrl parseUrl field value) (IsBaseUrl parseUrl value)
      reports :=
  (Checks.unless_fails told).of_iff not_not

theorem checks_validateHost
    (missing : config.host = none → reports .missingHost)
    (told : ∀ host, config.host = some host → ¬ IsBaseUrl parseUrl host →
      reports (.invalidBaseUrl "REPLEX_HOST" host)) :
    Checks (validateHost parseUrl config)
      (∃ host, config.host = some host ∧ IsBaseUrl parseUrl host) reports := by
  unfold validateHost
  cases configured : config.host with
  | none =>
      refine ⟨⟨nofun, fun ⟨_, same, _⟩ => by cases same⟩, ?_⟩
      rintro _ ⟨⟩
      exact missing configured
  | some host =>
      exact (checks_validateBaseUrl (told host configured)).of_iff (by simp)

theorem checks_validatePort {port : Nat}
    (told : ¬ (0 < port ∧ port ≤ 65535) → reports (.invalidPort port)) :
    Checks (validatePort port) (0 < port ∧ port ≤ 65535) reports :=
  (Checks.unless_fails fun fails => told (by omega)).of_iff (by omega)

theorem checks_validateSsl
    (told : config.sslEnable = true →
      (∀ domain ∈ config.sslDomain, isBlank domain = true) →
        reports .missingSslDomain) :
    Checks (validateSsl config)
      (config.sslEnable = true →
        ∃ domain ∈ config.sslDomain, isBlank domain = false) reports := by
  have all : config.sslDomain.all isBlank = true ↔
      ∀ domain ∈ config.sslDomain, isBlank domain = true := by
    cases config.sslDomain <;> simp
  refine (Checks.unless_fails fun fails =>
    told fails.1 (all.mp fails.2)).of_iff ?_
  rw [all]
  simp

theorem checks_validateClientIdentity {binding : String × String}
    (told : isBlank binding.1 = true ∨ isBlank binding.2 = true →
      reports .invalidClientIdentityBinding) :
    Checks (validateClientIdentity binding)
      (isBlank binding.1 = false ∧ isBlank binding.2 = false) reports :=
  (Checks.unless_fails told).of_iff (by simp)

theorem any_eq_true_iff {α : Type} {test : α → Bool} {value : Option α} :
    value.any test = true ↔ ∃ held ∈ value, test held = true := by
  cases value <;> simp

theorem checks_validatePolicy {policy : PolicyEntry}
    (blank : (∃ name ∈ policy.username, isBlank name = true) ∨
      (∃ uuid ∈ policy.uuid, isBlank uuid = true) →
        reports .invalidPolicyIdentity)
    (told : ∀ bitrate, policy.maxBitrate = some bitrate → bitrate ≤ 0 →
      reports (.invalidBitrate bitrate)) :
    Checks (validatePolicy policy) policy.Valid reports := by
  have identities : policy.username.any isBlank = true ∨
      policy.uuid.any isBlank = true ↔
        (∃ name ∈ policy.username, isBlank name = true) ∨
          ∃ uuid ∈ policy.uuid, isBlank uuid = true := by
    rw [any_eq_true_iff, any_eq_true_iff]
  unfold validatePolicy
  split
  · rename_i fails
    have fails := identities.mp fails
    refine ⟨⟨nofun, fun valid => ?_⟩, ?_⟩
    · rcases fails with ⟨name, held, empty⟩ | ⟨uuid, held, empty⟩
      · rw [valid.username name held] at empty
        cases empty
      · rw [valid.uuid uuid held] at empty
        cases empty
    · rintro _ ⟨⟩
      exact blank fails
  · rename_i named
    rw [identities] at named
    have named : (∀ name ∈ policy.username, isBlank name = false) ∧
        ∀ uuid ∈ policy.uuid, isBlank uuid = false := by
      simpa using named
    have bitrates : Checks
        (if policy.maxBitrate.any (· ≤ 0) = true then
          Except.error (ConfigValidationError.invalidBitrate
            (policy.maxBitrate.getD 0))
        else .ok ())
        (¬ policy.maxBitrate.any (· ≤ 0) = true) reports := by
      apply Checks.unless_fails
      intro fails
      obtain ⟨bitrate, held, low⟩ := any_eq_true_iff.mp fails
      rw [Option.mem_def.mp held]
      exact told bitrate held (of_decide_eq_true low)
    refine bitrates.of_iff ?_
    rw [any_eq_true_iff]
    constructor
    · intro positive
      refine ⟨named.1, named.2, fun bitrate held => ?_⟩
      by_contra low
      exact positive ⟨bitrate, held,
        decide_eq_true (Int64.not_lt.mp low)⟩
    · rintro valid ⟨bitrate, held, low⟩
      exact absurd (valid.bitrate bitrate held)
        (Int64.not_lt.mpr (of_decide_eq_true low))

theorem checks_validateDiskCacheSize {raw : String}
    (told : ¬ FitsInBytes raw → reports (.invalidDiskCacheSize raw)) :
    Checks (validateDiskCacheSize raw) (FitsInBytes raw) reports := by
  unfold validateDiskCacheSize
  cases read : parseGb raw with
  | none =>
      have fails : ¬ FitsInBytes raw := by simp [FitsInBytes, read]
      refine ⟨⟨nofun, fun fits => absurd fits fails⟩, ?_⟩
      rintro _ ⟨⟩
      exact told fails
  | some gb =>
      have fits : FitsInBytes raw ↔ 0 < gb ∧ gb * bytesPerGb < 2 ^ 64 := by
        simp [FitsInBytes, read]
      refine (Checks.unless_fails fun fails => told ?_).of_iff ?_
      · rw [fits]
        omega
      · rw [fits]
        omega

theorem checks_validate (parseUrl : String → Option ParsedUrl)
    (config : ServiceConfig) (maxGb : Option String) :
    Checks (config.validate parseUrl maxGb) (config.Valid parseUrl maxGb)
      (ConfigValidationError.Reports parseUrl config maxGb) := by
  let Reports := ConfigValidationError.Reports parseUrl config maxGb
  have host : Checks (validateHost parseUrl config)
      (∃ host, config.host = some host ∧ IsBaseUrl parseUrl host) Reports :=
    checks_validateHost (fun missing => missing)
      fun host configured invalid => ⟨invalid, .inl ⟨rfl, configured⟩⟩
  have redirect : Checks
      (forM config.redirectStreamsHost.toList
        (validateBaseUrl parseUrl "REPLEX_REDIRECT_STREAMS_HOST"))
      (∀ host ∈ config.redirectStreamsHost.toList, IsBaseUrl parseUrl host)
      Reports :=
    Checks.each fun host listed => checks_validateBaseUrl fun invalid =>
      ⟨invalid, .inr (.inl ⟨rfl, Option.mem_toList.mp listed⟩)⟩
  have upstreams : Checks
      (forM (config.allowedUpstreamHosts.getD [])
        (validateBaseUrl parseUrl "REPLEX_ALLOWED_UPSTREAM_HOSTS"))
      (∀ host ∈ config.allowedUpstreamHosts.getD [], IsBaseUrl parseUrl host)
      Reports :=
    Checks.each fun host listed => checks_validateBaseUrl fun invalid =>
      ⟨invalid, .inr (.inr (.inl ⟨rfl, listed⟩))⟩
  have identityApi : Checks
      (forM config.identityApiBase.toList
        (validateBaseUrl parseUrl "REPLEX_IDENTITY_API_BASE"))
      (∀ base ∈ config.identityApiBase.toList, IsBaseUrl parseUrl base)
      Reports :=
    Checks.each fun base listed => checks_validateBaseUrl fun invalid =>
      ⟨invalid, .inr (.inr (.inr ⟨rfl, Option.mem_toList.mp listed⟩))⟩
  have port : Checks (forM config.port.toList validatePort)
      (∀ port ∈ config.port.toList, 0 < port ∧ port ≤ 65535) Reports :=
    Checks.each fun port listed => checks_validatePort fun invalid =>
      ⟨Option.mem_toList.mp listed, invalid⟩
  have ssl : Checks (validateSsl config) _ Reports :=
    checks_validateSsl fun enabled blank => ⟨enabled, blank⟩
  have clients : Checks
      (forM config.clientIdentityMap.pairs validateClientIdentity)
      (∀ binding ∈ config.clientIdentityMap.pairs,
        isBlank binding.1 = false ∧ isBlank binding.2 = false) Reports :=
    Checks.each fun binding listed => checks_validateClientIdentity
      fun invalid => ⟨binding, listed, invalid⟩
  have policies : Checks (forM config.userResolutionPolicies validatePolicy)
      (∀ policy ∈ config.userResolutionPolicies, policy.Valid) Reports :=
    Checks.each fun policy listed => checks_validatePolicy
      (fun blank => ⟨policy, listed, blank⟩)
      fun bitrate held low => ⟨low, policy, listed, held⟩
  have diskCache : Checks (forM maxGb.toList validateDiskCacheSize)
      (∀ raw ∈ maxGb.toList, FitsInBytes raw) Reports :=
    Checks.each fun raw listed => checks_validateDiskCacheSize
      fun invalid => ⟨Option.mem_toList.mp listed, invalid⟩
  refine (host.both fun _ => redirect.both fun _ => upstreams.both fun _ =>
    identityApi.both fun _ => port.both fun _ => ssl.both fun _ =>
      clients.both fun _ => policies.both fun _ => diskCache).of_iff ?_
  simp only [Option.mem_toList]
  constructor
  · rintro ⟨host, redirect, upstreams, identityApi, port, ssl, clients,
      policies, diskCache⟩
    exact ⟨host, redirect, upstreams, identityApi, port, ssl, clients,
      policies, diskCache⟩
  · rintro ⟨host, redirect, upstreams, identityApi, port, ssl, clients,
      policies, diskCache⟩
    exact ⟨host, redirect, upstreams, identityApi, port, ssl, clients,
      policies, diskCache⟩

/-- The checks accept what they are to accept, and an error is about a value
that really is in the setting it names. -/
theorem startup_validation_is_exact (parseUrl : String → Option ParsedUrl)
    (config : ServiceConfig) (maxGb : Option String) :
    (config.validate parseUrl maxGb = .ok () ↔
        config.Valid parseUrl maxGb) ∧
      ∀ error, config.validate parseUrl maxGb = .error error →
        error.Reports parseUrl config maxGb :=
  ⟨(checks_validate parseUrl config maxGb).accepts,
    (checks_validate parseUrl config maxGb).reported⟩

end

/-- A server with an annex, and a disk cache of eight gigabytes. -/
def annexServiceConfig : ServiceConfig where
  host := some "http://plex:32400"
  allowedUpstreamHosts := some ["http://annex-b:32400"]
  port := some 3001
  userResolutionPolicies :=
    [{ username := some "jodie", maxResolution := .p720,
       maxBitrate := some 4000 }]

end Replex
