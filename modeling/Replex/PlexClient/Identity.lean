import Replex.PlexClient

namespace Replex

open Data

/-! Who a token belongs to: the account API, two lookups for tokens of shared
users, and what an administrator configured. -/

inductive Reply (α : Type) where
  | failed (reason : String)
  | answered (status : StatusCode) (body : Except String α)

structure RawUser where
  id : Int64
  uuid : String
  username : Option String := none
  title : Option String := none

structure RawResource where
  clientIdentifier : Option String := none
  provides : Option String := none
  sourceTitle : Option String := none
  ownerId : Option Int64 := none

/-- The services an identity is asked of, with their bodies as the JSON parser
reports them. Each answers a token the same way throughout. -/
structure IdentityEndpoints where
  user : String → Reply RawUser
  resources : String → Reply (List RawResource)
  root : (host token : String) → Reply String
  sharedServers : (adminToken machineId : String) → Reply String
  statusText : StatusCode → String

abbrev MachineIds : Type := Store String String

def isHeaderChar (char : Char) : Bool :=
  char == '\t' || (decide (32 ≤ char.toNat) && char.toNat != 127)

def tokenHeader (token : String) : Except IdentityError String :=
  if token.toList.all isHeaderChar then
    .ok token
  else
    .error (.upstream "bad token header: failed to parse header value")

/-! The attributes of an XML tag. -/

/-- The first `key="value"` pair of a text, and what follows it. -/
def readXmlAttr? (text : List Char) :
    Option ((String × String) × List Char) :=
  match text.dropWhile (· ≠ '=') with
  | [] => none
  | _ :: after =>
      match after.dropWhile Text.isWhiteSpace with
      | '"' :: value =>
          match value.dropWhile (· ≠ '"') with
          | [] => none
          | _ :: following =>
              let key := Text.trimList (text.takeWhile (· ≠ '='))
              some
                ((String.ofList key,
                  String.ofList (value.takeWhile (· ≠ '"'))),
                following.dropWhile Text.isWhiteSpace)
      | _ => none

theorem length_of_readXmlAttr? {text following : List Char}
    {attr : String × String}
    (read : readXmlAttr? text = some (attr, following)) :
    following.length < text.length := by
  unfold readXmlAttr? at read
  split at read
  · cases read
  next _ after atEquals =>
      split at read
      next _ value atQuote =>
          split at read
          · cases read
          next _ rest atClose =>
              cases read
              have equals := (text.dropWhile_suffix (· ≠ '=')).length_le
              have quote :=
                (after.dropWhile_suffix Text.isWhiteSpace).length_le
              have close := (value.dropWhile_suffix (· ≠ '"')).length_le
              have next := (rest.dropWhile_suffix Text.isWhiteSpace).length_le
              rw [atEquals, List.length_cons] at equals
              rw [atQuote, List.length_cons] at quote
              rw [atClose, List.length_cons] at close
              omega
      · cases read

/-- Reads pairs until the text has none left; the pair read last stands
first. -/
def parseXmlAttrsFrom (rest : List Char) (attrs : List (String × String)) :
    List (String × String) :=
  match _ : readXmlAttr? rest with
  | none => attrs
  | some (attr, following) => parseXmlAttrsFrom following (attr :: attrs)
termination_by rest.length
decreasing_by
  apply length_of_readXmlAttr?
  assumption

def parseXmlAttrs (text : String) : List (String × String) :=
  parseXmlAttrsFrom (Text.trimList text.toList) []

def sharedServerEntry (token tag : String) : Option UserIdentity :=
  let attrs := parseXmlAttrs (((Text.split '>' tag).head?).getD "")
  if attrs.lookup "accessToken" ≠ some token then
    none
  else
    ((attrs.lookup "username").filter fun name => name ≠ "").map fun username =>
      { id := ((attrs.lookup "userID").bind DecimalText.int64?).getD 0
        uuid := "shared-" ++ username
        username }

section

variable (endpoints : IdentityEndpoints)

def rootMachineId (host token : String) : Except IdentityError String :=
  match endpoints.root host token with
  | .failed reason =>
      .error (.upstream ("server root request failed: " ++ reason))
  | .answered _ (.error reason) =>
      .error (.upstream ("server root parse failed: " ++ reason))
  | .answered _ (.ok machineId) => .ok machineId

/-- Remembered by host, whichever token asked first. -/
def serverMachineId (host token : String) (machineIds : MachineIds) :
    Except IdentityError String × MachineIds :=
  match machineIds.lookup host with
  | some machineId => (.ok machineId, machineIds)
  | none =>
      match rootMachineId endpoints host token with
      | .error error => (.error error, machineIds)
      | .ok machineId => (.ok machineId, machineIds.insert host machineId)

def RawResource.isOurs (machineId : String) (resource : RawResource) : Bool :=
  resource.clientIdentifier == some machineId &&
    resource.provides.any fun provides => Text.contains provides "server"

def listedUser (machineId : String) (resources : List RawResource) :
    Option UserIdentity :=
  match resources.find? (RawResource.isOurs machineId) with
  | none => none
  | some resource =>
      (resource.sourceTitle.filter fun title => title ≠ "").map fun username =>
        { id := resource.ownerId.getD 0
          uuid := "shared-" ++ username
          username }

def resourcesUser (machineId token : String) :
    Except IdentityError (Option UserIdentity) :=
  match tokenHeader token with
  | .error error => .error error
  | .ok token =>
      match endpoints.resources token with
      | .failed reason =>
          .error (.upstream ("resources request failed: " ++ reason))
      | .answered status body =>
          if status = 200 then
            match body with
            | .error reason =>
                .error (.upstream ("resources response parse failed: " ++
                  reason))
            | .ok resources => .ok (listedUser machineId resources)
          else if status = 401 ∨ status = 403 ∨ status = 404 then
            .ok none
          else
            .error (.upstream ("unexpected status from resources API: " ++
              endpoints.statusText status))

def resolveSharedUser (host token : String) (machineIds : MachineIds) :
    Except IdentityError (Option UserIdentity) × MachineIds :=
  match serverMachineId endpoints host token machineIds with
  | (.error error, machineIds) => (.error error, machineIds)
  | (.ok machineId, machineIds) =>
      (resourcesUser endpoints machineId token, machineIds)

def sharedServersUser (adminToken machineId token : String) :
    Except IdentityError (Option UserIdentity) :=
  match endpoints.sharedServers adminToken machineId with
  | .failed reason =>
      .error (.upstream ("shared_servers request failed: " ++ reason))
  | .answered status body =>
      if status = 200 then
        let tags := Text.splitText "<SharedServer " (body.toOption.getD "")
        .ok ((tags.drop 1).findSome? (sharedServerEntry token))
      else
        .ok none

def resolveViaSharedServers (config : Config) (host token : String)
    (machineIds : MachineIds) :
    Except IdentityError (Option UserIdentity) × MachineIds :=
  match config.token with
  | none => (.ok none, machineIds)
  | some adminToken =>
      match serverMachineId endpoints host token machineIds with
      | (.error error, machineIds) => (.error error, machineIds)
      | (.ok machineId, machineIds) =>
          (sharedServersUser endpoints adminToken machineId token, machineIds)

end

def configuredIdentity (digest : TokenDigest) (config : Config)
    (context : PlexContext) (token : String) :
    Except IdentityError ResolvedIdentity :=
  let fingerprint := digest.tokenFingerprint token
  match config.tokenIdentityMap fingerprint with
  | some binding =>
      if binding.clientIdentifier.any fun required =>
          context.clientIdentifier != some required then
        .error .invalidToken
      else
        .ok
          { identity :=
              { id := 0
                uuid := "token-sha256-" ++ fingerprint
                username := binding.boundUsername }
            source := .tokenFingerprint }
  | none =>
      match context.clientIdentifier.bind fun clientId =>
          (config.clientIdentityMap.get? clientId).map fun username =>
            (clientId, username) with
      | some (clientId, username) =>
          .ok
            { identity := { id := 0, uuid := "cid-" ++ clientId, username }
              source := .legacyClientIdentifier }
      | none =>
          match context.username.filter fun name => name ≠ "" with
          | some username =>
              if config.allowUsernameFallback then
                .ok
                  { identity :=
                      { id := 0, uuid := "unverified-" ++ username, username }
                    source := .usernameFallback }
              else
                .error .invalidToken
          | none => .error .invalidToken

def RawUser.resolved (raw : RawUser) : ResolvedIdentity where
  identity :=
    { id := raw.id
      uuid := raw.uuid
      username := (raw.username.or raw.title).getD ("user-" ++ raw.uuid) }
  source := .verifiedPlex

section

variable (endpoints : IdentityEndpoints) (digest : TokenDigest)
  (config : Config)

def rejectedIdentity (client : PlexClient) (token : String)
    (machineIds : MachineIds) :
    Except IdentityError ResolvedIdentity × MachineIds :=
  match resolveSharedUser endpoints client.host token machineIds with
  | (.error error, machineIds) => (.error error, machineIds)
  | (.ok (some identity), machineIds) =>
      (.ok { identity, source := .sharedResource }, machineIds)
  | (.ok none, machineIds) =>
      match resolveViaSharedServers endpoints config client.host token
          machineIds with
      | (.error error, machineIds) => (.error error, machineIds)
      | (.ok (some identity), machineIds) =>
          (.ok { identity, source := .sharedServer }, machineIds)
      | (.ok none, machineIds) =>
          (configuredIdentity digest config client.context token, machineIds)

def fetchCurrentIdentity (client : PlexClient) (token : String)
    (machineIds : MachineIds) :
    Except IdentityError ResolvedIdentity × MachineIds :=
  match tokenHeader token with
  | .error error => (.error error, machineIds)
  | .ok token =>
      match endpoints.user token with
      | .failed reason =>
          (.error (.upstream ("plex.tv request failed: " ++ reason)),
            machineIds)
      | .answered status body =>
          if status = 200 then
            match body with
            | .error reason =>
                (.error (.upstream ("identity response parse failed: " ++
                  reason)), machineIds)
            | .ok raw => (.ok raw.resolved, machineIds)
          else if status = 401 ∨ status = 403 then
            rejectedIdentity endpoints digest config client token machineIds
          else
            (.error (.upstream ("unexpected status from identity API: " ++
              endpoints.statusText status)), machineIds)

structure IdentityCaches where
  identities : Store String ResolvedIdentity
  machineIds : MachineIds

def IdentityCaches.empty : IdentityCaches := ⟨.empty, .empty⟩

def getCurrentIdentity (client : PlexClient) (caches : IdentityCaches) :
    Except IdentityError ResolvedIdentity × IdentityCaches :=
  match client.context.token with
  | none => (.error .missingToken, caches)
  | some token =>
      let cacheKey := digest.tokenFingerprint token
      match caches.identities.lookup cacheKey with
      | some resolved => (.ok resolved, caches)
      | none =>
          match fetchCurrentIdentity endpoints digest config client token
              caches.machineIds with
          | (.error error, machineIds) =>
              (.error error, { caches with machineIds })
          | (.ok resolved, machineIds) =>
              (.ok resolved,
                { identities := caches.identities.insert cacheKey resolved
                  machineIds })

end

end Replex
