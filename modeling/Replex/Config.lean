import Replex.Data.MultiMap
import Replex.ResolutionPolicy

namespace Replex

open Data

/-! Configuration, and which upstream servers it approves. -/

/-- An administrator's identity for a token fingerprint, possibly tied to one
client. -/
inductive TokenIdentityBinding where
  | username (username : String)
  | detailed (username : String) (clientIdentifier : Option String)
  deriving DecidableEq

namespace TokenIdentityBinding

def boundUsername : TokenIdentityBinding → String
  | username name => name
  | detailed name _ => name

def clientIdentifier : TokenIdentityBinding → Option String
  | username _ => none
  | detailed _ client => client

end TokenIdentityBinding

/-- The settings that only shape what a client sees. -/
structure DisplaySettings where
  hubRestrictions : Bool := true
  interleave : Bool := true
  excludeWatched : Bool := true
  disableUserState : Bool := false
  disableLeafCount : Bool := true
  heroRows : Option (List String) := none

structure Config extends DisplaySettings where
  host : Option String := none
  token : Option String := none
  redirectStreams : Bool := false
  redirectStreamsHost : Option String := none
  allowedUpstreamHosts : Option (List String) := none
  disableContinueWatching : Bool := false
  disableRelated : Bool := false
  disableTranscode : Bool := false
  forceMaximumQuality : Bool := false
  autoSelectVersion : Bool := false
  videoTranscodeFallbackFor : Option (List String) := none
  forceDirectPlayFor : Option (List String) := none
  ntfWatchlistForce : Bool := false
  hubStaleTtl : Nat := 5 * 60
  warmInterval : Nat := 5 * 60
  warmTokens : Option (List String) := none
  resolutionPolicyEnabled : Bool := false
  allowUsernameFallback : Bool := false
  tokenIdentityMap : String → Option TokenIdentityBinding := fun _ => none
  /-- In the order of the map. -/
  clientIdentityMap : MultiMap String String := ⟨[]⟩

structure ParsedUrl where
  scheme : String
  username : String := ""
  password : Option String := none
  hostStr : Option String
  port : Option String := none
  path : String
  query : Option String := none
  fragment : Option String := none
  deriving DecidableEq

namespace ParsedUrl

/-- What stands between the slashes and the host. -/
def userinfo (parsed : ParsedUrl) : String :=
  match parsed.password with
  | some password => parsed.username ++ ":" ++ password ++ "@"
  | none => if parsed.username = "" then "" else parsed.username ++ "@"

/-- The text of a URL that has neither query nor fragment. -/
def toText (parsed : ParsedUrl) : String :=
  parsed.scheme ++ "://" ++ parsed.userinfo ++ parsed.hostStr.getD "" ++
    (match parsed.port with
      | some port => ":" ++ port
      | none => "") ++
    parsed.path

def isBase (parsed : ParsedUrl) : Bool :=
  (parsed.scheme == "http" || parsed.scheme == "https") &&
    parsed.hostStr.isSome && parsed.query.isNone && parsed.fragment.isNone

/-- Drops the slashes at the end of a path longer than one character. The
parser never leaves the path of an `http` URL empty. -/
def trimPath (parsed : ParsedUrl) : ParsedUrl :=
  if 1 < parsed.path.length then
    let trimmed := Text.trimEndMatches '/' parsed.path
    { parsed with path := if trimmed = "" then "/" else trimmed }
  else
    parsed

end ParsedUrl

section

variable (parseUrl : String → Option ParsedUrl)

def normalizeBaseUrl (value : String) : Option String :=
  match parseUrl value with
  | none => none
  | some parsed =>
      if parsed.isBase then
        some (Text.trimEndMatches '/' parsed.trimPath.toText)
      else
        none

def upstreamMatchesAllowlist (candidate : String) (allowed : List String) :
    Bool :=
  match normalizeBaseUrl parseUrl candidate with
  | none => false
  | some candidate =>
      (allowed.filterMap (normalizeBaseUrl parseUrl)).contains candidate

def Config.approvedHosts (config : Config) : List String :=
  config.host.toList ++ config.redirectStreamsHost.toList ++
    config.allowedUpstreamHosts.getD []

def Config.allowsUpstreamHost (config : Config) (candidate : String) : Bool :=
  upstreamMatchesAllowlist parseUrl candidate config.approvedHosts

end

end Replex
