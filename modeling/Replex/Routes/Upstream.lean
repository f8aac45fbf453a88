import Replex.Auth.Security
import Replex.Routes.Playback

namespace Replex

open Data

/-! Which server a playback request is checked against, and which one plays
it. -/

section

variable (reader : HostReader) (digest : TokenDigest) (config : Config)
  (services : PlaybackServices) (runtime : PolicySnapshot)

variable {reader digest config services runtime}

def jodieServices : PlaybackServices :=
  { viewerServices [fullHdVersion] with
    currentIdentity := fun _ => .ok
      { identity := { id := 42, uuid := "shared-jodie", username := "jodie" }
        source := .sharedServer } }

def jodieRuntime : PolicySnapshot :=
  { viewerRuntime with
    entries := [{ username := some "jodie", maxResolution := .p1080 }] }

end

end Replex
