import Replex.PlexClient

namespace Replex

open Data

/-! How an account's policy filters metadata. -/

/-- The policy a transform works under; an error is an unresolved account. -/
def currentPolicy
    (identity : PlexClient → Except IdentityError ResolvedIdentity)
    (runtime : PolicySnapshot) (client : PlexClient) :
    Except Unit ResolutionPolicy :=
  if !runtime.enabled then
    .ok .unrestricted
  else
    match client.securityContext with
    | some security => .ok security.policy
    | none =>
        if client.securityUnavailableFailClosed.isSome then
          .error ()
        else
          match identity client with
          | .ok resolved => .ok (runtime.resolve resolved.identity)
          | .error _ => .error ()

/-- What a nested child has to show to stay: only playable kinds are dropped,
once they have neither a version nor a descendant left. -/
def survivesPruning (child : MetaData) : Bool :=
  let structural := child.media.isEmpty &&
    (!child.metadata.isEmpty || !child.directory.isEmpty ||
      !child.video.isEmpty)
  let originallyPlayable :=
    ["movie", "episode", "clip", "track"].contains child.type
  !originallyPlayable || !child.media.isEmpty || structural

mutual
def filterMediaRecursive (policy : ResolutionPolicy) (item : MetaData) :
    MetaData :=
  match item with
  | item@{ metadata, directory, video, .. } =>
      { item with
        media := allowedMedia item.media policy
        metadata := pruneChildren policy metadata
        directory := pruneChildren policy directory
        video := pruneChildren policy video }

def pruneChildren (policy : ResolutionPolicy) :
    List MetaData → List MetaData
  | [] => []
  | child :: rest =>
      let child := filterMediaRecursive policy child
      if survivesPruning child then
        child :: pruneChildren policy rest
      else
        pruneChildren policy rest
end

mutual
def clearMediaRecursive (item : MetaData) : MetaData :=
  match item with
  | item@{ metadata, directory, video, .. } =>
      { item with
        media := []
        metadata := clearMediaList metadata
        directory := clearMediaList directory
        video := clearMediaList video }

def clearMediaList : List MetaData → List MetaData
  | [] => []
  | item :: rest => clearMediaRecursive item :: clearMediaList rest
end

def policyTransformMetadata (current : Except Unit ResolutionPolicy)
    (failClosed : Bool) (item : MetaData) : MetaData :=
  match current with
  | .error _ => if failClosed then clearMediaRecursive item else item
  | .ok policy =>
      if policy.isUnrestricted then item else filterMediaRecursive policy item

def policyFilterMetadata (current : Except Unit ResolutionPolicy)
    (failClosed : Bool) (item : MetaData) : Bool :=
  match current with
  | .error _ => !(failClosed && !item.media.isEmpty)
  | .ok policy =>
      policy.isUnrestricted || item.media.isEmpty ||
        item.media.any (mediaAllowed · policy)

def isHidden (item : MetaData) (policy : ResolutionPolicy) : Bool :=
  (item.isCollectionHub || item.type == "collection") &&
    policy.hiddenCollections.contains (Text.trim item.title)

/-- `CollectionVisibilityTransform` keeps everything while the account is
unresolved. -/
def visibilityFilterMetadata (current : Except Unit ResolutionPolicy)
    (item : MetaData) : Bool :=
  match current with
  | .ok policy => !isHidden item policy
  | .error _ => true

theorem filterMediaRecursive_eq (policy : ResolutionPolicy)
    (item : MetaData) :
    filterMediaRecursive policy item =
      { item with
        media := allowedMedia item.media policy
        metadata := pruneChildren policy item.metadata
        directory := pruneChildren policy item.directory
        video := pruneChildren policy item.video } := by
  cases item
  rfl

theorem pruneChildren_eq (policy : ResolutionPolicy)
    (children : List MetaData) :
    pruneChildren policy children =
      (children.map (filterMediaRecursive policy)).filter survivesPruning := by
  induction children with
  | nil => rfl
  | cons child rest hypothesis =>
      simp [pruneChildren, hypothesis, List.filter_cons]

theorem clearMediaRecursive_eq (item : MetaData) :
    clearMediaRecursive item =
      { item with
        media := []
        metadata := item.metadata.map clearMediaRecursive
        directory := item.directory.map clearMediaRecursive
        video := item.video.map clearMediaRecursive } := by
  have each (list : List MetaData) :
      clearMediaList list = list.map clearMediaRecursive := by
    induction list with
    | nil => rfl
    | cons item rest hypothesis => simp [clearMediaList, hypothesis]
  cases item
  simp [clearMediaRecursive, each]

@[simp] theorem media_filterMediaRecursive (policy : ResolutionPolicy)
    (item : MetaData) :
    (filterMediaRecursive policy item).media =
      allowedMedia item.media policy := by
  rw [filterMediaRecursive_eq]

end Replex
