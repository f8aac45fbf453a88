import Replex.Data.Fields
import Replex.DiskCache.Record
import Replex.Routes.PhotoKeys

namespace Replex

open Data

/-! Artwork in memory and on disk. The hoop in front of photo transcodes fills
both and answers from both, and the warmer prefetches posters into them. -/

structure CachedImage where
  contentType : Option String
  cacheControl : Option String
  body : Bytes
  deriving DecidableEq

inductive PhotoBody where
  | none
  | once (bytes : Bytes)
  | streamed
  deriving DecidableEq

/-- The header values are those of visible ASCII. -/
structure PhotoReply where
  status : Option StatusCode := none
  contentType : Option String := none
  cacheControl : Option String := none
  body : PhotoBody := .none
  deriving DecidableEq

def maxImageLen : Nat :=
  4 * 1024 * 1024

def publicCacheControl : String :=
  "public, max-age=259200"

namespace PhotoReply

variable (reply : PhotoReply)

def isImage : Bool :=
  let status := reply.status.getD 200
  (decide (200 ≤ status ∧ status < 300)) &&
    reply.contentType.any fun text => Text.startsWith text "image/"

/-- What a live reply leaves for later requests. -/
def cached? : Option CachedImage :=
  match reply.isImage, reply.body with
  | true, .once body =>
      if body.length ≤ maxImageLen then
        some ⟨reply.contentType, reply.cacheControl, body⟩
      else none
  | _, _ => none

/-- The warmer looks at the status and at the length only. -/
def prefetched? : Option CachedImage :=
  match reply.status, reply.body with
  | some 200, .once body =>
      if body.length ≤ maxImageLen then
        some ⟨reply.contentType, some publicCacheControl, body⟩
      else none
  | _, _ => none

end PhotoReply

def CachedImage.record (image : CachedImage) : CacheRecord where
  contentType := image.contentType.filter (· ≠ "")
  body := image.body

/-- An answer from the disk. -/
def CacheRecord.image (record : CacheRecord) : CachedImage where
  contentType :=
    some ((record.contentType.filter (· ≠ "")).getD "image/jpeg")
  cacheControl := some publicCacheControl
  body := record.body

/-! Runs of requests and of the warmer, with evictions and with what others
keep on the same disk. -/

/-- A request as the hoop sees it. -/
structure PhotoVisit where
  request : PhotoRequest
  order : KeyOrder
  skipOptionalTransforms : Bool := false

/-- Where a request or a prefetch is. The first three wait for the cache in
memory, for the upstream, and for the disk. -/
inductive PhotoTask where
  | looking (visit : PhotoVisit) (key : String)
  | proxying (visit : PhotoVisit) (key : String)
  | keeping (key : String) (image : CachedImage)
  | prefetching (token target key : String)

/-- An upstream image and the request that was made for it; nothing reads
it. -/
structure PhotoFetch where
  token : Option String
  target : String
  live : Bool
  image : CachedImage

structure PhotoHit where
  visit : PhotoVisit
  image : CachedImage

structure PhotoState where
  memory : Store String CachedImage := .empty
  disk : Store String CacheRecord := .empty
  tasks : List PhotoTask := []
  fetched : List PhotoFetch := []
  hits : List PhotoHit := []

/-- `resume` answers what a task waits for: the upstream with a reply, the
disk by telling whether the put succeeded. -/
inductive PhotoAction where
  | receive (visit : PhotoVisit)
  | resume (index : Nat) (reply : PhotoReply) (put : Bool)
  | abandon (index : Nat)
  | prefetch (token target : String)
  | evictMemory (key : String)
  | evictDisk (key : String)
  | keepLibrary (rest : String) (record : CacheRecord)

section

variable (codec : TargetCodec) (digest : TokenDigest)

def photoCacheKeyFor (raw : String) (token : Option String) : String :=
  "photo:u:" ++ digest.tokenScope token ++ ":" ++ canonicalPhotoKey codec raw

def photoCacheKey (visit : PhotoVisit) : String :=
  photoCacheKeyFor codec digest visit.request.target
    (photoRequestToken codec visit.order visit.request)

def PhotoState.store (state : PhotoState) (index : Nat) (key : String)
    (fetch : PhotoFetch) : PhotoState :=
  { state with
    memory := state.memory.insert key fetch.image
    tasks := state.tasks.set index (.keeping key fetch.image)
    fetched := state.fetched ++ [fetch] }

def PhotoState.finish (state : PhotoState) (index : Nat) : PhotoState :=
  { state with tasks := state.tasks.eraseIdx index }

def PhotoState.hit (state : PhotoState) (visit : PhotoVisit)
    (image : CachedImage) : PhotoState :=
  { state with hits := state.hits ++ [{ visit, image }] }

def PhotoTask.resume (state : PhotoState) (index : Nat) (reply : PhotoReply)
    (put : Bool) : PhotoTask → PhotoState
  | looking visit key =>
      match state.memory.lookup key with
      | some image => (state.finish index).hit visit image
      | none =>
          { state with tasks := state.tasks.set index (.proxying visit key) }
  | proxying visit key =>
      match reply.cached? with
      | none => state.finish index
      | some image =>
          state.store index key
            { token := photoRequestToken codec visit.order visit.request
              target := visit.request.target
              live := true
              image }
  | keeping key image =>
      if put then
        { state.finish index with disk := state.disk.insert key image.record }
      else state.finish index
  | prefetching token target key =>
      match reply.prefetched? with
      | none => state.finish index
      | some image =>
          state.store index key
            { token := some token, target, live := false, image }

def photoStep (state : PhotoState) : PhotoAction → PhotoState
  | .receive visit =>
      if visit.skipOptionalTransforms then state
      else
        let key := photoCacheKey codec digest visit
        match state.disk.lookup key with
        | some record => state.hit visit record.image
        | none => { state with tasks := state.tasks ++ [.looking visit key] }
  | .resume index reply put =>
      match state.tasks[index]? with
      | none => state
      | some task => task.resume codec state index reply put
  | .abandon index => state.finish index
  | .prefetch token target =>
      let key := photoCacheKeyFor codec digest target (some token)
      if (state.memory.lookup key).isSome then state
      else
        { state with
          tasks := state.tasks ++ [.prefetching token target key] }
  | .evictMemory key => { state with memory := state.memory.evict key }
  | .evictDisk key => { state with disk := state.disk.evict key }
  | .keepLibrary rest record =>
      { state with disk := state.disk.insert ("library:u:" ++ rest) record }

def photoRun (actions : List PhotoAction) : PhotoState :=
  actions.foldl (photoStep codec digest) {}

/-! What holds between the steps. -/

def PhotoFetch.key (fetch : PhotoFetch) : String :=
  photoCacheKeyFor codec digest fetch.target fetch.token

/-- The image was fetched for this key. -/
def FetchedFor (fetched : List PhotoFetch) (key : String)
    (image : CachedImage) : Prop :=
  ∃ fetch ∈ fetched, fetch.key codec digest = key ∧ fetch.image = image

def PhotoTask.Knows (fetched : List PhotoFetch) : PhotoTask → Prop
  | looking visit key | proxying visit key =>
      key = photoCacheKey codec digest visit
  | keeping key image => FetchedFor codec digest fetched key image
  | prefetching token target key =>
      key = photoCacheKeyFor codec digest target (some token)

/-- The image of an answer, up to what the disk forgets. -/
def PhotoHit.Of (hit : PhotoHit) (image : CachedImage) : Prop :=
  hit.image = image ∨ hit.image = image.record.image

structure PhotoFetch.Fits (fetch : PhotoFetch) : Prop where
  small : fetch.image.body.length ≤ maxImageLen
  image : fetch.live = true →
    fetch.image.contentType.any (fun text => Text.startsWith text "image/") =
      true

structure PhotoState.Traced (state : PhotoState) : Prop where
  memory : state.memory.Holds (FetchedFor codec digest state.fetched)
  disk : state.disk.Holds fun key record =>
    Text.startsWith key "photo:u:" = true →
      ∃ image, record = image.record ∧
        FetchedFor codec digest state.fetched key image
  tasks : ∀ task ∈ state.tasks, task.Knows codec digest state.fetched
  fetched : ∀ fetch ∈ state.fetched, fetch.Fits
  hits : ∀ hit ∈ state.hits, ∃ image, hit.Of image ∧
    FetchedFor codec digest state.fetched
      (photoCacheKey codec digest hit.visit) image

variable {codec} {digest} {state : PhotoState} {fetched : List PhotoFetch}

theorem PhotoReply.fits_of_cached {reply : PhotoReply} {image : CachedImage}
    (cached : reply.cached? = some image) :
    image.body.length ≤ maxImageLen ∧
      image.contentType.any (fun text => Text.startsWith text "image/") =
        true := by
  unfold cached? at cached
  split at cached
  · rename_i body isImage once
    split at cached
    · rename_i small
      cases cached
      refine ⟨small, ?_⟩
      exact (Bool.and_eq_true_iff.mp isImage).2
    · cases cached
  · cases cached

theorem PhotoReply.small_of_prefetched {reply : PhotoReply}
    {image : CachedImage} (prefetched : reply.prefetched? = some image) :
    image.body.length ≤ maxImageLen := by
  unfold prefetched? at prefetched
  split at prefetched
  · split at prefetched
    · rename_i small
      cases prefetched
      exact small
    · cases prefetched
  · cases prefetched

theorem FetchedFor.later {key : String} {image : CachedImage}
    (known : FetchedFor codec digest fetched key image)
    (fetch : PhotoFetch) :
    FetchedFor codec digest (fetched ++ [fetch]) key image := by
  obtain ⟨earlier, listed, same⟩ := known
  exact ⟨earlier, List.mem_append_left _ listed, same⟩

theorem PhotoTask.Knows.later {task : PhotoTask}
    (knows : task.Knows codec digest fetched) (fetch : PhotoFetch) :
    task.Knows codec digest (fetched ++ [fetch]) := by
  cases task with
  | keeping key image => exact FetchedFor.later knows fetch
  | _ => exact knows

theorem PhotoState.Traced.finish (traced : state.Traced codec digest)
    (index : Nat) : (state.finish index).Traced codec digest where
  memory := traced.memory
  disk := traced.disk
  tasks task listed :=
    traced.tasks task (List.mem_of_mem_eraseIdx listed)
  fetched := traced.fetched
  hits := traced.hits

theorem PhotoState.Traced.hit (traced : state.Traced codec digest)
    {visit : PhotoVisit} {sent image : CachedImage}
    (known : FetchedFor codec digest state.fetched
      (photoCacheKey codec digest visit) image)
    (same : PhotoHit.Of { visit, image := sent } image) :
    (state.hit visit sent).Traced codec digest where
  memory := traced.memory
  disk := traced.disk
  tasks := traced.tasks
  fetched := traced.fetched
  hits := by
    intro hit listed
    rcases List.mem_append.mp listed with earlier | new
    · exact traced.hits hit earlier
    · cases List.mem_singleton.mp new
      exact ⟨image, same, known⟩

theorem PhotoState.Traced.start (traced : state.Traced codec digest)
    {task : PhotoTask} (knows : task.Knows codec digest state.fetched) :
    PhotoState.Traced codec digest
      { state with tasks := state.tasks ++ [task] } where
  memory := traced.memory
  disk := traced.disk
  tasks := by
    intro other listed
    rcases List.mem_append.mp listed with earlier | new
    · exact traced.tasks other earlier
    · cases List.mem_singleton.mp new
      exact knows
  fetched := traced.fetched
  hits := traced.hits

theorem PhotoState.Traced.goOn (traced : state.Traced codec digest)
    (index : Nat) {next : PhotoTask}
    (knows : next.Knows codec digest state.fetched) :
    PhotoState.Traced codec digest
      { state with tasks := state.tasks.set index next } where
  memory := traced.memory
  disk := traced.disk
  tasks := by
    intro other listed
    rcases List.mem_or_eq_of_mem_set listed with earlier | rfl
    · exact traced.tasks other earlier
    · exact knows
  fetched := traced.fetched
  hits := traced.hits

theorem PhotoState.Traced.store (traced : state.Traced codec digest)
    (index : Nat) {key : String} {fetch : PhotoFetch}
    (same : key = fetch.key codec digest) (fits : fetch.Fits) :
    (state.store index key fetch).Traced codec digest := by
  have known : FetchedFor codec digest (state.fetched ++ [fetch]) key
      fetch.image :=
    ⟨fetch, by simp, same.symm, rfl⟩
  refine ⟨?_, ?_, ?_, ?_, ?_⟩
  · apply Store.Holds.insert _ known
    intro other image found
    exact (traced.memory other image found).later fetch
  · intro other record found photo
    obtain ⟨image, kept, earlier⟩ := traced.disk other record found photo
    exact ⟨image, kept, earlier.later fetch⟩
  · intro task listed
    rcases List.mem_or_eq_of_mem_set listed with earlier | rfl
    · exact (traced.tasks task earlier).later fetch
    · exact known
  · intro other listed
    rcases List.mem_append.mp listed with earlier | new
    · exact traced.fetched other earlier
    · cases List.mem_singleton.mp new
      exact fits
  · intro hit listed
    obtain ⟨image, same, earlier⟩ := traced.hits hit listed
    exact ⟨image, same, earlier.later fetch⟩

theorem PhotoState.Traced.resume (traced : state.Traced codec digest)
    {index : Nat} {task : PhotoTask} (listed : task ∈ state.tasks)
    (reply : PhotoReply) (put : Bool) :
    (task.resume codec state index reply put).Traced codec digest := by
  have knows := traced.tasks task listed
  cases task with
  | looking visit key =>
      simp only [PhotoTask.resume]
      cases found : state.memory.lookup key with
      | none => exact traced.goOn index knows
      | some image =>
          have known := traced.memory key image found
          rw [knows] at known
          exact (traced.finish index).hit known (.inl rfl)
  | proxying visit key =>
      simp only [PhotoTask.resume]
      cases cached : reply.cached? with
      | none => exact traced.finish index
      | some image =>
          obtain ⟨small, isImage⟩ := PhotoReply.fits_of_cached cached
          exact traced.store index knows ⟨small, fun _ => isImage⟩
  | keeping key image =>
      simp only [PhotoTask.resume]
      split
      · have finished := traced.finish index
        refine ⟨finished.memory, ?_, finished.tasks, finished.fetched,
          finished.hits⟩
        exact finished.disk.insert fun _ => ⟨image, rfl, knows⟩
      · exact traced.finish index
  | prefetching token target key =>
      simp only [PhotoTask.resume]
      cases prefetched : reply.prefetched? with
      | none => exact traced.finish index
      | some image =>
          exact traced.store index knows
            ⟨PhotoReply.small_of_prefetched prefetched, nofun⟩

theorem startsWith_photoCacheKeyFor (raw : String) (token : Option String) :
    Text.startsWith (photoCacheKeyFor codec digest raw token) "photo:u:" =
      true := by
  unfold Text.startsWith photoCacheKeyFor
  rw [List.isPrefixOf_iff_prefix, String.toList_append, String.toList_append,
    String.toList_append, List.append_assoc, List.append_assoc]
  exact List.prefix_append _ _

theorem not_startsWith_libraryKey (rest : String) :
    Text.startsWith ("library:u:" ++ rest) "photo:u:" = false := by
  unfold Text.startsWith
  rw [String.toList_append]
  rfl

theorem traced_photoStep (traced : state.Traced codec digest)
    (action : PhotoAction) :
    (photoStep codec digest state action).Traced codec digest := by
  cases action with
  | receive visit =>
      simp only [photoStep]
      split
      · exact traced
      · cases found : state.disk.lookup (photoCacheKey codec digest visit) with
        | none => exact traced.start rfl
        | some record =>
            obtain ⟨image, kept, known⟩ := traced.disk _ record found
              (startsWith_photoCacheKeyFor _ _)
            exact traced.hit known (.inr (by rw [kept]))
  | resume index reply put =>
      simp only [photoStep]
      cases found : state.tasks[index]? with
      | none => exact traced
      | some task =>
          exact traced.resume (List.mem_of_getElem? found) reply put
  | abandon index => exact traced.finish index
  | prefetch token target =>
      simp only [photoStep]
      split
      · exact traced
      · exact traced.start rfl
  | evictMemory key =>
      exact ⟨traced.memory.evict key, traced.disk, traced.tasks,
        traced.fetched, traced.hits⟩
  | evictDisk key =>
      exact ⟨traced.memory, traced.disk.evict key, traced.tasks,
        traced.fetched, traced.hits⟩
  | keepLibrary rest record =>
      refine ⟨traced.memory, ?_, traced.tasks, traced.fetched, traced.hits⟩
      apply traced.disk.insert
      intro photo
      rw [not_startsWith_libraryKey rest] at photo
      cases photo

theorem eq_of_photoCacheKeyFor_eq {raw other : String}
    {token otherToken : Option String}
    (same : photoCacheKeyFor codec digest raw token =
      photoCacheKeyFor codec digest other otherToken) :
    digest.tokenScope token = digest.tokenScope otherToken ∧
      canonicalPhotoKey codec raw = canonicalPhotoKey codec other := by
  have lists := congrArg String.toList same
  have colon : ":".toList = [':'] := rfl
  simp only [photoCacheKeyFor, String.toList_append, List.append_assoc,
    List.append_cancel_left_eq, colon, List.singleton_append] at lists
  obtain ⟨scopes, keys⟩ := Fields.append_cons_inj
    (colon_not_mem_tokenScope digest token)
    (colon_not_mem_tokenScope digest otherToken) lists
  exact ⟨String.toList_injective scopes, String.toList_injective keys⟩

/-- An image type is not lost on the disk. -/
theorem contentType_of_record {image : CachedImage}
    (typed : image.contentType.any
      (fun text => Text.startsWith text "image/") = true) :
    image.record.image.contentType = image.contentType := by
  cases held : image.contentType with
  | none => simp [held] at typed
  | some text =>
      have some : text ≠ "" := by
        rintro rfl
        rw [held] at typed
        exact absurd typed (by decide)
      simp [CacheRecord.image, CachedImage.record, held, Option.filter, some]

theorem PhotoState.Traced.provenance (traced : state.Traced codec digest) :
    ∀ hit ∈ state.hits, ∃ fetch ∈ state.fetched,
      digest.tokenScope fetch.token = digest.tokenScope
          (photoRequestToken codec hit.visit.order hit.visit.request) ∧
        canonicalPhotoKey codec fetch.target =
          canonicalPhotoKey codec hit.visit.request.target ∧
        hit.image.body = fetch.image.body ∧
        hit.image.body.length ≤ maxImageLen ∧
        hit.Of fetch.image ∧
        (fetch.live = true → hit.image.contentType =
          fetch.image.contentType) := by
  intro hit listed
  obtain ⟨image, same, fetch, member, key, rfl⟩ := traced.hits hit listed
  obtain ⟨scope, picture⟩ := eq_of_photoCacheKeyFor_eq key
  have fits := traced.fetched fetch member
  have body : hit.image.body = fetch.image.body := by
    rcases same with same | same
    · rw [same]
    · rw [same]
      rfl
  refine ⟨fetch, member, scope, picture, body, ?_, same, ?_⟩
  · rw [body]
    exact fits.small
  · intro live
    rcases same with same | same
    · rw [same]
    · rw [same]
      exact contentType_of_record (fits.image live)

theorem traced_empty : PhotoState.Traced codec digest {} :=
  ⟨Store.holds_empty _, Store.holds_empty _, by simp, by simp, by simp⟩

/-- Every image that the hoop takes from a cache was fetched in this run for the
same account scope and for the same picture, and it is no larger than what the
caches take. What the hoop itself has stored is an image by its type. -/
theorem cached_images_keep_provenance (codec : TargetCodec)
    (digest : TokenDigest) (actions : List PhotoAction) :
    ∀ hit ∈ (photoRun codec digest actions).hits,
      ∃ fetch ∈ (photoRun codec digest actions).fetched,
        digest.tokenScope fetch.token = digest.tokenScope
            (photoRequestToken codec hit.visit.order hit.visit.request) ∧
          canonicalPhotoKey codec fetch.target =
            canonicalPhotoKey codec hit.visit.request.target ∧
          hit.image.body = fetch.image.body ∧
          hit.image.body.length ≤ maxImageLen ∧
          hit.Of fetch.image ∧
          (fetch.live = true → hit.image.contentType =
            fetch.image.contentType) := by
  have traced : (photoRun codec digest actions).Traced codec digest :=
    @Transition.invariant_of_steps _ _ _ (PhotoState.Traced codec digest)
      (fun _ action traced => traced_photoStep traced action) _ traced_empty
      actions
  exact traced.provenance

def posterVisit : PhotoVisit where
  request :=
    { target := "/photo/:/transcode?url=%2Flibrary%2Fmetadata%2F1%2Fthumb"
      tokenHeader := some "jodie-token" }
  order := plainOrder

def posterReply : PhotoReply where
  status := some 200
  contentType := some "image/webp"
  body := .once [82, 73, 70, 70]

/-- Two views of a poster: the first one has it fetched. -/
def posterViews : List PhotoAction :=
  [.receive posterVisit, .resume 0 {} false, .resume 0 posterReply false,
    .receive posterVisit, .resume 1 {} false]

def posterImage : CachedImage :=
  ⟨some "image/webp", none, [82, 73, 70, 70]⟩

theorem hits_posterViews :
    (photoRun codec digest posterViews).hits = [⟨posterVisit, posterImage⟩] := by
  have small : posterReply.cached? = some posterImage := by decide
  simp [photoRun, posterViews, photoStep, posterVisit, PhotoTask.resume, small,
    PhotoState.store, PhotoState.hit, PhotoState.finish]

theorem second_view_is_from_memory :
    ∃ fetch ∈ (photoRun formCodec viewerDigest posterViews).fetched,
      viewerDigest.tokenScope fetch.token = viewerDigest.tokenScope
          (photoRequestToken formCodec posterVisit.order posterVisit.request) ∧
        canonicalPhotoKey formCodec fetch.target =
          canonicalPhotoKey formCodec posterVisit.request.target ∧
        posterImage.body = fetch.image.body ∧
        posterImage.body.length ≤ maxImageLen ∧
        PhotoHit.Of ⟨posterVisit, posterImage⟩ fetch.image ∧
        (fetch.live = true → posterImage.contentType =
          fetch.image.contentType) := by
  refine cached_images_keep_provenance formCodec viewerDigest posterViews
    ⟨posterVisit, posterImage⟩ ?_
  rw [hits_posterViews]
  exact List.mem_cons_self

end

end Replex
