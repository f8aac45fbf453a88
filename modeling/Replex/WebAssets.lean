import Replex.Data.Transition
import Replex.DiskCache.Record
import Replex.GlobalCache
import Replex.PlexClient

namespace Replex

open Data

/-! Plex Web's files and the provider's artwork, which share one cache. -/

/-- A text in memory: no allocation reaches half of the address space. -/
structure HeldText where
  text : String
  bounded : (Text.toUtf8 text).length < 2 ^ 63

/-! Web assets. -/

def assetCachePrefix : String := "webasset:"

structure CachedAsset where
  contentType : Option String
  body : List UInt8
  deriving DecidableEq

def cachePolicyFor (path : String) : String :=
  if path = "/web" || path = "/web/" || Text.endsWith path "/index.html" ||
      Text.contains path "/translations/" then
    "no-cache"
  else
    "public, max-age=31536000, immutable"

/-- The body is absent when reading it broke off. -/
inductive AssetReply where
  | failed
  | answered (status : StatusCode) (contentType : Option HeldText)
      (body : Option Slice)

def fetchUpstream (assets : String → AssetReply) (config : Config)
    (path : String) : Except StatusCode CachedAsset :=
  match assets (Text.trimEndMatches '/' (config.host.getD "") ++ path) with
  | .answered 200 contentType (some body) =>
      .ok { contentType := contentType.map HeldText.text, body := body.bytes }
  | _ => .error 502

structure AssetResponse where
  contentType : Option String
  cacheControl : String
  body : List UInt8
  deriving DecidableEq

/-- Whether the HTTP library takes the text as a header's value. -/
def isHeaderValue (text : String) : Bool :=
  (Text.toUtf8 text).all fun byte => 32 ≤ byte && byte ≠ 127 || byte = 9

def assetResponse (path : String) (asset : CachedAsset) : AssetResponse where
  contentType := asset.contentType.filter isHeaderValue
  cacheControl := cachePolicyFor path
  body := asset.body

/-! Artwork. -/

def heroArtKey (uuid : String) : String :=
  uuid ++ ":hero_art"

def coverArtOf (container : MediaContainer) : Option String :=
  (container.children.head?.bind fun item =>
    item.images.find? fun image => image.type == "coverArt").map Image.url

/-- The provider's answers, each with artwork addresses that fit in memory. -/
structure ProviderData where
  metadata : String → Option MediaContainer
  bounded : ∀ url container image, metadata url = some container →
    coverArtOf container = some image → (Text.toUtf8 image).length < 2 ^ 63

def getProviderData (provider : ProviderData) (uuid : String) :
    Option MediaContainer :=
  provider.metadata ("https://discover.provider.plex.tv/library/metadata/" ++
    uuid)

/-! How bincode serialises both, as far as it matters. -/

structure GlobalCodecs where
  asset : Codec CachedAsset
  art : Codec (Option String)
  /-- What is held in memory is written. -/
  fits_asset : ∀ held : CachedAsset,
    (∀ text ∈ held.contentType, (Text.toUtf8 text).length < 2 ^ 63) →
      held.body.length < 2 ^ 63 → asset.fits held
  fits_art : ∀ image, (Text.toUtf8 image).length < 2 ^ 63 →
    art.fits (some image)
  /-- The address of an artwork has no body behind it. -/
  decode_asset_of_art : ∀ {image}, art.fits (some image) →
    asset.decode (art.encode (some image)) = none

/-- Its layout by default. -/
def bincode : GlobalCodecs where
  asset := ((Format.text.option.pair Format.bytes).record
    (fun fields => (⟨fields.1, fields.2⟩ : CachedAsset))
    (fun asset => (asset.contentType, asset.body)) fun _ => rfl).codec
  art := Format.text.option.codec
  fits_asset _ contentType body :=
    ⟨fun text listed => (contentType text listed).trans (by decide),
      body.trans (by decide)⟩
  fits_art _ bounded text held :=
    Option.some.inj held ▸ bounded.trans (by decide)
  decode_asset_of_art {image} fits := by
    have bodiless : (Format.text.option.pair Format.bytes).decode
        (Format.text.option.codec.encode (some image)) = none :=
      Format.decode_pair_of_first_only Format.text.option rfl fits
    refine (Format.decode_record _ _ _ _ _).trans ?_
    rw [bodiless]
    rfl

/-! Requests for both, one await at a time. -/

structure WebPath where
  text : String
  rooted : Text.startsWith text "/" = true

inductive AssetPhase where
  | starting
  | fetching
  | storing (asset : CachedAsset)
  | answered (response : AssetResponse) (answeredAt : Nat)
  | failed (status : StatusCode)

/-- A lookup without a result is tried again by the next request. -/
inductive ArtPhase where
  | starting
  | fetching
  | storing (image : String)
  | returned (image : Option String) (answeredAt : Nat)

inductive GlobalTask where
  | serveWebAsset (path : WebPath) (phase : AssetPhase)
  | getHeroArt (uuid : String) (phase : ArtPhase)

structure GlobalWrite where
  cacheKey : String
  value : CacheValue
  since : Nat

structure GlobalState where
  cache : CacheManager := {}
  now : Nat := 0
  tasks : List GlobalTask := []
  /-- What has been fetched and written so far. -/
  fetchedAssets : List (String × CachedAsset) := []
  fetchedArt : List (String × String) := []
  writes : List GlobalWrite := []

structure GlobalUpstream where
  assets : String → AssetReply
  provider : ProviderData

inductive GlobalAction where
  | serveWebAsset (path : WebPath)
  | getHeroArt (uuid : String)
  | resume (index : Nat) (upstream : GlobalUpstream)
  | evict (cacheKey : String)
  | clear
  | wait (seconds : Nat)

section

variable (codecs : GlobalCodecs) (config : Config) (globalTtl : Nat)

namespace GlobalState

def setTask (state : GlobalState) (index : Nat) (task : GlobalTask) :
    GlobalState :=
  { state with tasks := state.tasks.set index task }

def insert {α : Type} (state : GlobalState) (codec : Codec α)
    (cacheKey : String) (value : α) : GlobalState :=
  { state with
    cache := state.cache.insert codec globalTtl state.now cacheKey value
      .month
    writes := ⟨cacheKey, (.month, codec.encode value), state.now⟩ ::
      state.writes }

def resumeAsset (state : GlobalState) (index : Nat)
    (upstream : GlobalUpstream) (path : WebPath) : AssetPhase → GlobalState
  | .starting =>
      let cached := state.cache.get codecs.asset state.now
        (assetCachePrefix ++ path.text)
      { state.setTask index (.serveWebAsset path (match cached.1 with
          | some asset => .answered (assetResponse path.text asset) state.now
          | none => .fetching)) with
        cache := cached.2 }
  | .fetching =>
      match fetchUpstream upstream.assets config path.text with
      | .ok asset =>
          { state.setTask index (.serveWebAsset path (.storing asset)) with
            fetchedAssets := (path.text, asset) :: state.fetchedAssets }
      | .error status =>
          state.setTask index (.serveWebAsset path (.failed status))
  | .storing asset =>
      (state.insert globalTtl codecs.asset (assetCachePrefix ++ path.text)
        asset).setTask index
        (.serveWebAsset path
          (.answered (assetResponse path.text asset) state.now))
  | .answered .. | .failed _ => state

def resumeArt (state : GlobalState) (index : Nat) (upstream : GlobalUpstream)
    (uuid : String) : ArtPhase → GlobalState
  | .starting =>
      let cached := state.cache.get codecs.art state.now (heroArtKey uuid)
      { state.setTask index (.getHeroArt uuid (match cached.1 with
          | some image => .returned image state.now
          | none => .fetching)) with
        cache := cached.2 }
  | .fetching =>
      match (getProviderData upstream.provider uuid).bind coverArtOf with
      | none => state.setTask index (.getHeroArt uuid (.returned none state.now))
      | some image =>
          { state.setTask index (.getHeroArt uuid (.storing image)) with
            fetchedArt := (uuid, image) :: state.fetchedArt }
  | .storing image =>
      (state.insert globalTtl codecs.art (heroArtKey uuid)
        (some image)).setTask index
        (.getHeroArt uuid (.returned (some image) state.now))
  | .returned .. => state

end GlobalState

def globalStep (state : GlobalState) : GlobalAction → GlobalState
  | .serveWebAsset path =>
      { state with tasks := state.tasks ++ [.serveWebAsset path .starting] }
  | .getHeroArt uuid =>
      { state with tasks := state.tasks ++ [.getHeroArt uuid .starting] }
  | .resume index upstream =>
      match state.tasks[index]? with
      | none => state
      | some (.serveWebAsset path phase) =>
          state.resumeAsset codecs config globalTtl index upstream path phase
      | some (.getHeroArt uuid phase) =>
          state.resumeArt codecs globalTtl index upstream uuid phase
  | .evict cacheKey => { state with cache := state.cache.delete cacheKey }
  | .clear => { state with cache := CacheManager.clear }
  | .wait seconds => { state with now := state.now + seconds }

def globalRun (actions : List GlobalAction) : GlobalState :=
  actions.foldl (globalStep codecs config globalTtl) {}

end

/-! Which answers may be read under which key. -/

def assetLifetime : Nat := 30 * 24 * 60 * 60

namespace GlobalState

def Wrote (state : GlobalState) (cacheKey : String) (value : CacheValue)
    (since : Nat) : Prop :=
  ⟨cacheKey, value, since⟩ ∈ state.writes

/-- Written less than a lifetime before. -/
def Fresh (state : GlobalState) (cacheKey : String) (value : CacheValue)
    (answeredAt : Nat) : Prop :=
  ∃ since, state.Wrote cacheKey value since ∧ since ≤ answeredAt ∧
    answeredAt < since + assetLifetime

inductive Origin (codecs : GlobalCodecs) (state : GlobalState) :
    String → CacheValue → Prop where
  | asset {path : WebPath} {asset : CachedAsset}
      (fetched : (path.text, asset) ∈ state.fetchedAssets) :
      Origin codecs state (assetCachePrefix ++ path.text)
        (.month, codecs.asset.encode asset)
  | art {uuid image : String} (fetched : (uuid, image) ∈ state.fetchedArt) :
      Origin codecs state (heroArtKey uuid)
        (.month, codecs.art.encode (some image))

end GlobalState

/-- A lookup whose key is that of a web asset. -/
def NamesAsset (uuid : String) : Prop :=
  Text.startsWith uuid "webasset:/" = true

def GlobalTask.Sound (codecs : GlobalCodecs) (state : GlobalState) :
    GlobalTask → Prop
  | .serveWebAsset path (.storing asset) =>
      (path.text, asset) ∈ state.fetchedAssets
  | .serveWebAsset path (.answered response answeredAt) =>
      ∃ asset, (path.text, asset) ∈ state.fetchedAssets ∧
        response = assetResponse path.text asset ∧
        state.Fresh (assetCachePrefix ++ path.text)
          (.month, codecs.asset.encode asset) answeredAt
  | .getHeroArt uuid (.storing image) => (uuid, image) ∈ state.fetchedArt
  | .getHeroArt uuid (.returned (some image) answeredAt) =>
      ¬ NamesAsset uuid → (uuid, image) ∈ state.fetchedArt ∧
        state.Fresh (heroArtKey uuid)
          (.month, codecs.art.encode (some image)) answeredAt
  | _ => True

structure GlobalState.Known (codecs : GlobalCodecs) (state : GlobalState) :
    Prop where
  dated : state.cache.inner.Dated state.Wrote assetLifetime state.now
  origins : ∀ {cacheKey value since}, state.Wrote cacheKey value since →
    state.Origin codecs cacheKey value
  assetsFit : ∀ entry ∈ state.fetchedAssets, codecs.asset.fits entry.2
  artFits : ∀ entry ∈ state.fetchedArt, codecs.art.fits (some entry.2)
  sound : ∀ task ∈ state.tasks, task.Sound codecs state

theorem fits_fetchUpstream (codecs : GlobalCodecs)
    {assets : String → AssetReply} {config : Config} {path : String} {asset : CachedAsset}
    (fetched : fetchUpstream assets config path = .ok asset) :
    codecs.asset.fits asset := by
  unfold fetchUpstream at fetched
  split at fetched
  next contentType body _ =>
      cases fetched
      refine codecs.fits_asset _ ?_ body.bounded
      intro text listed
      obtain ⟨held, -, rfl⟩ := Option.map_eq_some_iff.mp listed
      exact held.bounded
  · cases fetched

/-- Where the two kinds of key meet, the artwork's identifier names an
asset. -/
theorem namesAsset_of_key_eq {uuid : String} {path : WebPath}
    (same : heroArtKey uuid = assetCachePrefix ++ path.text) :
    NamesAsset uuid := by
  obtain ⟨rest, rooted⟩ : ∃ rest, '/' :: rest = path.text.toList :=
    List.isPrefixOf_iff_prefix.mp path.rooted
  have texts := congrArg String.toList same
  rw [heroArtKey, String.toList_append, String.toList_append, ← rooted]
    at texts
  rcases List.append_eq_append_iff.mp texts with
    ⟨inside, -, back⟩ | ⟨inside, front, back⟩
  · -- The identifier ends within the prefix of assets.
    have listed : '/' ∈ ":hero_art".toList := by
      rw [back]
      simp
    exact absurd listed (by decide)
  · cases inside with
    | nil => exact absurd (List.cons.inj back).1 (by decide)
    | cons head tail =>
        obtain ⟨rfl, -⟩ := List.cons.inj back
        apply List.isPrefixOf_iff_prefix.mpr
        exact ⟨tail, front.symm⟩

namespace GlobalState

variable {codecs : GlobalCodecs} {state : GlobalState}

theorem Origin.read_asset {path : WebPath} {value : CacheValue}
    {asset : CachedAsset}
    (origin : state.Origin codecs (assetCachePrefix ++ path.text) value)
    (assetsFit : ∀ entry ∈ state.fetchedAssets,
      codecs.asset.fits entry.2)
    (artFits : ∀ entry ∈ state.fetchedArt, codecs.art.fits (some entry.2))
    (read : codecs.asset.decode value.2 = some asset) :
    (path.text, asset) ∈ state.fetchedAssets ∧
      value = (.month, codecs.asset.encode asset) := by
  generalize key : assetCachePrefix ++ path.text = cacheKey at origin
  cases origin with
  | @asset other written fetched =>
      have same : path.text = other.text := by
        simpa [String.ext_iff] using key
      have fits := assetsFit _ fetched
      rw [Codec.decode_encode _ fits] at read
      cases read
      exact ⟨same ▸ fetched, rfl⟩
  | art fetched =>
      rw [codecs.decode_asset_of_art (artFits _ fetched)] at read
      cases read

theorem Origin.read_art {uuid : String} {value : CacheValue}
    {image : Option String}
    (origin : state.Origin codecs (heroArtKey uuid) value)
    (other : ¬ NamesAsset uuid)
    (artFits : ∀ entry ∈ state.fetchedArt, codecs.art.fits (some entry.2))
    (read : codecs.art.decode value.2 = some image) :
    ∃ url, image = some url ∧ (uuid, url) ∈ state.fetchedArt ∧
      value = (.month, codecs.art.encode (some url)) := by
  generalize key : heroArtKey uuid = cacheKey at origin
  cases origin with
  | asset fetched => exact absurd (namesAsset_of_key_eq key) other
  | @art written url fetched =>
      have same : uuid = written := by
        simpa [heroArtKey, String.ext_iff] using key
      have fits := artFits _ fetched
      rw [Codec.decode_encode _ fits] at read
      cases read
      exact ⟨url, rfl, same ▸ fetched, rfl⟩

/-! Nothing that has been learnt is forgotten. -/

structure Extends (later earlier : GlobalState) : Prop where
  now : earlier.now ≤ later.now
  assets : earlier.fetchedAssets ⊆ later.fetchedAssets
  art : earlier.fetchedArt ⊆ later.fetchedArt
  writes : earlier.writes ⊆ later.writes

theorem Extends.rfl : state.Extends state :=
  ⟨le_rfl, List.Subset.refl _, List.Subset.refl _, List.Subset.refl _⟩

variable {later : GlobalState}

theorem Origin.mono {cacheKey : String} {value : CacheValue}
    (origin : state.Origin codecs cacheKey value)
    (longer : later.Extends state) :
    later.Origin codecs cacheKey value := by
  cases origin with
  | asset fetched => exact .asset (longer.assets fetched)
  | art fetched => exact .art (longer.art fetched)

theorem Fresh.mono {cacheKey : String} {value : CacheValue} {answeredAt : Nat}
    (fresh : state.Fresh cacheKey value answeredAt)
    (longer : later.Extends state) :
    later.Fresh cacheKey value answeredAt := by
  obtain ⟨since, wrote, past, recent⟩ := fresh
  exact ⟨since, longer.writes wrote, past, recent⟩

end GlobalState

theorem GlobalTask.Sound.mono {codecs : GlobalCodecs} {task : GlobalTask}
    {state later : GlobalState}
    (sound : task.Sound codecs state) (longer : later.Extends state) :
    task.Sound codecs later := by
  cases task with
  | serveWebAsset path phase =>
      cases phase with
      | storing asset => exact longer.assets sound
      | answered response answeredAt =>
          obtain ⟨asset, fetched, answer, fresh⟩ := sound
          exact ⟨asset, longer.assets fetched, answer, fresh.mono longer⟩
      | _ => trivial
  | getHeroArt uuid phase =>
      cases phase with
      | storing image => exact longer.art sound
      | returned image answeredAt =>
          cases image with
          | none => trivial
          | some image =>
              intro other
              obtain ⟨fetched, fresh⟩ := sound other
              exact ⟨longer.art fetched, fresh.mono longer⟩
      | _ => trivial

namespace GlobalState

variable {codecs : GlobalCodecs} {state next : GlobalState}

theorem Known.advance (known : state.Known codecs) (longer : next.Extends state)
    (dated : next.cache.inner.Dated next.Wrote assetLifetime next.now)
    (origins : ∀ write ∈ next.writes, write ∈ state.writes ∨
      next.Origin codecs write.cacheKey write.value)
    (assetsFit : ∀ entry ∈ next.fetchedAssets, entry ∈ state.fetchedAssets ∨
      codecs.asset.fits entry.2)
    (artFits : ∀ entry ∈ next.fetchedArt, entry ∈ state.fetchedArt ∨
      codecs.art.fits (some entry.2))
    (sound : ∀ task ∈ next.tasks, task ∈ state.tasks ∨ task.Sound codecs next) :
    next.Known codecs where
  dated := dated
  origins {cacheKey value since} wrote := by
    rcases origins _ wrote with old | origin
    · exact (known.origins old).mono longer
    · exact origin
  assetsFit entry listed := (assetsFit entry listed).elim
    (known.assetsFit entry) id
  artFits entry listed := (artFits entry listed).elim (known.artFits entry) id
  sound task listed := (sound task listed).elim
    (fun old => (known.sound task old).mono longer) id

/-- A task moves on while nothing is fetched or written. -/
theorem Known.setTask (known : state.Known codecs) {index : Nat}
    {task : GlobalTask} {cache : CacheManager}
    (dated : cache.inner.Dated state.Wrote assetLifetime state.now)
    (sound : task.Sound codecs state) :
    Known codecs { state.setTask index task with cache } := by
  have same : Extends { state.setTask index task with cache } state :=
    ⟨le_rfl, List.Subset.refl _, List.Subset.refl _, List.Subset.refl _⟩
  refine known.advance same dated (fun _ => .inl) (fun _ => .inl)
    (fun _ => .inl) ?_
  intro other listed
  rcases List.mem_or_eq_of_mem_set listed with old | rfl
  · exact .inl old
  · exact .inr (sound.mono same)

theorem Known.dated_get {α : Type} (known : state.Known codecs) (codec : Codec α)
    (cacheKey : String) :
    (state.cache.get codec state.now cacheKey).2.inner.Dated state.Wrote
      assetLifetime state.now := by
  rcases CacheManager.get_leaves codec state.now cacheKey state.cache with
    same | evicted
  · rw [same]
    exact known.dated
  · rw [evicted]
    exact known.dated.evict cacheKey

/-- A hit was written under this key less than a lifetime ago. -/
theorem Known.hit {α : Type} (known : state.Known codecs) {codec : Codec α}
    {cacheKey : String} {result : α}
    (hit : (state.cache.get codec state.now cacheKey).1 = some result) :
    ∃ value, state.Origin codecs cacheKey value ∧
      codec.decode value.2 = some result ∧
      state.Fresh cacheKey value state.now := by
  obtain ⟨value, found, read⟩ := CacheManager.get_eq_some hit
  obtain ⟨since, wrote, past, recent⟩ := known.dated.lookup found
  exact ⟨value, known.origins wrote, read, since, wrote, past, recent⟩

/-- A value of known origin is put into the cache, and its task answers with
it. -/
theorem Known.insert {α : Type} (known : state.Known codecs)
    {globalTtl index : Nat} {codec : Codec α} {cacheKey : String} {value : α}
    {task : GlobalTask}
    (origin : state.Origin codecs cacheKey (.month, codec.encode value))
    (sound : task.Sound codecs (state.insert globalTtl codec cacheKey value)) :
    ((state.insert globalTtl codec cacheKey value).setTask index
      task).Known codecs := by
  have longer : Extends (state.insert globalTtl codec cacheKey value) state :=
    ⟨le_rfl, List.Subset.refl _, List.Subset.refl _,
      List.subset_cons_self _ _⟩
  have moved : Extends ((state.insert globalTtl codec cacheKey value).setTask
      index task) (state.insert globalTtl codec cacheKey value) :=
    ⟨le_rfl, List.Subset.refl _, List.Subset.refl _, List.Subset.refl _⟩
  have older := known.dated.mono le_rfl fun _ _ _ wrote => longer.writes wrote
  refine known.advance ⟨le_rfl, List.Subset.refl _, List.Subset.refl _,
    List.subset_cons_self _ _⟩ (older.insert List.mem_cons_self) ?_
    (fun _ => .inl) (fun _ => .inl) ?_
  · intro write listed
    rcases List.mem_cons.mp listed with rfl | old
    · exact .inr ((origin.mono longer).mono moved)
    · exact .inl old
  · intro other listed
    rcases List.mem_or_eq_of_mem_set listed with old | rfl
    · exact .inl old
    · exact .inr (sound.mono moved)

theorem fresh_insert {α : Type} (state : GlobalState) (globalTtl : Nat)
    (codec : Codec α) (cacheKey : String) (value : α) :
    (state.insert globalTtl codec cacheKey value).Fresh cacheKey
      (.month, codec.encode value) state.now :=
  ⟨state.now, List.mem_cons_self, le_rfl,
    Nat.lt_add_of_pos_right (by decide)⟩

variable {config : Config} {globalTtl : Nat}

theorem Known.resumeAsset (known : state.Known codecs) (index : Nat)
    (upstream : GlobalUpstream) {path : WebPath} {phase : AssetPhase}
    (sound : GlobalTask.Sound codecs state (.serveWebAsset path phase)) :
    (state.resumeAsset codecs config globalTtl index upstream path phase).Known
      codecs := by
  cases phase with
  | starting =>
      refine known.setTask (known.dated_get _ _) ?_
      split
      next asset hit =>
          obtain ⟨value, origin, read, fresh⟩ := known.hit hit
          obtain ⟨fetched, rfl⟩ :=
            origin.read_asset known.assetsFit known.artFits read
          exact ⟨asset, fetched, rfl, fresh⟩
      · trivial
  | fetching =>
      unfold GlobalState.resumeAsset
      dsimp only
      split
      next asset fetched =>
          have longer : Extends
              { state.setTask index (.serveWebAsset path (.storing asset)) with
                fetchedAssets := (path.text, asset) :: state.fetchedAssets }
              state :=
            ⟨le_rfl, List.subset_cons_self _ _, List.Subset.refl _,
              List.Subset.refl _⟩
          refine known.advance longer known.dated (fun _ => .inl) ?_
            (fun _ => .inl) ?_
          · intro entry listed
            rcases List.mem_cons.mp listed with rfl | old
            · exact .inr (fits_fetchUpstream codecs fetched)
            · exact .inl old
          · intro task listed
            rcases List.mem_or_eq_of_mem_set listed with old | rfl
            · exact .inl old
            · exact .inr List.mem_cons_self
      · exact known.setTask known.dated trivial
  | storing asset =>
      exact known.insert (.asset sound)
        ⟨asset, sound, rfl, fresh_insert state globalTtl _ _ _⟩
  | answered response answeredAt => exact known
  | failed status => exact known

theorem Known.resumeArt (known : state.Known codecs) (index : Nat)
    (upstream : GlobalUpstream) {uuid : String} {phase : ArtPhase}
    (sound : GlobalTask.Sound codecs state (.getHeroArt uuid phase)) :
    (state.resumeArt codecs globalTtl index upstream uuid phase).Known
      codecs := by
  cases phase with
  | starting =>
      refine known.setTask (known.dated_get _ _) ?_
      split
      next image hit =>
          cases image with
          | none => trivial
          | some image =>
              intro other
              obtain ⟨value, origin, read, fresh⟩ := known.hit hit
              obtain ⟨url, same, fetched, rfl⟩ :=
                origin.read_art other known.artFits read
              cases same
              exact ⟨fetched, fresh⟩
      · trivial
  | fetching =>
      unfold GlobalState.resumeArt
      dsimp only
      split
      · exact known.setTask known.dated trivial
      next image fetched =>
          have longer : Extends
              { state.setTask index (.getHeroArt uuid (.storing image)) with
                fetchedArt := (uuid, image) :: state.fetchedArt } state :=
            ⟨le_rfl, List.Subset.refl _, List.subset_cons_self _ _,
              List.Subset.refl _⟩
          refine known.advance longer known.dated (fun _ => .inl)
            (fun _ => .inl) ?_ ?_
          · intro entry listed
            rcases List.mem_cons.mp listed with rfl | old
            · obtain ⟨container, answered, found⟩ :=
                Option.bind_eq_some_iff.mp fetched
              have bounded := upstream.provider.bounded _ container image
                answered found
              exact .inr (codecs.fits_art image bounded)
            · exact .inl old
          · intro task listed
            rcases List.mem_or_eq_of_mem_set listed with old | rfl
            · exact .inl old
            · exact .inr List.mem_cons_self
  | storing image =>
      exact known.insert (.art sound) fun _ =>
        ⟨sound, fresh_insert state globalTtl _ _ _⟩
  | returned image answeredAt => exact known

theorem known_globalStep (state : GlobalState) (action : GlobalAction)
    (known : state.Known codecs) :
    (globalStep codecs config globalTtl state action).Known codecs := by
  have started : ∀ task : GlobalTask, task.Sound codecs state →
      Known codecs { state with tasks := state.tasks ++ [task] } := by
    intro task sound
    have same : Extends { state with tasks := state.tasks ++ [task] } state :=
      ⟨le_rfl, List.Subset.refl _, List.Subset.refl _, List.Subset.refl _⟩
    refine known.advance same known.dated (fun _ => .inl) (fun _ => .inl)
      (fun _ => .inl) ?_
    intro other listed
    rcases List.mem_append.mp listed with old | new
    · exact .inl old
    · obtain rfl := List.mem_singleton.mp new
      exact .inr (sound.mono same)
  have recached : ∀ {cache : CacheManager},
      cache.inner.Dated state.Wrote assetLifetime state.now →
        Known codecs { state with cache } := by
    intro cache dated
    exact known.advance ⟨le_rfl, List.Subset.refl _, List.Subset.refl _,
      List.Subset.refl _⟩ dated (fun _ => .inl) (fun _ => .inl)
      (fun _ => .inl) fun _ => .inl
  cases action with
  | serveWebAsset path => exact started _ trivial
  | getHeroArt uuid => exact started _ trivial
  | resume index upstream =>
      simp only [globalStep]
      split
      · exact known
      next found =>
          exact known.resumeAsset index upstream
            (known.sound _ (List.mem_of_getElem? found))
      next found =>
          exact known.resumeArt index upstream
            (known.sound _ (List.mem_of_getElem? found))
  | evict cacheKey => exact recached (known.dated.evict cacheKey)
  | clear => exact recached (Expiring.dated_empty _ _ _)
  | wait seconds =>
      have longer : Extends { state with now := state.now + seconds } state :=
        ⟨Nat.le_add_right _ _, List.Subset.refl _, List.Subset.refl _,
          List.Subset.refl _⟩
      exact known.advance longer
        (known.dated.mono longer.now fun _ _ _ wrote => wrote)
        (fun _ => .inl) (fun _ => .inl) (fun _ => .inl) fun _ => .inl

end GlobalState

/-- Every file and every artwork that is answered was fetched in this run for
the same path or identifier, and put into the cache less than thirty days
before. An artwork whose identifier is the key of a file is not covered: it
reads the file's content type. -/
structure GlobalState.Honest (codecs : GlobalCodecs) (state : GlobalState) :
    Prop where
  assets : ∀ path response answeredAt,
    .serveWebAsset path (.answered response answeredAt) ∈ state.tasks →
      ∃ asset, (path.text, asset) ∈ state.fetchedAssets ∧
        response = assetResponse path.text asset ∧
        state.Fresh (assetCachePrefix ++ path.text)
          (.month, codecs.asset.encode asset) answeredAt
  art : ∀ uuid image answeredAt,
    .getHeroArt uuid (.returned (some image) answeredAt) ∈ state.tasks →
      ¬ NamesAsset uuid → (uuid, image) ∈ state.fetchedArt ∧
        state.Fresh (heroArtKey uuid)
          (.month, codecs.art.encode (some image)) answeredAt

theorem global_cache_answers_honestly (codecs : GlobalCodecs) (config : Config)
    (globalTtl : Nat) (actions : List GlobalAction) :
    (globalRun codecs config globalTtl actions).Honest codecs := by
  have initial : GlobalState.Known codecs {} :=
    ⟨Expiring.dated_empty _ _ _, nofun, nofun, nofun, nofun⟩
  have known := Transition.invariant_of_steps
    (@GlobalState.known_globalStep codecs config globalTtl) initial actions
  exact ⟨fun _ _ _ listed => known.sound _ listed,
    fun _ _ _ listed => known.sound _ listed⟩

/-! A file whose path ends like the key of an artwork. -/

def collidingPath : WebPath := ⟨"/web/x:hero_art", by decide⟩

def collidingUpstream : GlobalUpstream where
  assets _ := .answered 200 (some ⟨"text/css", by decide +kernel⟩)
    (some ⟨[], by decide⟩)
  provider := ⟨fun _ => none, nofun⟩

/-- The artwork's lookup takes the file's content type for an address. -/
example : (globalRun bincode {} 0 [.serveWebAsset collidingPath,
    .resume 0 collidingUpstream, .resume 0 collidingUpstream,
    .resume 0 collidingUpstream, .getHeroArt "webasset:/web/x",
    .resume 1 collidingUpstream]).tasks[1]? =
      some (.getHeroArt "webasset:/web/x" (.returned (some "text/css") 0)) :=
  rfl

end Replex
