import Replex.Transform.MergedHubs

namespace Replex

open Data MetaData

/-! The page that merges the children of several collections. -/

/-- Plex answers a page of children in one list. -/
def OneList (page : MediaContainer) : Prop :=
  page.items = page.children

theorem children_of_metadata (items : List MetaData) :
    ({ metadata := items } : MediaContainer).children = items := by
  cases items <;> rfl

theorem children_modifyChildren_filter {page : MediaContainer}
    (one : OneList page) (keep : MetaData → Bool) :
    (page.modifyChildren (·.filter keep)).children =
      page.children.filter keep := by
  unfold OneList MediaContainer.items MediaContainer.lists
    MediaContainer.children at one
  unfold MediaContainer.modifyChildren MediaContainer.children
  by_cases metadata : page.metadata = []
  · by_cases hub : page.hub = []
    · by_cases video : page.video = []
      · by_cases directory : page.directory = [] <;>
          simp [metadata, hub, video, directory]
      · simp_all
    · simp_all
  · simp_all

section

variable (presentation : Presentation) (load : ChildrenLoader)
  (offset limit : Int32)

def excludesWatched (collection : MediaContainer) : Bool :=
  presentation.settings.excludeWatched ||
    collection.metadata.head?.any fun item =>
      item.hasLabel "REPLEX_EXCLUDE_WATCHED"

/-- What a collection contributes; none for one that cannot be loaded. -/
def loadedRow (id : Nat) : Option (List MetaData) :=
  match presentation.collection (Int32.ofNat id), load id offset limit with
  | some collection, some page =>
      if excludesWatched presentation collection then
        some (page.children.filter fun child => !child.isWatched)
      else
        some page.children
  | _, _ => none

def isLoaded (id : Nat) : Bool :=
  (loadedRow presentation load offset limit id).isSome

def mergedPage (ids : List Nat) (container : MediaContainer) :
    MediaContainer :=
  (libraryInterleaveTransform presentation load ids offset
    limit).transformMediacontainer container

variable {presentation load offset limit}

theorem collectionRow_eq
    (pages : ∀ id page, load id offset limit = some page → OneList page)
    (id : Nat) :
    collectionRow presentation load id offset limit =
      (loadedRow presentation load offset limit id).getD [] := by
  unfold collectionRow loadedRow
  cases presentation.collection (Int32.ofNat id) with
  | none => rfl
  | some collection =>
      cases loaded : load id offset limit with
      | none => rfl
      | some page =>
          have shown := children_modifyChildren_filter
            (pages id page loaded) fun child => !child.isWatched
          change shownChildren (excludesWatched presentation collection) page =
            _
          unfold shownChildren
          dsimp only
          split
          · exact shown
          · rfl

/-- Rows without children do not show in a merge. -/
theorem foldl_interleave_getD {α ι : Type} (row : ι → Option (List α))
    (ids : List ι) (start : List α) :
    (ids.map fun id => (row id).getD []).foldl interleave start =
      (ids.filterMap row).foldl interleave start := by
  induction ids generalizing start with
  | nil => rfl
  | cons id ids hypothesis =>
      cases found : row id with
      | none =>
          rw [List.map_cons, List.foldl_cons, hypothesis, found,
            Option.getD_none, interleave_nil,
            List.filterMap_cons_none found]
      | some list =>
          rw [List.map_cons, List.foldl_cons, hypothesis, found,
            Option.getD_some, List.filterMap_cons_some found,
            List.foldl_cons]

theorem foldl_length {α : Type} (rows : List (List α)) (start : Int32) :
    rows.foldl (fun total row => total + Int32.ofNat row.length) start =
      start + Int32.ofNat rows.flatten.length := by
  induction rows generalizing start with
  | nil => simp
  | cons row rows hypothesis =>
      rw [List.foldl_cons, hypothesis, List.flatten_cons, List.length_append,
        Int32.ofNat_add, Int32.add_assoc]

theorem length_foldl_interleave {α : Type} (rows : List (List α)) :
    (rows.foldl interleave []).length = rows.flatten.length :=
  (Shuffles.foldl shuffle_interleave [] rows).perm.length_eq

theorem mergedPage_eq (on : presentation.settings.interleave = true)
    (pages : ∀ id page, load id offset limit = some page → OneList page)
    (ids : List Nat) (container : MediaContainer) :
    mergedPage presentation load offset limit ids container =
      { container with
        totalSize := some (Int32.ofNat
          (ids.filterMap (loadedRow presentation load offset limit)
            ).flatten.length)
        metadata :=
          (ids.filterMap (loadedRow presentation load offset limit)).foldl
            interleave [] } := by
  have rows : (ids.map fun id => collectionRow presentation load id offset
      limit) = ids.map fun id =>
        (loadedRow presentation load offset limit id).getD [] :=
    List.map_congr_left fun id _ => collectionRow_eq pages id
  have lengths := length_foldl_interleave (ids.map fun id =>
    (loadedRow presentation load offset limit id).getD [])
  rw [foldl_interleave_getD, length_foldl_interleave] at lengths
  unfold mergedPage libraryInterleaveTransform
  simp only [on, if_true, rows, foldl_interleave_getD, foldl_length, ← lengths,
    Int32.zero_add]

theorem filterMap_isLoaded (ids : List Nat) :
    (ids.filter (isLoaded presentation load offset limit)).filterMap
        (loadedRow presentation load offset limit) =
      ids.filterMap (loadedRow presentation load offset limit) := by
  rw [List.filterMap_filter]
  congr 1
  funext id
  unfold isLoaded
  cases loadedRow presentation load offset limit id <;> rfl

variable (presentation load offset limit)

/-- Every child of every loaded collection, once and in order, and a total
that counts them with 32 bits. -/
structure FaithfulPage (ids : List Nat) (container : MediaContainer) :
    Prop where
  shuffled : Shuffles []
    (ids.filterMap (loadedRow presentation load offset limit))
    (mergedPage presentation load offset limit ids container).metadata
  once : (mergedPage presentation load offset limit ids
    container).metadata.Perm
      (ids.filterMap (loadedRow presentation load offset limit)).flatten
  inOrder : ∀ row ∈ ids.filterMap (loadedRow presentation load offset limit),
    row.Sublist
      (mergedPage presentation load offset limit ids container).metadata
  unaffected : ∀ others : List Nat,
    others.filter (isLoaded presentation load offset limit) =
        ids.filter (isLoaded presentation load offset limit) →
      mergedPage presentation load offset limit others container =
        mergedPage presentation load offset limit ids container
  total : (mergedPage presentation load offset limit ids
    container).totalSize = some (Int32.ofNat
      (mergedPage presentation load offset limit ids
        container).metadata.length)

/-- The total as the number it stands for. -/
def CountsItself (ids : List Nat) (container : MediaContainer) : Prop :=
  (mergedPage presentation load offset limit ids container).totalSize.map
      Int32.toInt =
    some ((mergedPage presentation load offset limit ids
      container).metadata.length : Int)

end

theorem merged_page_faithful {presentation : Presentation}
    (on : presentation.settings.interleave = true) {load : ChildrenLoader}
    {offset limit : Int32}
    (pages : ∀ id page, load id offset limit = some page → OneList page)
    (ids : List Nat) (container : MediaContainer) :
    FaithfulPage presentation load offset limit ids container ∧
      ((mergedPage presentation load offset limit ids
          container).metadata.length < 2 ^ 31 →
        CountsItself presentation load offset limit ids container) := by
  have shuffled := Shuffles.foldl shuffle_interleave []
    (ids.filterMap (loadedRow presentation load offset limit))
  have counted := length_foldl_interleave
    (ids.filterMap (loadedRow presentation load offset limit))
  have page := mergedPage_eq on pages ids container
  constructor
  · refine ⟨?_, ?_, ?_, ?_, ?_⟩
    · rw [page]
      exact shuffled
    · rw [page]
      exact shuffled.perm
    · intro row listed
      rw [page]
      exact shuffled.row_sublist listed
    · intro others same
      have rows := congrArg
        (List.filterMap (loadedRow presentation load offset limit)) same
      rw [filterMap_isLoaded, filterMap_isLoaded] at rows
      rw [page, mergedPage_eq on pages, rows]
    · rw [page, counted]
  · intro short
    rw [page] at short
    rw [CountsItself, page]
    dsimp only at short ⊢
    rw [Option.map_some, ← counted, Int32.toInt_ofNat_of_lt (by omega)]

/-- Two collections share a film, and one film has been watched; there is no
third collection. -/
def sharedFilm : ChildrenLoader := fun id _ _ =>
  if id = 1 then
    some { metadata :=
      [{ title := "Alien" }, { title := "Aliens" }, { title := "Alien 3" }] }
  else if id = 2 then
    some { metadata :=
      [{ title := "Stalker" }, { title := "Heat", viewCount := some 1 },
        { title := "Alien" }] }
  else
    none

theorem shared_film_page_faithful :
    FaithfulPage unwatchedPresentation sharedFilm 0 250 [2, 3, 1] {} ∧
      CountsItself unwatchedPresentation sharedFilm 0 250 [2, 3, 1] {} ∧
      (mergedPage unwatchedPresentation sharedFilm 0 250 [2, 3, 1]
        {}).metadata.map MetaData.title =
          ["Stalker", "Alien", "Alien", "Aliens", "Alien 3"] := by
  have pages (id : Nat) (page : MediaContainer)
      (loaded : sharedFilm id 0 250 = some page) : OneList page := by
    unfold sharedFilm at loaded
    split at loaded
    · cases loaded
      rfl
    · split at loaded
      · cases loaded
        rfl
      · cases loaded
  obtain ⟨faithful, counts⟩ :=
    @merged_page_faithful unwatchedPresentation rfl sharedFilm 0 250 pages
      [2, 3, 1] {}
  exact ⟨faithful, counts (by decide +kernel), by decide +kernel⟩

/-- With 2^31 children the total is negative. -/
theorem total_of_many_films_wraps :
    ¬ ∀ (presentation : Presentation) (load : ChildrenLoader)
      (offset limit : Int32) (ids : List Nat) (container : MediaContainer),
      presentation.settings.interleave = true →
      (∀ id page, load id offset limit = some page → OneList page) →
        FaithfulPage presentation load offset limit ids container ∧
          CountsItself presentation load offset limit ids container := by
  intro every
  obtain ⟨films, many⟩ : ∃ films : List MetaData, films.length = 2 ^ 31 :=
    ⟨List.replicate (2 ^ 31) {}, List.length_replicate⟩
  let page : MediaContainer := { metadata := films }
  have shown : page.children = films := children_of_metadata films
  have pages : ∀ (_ : Nat) (other : MediaContainer),
      some page = some other → OneList other := by
    intro _ other same
    cases same
    rw [OneList, shown]
    simp [MediaContainer.items, MediaContainer.lists, page]
  let presentation : Presentation :=
    { unwatchedPresentation with settings := { excludeWatched := false } }
  have counts := (every presentation (fun _ _ _ => some page) 0 250 [1] {} rfl
    pages).2
  have row : [1].filterMap
      (loadedRow presentation (fun _ _ _ => some page) 0 250) = [films] := by
    rw [← shown]
    rfl
  rw [CountsItself, mergedPage_eq rfl pages, row] at counts
  simp only [List.flatten_singleton, many, List.foldl_cons, List.foldl_nil,
    nil_interleave, Option.map_some, Option.some.injEq] at counts
  revert counts
  decide

end Replex
