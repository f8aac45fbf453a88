import Replex.Data.Windows
import Replex.Routes.CollectionKeys
import Replex.Transform.CollectionPages

namespace Replex

open Data MetaData

/-! Reading a merged collection page by page. -/

section

variable (presentation : Presentation)

def styleChild (ids : List Nat) (child : MetaData) : MetaData :=
  match ids with
  | [] => child
  | id :: _ =>
      if labelledHero (presentation.collection (Int32.ofNat id)) = true then
        heroChild presentation.options child
      else
        child

/-- What a child looks like in the answer. -/
def renderChild (ids : List Nat) (child : MetaData) : MetaData :=
  (userStateTransform presentation).transformMetadata
    (styleChild presentation ids child)

/-- A container whose children are all in its first list. -/
structure Holds (container : MediaContainer) (items : List MetaData)
    (total : Option Int32) : Prop where
  lists : container.lists = [items, [], [], []]
  totalSize : container.totalSize = total

variable {presentation}

theorem sweep_single (keep : MetaData → Bool)
    (change : MetaData → MetaData) (items : List MetaData) :
    Sweep.sweep keep change [items, [], [], []] =
      [(items.filter keep).map change, [], [], []] := by
  simp only [Sweep.sweep]
  split <;> rfl

theorem Holds.apply {container : MediaContainer} {items : List MetaData}
    {total : Option Int32} (held : Holds container items total)
    {transform : Transform}
    (plain : transform.transformMediacontainer = id) :
    Holds (transform.apply container)
      ((items.filter transform.filterMetadata).map
        transform.transformMetadata) total where
  lists := by
    rw [lists_apply plain, held.lists, sweep_single]
  totalSize := by
    rw [apply_of_plain transform plain, held.lists, sweep_single]
    exact held.totalSize

theorem Holds.collectionStyle {container : MediaContainer}
    {items : List MetaData} {total : Option Int32}
    (held : Holds container items total) (ids : List Nat) :
    Holds ((collectionStyleTransform presentation ids).apply container)
      (items.map (styleChild presentation ids)) total := by
  obtain ⟨lists, totalSize⟩ := held
  have same : container.metadata = items ∧ container.hub = [] ∧
      container.video = [] ∧ container.directory = [] := by
    simpa [MediaContainer.lists] using lists
  obtain ⟨rfl, hub, video, directory⟩ := same
  rw [apply_of_whole rfl rfl]
  unfold collectionStyleTransform
  cases ids with
  | nil =>
      have unstyled : styleChild presentation [] = id := rfl
      rw [unstyled, List.map_id]
      exact ⟨lists, totalSize⟩
  | cons id ids =>
      dsimp only
      split
      next hero =>
        have styled : styleChild presentation (id :: ids) =
            heroChild presentation.options := by
          funext child
          exact if_pos hero
        rw [styled]
        unfold MediaContainer.setChildren MediaContainer.children
        by_cases empty : container.metadata = []
        · constructor
          · simp [MediaContainer.lists, empty, hub, video, directory]
          · simp [empty, hub, video, directory, totalSize]
        · constructor
          · simp [MediaContainer.lists, empty, hub, video, directory]
          · simp [empty, totalSize]
      next plain =>
        have unstyled : styleChild presentation (id :: ids) = fun child =>
            child := by
          funext child
          exact if_neg plain
        rw [unstyled, List.map_id']
        exact ⟨lists, totalSize⟩

theorem Holds.resize {container : MediaContainer} {items : List MetaData}
    {total : Option Int32} (held : Holds container items total) :
    Holds container.resize items total :=
  ⟨held.lists, held.totalSize⟩

/-- What the other transforms make of the merged page: its children are
filtered and rendered one by one. -/
theorem Holds.collectionsChildren {load : ChildrenLoader} {ids : List Nat}
    {items : List MetaData} {total : Option Int32}
    (merged : Holds
      ((libraryInterleaveTransform presentation load ids
        (childrenOffset presentation.settings.excludeWatched
          presentation.options)
        (childrenLimit presentation.settings.excludeWatched
          presentation.options)).apply
        { size := some 0
          offset := some (childrenOffset presentation.settings.excludeWatched
            presentation.options) }) items total) :
    Holds (collectionsChildrenContainer presentation load ids)
      ((items.filter (hubRestrictionFilter presentation)).map
        (renderChild presentation ids)) total := by
  have restricted : Holds ((hubRestrictionTransform presentation).apply _) _
      total := merged.apply rfl
  have styled : Holds ((collectionStyleTransform presentation ids).apply _) _
      total := restricted.collectionStyle ids
  have rendered : Holds ((userStateTransform presentation).apply _) _ total :=
    styled.apply rfl
  unfold collectionsChildrenContainer applyTo
  simp only [List.foldl_cons, List.foldl_nil]
  apply Holds.resize
  convert rendered using 1
  have all (list : List MetaData) :
      list.filter (userStateTransform presentation).filterMetadata = list :=
    List.filter_eq_self.mpr fun _ _ => rfl
  have kept (list : List MetaData) :
      list.map (hubRestrictionTransform presentation).transformMetadata =
        list :=
    List.map_id list
  rw [all, kept, List.map_map]
  rfl

theorem holds_collectionsChildren
    (on : presentation.settings.interleave = true) {load : ChildrenLoader}
    {offset limit : Int32}
    (offset_eq : childrenOffset presentation.settings.excludeWatched
      presentation.options = offset)
    (limit_eq : childrenLimit presentation.settings.excludeWatched
      presentation.options = limit)
    (pages : ∀ id page, load id offset limit = some page → OneList page)
    (ids : List Nat) :
    Holds (collectionsChildrenContainer presentation load ids)
      ((((ids.filterMap (loadedRow presentation load offset limit)).foldl
        interleave []).filter (hubRestrictionFilter presentation)).map
          (renderChild presentation ids))
      (some (Int32.ofNat (ids.filterMap
        (loadedRow presentation load offset limit)).flatten.length)) := by
  subst offset_eq limit_eq
  apply Holds.collectionsChildren
  rw [apply_of_whole rfl rfl]
  have page := mergedPage_eq on pages ids
    { size := some 0
      offset := some (childrenOffset presentation.settings.excludeWatched
        presentation.options) }
  unfold mergedPage at page
  rw [page]
  exact ⟨rfl, rfl⟩

/-- Without interleaving nothing is loaded. -/
theorem holds_collectionsChildren_of_off
    (off : presentation.settings.interleave = false) (load : ChildrenLoader)
    (ids : List Nat) :
    Holds (collectionsChildrenContainer presentation load ids) [] none := by
  apply @Holds.collectionsChildren presentation load ids []
  rw [apply_of_whole rfl rfl]
  unfold libraryInterleaveTransform
  simp only [off, Bool.false_eq_true, if_false]
  exact ⟨rfl, rfl⟩

end

/-! A client reads on while the last page announces more. -/

/-- What Plex answers: every window of each collection's children. -/
structure ServesWindows (load : ChildrenLoader) (ids : List Nat)
    (lists : Nat → List MetaData) : Prop where
  oneList : ∀ id start size page,
    load id start size = some page → OneList page
  window : ∀ id ∈ ids, ∀ start size : Int32, 0 ≤ start → 0 ≤ size →
    ∃ page, load id start size = some page ∧
      page.children =
        ((lists id).drop start.toInt.toNat).take size.toInt.toNat

/-- All collections can be looked up and none is filtered. -/
structure Unfiltered (presentation : Presentation) (ids : List Nat) :
    Prop where
  off : presentation.settings.excludeWatched = false
  known : ∀ id ∈ ids, ∃ collection,
    presentation.collection (Int32.ofNat id) = some collection ∧
      excludesWatched presentation collection = false

def Presentation.asking (presentation : Presentation)
    (start size : Int32) : Presentation :=
  { presentation with
    options := { presentation.options with
      containerStart := some start, containerSize := some size } }

section

variable (presentation : Presentation) (load : ChildrenLoader)
  (ids : List Nat) (size : Int32)

def servedPage (page : Nat) : MediaContainer :=
  collectionsChildrenContainer
    (presentation.asking (Int32.ofNat (page * size.toInt.toNat)) size)
    load ids

/-- The next start lies below the total of the page before it. -/
def announced (page : Nat) (answer : MediaContainer) : Bool :=
  decide (((page * size.toInt.toNat : Nat) : Int) <
    (answer.totalSize.getD 0).toInt)

/-- The client comes to an end and has seen every child once. -/
def VisitsEverything (lists : Nat → List MetaData) : Prop :=
  ∃ fuel pages,
    Windows.visit (servedPage presentation load ids size) (announced size)
      fuel 0 = some pages ∧
    (pages.flatMap MediaContainer.metadata).Perm
      ((ids.flatMap lists).map (renderChild presentation ids))

/-- The total that the answer to a page reports. -/
def pageTotal (lists : Nat → List MetaData) (page : Nat) : Int32 :=
  Int32.ofNat ((ids.map lists).flatMap
    (Windows.window size.toInt.toNat page)).length

variable {presentation load ids size}

theorem one_le_toInt {size : Int32} (positive : 1 ≤ size) :
    1 ≤ size.toInt :=
  Int32.le_iff_toInt_le.mp positive

theorem ServesWindows.answer {lists : Nat → List MetaData}
    (serves : ServesWindows load ids lists) {id : Nat} (listed : id ∈ ids)
    {start : Int32} {position : Nat} (from' : start.toInt = position)
    (nonneg : 0 ≤ size.toInt) :
    ∃ answer, load id start size = some answer ∧ OneList answer ∧
      answer.children = ((lists id).drop position).take size.toInt.toNat := by
  have later : (0 : Int32) ≤ start := by
    rw [Int32.le_iff_toInt_le, from']
    exact Int.natCast_nonneg position
  obtain ⟨answer, loaded, children⟩ := serves.window id listed start size later
    (Int32.le_iff_toInt_le.mpr nonneg)
  rw [from', Int.toNat_natCast] at children
  exact ⟨answer, loaded, serves.oneList id start size answer loaded, children⟩

theorem holds_servedPage (on : presentation.settings.interleave = true)
    {lists : Nat → List MetaData} (serves : ServesWindows load ids lists)
    (unfiltered : Unfiltered presentation ids) (positive : 1 ≤ size)
    {page : Nat} (inRange : page * size.toInt.toNat < 2 ^ 31) :
    Holds (servedPage presentation load ids size page)
      (((((ids.map lists).map (Windows.window size.toInt.toNat page)).foldl
        interleave []).filter (hubRestrictionFilter presentation)).map
          (renderChild presentation ids))
      (some (pageTotal ids size lists page)) := by
  have offset : (Int32.ofNat (page * size.toInt.toNat)).toInt =
      (page * size.toInt.toNat : Nat) :=
    Int32.toInt_ofNat_of_lt inRange
  have rows : ids.filterMap (loadedRow
      (presentation.asking (Int32.ofNat (page * size.toInt.toNat)) size) load
      (Int32.ofNat (page * size.toInt.toNat)) size) =
        (ids.map lists).map (Windows.window size.toInt.toNat page) := by
    have row : ∀ id ∈ ids, loadedRow
        (presentation.asking (Int32.ofNat (page * size.toInt.toNat)) size)
        load (Int32.ofNat (page * size.toInt.toNat)) size id =
          some (Windows.window size.toInt.toNat page (lists id)) := by
      intro id listed
      obtain ⟨collection, found, plain⟩ := unfiltered.known id listed
      obtain ⟨answer, loaded, -, shown⟩ := serves.answer listed offset
        (Int.le_of_lt (one_le_toInt positive))
      have same : (presentation.asking (Int32.ofNat
          (page * size.toInt.toNat)) size).collection (Int32.ofNat id) =
            some collection :=
        found
      have kept : excludesWatched (presentation.asking (Int32.ofNat
          (page * size.toInt.toNat)) size) collection = false :=
        plain
      rw [loadedRow, same, loaded]
      dsimp only
      rw [kept, shown]
      rfl
    rw [List.map_map, ← List.filterMap_eq_map]
    exact List.filterMap_congr row
  have held := @holds_collectionsChildren
    (presentation.asking (Int32.ofNat (page * size.toInt.toNat)) size) on load
    (Int32.ofNat (page * size.toInt.toNat)) size
    (by simp [childrenOffset, Presentation.asking, unfiltered.off])
    (by simp [childrenLimit, Presentation.asking, unfiltered.off])
    (fun id answer => serves.oneList id _ _ answer) ids
  rw [rows, ← List.flatMap_def] at held
  exact held

/-- Totals are 32-bit numbers, so the starts outgrow them. -/
theorem exists_last_page (positive : 1 ≤ size) :
    ∃ last, (∀ page < last, announced size (page + 1)
        (servedPage presentation load ids size page) = true) ∧
      announced size (last + 1)
        (servedPage presentation load ids size last) = false := by
  have ends : announced size (2 ^ 31 + 1)
      (servedPage presentation load ids size (2 ^ 31)) = false := by
    have one := one_le_toInt positive
    have below := ((servedPage presentation load ids size
      (2 ^ 31)).totalSize.getD 0).toInt_lt
    have many : 2 ^ 31 + 1 ≤ (2 ^ 31 + 1) * size.toInt.toNat :=
      Nat.le_mul_of_pos_right _ (by omega)
    rw [announced, decide_eq_false_iff_not]
    omega
  obtain ⟨last, -, goes, stops⟩ := Windows.exists_last ends
  exact ⟨last, goes, stops⟩

/-- Every start the client asks for is a 32-bit number. -/
theorem start_lt_of_goes {last : Nat}
    (goes : ∀ page < last, announced size (page + 1)
      (servedPage presentation load ids size page) = true)
    {page : Nat} (visited : page ≤ last) :
    page * size.toInt.toNat < 2 ^ 31 := by
  cases page with
  | zero => simp
  | succ page =>
      have more := goes page visited
      have below := ((servedPage presentation load ids size
        page).totalSize.getD 0).toInt_lt
      rw [announced, decide_eq_true_eq] at more
      omega

/-- What the pages up to the last one show, whatever their order. -/
theorem perm_visited (on : presentation.settings.interleave = true)
    {lists : Nat → List MetaData} (serves : ServesWindows load ids lists)
    (unfiltered : Unfiltered presentation ids) (positive : 1 ≤ size)
    {last : Nat}
    (goes : ∀ page < last, announced size (page + 1)
      (servedPage presentation load ids size page) = true) :
    (((List.range (last + 1)).map
      (servedPage presentation load ids size)).flatMap
        MediaContainer.metadata).Perm
      ((((ids.map lists).flatMap
        (·.take ((last + 1) * size.toInt.toNat))).filter
          (hubRestrictionFilter presentation)).map
            (renderChild presentation ids)) := by
  have each : ∀ page ∈ List.range (last + 1),
      (servedPage presentation load ids size page).metadata.Perm
        ((((ids.map lists).flatMap
          (Windows.window size.toInt.toNat page)).filter
            (hubRestrictionFilter presentation)).map
              (renderChild presentation ids)) := by
    intro page listed
    have visited : page ≤ last :=
      Nat.lt_succ_iff.mp (List.mem_range.mp listed)
    have held := holds_servedPage on serves unfiltered positive
      (start_lt_of_goes goes visited)
    have metadata := (List.cons.inj held.lists).1
    rw [metadata, List.flatMap_def]
    have merged := (Shuffles.foldl shuffle_interleave []
      ((ids.map lists).map (Windows.window size.toInt.toNat page))).perm
    exact (merged.filter _).map _
  rw [List.flatMap_map]
  refine (List.Perm.flatMap_left _ each).trans ?_
  rw [← List.map_flatMap, ← List.filter_flatMap]
  exact ((Windows.perm_flatMap_window _ _ _).filter _).map _

/-- Nothing is lost of some lists that are cut off and filtered. -/
theorem perm_taken_iff {count : Nat} {lists : List (List MetaData)}
    {keep : MetaData → Bool} {render : MetaData → MetaData} :
    (((lists.flatMap (·.take count)).filter keep).map render).Perm
        (lists.flatten.map render) ↔
      (∀ list ∈ lists, list.length ≤ count) ∧
        ∀ child ∈ lists.flatten, keep child = true := by
  constructor
  · intro perm
    have lengths := perm.length_eq
    rw [List.length_map, List.length_map] at lengths
    have filtered :=
      List.length_filter_le keep (lists.flatMap (·.take count))
    have taken := Windows.length_flatMap_take_le count lists
    have covered := Windows.length_flatMap_take_eq_iff.mp
      (show (lists.flatMap (·.take count)).length = lists.flatten.length by
        omega)
    rw [Windows.flatMap_take_eq covered] at lengths
    exact ⟨covered, List.length_filter_eq_length_iff.mp lengths⟩
  · rintro ⟨covered, kept⟩
    rw [Windows.flatMap_take_eq covered, List.filter_eq_self.mpr kept]

theorem perm_taken_iff_lists {ids : List Nat}
    {lists : Nat → List MetaData} {count : Nat} {keep : MetaData → Bool}
    {render : MetaData → MetaData} :
    ((((ids.map lists).flatMap (·.take count)).filter keep).map render).Perm
        ((ids.map lists).flatten.map render) ↔
      (∀ id ∈ ids, (lists id).length ≤ count) ∧
        ∀ id ∈ ids, ∀ child ∈ lists id, keep child = true := by
  rw [perm_taken_iff, List.forall_mem_map]
  simp only [List.mem_flatten, List.mem_map]
  grind

/-- The condition under which reading on is announced as long as it should be,
and nothing is withheld. -/
structure AnnouncesRest (presentation : Presentation) (ids : List Nat)
    (size : Int32) (lists : Nat → List MetaData) : Prop where
  announces : ∀ page,
    (∃ id ∈ ids, (page + 1) * size.toInt.toNat < (lists id).length) →
      (((page + 1) * size.toInt.toNat : Nat) : Int) <
        (pageTotal ids size lists page).toInt
  unrestricted : ∀ id ∈ ids, ∀ child ∈ lists id,
    hubRestrictionFilter presentation child = true

/-- Paging shows everything exactly when each page that leaves something over
reports a total beyond the next start. -/
theorem visits_everything_iff
    (on : presentation.settings.interleave = true)
    {lists : Nat → List MetaData} (serves : ServesWindows load ids lists)
    (unfiltered : Unfiltered presentation ids) (positive : 1 ≤ size) :
    VisitsEverything presentation load ids size lists ↔
      AnnouncesRest presentation ids size lists := by
  obtain ⟨last, goes, stops⟩ :=
    @exists_last_page presentation load ids size positive
  have visits := Windows.visit_eq goes stops
  have perm := perm_visited on serves unfiltered positive goes
  have total {page : Nat} (visited : page ≤ last) :
      (servedPage presentation load ids size page).totalSize =
        some (pageTotal ids size lists page) :=
    (holds_servedPage on serves unfiltered positive
      (start_lt_of_goes goes visited)).totalSize
  have everything : VisitsEverything presentation load ids size lists ↔
      (∀ id ∈ ids, (lists id).length ≤ (last + 1) * size.toInt.toNat) ∧
        ∀ id ∈ ids, ∀ child ∈ lists id,
          hubRestrictionFilter presentation child = true := by
    have shown : VisitsEverything presentation load ids size lists ↔
        (((List.range (last + 1)).map
          (servedPage presentation load ids size)).flatMap
            MediaContainer.metadata).Perm
          ((ids.flatMap lists).map (renderChild presentation ids)) := by
      constructor
      · rintro ⟨fuel, pages, visited, all⟩
        rw [visits fuel] at visited
        split at visited
        · cases visited
          exact all
        · cases visited
      · intro all
        exact ⟨last + 1, _, by rw [visits, if_pos (Nat.lt_succ_self last)],
          all⟩
    rw [shown, List.flatMap_def (l := ids), ← perm_taken_iff_lists]
    exact ⟨perm.symm.trans, perm.trans⟩
  rw [everything]
  constructor
  · rintro ⟨covered, kept⟩
    refine ⟨?_, kept⟩
    rintro page ⟨id, listed, longer⟩
    have before : page < last := by
      have most := covered id listed
      by_contra notBefore
      have more : (last + 1) * size.toInt.toNat ≤
          (page + 1) * size.toInt.toNat :=
        Nat.mul_le_mul_right _ (by omega)
      omega
    have more := goes page before
    rw [announced, total (Nat.le_of_lt before), decide_eq_true_eq] at more
    exact more
  · intro announces
    refine ⟨?_, announces.unrestricted⟩
    intro id listed
    by_contra longer
    have more := announces.announces last ⟨id, listed, by omega⟩
    rw [announced, total le_rfl, decide_eq_false_iff_not] at stops
    exact stops more

end

def windowsOf (lists : Nat → List MetaData) : ChildrenLoader :=
  fun id start size => some
    { metadata :=
        ((lists id).drop start.toInt.toNat).take size.toInt.toNat }

theorem servesWindows_windowsOf (ids : List Nat)
    (lists : Nat → List MetaData) :
    ServesWindows (windowsOf lists) ids lists where
  oneList id start size page loaded := by
    cases loaded
    rw [OneList, MediaContainer.items, MediaContainer.lists,
      children_of_metadata]
    simp
  window id _ start size _ _ :=
    ⟨_, rfl, children_of_metadata _⟩

def openPresentation : Presentation :=
  { unwatchedPresentation with settings := { excludeWatched := false } }

theorem unfiltered_openPresentation (ids : List Nat) :
    Unfiltered openPresentation ids where
  off := rfl
  known _ _ := ⟨{}, rfl, rfl⟩

theorem two_short_collections_visited :
    VisitsEverything openPresentation
      (windowsOf fun id => [{ title := toString id }]) [1, 2] 1
      fun id => [{ title := toString id }] := by
  apply (visits_everything_iff rfl (servesWindows_windowsOf _ _)
    (unfiltered_openPresentation _) (by decide)).mpr
  constructor
  · rintro page ⟨id, -, longer⟩
    have one : (1 : Int32).toInt.toNat = 1 := by decide
    simp only [one, List.length_singleton] at longer
    omega
  · intro id _ child listed
    rw [List.mem_singleton.mp listed]
    rfl

/-- The first page of one collection counts itself, and the client stops. -/
theorem second_film_never_asked_for :
    ¬ ∀ (presentation : Presentation) (load : ChildrenLoader)
      (ids : List Nat) (size : Int32) (lists : Nat → List MetaData),
      presentation.settings.interleave = true →
      ServesWindows load ids lists → Unfiltered presentation ids →
      1 ≤ size → VisitsEverything presentation load ids size lists := by
  intro every
  let lists : Nat → List MetaData := fun _ =>
    [{ title := "Alien" }, { title := "Heat" }]
  obtain ⟨fuel, pages, visited, all⟩ := every openPresentation
    (windowsOf lists) [1] 1 lists rfl (servesWindows_windowsOf [1] lists)
    (unfiltered_openPresentation [1]) (by decide)
  cases fuel with
  | zero => cases visited
  | succ fuel =>
      have stops : announced 1 1
          (servedPage openPresentation (windowsOf lists) [1] 1 0) = false := by
        decide +kernel
      rw [Windows.visit, stops] at visited
      cases visited
      have lengths := all.length_eq
      revert lengths
      decide +kernel

/-! Following the key of one row. -/

section

variable (matchPath : (pattern path : String) → Option Params)
  (config : Config) (lookups : Lookups) (options : PlexContext)
  (load : ChildrenLoader)

/-- What a client sees under a configuration. -/
def configuredPresentation : Presentation where
  toLookups := lookups
  settings := config.toDisplaySettings
  options := options

def requestedStart : Int32 :=
  options.containerStart.getD 0

def requestedSize : Int32 :=
  options.containerSize.getD 50

/-- Plex's answer without what is to be left out as watched. -/
def unwatchedPart (presentation : Presentation)
    (collection : MediaContainer) (children : List MetaData) :
    List MetaData :=
  if excludesWatched presentation collection then
    children.filter fun child => !child.isWatched
  else
    children

def requestedChildren (collection : MediaContainer)
    (children : List MetaData) : List MetaData :=
  unwatchedPart (configuredPresentation config lookups options) collection
    ((children.drop (requestedStart options).toInt.toNat).take
      (requestedSize options).toInt.toNat)

/-- The key of the row leads to the children that were asked for. -/
def RowWorks (hub : MetaData) (id : Nat) (collection : MediaContainer)
    (children : List MetaData) : Prop :=
  ∃ key text,
    (hubKeyTransform.transformMetadata hub).key = some key ∧
    selectHandler matchPath config .get key = .getCollectionsChildren text ∧
    (collectionsChildrenContainer
        (configuredPresentation config lookups options) load
        (readIds text)).metadata =
      (requestedChildren config lookups options collection children).map
        (renderChild (configuredPresentation config lookups options) [id])

/-- With interleaving and an id that is read, the window that is loaded shows
what the requested one would; otherwise there was nothing to show. -/
def WindowKept (id : Nat) (collection : MediaContainer)
    (children : List MetaData) : Prop :=
  if config.interleave = true ∧ id < 2 ^ 32 then
    if config.excludeWatched = true then
      (((unwatchedPart (configuredPresentation config lookups options)
          collection (children.take 250)).filter (hubRestrictionFilter
            (configuredPresentation config lookups options))).map
          (renderChild (configuredPresentation config lookups options) [id])) =
        (requestedChildren config lookups options collection children).map
          (renderChild (configuredPresentation config lookups options) [id])
    else
      ∀ child ∈ requestedChildren config lookups options collection children,
        hubRestrictionFilter (configuredPresentation config lookups options)
          child = true
  else
    requestedChildren config lookups options collection children = []

variable {matchPath config lookups options load}

theorem readIds_toString (id : Nat) :
    readIds (toString id) = if id < 2 ^ 32 then [id] else [] := by
  have noComma : ',' ∉ (toString id).toList := by
    intro listed
    have digit := DecimalText.isDigit_of_mem_toString listed
    revert digit
    decide
  rw [readIds, Text.split_of_not_mem noComma]
  split
  next small =>
    rw [List.filterMap_cons_some (DecimalText.uint32?_toString small)]
    rfl
  next large =>
    rw [List.filterMap_cons_none (DecimalText.uint32?_toString_of_le
      (not_lt.mp large))]
    rfl

theorem isSegment_toString (id : Nat) : IsSegment (toString id) := by
  have same : joinIds [id] = toString id := by
    unfold joinIds
    rw [List.map_cons, List.map_nil, String.intercalate_singleton]
  rw [← same]
  exact isSegment_joinIds (List.cons_ne_nil id [])

/-- The row of the collection in the answer. -/
theorem metadata_of_window {collection : MediaContainer} {id : Nat}
    (accessible : lookups.collection (Int32.ofNat id) = some collection)
    {children : List MetaData}
    (serves : ServesWindows load [id] fun _ => children)
    (on : config.interleave = true)
    (start : 0 ≤ requestedStart options)
    (size : 0 ≤ requestedSize options) :
    (collectionsChildrenContainer
        (configuredPresentation config lookups options) load [id]).metadata =
      (((unwatchedPart (configuredPresentation config lookups options)
          collection
          (if config.excludeWatched = true then children.take 250
          else (children.drop (requestedStart options).toInt.toNat).take
            (requestedSize options).toInt.toNat)).filter
              (hubRestrictionFilter
                (configuredPresentation config lookups options))).map
        (renderChild (configuredPresentation config lookups options) [id])) := by
  have row {offset limit : Int32} (later : 0 ≤ offset) (some : 0 ≤ limit) :
      [id].filterMap (loadedRow (configuredPresentation config lookups options)
        load offset limit) =
          [unwatchedPart (configuredPresentation config lookups options)
            collection ((children.drop offset.toInt.toNat).take
              limit.toInt.toNat)] := by
    obtain ⟨page, loaded, shown⟩ :=
      serves.window id (List.mem_singleton_self id) offset limit later some
    have found : (configuredPresentation config lookups options).collection
        (Int32.ofNat id) = Option.some collection :=
      accessible
    have contributes : loadedRow (configuredPresentation config lookups options)
        load offset limit id = Option.some (unwatchedPart
          (configuredPresentation config lookups options) collection
          ((children.drop offset.toInt.toNat).take limit.toInt.toNat)) := by
      rw [loadedRow, found, loaded, ← shown]
      unfold unwatchedPart
      dsimp only
      split <;> rfl
    rw [List.filterMap_cons_some contributes]
    rfl
  have held := (@holds_collectionsChildren
    (configuredPresentation config lookups options) on _ _ _ rfl rfl
    (fun other page => serves.oneList other _ _ page) [id]).lists
  rw [(List.cons.inj held).1]
  have settings : (configuredPresentation config lookups
      options).settings.excludeWatched = config.excludeWatched :=
    rfl
  rw [settings]
  cases config.excludeWatched with
  | true =>
      have offset : childrenOffset true
          (configuredPresentation config lookups options).options = 0 :=
        rfl
      have limit : childrenLimit true
          (configuredPresentation config lookups options).options = 250 :=
        rfl
      rw [offset, limit, row (by decide) (by decide)]
      rfl
  | false =>
      have offset : childrenOffset false
          (configuredPresentation config lookups options).options =
            requestedStart options :=
        rfl
      have limit : childrenLimit false
          (configuredPresentation config lookups options).options =
            requestedSize options :=
        rfl
      rw [offset, limit, row start size]
      rfl

/-- A row works under its own key exactly when the window is kept. -/
theorem row_works_iff (matching : MatchesSegments matchPath)
    {hub : MetaData} (isHub : hub.isHub = true) {id : Nat}
    (key : hub.key = some (childrenKey (toString id)))
    (styled : IsSegment (hub.style.getD "shelf"))
    {collection : MediaContainer}
    (accessible : lookups.collection (Int32.ofNat id) = some collection)
    {children : List MetaData}
    (serves : ServesWindows load [id] fun _ => children)
    (start : 0 ≤ requestedStart options)
    (size : 0 ≤ requestedSize options) :
    RowWorks matchPath config lookups options load hub id collection
        children ↔
      WindowKept config lookups options id collection children := by
  have reached := selectHandler_keySegments matching config styled
    (isSegment_toString id)
  have works : RowWorks matchPath config lookups options load hub id
        collection children ↔
      (collectionsChildrenContainer
          (configuredPresentation config lookups options) load
          (readIds (toString id))).metadata =
        (requestedChildren config lookups options collection children).map
          (renderChild (configuredPresentation config lookups options)
            [id]) := by
    constructor
    · rintro ⟨path, text, keyed, selected, shown⟩
      rw [key_hubKeyTransform isHub key] at keyed
      cases keyed
      rw [reached] at selected
      cases selected
      exact shown
    · intro shown
      exact ⟨_, _, key_hubKeyTransform isHub key, reached, shown⟩
  rw [works, readIds_toString, WindowKept]
  by_cases loads : config.interleave = true ∧ id < 2 ^ 32
  · rw [if_pos loads, if_pos loads.2,
      metadata_of_window accessible serves loads.1 start size]
    by_cases excluded : config.excludeWatched = true
    · rw [if_pos excluded, if_pos excluded]
    · rw [if_neg excluded, if_neg excluded]
      change ((requestedChildren config lookups options collection
        children).filter _).map _ = _ ↔ _
      constructor
      · intro same
        have lengths := congrArg List.length same
        rw [List.length_map, List.length_map] at lengths
        exact List.length_filter_eq_length_iff.mp lengths
      · intro kept
        rw [List.filter_eq_self.mpr kept]
  · rw [if_neg loads]
    have nothing : (collectionsChildrenContainer
        (configuredPresentation config lookups options) load
        (if id < 2 ^ 32 then [id] else [])).metadata = [] := by
      cases on : config.interleave with
      | false =>
          have held := @holds_collectionsChildren_of_off
            (configuredPresentation config lookups options) on load
            (if id < 2 ^ 32 then [id] else [])
          exact (List.cons.inj held.lists).1
      | true =>
          rw [if_neg fun small => loads ⟨on, small⟩]
          have held := (@holds_collectionsChildren
            (configuredPresentation config lookups options) on _ _ _ rfl rfl
            (fun other page => serves.oneList other _ _ page)
            []).lists
          exact (List.cons.inj held).1
    rw [nothing, eq_comm, List.map_eq_nil_iff]

end

def alien : List MetaData :=
  [{ title := "Alien" }]

theorem key_firstMovies :
    firstMovies.key = some (childrenKey (toString 1)) := by
  decide +kernel

theorem movies_row_works :
    RowWorks segmentMatch { excludeWatched := false }
      unwatchedPresentation.toLookups {} (windowsOf fun _ => alien)
      firstMovies 1 {} alien := by
  refine (row_works_iff segmentMatch_matchesSegments (by decide)
    key_firstMovies (isSegment_ofList (by simp) (by simp) (by simp) (by decide)) rfl
    (servesWindows_windowsOf [1] fun _ => alien) (by decide)
    (by decide)).mpr ?_
  rw [WindowKept, if_pos ⟨rfl, by decide⟩, if_neg (by decide)]
  decide +kernel

/-- The key of a row leads to the proxy, which loads nothing for it. -/
theorem movies_row_empty_without_interleaving :
    ¬ ∀ (matchPath : (pattern path : String) → Option Params)
      (config : Config) (lookups : Lookups) (options : PlexContext)
      (load : ChildrenLoader) (hub : MetaData) (id : Nat)
      (collection : MediaContainer) (children : List MetaData),
      MatchesSegments matchPath → hub.isHub = true →
      hub.key = some (childrenKey (toString id)) →
      IsSegment (hub.style.getD "shelf") →
      lookups.collection (Int32.ofNat id) = some collection →
      ServesWindows load [id] (fun _ => children) →
      0 ≤ requestedStart options → 0 ≤ requestedSize options →
        RowWorks matchPath config lookups options load hub id collection
          children := by
  intro every
  obtain ⟨key, text, -, -, shown⟩ := every segmentMatch
    { interleave := false, excludeWatched := false }
    unwatchedPresentation.toLookups {} (windowsOf fun _ => alien) firstMovies 1
    {} alien segmentMatch_matchesSegments (by decide) key_firstMovies
    (isSegment_ofList (by simp) (by simp) (by simp) (by decide)) rfl
    (servesWindows_windowsOf [1] fun _ => alien) (by decide) (by decide)
  have held := @holds_collectionsChildren_of_off
    (configuredPresentation { interleave := false, excludeWatched := false }
      unwatchedPresentation.toLookups {}) rfl
    (windowsOf fun _ => alien) (readIds text)
  have lengths := congrArg List.length shown
  rw [(List.cons.inj held.lists).1] at lengths
  revert lengths
  decide +kernel

end Replex
