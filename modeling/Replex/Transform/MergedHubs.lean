import Mathlib.Data.List.Perm.Subperm
import Replex.Data.Gather
import Replex.Data.Shuffle
import Replex.Transform.Presentation

namespace Replex

open Data MetaData

/-! What becomes of rows when rows of the same title are merged. -/

theorem shuffle_interleave {α : Type} (left right : List α) :
    Shuffle left right (interleave left right) := by
  induction left generalizing right with
  | nil => exact .nil_left right
  | cons leftHead left hypothesis =>
      cases right with
      | nil => exact .nil_right _
      | cons rightHead right => exact .left (.right (hypothesis right))

@[simp] theorem interleave_nil {α : Type} (left : List α) :
    interleave left [] = left := by
  cases left <;> rfl

@[simp] theorem nil_interleave {α : Type} (right : List α) :
    interleave [] right = right := by
  cases right <;> rfl

theorem foldl_interleave_eq_nil_iff {α : Type} {rows : List (List α)} :
    rows.foldl interleave [] = [] ↔ ∀ row ∈ rows, row = [] := by
  have perm := (Shuffles.foldl shuffle_interleave [] rows).perm
  rw [List.nil_append] at perm
  rw [← List.flatten_eq_nil_iff]
  constructor
  · intro empty
    rw [empty] at perm
    exact perm.nil_eq.symm
  · intro empty
    rw [empty] at perm
    exact perm.eq_nil

/-! The setter writes where the getter reads. -/

namespace MetaData

@[simp] theorem title_setChildren (item : MetaData) (value : List MetaData) :
    (item.setChildren value).title = item.title := by
  unfold setChildren
  grind

@[simp] theorem key_setChildren (item : MetaData) (value : List MetaData) :
    (item.setChildren value).key = item.key := by
  unfold setChildren
  grind

@[simp] theorem isCollectionHub_setChildren (item : MetaData)
    (value : List MetaData) :
    (item.setChildren value).isCollectionHub = item.isCollectionHub := by
  unfold setChildren isCollectionHub isHub
  grind

theorem children_setChildren (item : MetaData) (value : List MetaData)
    (some : item.children ≠ []) (values : value ≠ []) :
    (item.setChildren value).children = value := by
  unfold setChildren children at *
  grind

/-- Without a list to replace the value goes nowhere. -/
theorem children_setChildren_of_nil (item : MetaData)
    (value : List MetaData) (none : item.children = []) :
    (item.setChildren value).children = [] := by
  unfold setChildren children at *
  grind

end MetaData

theorem MediaContainer.children_setChildren (container : MediaContainer)
    (value : List MetaData) (some : container.children ≠ [])
    (values : value ≠ []) :
    (container.setChildren value).children = value := by
  unfold MediaContainer.setChildren MediaContainer.children at *
  grind

/-! The merge is a gathering by title. -/

def mergeHub (earlier hub : MetaData) : MetaData :=
  { earlier with
    key := some (mergeChildrenKeys (earlier.key.getD "") (hub.key.getD ""))
    : MetaData }.setChildren (interleave earlier.children hub.children)

def hubGathering : Gathering MetaData String where
  label := MetaData.title
  accepts earlier hub :=
    earlier.key.isSome && hub.key.isSome && hub.isCollectionHub
  merge := mergeHub
  label_merge earlier hub := by simp [mergeHub]
  accepts_merge accepted other := by
    simp only [Bool.and_eq_true] at accepted
    simp [mergeHub, accepted.1.1]

def isShown (hub : MetaData) : Bool :=
  hub.size.getD 0 != 0

theorem isShown_of_pos {hub : MetaData} (positive : 0 < hub.size.getD 0) :
    isShown hub = true := by
  simp only [isShown, bne_iff_ne, ne_eq]
  intro zero
  rw [zero] at positive
  exact absurd positive (by decide)

theorem interleaveHub_eq (newHubs : List MetaData) (hub : MetaData) :
    interleaveHub newHubs hub =
      if isShown hub = true then hubGathering.absorb newHubs hub
      else newHubs := by
  unfold interleaveHub
  by_cases shown : isShown hub = true
  · have sized : ¬ hub.size.getD 0 = 0 := by simpa [isShown] using shown
    rw [if_neg sized, if_pos shown]
    cases collection : hub.isCollectionHub with
    | false =>
        rw [hubGathering.absorb_of_refused (by simp [hubGathering, collection])]
        rfl
    | true =>
        rw [Gathering.absorb_eq]
        dsimp only [hubGathering]
        cases newHubs.findIdx? fun other => other.title == hub.title with
        | none => rfl
        | some index =>
            dsimp only
            cases newHubs[index]? with
            | none => rfl
            | some earlier =>
                simp only [collection, Bool.not_true, Bool.false_eq_true,
                  if_false]
                split
                next left right => simp [left, right, mergeHub]
                next missing =>
                  rw [if_neg]
                  simp only [Bool.and_true, Bool.and_eq_true,
                    Option.isSome_iff_exists]
                  rintro ⟨⟨leftKey, left⟩, rightKey, right⟩
                  exact missing leftKey rightKey left right
  · have unsized : hub.size.getD 0 = 0 := by simpa [isShown] using shown
    rw [if_pos unsized, if_neg shown]

theorem foldl_interleaveHub (hubs : List MetaData) :
    hubs.foldl interleaveHub [] =
      hubGathering.gather (hubs.filter isShown) := by
  have run (newHubs : List MetaData) :
      hubs.foldl interleaveHub newHubs =
        (hubs.filter isShown).foldl hubGathering.absorb newHubs := by
    induction hubs generalizing newHubs with
    | nil => rfl
    | cons hub hubs hypothesis =>
        rw [List.foldl_cons, hypothesis, interleaveHub_eq, List.filter_cons]
        split <;> rfl
  exact run []

/-- The rows of the answer, when there are any. -/
theorem apply_hubInterleave {presentation : Presentation}
    (on : presentation.settings.interleave = true)
    (container : MediaContainer) :
    (hubInterleaveTransform presentation).apply container =
      container.setChildren
        (hubGathering.gather (container.children.filter isShown)) := by
  rw [apply_of_whole rfl rfl]
  unfold hubInterleaveTransform
  simp only [on, if_true, foldl_interleaveHub]

theorem children_apply_hubInterleave {presentation : Presentation}
    (on : presentation.settings.interleave = true)
    {container : MediaContainer}
    (some : container.children.filter isShown ≠ []) :
    ((hubInterleaveTransform presentation).apply container).children =
      hubGathering.gather (container.children.filter isShown) := by
  rw [apply_hubInterleave on]
  apply MediaContainer.children_setChildren
  · intro none
    rw [none] at some
    exact some rfl
  · exact hubGathering.gather_ne_nil some

/-- What the merges leave in a row: everything, or nothing at all when the row
they started from had nothing. -/
theorem children_foldl_mergeHub (first : MetaData) (hubs : List MetaData) :
    (hubs.foldl mergeHub first).children =
      if first.children = [] then []
      else (hubs.map MetaData.children).foldl interleave first.children := by
  induction hubs generalizing first with
  | nil =>
      simp only [List.foldl_nil, List.map_nil]
      split
      next none => exact none
      next => rfl
  | cons hub hubs hypothesis =>
      rw [List.foldl_cons, hypothesis, List.map_cons, List.foldl_cons]
      by_cases none : first.children = []
      · rw [if_pos none, if_pos]
        exact children_setChildren_of_nil _ _ none
      · have values : interleave first.children hub.children ≠ [] := by
          intro empty
          have kept := (shuffle_interleave first.children
            hub.children).left_sublist
          rw [empty, List.sublist_nil] at kept
          exact none kept
        have merged : (mergeHub first hub).children =
            interleave first.children hub.children :=
          children_setChildren _ _ none values
        rw [if_neg none, merged, if_neg values]

/-! One title. -/

/-- The row every later one of its title is compared with. -/
def firstShown (title : String) (hubs : List MetaData) : Option MetaData :=
  hubs.find? fun hub => isShown hub && hub.title == title

/-- The rows of a title that are compared at all. -/
def titledHubs (title : String) (hubs : List MetaData) : List MetaData :=
  (hubs.filter isShown).filter (hubGathering.labelled title)

theorem mem_titledHubs {title : String} {hubs : List MetaData}
    {hub : MetaData} :
    hub ∈ titledHubs title hubs ↔
      hub ∈ hubs ∧ isShown hub = true ∧ hub.title = title := by
  simp [titledHubs, Gathering.labelled, hubGathering, and_comm]

theorem firstShown_eq_head? (title : String) (hubs : List MetaData) :
    firstShown title hubs = (titledHubs title hubs).head? := by
  rw [titledHubs, List.filter_filter, List.head?_filter, firstShown]
  simp only [Bool.and_comm (isShown _)]
  rfl

theorem gather_titledHubs {title : String} {hubs : List MetaData}
    {first : MetaData} {rest : List MetaData}
    (titled : titledHubs title hubs = first :: rest) :
    (hubGathering.gather (hubs.filter isShown)).filter
        (hubGathering.labelled title) =
      (rest.filter (hubGathering.accepts first)).foldl mergeHub first ::
        rest.filter fun hub => !hubGathering.accepts first hub := by
  have same : ∀ hub ∈ first :: rest, hub.title = title := by
    intro hub listed
    rw [← titled] at listed
    exact (mem_titledHubs.mp listed).2.2
  rw [hubGathering.filter_gather]
  change hubGathering.gather (titledHubs title hubs) = _
  rw [titled]
  apply hubGathering.gather_alike
  intro hub listed
  exact (same hub (List.mem_cons_of_mem first listed)).trans
    (same first List.mem_cons_self).symm

def collectionHubs (title : String) (hubs : List MetaData) : List MetaData :=
  hubs.filter fun hub => hub.isCollectionHub && hub.title == title

/-- A row that holds every child of its sources once, taking turns. -/
structure Interleaved (sources : List MetaData) (merged : MetaData) :
    Prop where
  inTurn : merged.children =
    (sources.map MetaData.children).foldl interleave []
  once : merged.children.Perm (sources.flatMap MetaData.children)
  inOrder : ∀ source ∈ sources, source.children.Sublist merged.children

theorem interleaved_iff {sources : List MetaData} {merged : MetaData} :
    Interleaved sources merged ↔
      merged.children =
        (sources.map MetaData.children).foldl interleave [] := by
  constructor
  · exact Interleaved.inTurn
  · intro inTurn
    have shuffled := Shuffles.foldl shuffle_interleave []
      (sources.map MetaData.children)
    rw [← inTurn] at shuffled
    refine ⟨inTurn, ?_, ?_⟩
    · simpa [List.flatMap_def] using shuffled.perm
    · intro source listed
      exact shuffled.row_sublist (List.mem_map_of_mem listed)

/-- Of the collection rows of a title one is left, and it has lost nothing. -/
def MergesAllChildren (presentation : Presentation)
    (container : MediaContainer) (title : String) : Prop :=
  ∃ merged,
    collectionHubs title
        ((hubInterleaveTransform presentation).apply container).children =
      [merged] ∧
    Interleaved (collectionHubs title container.children) merged

/-- The first row of a title can take in the collection rows: it is one of
them and has a list to put them in, or it leaves a single one alone. -/
def MakesRoom (hubs : List MetaData) (title : String) (first : MetaData) :
    Prop :=
  if first.isCollectionHub = true then
    first.children ≠ [] ∨
      ∀ source ∈ collectionHubs title hubs, source.children = []
  else
    first.key = none ∧ (collectionHubs title hubs).length = 1

theorem isCollectionHub_foldl_mergeHub (first : MetaData)
    (hubs : List MetaData) :
    (hubs.foldl mergeHub first).isCollectionHub = first.isCollectionHub := by
  induction hubs generalizing first with
  | nil => rfl
  | cons hub hubs hypothesis =>
      rw [List.foldl_cons, hypothesis]
      exact isCollectionHub_setChildren _ _

/-- What is left of the rows of one title, the first of which is `first`. -/
theorem collectionHubs_gather {title : String} {first : MetaData}
    {rest : List MetaData}
    (titled : ∀ hub ∈ first :: rest, hub.title = title)
    (keyed : ∀ hub ∈ first :: rest,
      hub.isCollectionHub = true → hub.key.isSome = true) :
    (hubGathering.gather (first :: rest)).filter MetaData.isCollectionHub =
      if first.isCollectionHub = true then
        [(rest.filter MetaData.isCollectionHub).foldl mergeHub first]
      else if first.key = none then
        rest.filter MetaData.isCollectionHub
      else
        [] := by
  have alike : ∀ hub ∈ rest,
      hubGathering.label hub = hubGathering.label first := by
    intro hub listed
    exact (titled hub (List.mem_cons_of_mem first listed)).trans
      (titled first List.mem_cons_self).symm
  have accepts : ∀ hub ∈ rest, hubGathering.accepts first hub =
      (first.key.isSome && hub.isCollectionHub) := by
    intro hub listed
    have key := keyed hub (List.mem_cons_of_mem first listed)
    dsimp only [hubGathering]
    cases collection : hub.isCollectionHub with
    | false => simp
    | true => simp [key collection]
  have refuses : (rest.filter fun hub => !hubGathering.accepts first hub) =
      rest.filter fun hub => !(first.key.isSome && hub.isCollectionHub) :=
    List.filter_congr fun hub listed => by rw [accepts hub listed]
  have head (hubs : List MetaData) :
      (hubs.foldl hubGathering.merge first).isCollectionHub =
        first.isCollectionHub :=
    isCollectionHub_foldl_mergeHub first hubs
  rw [hubGathering.gather_alike alike, List.filter_congr accepts, refuses,
    List.filter_cons, head, List.filter_filter]
  by_cases collection : first.isCollectionHub = true
  · have key := keyed first List.mem_cons_self collection
    simp only [if_pos collection, key, Bool.true_and, Bool.and_not_self,
      List.filter_false]
    rfl
  · rw [if_neg collection, if_neg collection]
    cases key : first.key with
    | none => simp
    | some key => simp

theorem collectionHubs_eq_filter (title : String) (hubs : List MetaData) :
    collectionHubs title hubs =
      (hubs.filter (hubGathering.labelled title)).filter
        MetaData.isCollectionHub := by
  rw [List.filter_filter]
  rfl

/-- With every collection row shown, their merge is decided by the rows of
their title alone. -/
theorem merges_iff_titledHubs {presentation : Presentation}
    (on : presentation.settings.interleave = true)
    {container : MediaContainer} {title : String} {first : MetaData}
    {rest : List MetaData}
    (titled : titledHubs title container.children = first :: rest) :
    MergesAllChildren presentation container title ↔
      ∃ merged,
        (hubGathering.gather (first :: rest)).filter
          MetaData.isCollectionHub = [merged] ∧
        Interleaved (collectionHubs title container.children) merged := by
  have some : container.children.filter isShown ≠ [] := by
    intro none
    rw [titledHubs, none] at titled
    cases titled
  have ours : (hubGathering.gather (container.children.filter isShown)).filter
      (hubGathering.labelled title) =
        hubGathering.gather (first :: rest) := by
    rw [← titled]
    exact hubGathering.filter_gather title _
  unfold MergesAllChildren
  rw [children_apply_hubInterleave on some, collectionHubs_eq_filter, ours]

theorem merges_all_children_iff {presentation : Presentation}
    (on : presentation.settings.interleave = true)
    (container : MediaContainer) (title : String)
    (rows : ∀ hub ∈ collectionHubs title container.children,
      0 < hub.size.getD 0 ∧ hub.key.isSome = true)
    (some : collectionHubs title container.children ≠ []) :
    MergesAllChildren presentation container title ↔
      ∃ first, firstShown title container.children = .some first ∧
        MakesRoom container.children title first := by
  have sources : collectionHubs title container.children =
      (titledHubs title container.children).filter
        MetaData.isCollectionHub := by
    rw [titledHubs, ← collectionHubs_eq_filter, collectionHubs,
      collectionHubs, List.filter_filter]
    apply List.filter_congr
    intro hub listed
    cases ours : hub.isCollectionHub && hub.title == title with
    | false => rfl
    | true =>
        have positive := (rows hub (List.mem_filter.mpr ⟨listed, ours⟩)).1
        rw [isShown_of_pos positive, Bool.and_true]
  cases titled : titledHubs title container.children with
  | nil =>
      rw [titled] at sources
      exact absurd sources some
  | cons first rest =>
      rw [titled] at sources
      have titles : ∀ hub ∈ first :: rest, hub.title = title := by
        intro hub listed
        rw [← titled] at listed
        exact (mem_titledHubs.mp listed).2.2
      have keyed : ∀ hub ∈ first :: rest,
          hub.isCollectionHub = true → hub.key.isSome = true := by
        intro hub listed collection
        apply (rows hub _).2
        rw [sources]
        exact List.mem_filter.mpr ⟨listed, collection⟩
      rw [merges_iff_titledHubs on titled, collectionHubs_gather titles keyed,
        firstShown_eq_head?, titled]
      simp only [List.head?_cons, Option.some.injEq, exists_eq_left']
      unfold MakesRoom
      by_cases collection : first.isCollectionHub = true
      · rw [List.filter_cons_of_pos collection] at sources
        rw [if_pos collection, if_pos collection, sources]
        simp only [List.cons.injEq, and_true, exists_eq_left',
          interleaved_iff, children_foldl_mergeHub, List.map_cons,
          List.foldl_cons, nil_interleave]
        by_cases none : first.children = []
        · rw [if_pos none, none, eq_comm, foldl_interleave_eq_nil_iff,
            List.forall_mem_map]
          simp [none]
        · simp [none]
      · rw [List.filter_cons_of_neg collection] at sources
        rw [if_neg collection, if_neg collection]
        cases key : first.key with
        | none =>
            simp only [if_true, true_and]
            rw [← sources, List.length_eq_one_iff]
            constructor
            · rintro ⟨merged, only, -⟩
              exact ⟨merged, only⟩
            · rintro ⟨merged, only⟩
              refine ⟨merged, only, ?_⟩
              rw [only, interleaved_iff]
              simp
        | some key => simp

def moviesRow (id : String) (films : List MetaData) : MetaData where
  key := some ("/library/collections/" ++ id ++ "/children")
  title := "Movies"
  context := some "hub.custom.collection.1"
  hubIdentifier := some ("custom.collection.1." ++ id)
  size := some (sizeOfLength films.length)
  metadata := films

def unwatchedPresentation : Presentation where
  collection := fun _ => some {}
  sectionCollections := fun _ => none
  settings := { excludeWatched := true }
  options := {}

theorem two_movie_rows_merge :
    MergesAllChildren unwatchedPresentation
      { hub := [moviesRow "1" [{ title := "Alien" }],
          moviesRow "2" [{ title := "Heat" }]] } "Movies" := by
  refine (merges_all_children_iff rfl _ _ (by decide +kernel)
    (by decide +kernel)).mpr ⟨moviesRow "1" [{ title := "Alien" }], rfl, ?_⟩
  rw [MakesRoom, if_pos (by decide +kernel)]
  exact .inl (by decide +kernel)

/-- Watched films have just gone from the first row, and the films of the
second have nowhere to go. -/
theorem row_emptied_of_watched_films_swallows_the_next :
    ¬ ∀ (presentation : Presentation) (container : MediaContainer)
      (title : String),
      presentation.settings.interleave = true →
      (∀ hub ∈ collectionHubs title container.children,
        0 < hub.size.getD 0 ∧ hub.key.isSome = true) →
      collectionHubs title container.children ≠ [] →
        MergesAllChildren presentation container title := by
  intro every
  obtain ⟨merged, only, interleaved⟩ := every unwatchedPresentation
    ((hubWatchedTransform unwatchedPresentation).apply
      { hub := [moviesRow "1" [{ title := "Alien", viewCount := some 1 }],
          moviesRow "2" [{ title := "Heat" }]] }) "Movies" rfl
    (by decide +kernel) (by decide +kernel)
  have lengths := interleaved.once.length_eq
  have held : ([merged].flatMap MetaData.children).length = 0 := by
    rw [← only]
    decide +kernel
  rw [List.flatMap_singleton] at held
  rw [held] at lengths
  revert lengths
  decide +kernel

/-! Rows that are no collections. -/

def isBuiltIn (hub : MetaData) : Bool :=
  !hub.isCollectionHub && decide (0 < hub.size.getD 0)

theorem isShown_of_isBuiltIn {hub : MetaData}
    (builtIn : isBuiltIn hub = true) : isShown hub = true := by
  simp only [isBuiltIn, Bool.and_eq_true, decide_eq_true_eq] at builtIn
  exact isShown_of_pos builtIn.2

/-- Each of them is in the answer as it was, as often as it was there. -/
def KeepsBuiltIns (presentation : Presentation)
    (container : MediaContainer) : Prop :=
  (container.children.filter isBuiltIn).Subperm
    ((hubInterleaveTransform presentation).apply container).children

/-- No built-in row with a key comes first of a title that a collection row
with a key bears as well. -/
def SparesBuiltIns (hubs : List MetaData) : Prop :=
  ∀ title first, firstShown title hubs = some first →
    isBuiltIn first = true → first.key.isSome = true →
      ∀ hub ∈ collectionHubs title hubs, isShown hub = true → hub.key = none

def commas (key : Option String) : Nat :=
  (key.getD "").toList.count ','

theorem count_stripChildrenKey (key : String) :
    (stripChildrenKey key).toList.count ',' = key.toList.count ',' := by
  have hubs : ',' ∉ "/hubs/library/collections/".toList := by decide +kernel
  have library : ',' ∉ "/library/collections/".toList := by decide +kernel
  have children : ',' ∉ "/children".toList := by decide +kernel
  unfold stripChildrenKey
  rw [List.foldl_cons, List.foldl_cons, List.foldl_cons, List.foldl_nil,
    Text.count_replace children, Text.count_replace library,
    Text.count_replace hubs]

theorem count_mergeChildrenKeys (left right : String) :
    left.toList.count ',' <
      (mergeChildrenKeys left right).toList.count ',' := by
  have comma : ",".toList.count ',' = 1 := by decide +kernel
  unfold mergeChildrenKeys
  simp only [String.toList_append, List.count_append, count_stripChildrenKey,
    comma]
  omega

theorem commas_mergeHub (first hub : MetaData) :
    commas first.key < commas (mergeHub first hub).key := by
  have merged : (mergeHub first hub).key = some (mergeChildrenKeys
      (first.key.getD "") (hub.key.getD "")) :=
    key_setChildren _ _
  rw [commas, commas, merged, Option.getD_some]
  exact count_mergeChildrenKeys _ _

theorem commas_foldl_mergeHub (first : MetaData) (hubs : List MetaData) :
    commas first.key ≤ commas (hubs.foldl mergeHub first).key := by
  induction hubs generalizing first with
  | nil => exact Nat.le_refl _
  | cons hub hubs hypothesis =>
      exact (commas_mergeHub first hub).le.trans (hypothesis _)

theorem foldl_mergeHub_eq_self_iff {first : MetaData}
    {hubs : List MetaData} :
    hubs.foldl mergeHub first = first ↔ hubs = [] := by
  constructor
  · intro same
    cases hubs with
    | nil => rfl
    | cons hub hubs =>
        have more := commas_mergeHub first hub
        have most := commas_foldl_mergeHub (mergeHub first hub) hubs
        rw [List.foldl_cons] at same
        rw [same] at most
        omega
  · rintro rfl
    rfl

open Classical in
/-- A built-in row may be missing from the answer only where it was the first
of its title. -/
theorem count_builtIn_le_iff {hubs : List MetaData} {hub first : MetaData}
    {rest : List MetaData} (builtIn : isBuiltIn hub = true)
    (titled : titledHubs hub.title hubs = first :: rest) :
    (hubs.filter isBuiltIn).count hub ≤
        (hubGathering.gather (hubs.filter isShown)).count hub ↔
      (first = hub → rest.filter (hubGathering.accepts first) = []) := by
  have ours : hubGathering.labelled hub.title hub = true := by
    simp [Gathering.labelled, hubGathering]
  have refused : (!hubGathering.accepts first hub) = true := by
    simp only [isBuiltIn, Bool.and_eq_true, Bool.not_eq_true'] at builtIn
    simp [hubGathering, builtIn.1]
  have before : (hubs.filter isBuiltIn).count hub =
      (first :: rest).count hub := by
    rw [← titled, titledHubs, List.count_filter ours,
      List.count_filter (isShown_of_isBuiltIn builtIn),
      List.count_filter builtIn]
  have after : (hubGathering.gather (hubs.filter isShown)).count hub =
      (((rest.filter (hubGathering.accepts first)).foldl mergeHub first) ::
        rest).count hub := by
    have others : (rest.filter fun hub =>
        !hubGathering.accepts first hub).count hub = rest.count hub :=
      List.count_filter refused
    rw [← List.count_filter ours, gather_titledHubs titled, List.count_cons,
      List.count_cons, others]
  rw [before, after, List.count_cons, List.count_cons,
    Nat.add_le_add_iff_left, ← @foldl_mergeHub_eq_self_iff first]
  simp only [beq_iff_eq]
  constructor
  · rintro fewer rfl
    by_contra other
    rw [if_pos rfl, if_neg other] at fewer
    omega
  · intro kept
    split
    next same => rw [if_pos ((kept same).trans same)]
    next => exact Nat.zero_le _

/-- A built-in row is merged exactly when it opens a title that a collection
row bears, too. -/
theorem built_ins_kept_iff {presentation : Presentation}
    (on : presentation.settings.interleave = true)
    (container : MediaContainer) :
    KeepsBuiltIns presentation container ↔
      SparesBuiltIns container.children := by
  classical
  by_cases none : container.children.filter isShown = []
  · have builtIns : container.children.filter isBuiltIn = [] := by
      rw [List.filter_eq_nil_iff] at none ⊢
      intro hub listed builtIn
      exact none hub listed (isShown_of_isBuiltIn builtIn)
    apply iff_of_true
    · rw [KeepsBuiltIns, builtIns]
      exact List.nil_subperm
    · intro title first found
      rw [firstShown_eq_head?, titledHubs, none] at found
      cases found
  · rw [KeepsBuiltIns, children_apply_hubInterleave on none,
      List.subperm_ext_iff]
    constructor
    · intro kept title first found builtIn keyed hub listed shown
      rw [firstShown_eq_head?] at found
      obtain ⟨rest, titled⟩ := List.head?_eq_some_iff.mp found
      have among : first ∈ titledHubs title container.children := by
        rw [titled]
        exact List.mem_cons_self
      obtain ⟨present, -, rfl⟩ := mem_titledHubs.mp among
      have alone := (count_builtIn_le_iff builtIn titled).mp
        (kept first (List.mem_filter.mpr ⟨present, builtIn⟩)) rfl
      have collection := List.mem_filter.mp listed
      simp only [Bool.and_eq_true, beq_iff_eq] at collection
      have later : hub ∈ first :: rest := by
        rw [← titled]
        exact mem_titledHubs.mpr ⟨collection.1, shown, collection.2.2⟩
      have notFirst : hub ≠ first := by
        rintro rfl
        simp [isBuiltIn, collection.2.1] at builtIn
      have refused := List.filter_eq_nil_iff.mp alone hub
        ((List.mem_cons.mp later).resolve_left notFirst)
      simpa [hubGathering, keyed, collection.2.1] using refused
    · intro spared hub listed
      obtain ⟨present, builtIn⟩ := List.mem_filter.mp listed
      have among : hub ∈ titledHubs hub.title container.children :=
        mem_titledHubs.mpr ⟨present, isShown_of_isBuiltIn builtIn, rfl⟩
      obtain ⟨first, rest, titled⟩ :=
        List.exists_cons_of_ne_nil (List.ne_nil_of_mem among)
      apply (count_builtIn_le_iff builtIn titled).mpr
      rintro rfl
      rw [List.filter_eq_nil_iff]
      intro other later
      have member : other ∈ titledHubs first.title container.children := by
        rw [titled]
        exact List.mem_cons_of_mem first later
      obtain ⟨known, shown, same⟩ := mem_titledHubs.mp member
      cases keyed : first.key with
      | none => simp [hubGathering, keyed]
      | some key =>
          have opens : firstShown first.title container.children =
              some first := by
            rw [firstShown_eq_head?, titled, List.head?_cons]
          have keyless := spared first.title first opens builtIn
            (by rw [keyed]; rfl) other
          cases collection : other.isCollectionHub with
          | false => simp [hubGathering, collection]
          | true =>
              have none := keyless (List.mem_filter.mpr
                ⟨known, by simp [collection, same]⟩) shown
              simp [hubGathering, none]

def builtInRow (key : Option String) : MetaData where
  key := key
  title := "Movies"
  context := some "hub.movie.recentlyadded"
  hubIdentifier := some "movie.recentlyadded.1"
  size := some 1
  metadata := [{ title := "Dune" }]

theorem built_in_row_without_key_kept :
    KeepsBuiltIns unwatchedPresentation
      { hub := [builtInRow none, moviesRow "2" [{ title := "Heat" }]] } := by
  apply (built_ins_kept_iff rfl _).mpr
  intro title first found builtIn keyed
  have listed := List.mem_of_find?_eq_some found
  have rows : ∀ hub ∈ [builtInRow none, moviesRow "2" [{ title := "Heat" }]],
      isBuiltIn hub = true → hub.key.isSome = false := by
    decide +kernel
  rw [rows first listed builtIn] at keyed
  cases keyed

/-- A collection called as a built-in row is called takes it over. -/
theorem built_in_row_taken_over :
    ¬ ∀ (presentation : Presentation) (container : MediaContainer),
      presentation.settings.interleave = true →
        KeepsBuiltIns presentation container := by
  intro every
  have kept := every unwatchedPresentation
    { hub := [builtInRow (some "/hubs/movies"),
        moviesRow "2" [{ title := "Heat" }]] } rfl
  have listed := kept.subset (List.mem_filter.mpr
    ⟨List.mem_cons_self, by decide +kernel⟩)
  have changed : ∀ hub ∈
      ((hubInterleaveTransform unwatchedPresentation).apply
        { hub := [builtInRow (some "/hubs/movies"),
            moviesRow "2" [{ title := "Heat" }]] }).children,
      hub.key ≠ some "/hubs/movies" := by
    decide +kernel
  exact changed _ listed rfl

end Replex
