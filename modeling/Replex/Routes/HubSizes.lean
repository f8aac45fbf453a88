import Replex.Routes.LibraryReplay
import Replex.Routes.ShownChildren
import Replex.Transform.ChildAccessors
import Replex.Transform.MergedHubs

namespace Replex

open Data MetaData

/-! The sizes of the rows that the cached handler renders. -/

namespace MetaData

/-- The size is the number of children, whichever accessor counts them. -/
structure Counted (item : MetaData) : Prop where
  inOneList : item.InOneList
  size : item.size.map Int32.toInt = some (item.children.length : Int)

section

variable {item : MetaData} {change : List MetaData → List MetaData}

theorem children_modifyChildren (one : item.InOneList)
    (empty : change [] = []) :
    (item.modifyChildren change).children = change item.children := by
  rcases inOneList_iff.mp one with
    ⟨directory, video⟩ | ⟨metadata, video⟩ | ⟨metadata, directory⟩
  · unfold modifyChildren children
    grind
  · unfold modifyChildren children
    grind
  · unfold modifyChildren children
    grind

theorem inOneList_modifyChildren (one : item.InOneList)
    (empty : change [] = []) : (item.modifyChildren change).InOneList := by
  rw [inOneList_iff] at one ⊢
  unfold modifyChildren
  grind

theorem inOneList_setChildren (one : item.InOneList)
    (value : List MetaData) : (item.setChildren value).InOneList := by
  rw [inOneList_iff] at one ⊢
  unfold setChildren
  grind

@[simp] theorem size_modifyChildren :
    (item.modifyChildren change).size = item.size := by
  obtain ⟨_, _, _, same⟩ := exists_modifyChildren change item
  rw [same]

theorem Counted.length_lt (counted : item.Counted) :
    item.children.length < 2 ^ 31 := by
  obtain ⟨size, -, count⟩ := Option.map_eq_some_iff.mp counted.size
  have bound := size.toInt_lt
  omega

theorem Counted.size_eq (counted : item.Counted) :
    item.size = some (sizeOfLength item.children.length) := by
  obtain ⟨size, reported, count⟩ := Option.map_eq_some_iff.mp counted.size
  rw [reported, Option.some.injEq, ← Int32.toInt_inj, toInt_sizeOfLength,
    if_pos counted.length_lt, count]

end

/-- An item without its children, its size and its style. -/
def headOf (item : MetaData) : MetaData :=
  { unstyled item with metadata := [], directory := [], video := [] }

theorem headOf_modifyChildren (change : List MetaData → List MetaData)
    (item : MetaData) : headOf (item.modifyChildren change) = headOf item := by
  obtain ⟨_, _, _, same⟩ := exists_modifyChildren change item
  rw [same]
  rfl

end MetaData

/-! A row up to the merges. -/

section

variable (presentation : Presentation)

/-- What a row has become before rows are merged. -/
def watchedRow (row : MetaData) : MetaData :=
  (hubWatchedTransform presentation).transformMetadata
    (hubStyleMetadata presentation row)

/-- The children that such a row still has. -/
def shownCount (hub : MetaData) : Nat :=
  if excludeWatched presentation hub then
    (hub.children.filter fun child => !child.isWatched).length
  else
    hub.children.length

theorem headOf_watchedRow (row : MetaData) :
    headOf (watchedRow presentation row) = headOf row := by
  have styled : headOf (hubStyleMetadata presentation row) = headOf row :=
    congrArg (fun row : MetaData =>
      { row with metadata := [], directory := [], video := [] })
      (unstyledRow_hubStyleMetadata presentation row)
  rw [← styled]
  simp only [watchedRow, hubWatchedTransform]
  split
  · exact headOf_modifyChildren _ _
  · rfl

theorem watchedRow_of_not_isHub {row : MetaData} (other : row.isHub = false) :
    watchedRow presentation row = row := by
  have plain : hubStyleMetadata presentation row = row := by
    simp [hubStyleMetadata, isHero, other]
  rw [watchedRow, plain]
  simp [hubWatchedTransform, other]

variable {presentation}

theorem children_setChildren_map (item : MetaData)
    (view : MetaData → MetaData) :
    (item.setChildren (item.children.map view)).children =
      item.children.map view := by
  by_cases none : item.children = []
  · rw [children_setChildren_of_nil _ _ none, none, List.map_nil]
  · exact children_setChildren _ _ none (by simpa using none)

theorem hubStyleMetadata_of_counted {hub : MetaData} (counted : hub.Counted) :
    (hubStyleMetadata presentation hub).InOneList ∧
      (hubStyleMetadata presentation hub).size = hub.size ∧
        (hubStyleMetadata presentation hub).children.map unstyled =
          hub.children.map unstyled := by
  unfold hubStyleMetadata
  split
  · dsimp only
    refine ⟨?_, ?_, ?_⟩
    · apply inOneList_setChildren
      exact counted.inOneList
    · rw [size_setChildren, List.length_map, counted.size_eq]
      rfl
    · rw [children_setChildren_map, List.map_map]
      exact List.map_congr_left fun child _ => unstyled_heroChild _ child
  · exact ⟨counted.inOneList, rfl, rfl⟩

theorem length_filter_isWatched {children others : List MetaData}
    (same : children.map unstyled = others.map unstyled) :
    (children.filter fun child => !child.isWatched).length =
      (others.filter fun child => !child.isWatched).length := by
  have seen (list : List MetaData) :
      (list.filter fun child => !child.isWatched).length =
        ((list.map unstyled).filter fun child => !child.isWatched).length := by
    rw [List.filter_map, List.length_map]
    rfl
  rw [seen children, same, ← seen others]

/-- The watched children go and the size stays. -/
theorem watchedRow_of_counted {hub : MetaData} (isHub : hub.isHub = true)
    (counted : hub.Counted) :
    (watchedRow presentation hub).InOneList ∧
      (watchedRow presentation hub).size = hub.size ∧
        (watchedRow presentation hub).children.length =
          shownCount presentation hub := by
  obtain ⟨one, size, children⟩ :=
    @hubStyleMetadata_of_counted presentation hub counted
  have styled := unstyledRow_hubStyleMetadata presentation hub
  have stays : (hubStyleMetadata presentation hub).isHub = true := by
    have same := congrArg MetaData.isHub styled
    exact same.trans isHub
  have excludes : excludeWatched presentation
      (hubStyleMetadata presentation hub) =
        excludeWatched presentation hub := by
    have same := congrArg (excludeWatched presentation) styled
    exact same
  simp only [watchedRow, hubWatchedTransform, stays, excludes,
    Bool.true_and, shownCount]
  split
  · refine ⟨inOneList_modifyChildren one rfl, ?_, ?_⟩
    · rw [size_modifyChildren, size]
    · rw [children_modifyChildren one rfl]
      exact length_filter_isWatched children
  · refine ⟨one, size, ?_⟩
    rw [← List.length_map (f := unstyled), children, List.length_map]

end

/-! A row after the merges. -/

theorem length_interleave {α : Type} (left right : List α) :
    (interleave left right).length = left.length + right.length := by
  rw [(shuffle_interleave left right).perm.length_eq, List.length_append]

theorem hubIdentifier_foldl_mergeHub (first : MetaData)
    (hubs : List MetaData) :
    (hubs.foldl mergeHub first).hubIdentifier = first.hubIdentifier := by
  induction hubs generalizing first with
  | nil => rfl
  | cons hub hubs hypothesis =>
      rw [List.foldl_cons, hypothesis]
      unfold mergeHub setChildren
      grind

theorem inOneList_foldl_mergeHub {first : MetaData} (one : first.InOneList)
    (hubs : List MetaData) : (hubs.foldl mergeHub first).InOneList := by
  induction hubs generalizing first with
  | nil => exact one
  | cons hub hubs hypothesis =>
      apply hypothesis
      apply inOneList_setChildren
      exact one

theorem length_children_foldl_mergeHub (first : MetaData)
    (hubs : List MetaData) :
    (hubs.foldl mergeHub first).children.length =
      if first.children.length = 0 then 0
      else first.children.length +
        (hubs.map fun hub => hub.children.length).sum := by
  rw [children_foldl_mergeHub]
  simp only [List.length_eq_zero_iff]
  split
  · rfl
  · have perm := (Shuffles.foldl shuffle_interleave first.children
      (hubs.map MetaData.children)).perm
    rw [perm.length_eq, List.length_append, List.length_flatten,
      List.map_map]
    rfl

/-- The last merge writes the size, whether or not the row takes its
children. -/
theorem size_foldl_mergeHub (first last : MetaData) (hubs : List MetaData) :
    ((hubs ++ [last]).foldl mergeHub first).size =
      some (sizeOfLength ((hubs.foldl mergeHub first).children.length +
        last.children.length)) := by
  rw [List.foldl_append, List.foldl_cons, List.foldl_nil, mergeHub,
    size_setChildren, length_interleave]

theorem counted_iff {item : MetaData} (one : item.InOneList) {length : Nat}
    (size : item.size = some (sizeOfLength length)) :
    item.Counted ↔
      (if length < 2 ^ 31 then length else 2147483647) =
        item.children.length := by
  have read : item.size.map Int32.toInt =
      some (if length < 2 ^ 31 then (length : Int) else 2147483647) := by
    rw [size, Option.map_some, toInt_sizeOfLength]
  constructor
  · rintro ⟨-, count⟩
    rw [read, Option.some.injEq] at count
    split at count
    next fits => rw [if_pos fits]; omega
    next large => rw [if_neg large]; omega
  · intro count
    refine ⟨one, ?_⟩
    rw [read, Option.some.injEq]
    split
    next fits => rw [if_pos fits] at count; omega
    next large => rw [if_neg large] at count; omega

section

variable (presentation : Presentation)

/-- The children of a row that has taken in others: theirs are lost when it
had none itself. -/
def mergedCount (first : MetaData) (absorbed : List MetaData) : Nat :=
  if shownCount presentation first = 0 then
    0
  else
    shownCount presentation first +
      (absorbed.map (shownCount presentation)).sum

/-- No watched child was excluded from a row on its own. A merged row still
had children, and their number is one that a size can hold, or there are none
in it and in the row it took in last. -/
def SizeFits (first : MetaData) (absorbed : List MetaData) : Prop :=
  match absorbed.getLast? with
  | none => shownCount presentation first = first.children.length
  | some last =>
      if shownCount presentation first = 0 then
        shownCount presentation last = 0
      else
        mergedCount presentation first absorbed < 2 ^ 31

def mergedRow (first : MetaData) (absorbed : List MetaData) : MetaData :=
  (absorbed.map (watchedRow presentation)).foldl mergeHub
    (watchedRow presentation first)

variable {presentation} {first : MetaData} {absorbed : List MetaData}

theorem length_mergedRow (isHub : first.isHub = true)
    (counted : first.Counted)
    (hubs : ∀ hub ∈ absorbed, hub.isHub = true ∧ hub.Counted) :
    (mergedRow presentation first absorbed).children.length =
      mergedCount presentation first absorbed := by
  have counts : (absorbed.map (watchedRow presentation)).map
      (fun hub => hub.children.length) =
        absorbed.map (shownCount presentation) := by
    rw [List.map_map]
    apply List.map_congr_left
    intro hub listed
    exact (watchedRow_of_counted (hubs hub listed).1 (hubs hub listed).2).2.2
  rw [mergedRow, length_children_foldl_mergeHub, counts,
    (watchedRow_of_counted isHub counted).2.2, mergedCount]

theorem inOneList_mergedRow (isHub : first.isHub = true)
    (counted : first.Counted) :
    (mergedRow presentation first absorbed).InOneList :=
  inOneList_foldl_mergeHub (watchedRow_of_counted isHub counted).1 _

theorem counted_mergedRow_iff (isHub : first.isHub = true)
    (counted : first.Counted)
    (hubs : ∀ hub ∈ absorbed, hub.isHub = true ∧ hub.Counted) :
    (mergedRow presentation first absorbed).Counted ↔
      SizeFits presentation first absorbed := by
  have one : (mergedRow presentation first absorbed).InOneList :=
    inOneList_mergedRow isHub counted
  have length : (mergedRow presentation first absorbed).children.length =
      mergedCount presentation first absorbed :=
    length_mergedRow isHub counted hubs
  rcases List.eq_nil_or_concat absorbed with rfl | ⟨earlier, last, rfl⟩
  · have size : (mergedRow presentation first []).size =
        some (sizeOfLength first.children.length) := by
      rw [← counted.size_eq]
      exact (watchedRow_of_counted isHub counted).2.1
    have fits := counted.length_lt
    rw [counted_iff one size, if_pos fits, length, mergedCount, SizeFits]
    simp only [List.map_nil, List.sum_nil, List.getLast?_nil]
    split
    · omega
    · omega
  · rw [List.concat_eq_append] at one length hubs ⊢
    have before : ∀ hub ∈ earlier, hub.isHub = true ∧ hub.Counted :=
      fun hub listed => hubs hub (List.mem_append_left _ listed)
    have ours := hubs last (List.mem_append_right _ List.mem_cons_self)
    have size : (mergedRow presentation first (earlier ++ [last])).size =
        some (sizeOfLength (mergedCount presentation first earlier +
          shownCount presentation last)) := by
      rw [← length_mergedRow isHub counted before,
        ← (watchedRow_of_counted ours.1 ours.2).2.2, mergedRow,
        List.map_append, List.map_singleton, size_foldl_mergeHub, mergedRow]
    rw [counted_iff one size, length, SizeFits, List.getLast?_concat]
    simp only [mergedCount, List.map_append, List.sum_append,
      List.map_singleton, List.sum_singleton]
    split
    · split
      · omega
      · omega
    · split
      · omega
      · omega

end

/-! What the request itself asks for. -/

section

variable (presentation : Presentation)

def isDropped (hub : MetaData) : Bool :=
  presentation.options.excludeContinueWatching &&
    hub.hubIdentifier.any (Text.startsWith · "home.continue")

/-- The count of the request cuts a row of this many children. -/
def Cut (length : Nat) : Prop :=
  ∃ count, presentation.options.count = some count ∧
    0 ≤ count.toInt ∧ count.toInt.toNat < length

/-- A row of which the answer to the client has the right size. -/
def RendersCounted (hub : MetaData) : Prop :=
  hub.isHub = true → isDropped presentation hub = false →
    Cut presentation hub.children.length ∨ hub.Counted

def limitRow (hub : MetaData) : MetaData :=
  match presentation.options.count with
  | some count => limitChildren count hub
  | none => hub

def shapedHubs (hubs : List MetaData) : List MetaData :=
  (hubs.filter fun hub => !isDropped presentation hub).map
    (limitRow presentation)

/-- What becomes of the rows after the merges. -/
def keyedRow (hub : MetaData) : MetaData :=
  hubKeyTransform.transformMetadata
    ((userStateTransform presentation).transformMetadata hub)

theorem shapeCanonicalHubs_eq (container : MediaContainer) :
    shapeCanonicalHubs presentation.options container =
      container.modifyChildren (shapedHubs presentation) := by
  unfold shapeCanonicalHubs
  congr 1
  funext hubs
  have kept : (if presentation.options.excludeContinueWatching = true then
        hubs.filter fun hub =>
          !hub.hubIdentifier.any (Text.startsWith · "home.continue")
      else hubs) =
        hubs.filter fun hub => !isDropped presentation hub := by
    unfold isDropped
    split
    next on => simp only [on, Bool.true_and]
    next off => simp [off]
  rw [shapedHubs]
  dsimp only
  rw [kept]
  cases asked : presentation.options.count with
  | none =>
      have same : limitRow presentation = id := by
        funext hub
        simp [limitRow, asked]
      rw [same, List.map_id]
  | some count =>
      have same : limitRow presentation = limitChildren count := by
        funext hub
        simp [limitRow, asked]
      rw [same]

variable {presentation}

theorem counted_congr {item other : MetaData} (one : item.InOneList)
    (otherOne : other.InOneList) (size : item.size = other.size)
    (length : item.children.length = other.children.length) :
    item.Counted ↔ other.Counted := by
  constructor
  · rintro ⟨-, count⟩
    exact ⟨otherOne, by rw [← size, count, length]⟩
  · rintro ⟨-, count⟩
    exact ⟨one, by rw [size, count, length]⟩

theorem keyedRow_of_inOneList {hub : MetaData} (isHub : hub.isHub = true)
    (one : hub.InOneList) :
    (keyedRow presentation hub).InOneList ∧
      (keyedRow presentation hub).size = hub.size ∧
        (keyedRow presentation hub).children.length =
          hub.children.length := by
  have marked : (userStateTransform presentation).transformMetadata hub =
      hub.modifyChildren (·.map (hideUserState presentation)) := by
    simp only [userStateTransform, isHub, if_true]
  have rows : (hub.modifyChildren
      (List.map (hideUserState presentation))).InOneList :=
    inOneList_modifyChildren one rfl
  have size : (hub.modifyChildren
      (List.map (hideUserState presentation))).size = hub.size :=
    size_modifyChildren
  have length : (hub.modifyChildren
      (List.map (hideUserState presentation))).children.length =
        hub.children.length := by
    rw [children_modifyChildren one rfl, List.length_map]
  unfold keyedRow
  rw [marked]
  unfold hubKeyTransform
  dsimp only
  split
  · split
    · exact ⟨rows, size, length⟩
    · exact ⟨rows, size, length⟩
  · exact ⟨rows, size, length⟩

theorem hubIdentifier_keyedRow (hub : MetaData) :
    (keyedRow presentation hub).hubIdentifier = hub.hubIdentifier := by
  have marked : ((userStateTransform presentation).transformMetadata
      hub).hubIdentifier = hub.hubIdentifier := by
    unfold userStateTransform
    dsimp only
    split
    · have same := congrArg MetaData.hubIdentifier
        (headOf_modifyChildren (List.map (hideUserState presentation)) hub)
      exact same
    · rfl
  rw [← marked]
  unfold keyedRow hubKeyTransform
  dsimp only
  split
  · split
    · rfl
    · rfl
  · rfl

theorem counted_limitRow_iff {hub : MetaData} (one : hub.InOneList) :
    (limitRow presentation hub).Counted ↔
      Cut presentation hub.children.length ∨ hub.Counted := by
  unfold limitRow Cut
  cases asked : presentation.options.count with
  | none => simp
  | some count =>
      simp only [Option.some.injEq, exists_eq_left']
      unfold limitChildren
      rw [childrenMut_of_inOneList one]
      split
      next cut =>
        refine ⟨fun _ => .inl cut, fun _ => ?_⟩
        have rows : (hub.modifyChildren
            (List.take count.toInt.toNat)).InOneList :=
          inOneList_modifyChildren one (by simp)
        have length : (hub.modifyChildren
            (List.take count.toInt.toNat)).children.length =
              min count.toInt.toNat hub.children.length := by
          rw [children_modifyChildren one (by simp), List.length_take]
        refine ⟨rows, ?_⟩
        simp only [Option.map_some, Option.some.injEq]
        change count.toInt = ((hub.modifyChildren
          (List.take count.toInt.toNat)).children.length : Int)
        rw [length]
        omega
      next uncut => exact (or_iff_right uncut).symm

theorem isHub_limitRow (hub : MetaData) :
    (limitRow presentation hub).isHub = hub.isHub := by
  unfold limitRow
  split
  · unfold limitChildren
    split
    · exact isHub_modifyChildren _ hub
    · rfl
  · rfl

/-- The request cuts rows to sizes that it writes. -/
theorem forall_shapedHubs_iff (hubs : List MetaData)
    (one : ∀ hub ∈ hubs, hub.isHub = true → hub.InOneList) :
    (∀ hub ∈ shapedHubs presentation (hubs.map (keyedRow presentation)),
        hub.isHub = true → hub.Counted) ↔
      ∀ hub ∈ hubs, RendersCounted presentation hub := by
  have kept (hub : MetaData) :
      isDropped presentation (keyedRow presentation hub) =
        isDropped presentation hub := by
    rw [isDropped, hubIdentifier_keyedRow, isDropped]
  have hubs' (hub : MetaData) :
      (keyedRow presentation hub).isHub = hub.isHub := by
    rw [isHub, hubIdentifier_keyedRow, isHub]
  have counted (hub : MetaData) (isHub : hub.isHub = true)
      (one : hub.InOneList) :
      (limitRow presentation (keyedRow presentation hub)).Counted ↔
        Cut presentation hub.children.length ∨ hub.Counted := by
    obtain ⟨rows, size, length⟩ :=
      @keyedRow_of_inOneList presentation hub isHub one
    rw [counted_limitRow_iff rows, length,
      counted_congr rows one size length]
  rw [shapedHubs, List.filter_map, List.map_map, List.forall_mem_map]
  simp only [List.mem_filter, Function.comp_apply, kept, isHub_limitRow,
    hubs', and_imp, Bool.not_eq_true']
  apply forall₂_congr
  intro hub listed
  unfold RendersCounted
  constructor
  · intro every isHub stays
    exact (counted hub isHub (one hub listed isHub)).mp (every stays isHub)
  · intro every stays isHub
    exact (counted hub isHub (one hub listed isHub)).mpr (every isHub stays)

end

/-! The rows of every title. -/

theorem forall_gather_iff {hubs : List MetaData} {holds : MetaData → Prop} :
    (∀ hub ∈ hubGathering.gather (hubs.filter isShown), holds hub) ↔
      ∀ title first rest, titledHubs title hubs = first :: rest →
        holds ((rest.filter (hubGathering.accepts first)).foldl mergeHub
            first) ∧
          ∀ hub ∈ rest, hubGathering.accepts first hub = false →
            holds hub := by
  have ours (title : String) (hub : MetaData)
      (listed : hub ∈ (hubGathering.gather (hubs.filter isShown)).filter
        (hubGathering.labelled title)) :
      hub ∈ hubGathering.gather (hubs.filter isShown) :=
    List.mem_of_mem_filter listed
  constructor
  · intro every title first rest titled
    have group := gather_titledHubs titled
    constructor
    · apply every _ (ours title _ _)
      rw [group]
      exact List.mem_cons_self
    · intro hub listed refused
      apply every _ (ours title _ _)
      rw [group]
      exact List.mem_cons_of_mem _
        (List.mem_filter.mpr ⟨listed, by rw [refused]; rfl⟩)
  · intro every hub listed
    have among : hub ∈ (hubGathering.gather (hubs.filter isShown)).filter
        (hubGathering.labelled hub.title) :=
      List.mem_filter.mpr
        ⟨listed, by simp [Gathering.labelled, hubGathering]⟩
    cases titled : titledHubs hub.title hubs with
    | nil =>
        have none : hubGathering.gather (titledHubs hub.title hubs) = [] := by
          rw [titled]
          rfl
        rw [hubGathering.filter_gather] at among
        change hub ∈ hubGathering.gather (titledHubs hub.title hubs) at among
        rw [none] at among
        cases among
    | cons first rest =>
        rw [gather_titledHubs titled] at among
        have group := every _ _ _ titled
        rcases List.mem_cons.mp among with rfl | later
        · exact group.1
        · obtain ⟨present, refused⟩ := List.mem_filter.mp later
          exact group.2 hub present (by simpa using refused)

section

variable (presentation : Presentation)

/-- Every row that is rendered from this one, and from those that it takes in,
has its size: the client's count cuts it, or the size fits. -/
def KeepsSize (first : MetaData) (absorbed : List MetaData) : Prop :=
  first.isHub = true → isDropped presentation first = false →
    Cut presentation (mergedCount presentation first absorbed) ∨
      SizeFits presentation first absorbed

/-- The rows left by both filters keep their sizes, each on its own or with
the later ones of its title that it takes in. -/
def SizesKept (rows : List MetaData) : Prop :=
  if presentation.settings.interleave then
    ∀ title first rest, titledHubs title rows = first :: rest →
      KeepsSize presentation first
          (rest.filter (hubGathering.accepts first)) ∧
        ∀ hub ∈ rest, hubGathering.accepts first hub = false →
          KeepsSize presentation hub []
  else
    ∀ hub ∈ rows, KeepsSize presentation hub []

/-- What becomes of the visible rows before the request shapes them. -/
def mergedHubs (hubs : List MetaData) : List MetaData :=
  let watched := hubs.map (watchedRow presentation)
  if presentation.settings.interleave then
    hubGathering.gather (watched.filter isShown)
  else
    watched

variable {presentation}

theorem rendersCounted_mergedRow_iff {first : MetaData}
    {absorbed : List MetaData}
    (counted : first.isHub = true → first.Counted)
    (hubs : ∀ hub ∈ absorbed, hub.isHub = true ∧ hub.Counted) :
    RendersCounted presentation (mergedRow presentation first absorbed) ↔
      KeepsSize presentation first absorbed := by
  have same : (mergedRow presentation first absorbed).hubIdentifier =
      first.hubIdentifier := by
    rw [mergedRow, hubIdentifier_foldl_mergeHub]
    have head := congrArg MetaData.hubIdentifier
      (headOf_watchedRow presentation first)
    exact head
  unfold RendersCounted KeepsSize
  rw [isHub, same, isDropped, same]
  apply forall_congr'
  intro isHub
  rw [length_mergedRow isHub (counted isHub) hubs,
    counted_mergedRow_iff isHub (counted isHub) hubs]
  rfl

theorem isShown_watchedRow {hub : MetaData}
    (counted : hub.isHub = true → hub.Counted) :
    isShown (watchedRow presentation hub) = isShown hub := by
  cases hubs : hub.isHub with
  | false => rw [watchedRow_of_not_isHub presentation hubs]
  | true =>
      rw [isShown, isShown, (watchedRow_of_counted hubs (counted hubs)).2.1]

theorem titledHubs_watchedRow {rows : List MetaData}
    (counted : ∀ hub ∈ rows, hub.isHub = true → hub.Counted)
    (title : String) :
    titledHubs title (rows.map (watchedRow presentation)) =
      (titledHubs title rows).map (watchedRow presentation) := by
  unfold titledHubs
  rw [List.filter_map, List.filter_map]
  congr 1
  rw [List.filter_filter, List.filter_filter]
  apply List.filter_congr
  intro hub listed
  have head := congrArg MetaData.title (headOf_watchedRow presentation hub)
  have same : (watchedRow presentation hub).title = hub.title := head
  simp only [Function.comp_apply, isShown_watchedRow (counted hub listed),
    Gathering.labelled, hubGathering, same]

theorem accepts_watchedRow (first hub : MetaData) :
    hubGathering.accepts (watchedRow presentation first)
        (watchedRow presentation hub) =
      hubGathering.accepts first hub := by
  have firstKey := congrArg MetaData.key (headOf_watchedRow presentation first)
  have key := congrArg MetaData.key (headOf_watchedRow presentation hub)
  have collection := congrArg MetaData.isCollectionHub
    (headOf_watchedRow presentation hub)
  change (watchedRow presentation first).key = first.key at firstKey
  change (watchedRow presentation hub).key = hub.key at key
  change (watchedRow presentation hub).isCollectionHub =
    hub.isCollectionHub at collection
  simp only [hubGathering, firstKey, key, collection]

theorem isHub_of_accepts {first hub : MetaData}
    (accepted : hubGathering.accepts first hub = true) :
    hub.isHub = true := by
  simp only [hubGathering, isCollectionHub, Bool.and_eq_true] at accepted
  exact accepted.2.1

/-- One title: the row that opens it takes in the rows it accepts. -/
theorem rendersCounted_group_iff {first : MetaData} {rest : List MetaData}
    (counted : ∀ hub ∈ first :: rest, hub.isHub = true → hub.Counted) :
    (RendersCounted presentation
          (((rest.map (watchedRow presentation)).filter (hubGathering.accepts
            (watchedRow presentation first))).foldl mergeHub
              (watchedRow presentation first)) ∧
        ∀ hub ∈ rest.map (watchedRow presentation),
          hubGathering.accepts (watchedRow presentation first) hub = false →
            RendersCounted presentation hub) ↔
      KeepsSize presentation first
          (rest.filter (hubGathering.accepts first)) ∧
        ∀ hub ∈ rest, hubGathering.accepts first hub = false →
          KeepsSize presentation hub [] := by
  have later (hub : MetaData) (listed : hub ∈ rest) :=
    counted hub (List.mem_cons_of_mem first listed)
  have absorbed : ∀ hub ∈ rest.filter (hubGathering.accepts first),
      hub.isHub = true ∧ hub.Counted := by
    intro hub listed
    obtain ⟨present, accepted⟩ := List.mem_filter.mp listed
    have isHub := isHub_of_accepts accepted
    exact ⟨isHub, later hub present isHub⟩
  have taken : (rest.map (watchedRow presentation)).filter
      (hubGathering.accepts (watchedRow presentation first)) =
        (rest.filter (hubGathering.accepts first)).map
          (watchedRow presentation) := by
    rw [List.filter_map]
    congr 1
    apply List.filter_congr
    intro hub _
    exact accepts_watchedRow first hub
  have merged := @rendersCounted_mergedRow_iff presentation first
    (rest.filter (hubGathering.accepts first))
    (counted first List.mem_cons_self) absorbed
  rw [mergedRow] at merged
  rw [taken, merged, List.forall_mem_map]
  apply and_congr_right
  intro _
  apply forall₂_congr
  intro hub listed
  rw [accepts_watchedRow]
  have alone := @rendersCounted_mergedRow_iff presentation hub []
    (later hub listed) (by simp)
  rw [← alone]
  rfl

theorem rendersCounted_mergedHubs_iff {rows : List MetaData}
    (counted : ∀ hub ∈ rows, hub.isHub = true → hub.Counted) :
    (∀ hub ∈ mergedHubs presentation rows,
        RendersCounted presentation hub) ↔
      SizesKept presentation rows := by
  unfold mergedHubs SizesKept
  dsimp only
  split
  · rw [forall_gather_iff]
    simp only [titledHubs_watchedRow counted]
    apply forall_congr'
    intro title
    cases titled : titledHubs title rows with
    | nil => simp
    | cons head tail =>
        have group := @rendersCounted_group_iff presentation head tail (by
          intro hub listed
          rw [← titled] at listed
          exact counted hub (mem_titledHubs.mp listed).1)
        constructor
        · intro every first rest same
          cases same
          exact group.mp (every _ _ rfl)
        · intro every first rest same
          cases same
          exact group.mpr (every _ _ rfl)
  · rw [List.forall_mem_map]
    apply forall₂_congr
    intro hub listed
    exact @rendersCounted_mergedRow_iff presentation hub []
      (counted hub listed) (by simp)

end

/-! The whole handler. -/

theorem mergedHubs_nil (presentation : Presentation) :
    mergedHubs presentation [] = [] := by
  unfold mergedHubs
  dsimp only
  split
  · rfl
  · rfl

theorem inOneList_mergedHubs {presentation : Presentation}
    {rows : List MetaData}
    (counted : ∀ hub ∈ rows, hub.isHub = true → hub.Counted) :
    ∀ hub ∈ mergedHubs presentation rows,
      hub.isHub = true → hub.InOneList := by
  have watched : ∀ hub ∈ rows.map (watchedRow presentation),
      hub.isHub = true → hub.InOneList := by
    rw [List.forall_mem_map]
    intro hub listed isHub
    have head := congrArg MetaData.isHub (headOf_watchedRow presentation hub)
    have same : (watchedRow presentation hub).isHub = hub.isHub := head
    rw [same] at isHub
    exact (watchedRow_of_counted isHub (counted hub listed isHub)).1
  unfold mergedHubs
  dsimp only
  split
  · rw [forall_gather_iff]
    intro title first rest titled
    have among : ∀ hub ∈ first :: rest,
        hub.isHub = true → hub.InOneList := by
      intro hub listed
      rw [← titled] at listed
      exact watched hub (mem_titledHubs.mp listed).1
    constructor
    · intro isHub
      apply inOneList_foldl_mergeHub
      apply among first List.mem_cons_self
      rwa [MetaData.isHub, hubIdentifier_foldl_mergeHub] at isHub
    · intro hub listed _
      exact among hub (List.mem_cons_of_mem first listed)
  · exact watched

section

variable {presentation : Presentation}

theorem lists_setChildren {change : List MetaData → List MetaData}
    (empty : change [] = []) (container : MediaContainer) :
    (container.setChildren (change container.children)).lists =
      Sweep.modifyCurrent change container.lists := by
  rw [← lists_modifyChildren empty]
  unfold MediaContainer.setChildren MediaContainer.modifyChildren
    MediaContainer.children MediaContainer.lists
  grind

theorem lists_hubInterleave (container : MediaContainer) :
    ((hubInterleaveTransform presentation).apply container).lists =
      Sweep.modifyCurrent (fun hubs =>
        if presentation.settings.interleave then
          hubGathering.gather (hubs.filter isShown)
        else
          hubs) container.lists := by
  cases on : presentation.settings.interleave with
  | true =>
      rw [apply_hubInterleave on]
      simp only [if_true]
      exact @lists_setChildren (fun hubs =>
        hubGathering.gather (hubs.filter isShown)) rfl container
  | false =>
      rw [apply_of_whole rfl rfl]
      simp only [hubInterleaveTransform, on, Bool.false_eq_true, if_false,
        Sweep.modifyCurrent_id]

/-- The rows go through two rewritings, each of the list that is then
visible. -/
theorem lists_cachedHubs (current : Except Unit ResolutionPolicy)
    (payload : MediaContainer) :
    (cachedHubsContainer current presentation false payload).lists =
      Sweep.modifyCurrent
        (fun hubs => shapedHubs presentation
          (hubs.map (keyedRow presentation)))
        (Sweep.modifyCurrent (mergedHubs presentation)
          (Sweep.sweep (hubRestrictionFilter presentation) id
            (Sweep.sweep (visibilityFilterMetadata current) id
              payload.lists))) := by
  have visible : (applyTo [collectionVisibilityTransform current]
      payload).lists =
        Sweep.sweep (visibilityFilterMetadata current) id payload.lists :=
    @lists_apply (collectionVisibilityTransform current) rfl payload
  have resized (transforms : List Transform) (container : MediaContainer) :
      (applyTo transforms container).lists =
        (transforms.foldl (fun container transform =>
          transform.apply container) container).lists := rfl
  have restricts := @lists_apply (hubRestrictionTransform presentation) rfl
  have styles := @lists_apply_of_all (hubStyleTransform presentation) rfl
    fun _ => rfl
  have watches := @lists_apply_of_all (hubWatchedTransform presentation) rfl
    fun _ => rfl
  have marks := @lists_apply_of_all (userStateTransform presentation) rfl
    fun _ => rfl
  have keys := @lists_apply_of_all hubKeyTransform rfl fun _ => rfl
  have none : shapedHubs presentation [] = [] := rfl
  rw [cachedHubsContainer, if_neg Bool.false_ne_true, shapeCanonicalHubs_eq,
    lists_modifyChildren none, resized]
  simp only [hubTransforms, List.foldl_cons, List.foldl_nil]
  rw [keys, marks, lists_hubInterleave, watches, styles, restricts, visible,
    Sweep.modifyCurrent_modifyCurrent_map,
    Sweep.modifyCurrent_modifyCurrent_map,
    Sweep.modifyCurrent_modifyCurrent_map,
    Sweep.modifyCurrent_modifyCurrent_map]
  simp only [List.map_map]
  rfl

/-- Every size stays truthful exactly if no watched child was excluded from a
row that is neither merged nor cut, and every merged row had and keeps
children. -/
theorem hub_sizes_stay_truthful_iff (current : Except Unit ResolutionPolicy)
    (presentation : Presentation) {payload : MediaContainer}
    (counted : ∀ hub ∈ payload.items, hub.isHub = true → hub.Counted) :
    (∀ hub ∈ (cachedHubsContainer current presentation false payload).items,
        hub.isHub = true → hub.Counted) ↔
      SizesKept presentation
        (Sweep.reached (hubRestrictionFilter presentation)
          (Sweep.sweep (visibilityFilterMetadata current) id
            payload.lists)) := by
  let lists := Sweep.sweep (hubRestrictionFilter presentation) id
    (Sweep.sweep (visibilityFilterMetadata current) id payload.lists)
  have others : ∀ hub ∈ lists.flatten, hub.isHub = true → hub.Counted := by
    intro hub listed
    exact counted hub
      (Sweep.mem_of_mem_sweep_id (Sweep.mem_of_mem_sweep_id listed))
  have rows : Sweep.current lists =
      Sweep.reached (hubRestrictionFilter presentation)
        (Sweep.sweep (visibilityFilterMetadata current) id payload.lists) :=
    Sweep.current_sweep_id _ _
  have visible : ∀ hub ∈ Sweep.current lists,
      hub.isHub = true → hub.Counted :=
    fun hub listed => others hub (Sweep.mem_of_mem_current listed)
  have known (hub : MetaData) (holds : hub.isHub = true → hub.Counted) :
      (hub.isHub = true → hub.InOneList) ∧
        RendersCounted presentation hub :=
    ⟨fun isHub => (holds isHub).inOneList,
      fun isHub _ => .inr (holds isHub)⟩
  have same := Sweep.forall_modifyCurrent_iff (mergedHubs_nil presentation)
    forall_shapedHubs_iff known
    (inOneList_mergedHubs visible) others
  rw [MediaContainer.items, lists_cachedHubs, same,
    rendersCounted_mergedHubs_iff visible, rows]

end

theorem counted_moviesRow (id : String) (film : MetaData) :
    (moviesRow id [film]).Counted where
  inOneList := rfl
  size := rfl

def twoMoviesRows : MediaContainer where
  hub := [moviesRow "1" [{ title := "Alien" }],
    moviesRow "2" [{ title := "Heat" }]]

theorem merged_movies_sizes_stay_truthful :
    (cachedHubsContainer (.ok .unrestricted) unwatchedPresentation false
        twoMoviesRows).items.length = 1 ∧
      ∀ hub ∈ (cachedHubsContainer (.ok .unrestricted) unwatchedPresentation
          false twoMoviesRows).items,
        hub.isHub = true → hub.Counted := by
  have counted : ∀ hub ∈ twoMoviesRows.items,
      hub.isHub = true → hub.Counted := by
    intro hub listed _
    rcases List.mem_pair.mp listed with rfl | rfl
    · exact counted_moviesRow "1" _
    · exact counted_moviesRow "2" _
  refine ⟨by decide +kernel, ?_⟩
  apply (hub_sizes_stay_truthful_iff (.ok .unrestricted)
    unwatchedPresentation counted).mpr
  intro title first rest titled
  change titledHubs title twoMoviesRows.hub = first :: rest at titled
  have among : first ∈ titledHubs title twoMoviesRows.hub := by
    rw [titled]
    exact List.mem_cons_self
  obtain ⟨present, -, rfl⟩ := mem_titledHubs.mp among
  have called : first.title = "Movies" := by
    rcases List.mem_pair.mp present with rfl | rfl
    · rfl
    · rfl
  rw [called] at titled
  cases titled
  constructor
  · intro _ _
    exact .inr (by omega : 1 + (1 + 0) < 2 ^ 31)
  · intro hub listed refused
    cases List.mem_singleton.mp listed
    cases refused

/-- The only film of a row was watched: none is left of a reported one. -/
theorem emptied_row_keeps_its_size :
    (moviesRow "1" [{ title := "Alien", viewCount := some 1 }]).Counted ∧
      ¬ ∀ hub ∈ (cachedHubsContainer (.ok .unrestricted)
          unwatchedPresentation false
          { hub := [moviesRow "1"
              [{ title := "Alien", viewCount := some 1 }]] }).items,
        hub.isHub = true → hub.Counted := by
  refine ⟨counted_moviesRow "1" _, ?_⟩
  intro every
  have sizes : ∀ hub ∈ (cachedHubsContainer (.ok .unrestricted)
      unwatchedPresentation false
      { hub := [moviesRow "1"
          [{ title := "Alien", viewCount := some 1 }]] }).items,
      hub.isHub = true →
        hub.size.map Int32.toInt = some (hub.children.length : Int) :=
    fun hub listed isHub => (every hub listed isHub).size
  revert sizes
  decide +kernel

end Replex
