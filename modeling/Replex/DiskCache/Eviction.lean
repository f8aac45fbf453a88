import Replex.Data.Shedding
import Replex.DiskCache.Tasks

namespace Replex

open Data Shedding

/-! Cleaning the cache directory from end to end while nobody else is at
work. -/

/-- The name of a temporary file, a committed or a stale one. -/
def isTempFile (path : String) : Bool :=
  let fileName := Text.splitLast '/' path
  Text.endsWith fileName ".tmp" || Text.contains fileName ".tmp."

/-- The files a walk comes to, in its order, and the tracked size. -/
structure CacheContents where
  files : List ScannedFile
  currentSize : Nat
  deriving DecidableEq

/-- The record files and their lengths' sum, which is not checked. -/
def scanFiles (files : List ScannedFile) : List ScannedFile × Nat :=
  files.foldl
    (fun scanned file =>
      if isTempFile file.path then scanned
      else (scanned.1 ++ [file], (scanned.2 + file.len) % 2 ^ 64))
    ([], 0)

def evictFiles (threshold : Nat) :
    List ScannedFile → CacheContents → CacheContents
  | [], contents => contents
  | file :: rest, contents =>
      if contents.currentSize < threshold then contents
      else evictFiles threshold rest
        { files := contents.files.filter fun other => other.path ≠ file.path
          currentSize := contents.currentSize - file.len }

def byModification (files : List ScannedFile) : List ScannedFile :=
  files.insertionSort fun left right => left.modified ≤ right.modified

/-- The size is looked at twice, before and under the lock. -/
def ensureCapacity (maxSize : Nat) (contents : CacheContents) :
    CacheContents :=
  if contents.currentSize < maxSize then contents
  else
    let (files, total) := scanFiles contents.files
    let reconciled := { contents with currentSize := total }
    if total < cleanThreshold maxSize then reconciled
    else evictFiles (cleanThreshold maxSize) (byModification files) reconciled

/-! What scanning and evicting come to. -/

def recordFiles (files : List ScannedFile) : List ScannedFile :=
  files.filter fun file => !isTempFile file.path

def totalLen (files : List ScannedFile) : Nat :=
  load ScannedFile.len files

section

variable {files : List ScannedFile} {contents : CacheContents}
  {threshold maxSize : Nat}

theorem foldl_scanFiles (before : List ScannedFile) (total : Nat) :
    files.foldl
        (fun scanned file =>
          if isTempFile file.path then scanned
          else (scanned.1 ++ [file], (scanned.2 + file.len) % 2 ^ 64))
        (before, total % 2 ^ 64) =
      (before ++ recordFiles files,
        (total + totalLen (recordFiles files)) % 2 ^ 64) := by
  induction files generalizing before total with
  | nil => simp [recordFiles, totalLen]
  | cons file files hypothesis =>
      rw [List.foldl_cons]
      by_cases temp : isTempFile file.path = true
      · have rest : recordFiles (file :: files) = recordFiles files := by
          simp [recordFiles, temp]
        simp only [temp, if_true, rest]
        exact hypothesis before total
      · have rest : recordFiles (file :: files) =
            file :: recordFiles files := by
          simp [recordFiles, temp]
        simp only [temp, rest]
        have next := hypothesis (before ++ [file]) (total + file.len)
        rw [Nat.mod_add_mod]
        simp only [totalLen, load_cons] at next ⊢
        rw [← Nat.add_assoc]
        simpa using next

theorem scanFiles_eq :
    scanFiles files =
      (recordFiles files, totalLen (recordFiles files) % 2 ^ 64) := by
  exact (@foldl_scanFiles files [] 0).trans (by simp)

theorem evictFiles_eq {sorted : List ScannedFile} :
    evictFiles threshold sorted contents =
      { files := contents.files.filter fun other =>
          !((shed ScannedFile.len threshold sorted
            contents.currentSize).map ScannedFile.path).contains other.path
        currentSize := contents.currentSize -
          totalLen (shed ScannedFile.len threshold sorted
            contents.currentSize) } := by
  induction sorted generalizing contents with
  | nil => simp [evictFiles, shed, totalLen]
  | cons file rest hypothesis =>
      unfold evictFiles shed
      by_cases small : contents.currentSize < threshold
      · simp [small, totalLen]
      · simp only [small, if_false, hypothesis]
        simp only [List.filter_filter, totalLen, load_cons, Nat.sub_sub,
          List.map_cons, List.contains_cons]
        congr 1
        apply List.filter_congr
        intro other _
        by_cases same : other.path = file.path <;> simp [same]

theorem byModification_perm (files : List ScannedFile) :
    (byModification files).Perm files :=
  List.perm_insertionSort _ _

theorem pairwise_byModification (files : List ScannedFile) :
    (byModification files).Pairwise fun left right =>
      left.modified ≤ right.modified := by
  have total : Std.Total fun left right : ScannedFile =>
      left.modified ≤ right.modified :=
    ⟨fun left right => Nat.le_total left.modified right.modified⟩
  have trans : IsTrans ScannedFile fun left right =>
      left.modified ≤ right.modified :=
    ⟨fun _ _ _ => Nat.le_trans⟩
  exact List.pairwise_insertionSort _ files

theorem nodup_of_paths (paths : (files.map ScannedFile.path).Nodup) :
    files.Nodup :=
  paths.of_map

/-- Files are apart by their paths, so removing by path removes just them. -/
theorem filter_paths (paths : (files.map ScannedFile.path).Nodup)
    {removed : List ScannedFile} (among : ∀ file ∈ removed, file ∈ files) :
    (files.filter fun other =>
        !(removed.map ScannedFile.path).contains other.path) =
      files.filter fun other => decide (other ∉ removed) := by
  apply List.filter_congr
  intro other listed
  by_cases member : other ∈ removed
  · have there : other.path ∈ removed.map ScannedFile.path :=
      List.mem_map_of_mem member
    simp [member, there]
  · have apart : other.path ∉ removed.map ScannedFile.path := by
      intro there
      obtain ⟨file, kept, same⟩ := List.mem_map.mp there
      have equal : file = other :=
        List.inj_on_of_nodup_map paths (among file kept) listed same
      exact member (equal ▸ kept)
    simp [member, apart]

/-- What remains of the record files when the first of them in the order of
modification are gone. -/
theorem totalLen_remaining (paths : (files.map ScannedFile.path).Nodup)
    {removed : List ScannedFile}
    (first : removed <+: byModification (recordFiles files)) :
    totalLen (recordFiles
        (files.filter fun other => decide (other ∉ removed))) +
        totalLen removed = totalLen (recordFiles files) := by
  have sorted := byModification_perm (recordFiles files)
  have nodup : (byModification (recordFiles files)).Nodup :=
    sorted.nodup_iff.mpr ((nodup_of_paths paths).filter _)
  obtain ⟨rest, parts⟩ := first
  have apart : ∀ file ∈ rest, file ∉ removed := by
    rw [← parts, List.nodup_append] at nodup
    intro file late early
    exact nodup.2.2 file early file late rfl
  have kept : (byModification (recordFiles files)).filter
      (fun other => decide (other ∉ removed)) = rest := by
    rw [← parts, List.filter_append]
    have none :
        removed.filter (fun other => decide (other ∉ removed)) = [] := by
      simp
    have all : rest.filter (fun other => decide (other ∉ removed)) = rest := by
      apply List.filter_eq_self.mpr
      intro file listed
      simpa using apart file listed
    rw [none, all, List.nil_append]
  have remaining : recordFiles
      (files.filter fun other => decide (other ∉ removed)) =
        (recordFiles files).filter fun other => decide (other ∉ removed) := by
    unfold recordFiles
    rw [List.filter_filter, List.filter_filter]
    apply List.filter_congr
    intro other _
    exact Bool.and_comm _ _
  have sameLoad : totalLen ((recordFiles files).filter
      fun other => decide (other ∉ removed)) = totalLen rest := by
    rw [← kept]
    exact (load_eq_of_perm (sorted.filter _)).symm
  have loads : totalLen (byModification (recordFiles files)) =
      totalLen (recordFiles files) := load_eq_of_perm sorted
  rw [remaining, sameLoad, ← loads, ← parts]
  unfold totalLen
  rw [load_append]
  omega

/-- What a cleaning that removes these records is to leave behind. -/
structure CleanedOf (maxSize : Nat) (files : List ScannedFile)
    (removed : List ScannedFile) (after : CacheContents) : Prop where
  oldest : removed <+: byModification (recordFiles files)
  left : after.files = files.filter fun file => decide (file ∉ removed)
  enough : totalLen (recordFiles after.files) < cleanThreshold maxSize
  fewest : ∀ fewer, fewer <+: byModification (recordFiles files) →
    fewer.length < removed.length →
      cleanThreshold maxSize ≤ totalLen (recordFiles
        (files.filter fun file => decide (file ∉ fewer)))
  temporary : after.files.filter (fun file => isTempFile file.path) =
    files.filter fun file => isTempFile file.path
  tracked : after.currentSize = totalLen (recordFiles after.files)
  below : after.currentSize < maxSize

/-- Nothing goes while the tracked size or the files' total is small, and else
the least recently used records do, and no more of them than needed. -/
def EvictsLeastRecentlyUsed (maxSize : Nat) (contents : CacheContents) :
    Prop :=
  (contents.currentSize < maxSize ∨
      totalLen (recordFiles contents.files) < cleanThreshold maxSize →
    (ensureCapacity maxSize contents).files = contents.files) ∧
  (maxSize ≤ contents.currentSize →
    cleanThreshold maxSize ≤ totalLen (recordFiles contents.files) →
      ∃ removed, CleanedOf maxSize contents.files removed
        (ensureCapacity maxSize contents))

theorem cleanThreshold_pos (large : 2 ^ 30 ≤ maxSize) :
    0 < cleanThreshold maxSize := by
  unfold cleanThreshold
  omega

theorem cleanThreshold_lt (large : 2 ^ 30 ≤ maxSize) :
    cleanThreshold maxSize < maxSize := by
  unfold cleanThreshold
  omega

theorem cleanThreshold_lt_range : cleanThreshold maxSize < 2 ^ 64 := by
  unfold cleanThreshold
  omega

/-- The record files the eviction removes when the scan counted this total. -/
def evicted (maxSize : Nat) (files : List ScannedFile) (total : Nat) :
    List ScannedFile :=
  shed ScannedFile.len (cleanThreshold maxSize)
    (byModification (recordFiles files)) total

theorem isPrefix_evicted {total : Nat} :
    evicted maxSize files total <+: byModification (recordFiles files) :=
  shed_prefix

theorem ensureCapacity_of_full
    (paths : (contents.files.map ScannedFile.path).Nodup)
    (full : maxSize ≤ contents.currentSize) :
    ensureCapacity maxSize contents =
      if totalLen (recordFiles contents.files) % 2 ^ 64 <
          cleanThreshold maxSize then
        { contents with
          currentSize := totalLen (recordFiles contents.files) % 2 ^ 64 }
      else
        { files := contents.files.filter fun file =>
            decide (file ∉ evicted maxSize contents.files
              (totalLen (recordFiles contents.files) % 2 ^ 64))
          currentSize := totalLen (recordFiles contents.files) % 2 ^ 64 -
            totalLen (evicted maxSize contents.files
              (totalLen (recordFiles contents.files) % 2 ^ 64)) } := by
  unfold ensureCapacity
  rw [if_neg (Nat.not_lt.mpr full), scanFiles_eq]
  dsimp only
  split
  · rfl
  · rw [evictFiles_eq]
    dsimp only
    rw [filter_paths paths]
    · rfl
    · intro file removed
      have listed := isPrefix_evicted.subset removed
      have record := (byModification_perm _).mem_iff.mp listed
      exact (List.mem_filter.mp record).1

theorem filter_temporary {removed : List ScannedFile}
    (first : removed <+: byModification (recordFiles files)) :
    (files.filter fun file => decide (file ∉ removed)).filter
        (fun file => isTempFile file.path) =
      files.filter fun file => isTempFile file.path := by
  rw [List.filter_filter]
  apply List.filter_congr
  intro file _
  by_cases temp : isTempFile file.path = true
  · have kept : file ∉ removed := by
      intro listed
      have record := (byModification_perm _).mem_iff.mp (first.subset listed)
      simpa [temp] using (List.mem_filter.mp record).2
    simp [temp, kept]
  · simp [temp]

/-- A cleaning whose total is counted exactly. -/
theorem cleanedOf_evicted (large : 2 ^ 30 ≤ maxSize)
    (paths : (contents.files.map ScannedFile.path).Nodup)
    (full : maxSize ≤ contents.currentSize)
    (exactly : totalLen (recordFiles contents.files) < 2 ^ 64)
    (much : cleanThreshold maxSize ≤ totalLen (recordFiles contents.files)) :
    CleanedOf maxSize contents.files
      (evicted maxSize contents.files
        (totalLen (recordFiles contents.files)))
      (ensureCapacity maxSize contents) := by
  have positive := cleanThreshold_pos large
  have modest := cleanThreshold_lt large
  have cleaned := ensureCapacity_of_full paths full
  rw [Nat.mod_eq_of_lt exactly, if_neg (Nat.not_lt.mpr much)] at cleaned
  have remaining := totalLen_remaining paths
    (@isPrefix_evicted contents.files maxSize
      (totalLen (recordFiles contents.files)))
  have enough : totalLen (recordFiles contents.files) -
      totalLen (evicted maxSize contents.files
        (totalLen (recordFiles contents.files))) <
        cleanThreshold maxSize := by
    rcases @shed_reaches _ ScannedFile.len (cleanThreshold maxSize)
      (byModification (recordFiles contents.files))
      (totalLen (recordFiles contents.files)) with whole | below
    · have everything : totalLen (evicted maxSize contents.files
          (totalLen (recordFiles contents.files))) =
            totalLen (recordFiles contents.files) := by
        unfold evicted
        rw [whole]
        exact load_eq_of_perm (byModification_perm _)
      omega
    · exact below
  rw [cleaned]
  exact {
    oldest := isPrefix_evicted
    left := rfl
    enough := by
      dsimp only
      omega
    fewest := by
      intro fewer first shorter
      have bound := bound_le_of_shorter first shorter
      have rest := totalLen_remaining paths first
      unfold totalLen at *
      omega
    temporary := filter_temporary isPrefix_evicted
    tracked := by
      dsimp only
      omega
    below := by
      dsimp only
      omega }

/-- With a total that wraps, what is removed does not suffice. -/
theorem remaining_of_wrapped (large : 2 ^ 30 ≤ maxSize)
    (bounded : ∀ file ∈ contents.files, file.len < 2 ^ 64)
    (paths : (contents.files.map ScannedFile.path).Nodup)
    (full : maxSize ≤ contents.currentSize)
    (wraps : 2 ^ 64 ≤ totalLen (recordFiles contents.files)) :
    cleanThreshold maxSize <
      totalLen (recordFiles (ensureCapacity maxSize contents).files) := by
  have positive := cleanThreshold_pos large
  have range := @cleanThreshold_lt_range maxSize
  have counted : totalLen (recordFiles contents.files) % 2 ^ 64 + 2 ^ 64 ≤
      totalLen (recordFiles contents.files) := by omega
  rw [ensureCapacity_of_full paths full]
  split
  · dsimp only
    omega
  · rename_i much
    dsimp only
    have remaining := totalLen_remaining paths
      (@isPrefix_evicted contents.files maxSize
        (totalLen (recordFiles contents.files) % 2 ^ 64))
    rcases List.eq_nil_or_concat (evicted maxSize contents.files
        (totalLen (recordFiles contents.files) % 2 ^ 64)) with
      none | ⟨earlier, last, parts⟩
    · rw [none] at remaining ⊢
      have nothing : totalLen [] = 0 := rfl
      omega
    · -- Before the last file went, the counted size had not come down.
      rw [List.concat_eq_append] at parts
      have first : earlier <+: byModification (recordFiles contents.files) :=
        List.IsPrefix.trans ⟨[last], parts.symm⟩ isPrefix_evicted
      have bound := @bound_le_of_shorter _ ScannedFile.len
        (cleanThreshold maxSize) _
        (totalLen (recordFiles contents.files) % 2 ^ 64) _ first (by
          have length := congrArg List.length parts
          unfold evicted at length
          rw [length]
          simp)
      have member : last ∈ contents.files := by
        have listed : last ∈ evicted maxSize contents.files
            (totalLen (recordFiles contents.files) % 2 ^ 64) := by
          rw [parts]
          simp
        have record :=
          (byModification_perm _).mem_iff.mp (isPrefix_evicted.subset listed)
        exact (List.mem_filter.mp record).1
      have small := bounded last member
      have sizes : totalLen (evicted maxSize contents.files
          (totalLen (recordFiles contents.files) % 2 ^ 64)) =
            load ScannedFile.len earlier + last.len := by
        rw [parts]
        simp [totalLen]
      omega

theorem evicts_least_recently_used_iff (large : 2 ^ 30 ≤ maxSize)
    (bounded : ∀ file ∈ contents.files, file.len < 2 ^ 64)
    (paths : (contents.files.map ScannedFile.path).Nodup) :
    EvictsLeastRecentlyUsed maxSize contents ↔
      contents.currentSize < maxSize ∨
        totalLen (recordFiles contents.files) < 2 ^ 64 := by
  constructor
  · rintro ⟨_, cleans⟩
    by_contra neither
    rw [not_or, Nat.not_lt, Nat.not_lt] at neither
    obtain ⟨full, wraps⟩ := neither
    have range := @cleanThreshold_lt_range maxSize
    obtain ⟨removed, cleaned⟩ := cleans full (by omega)
    have left := remaining_of_wrapped large bounded paths full wraps
    have enough := cleaned.enough
    omega
  · intro fits
    refine ⟨?_, ?_⟩
    · rintro (small | little)
      · rw [ensureCapacity, if_pos small]
      · by_cases small : contents.currentSize < maxSize
        · rw [ensureCapacity, if_pos small]
        · have range := @cleanThreshold_lt_range maxSize
          rw [ensureCapacity_of_full paths (Nat.le_of_not_lt small),
            Nat.mod_eq_of_lt (by omega), if_pos little]
    · intro full much
      have exactly := fits.resolve_left (Nat.not_lt.mpr full)
      exact ⟨_, cleanedOf_evicted large paths full exactly much⟩

end

theorem evicts_oldest_poster :
    ensureCapacity (2 ^ 30)
        { files := [⟨5, "ab/new", 2 ^ 29⟩, ⟨1, "ab/x.tmp.7.1", 2 ^ 30⟩,
            ⟨2, "cd/old", 2 ^ 29⟩]
          currentSize := 2 ^ 30 } =
      { files := [⟨5, "ab/new", 2 ^ 29⟩, ⟨1, "ab/x.tmp.7.1", 2 ^ 30⟩]
        currentSize := 2 ^ 29 } ∧
      EvictsLeastRecentlyUsed (2 ^ 30)
        { files := [⟨5, "ab/new", 2 ^ 29⟩, ⟨1, "ab/x.tmp.7.1", 2 ^ 30⟩,
            ⟨2, "cd/old", 2 ^ 29⟩]
          currentSize := 2 ^ 30 } :=
  ⟨by decide +kernel,
    (evicts_least_recently_used_iff (by decide) (by decide)
      (by decide)).mpr (.inr (by decide +kernel))⟩

/-- Three sparse files whose lengths add up to more than the counter holds. -/
theorem sparse_files_stay :
    ¬ ∀ (maxSize : Nat) (contents : CacheContents), 2 ^ 30 ≤ maxSize →
      (∀ file ∈ contents.files, file.len < 2 ^ 64) →
        (contents.files.map ScannedFile.path).Nodup →
          EvictsLeastRecentlyUsed maxSize contents := by
  intro cleans
  have full := cleans (2 ^ 30)
    { files := [⟨1, "a", 2 ^ 63 - 1⟩, ⟨2, "b", 2 ^ 63 - 1⟩,
        ⟨3, "c", 2 ^ 63 - 1⟩]
      currentSize := 2 ^ 30 } (by decide) (by decide) (by decide)
  obtain ⟨removed, cleaned⟩ := full.2 (by decide) (by decide +kernel)
  exact absurd cleaned.enough (by decide +kernel)

/-! The same cleaning as the steps of the only task. -/

def DiskState.listed (state : DiskState) (walk : List String) :
    List ScannedFile :=
  walk.filterMap fun path => (state.files.lookup path).map fun file =>
    { modified := file.modified, path, len := file.len }

namespace DiskState

/-- The task at work, and nobody else. -/
def only (state : DiskState) (phase : DiskPhase) : DiskState :=
  { state with tasks := [phase] }

/-- Going on undisturbed leads from one state to another. -/
def LeadsTo (pathForKey : String → String) (maxSize : Nat)
    (walk : List String) (first last : DiskState) : Prop :=
  ∃ count, diskRun pathForKey maxSize first
    (List.replicate count (.resume 0 true walk)) = last

section

variable {pathForKey : String → String} {maxSize : Nat}
  {walk : List String} {state : DiskState}

theorem LeadsTo.refl : LeadsTo pathForKey maxSize walk state state :=
  ⟨0, rfl⟩

theorem LeadsTo.trans {first middle last : DiskState}
    (leads : LeadsTo pathForKey maxSize walk first middle)
    (rest : LeadsTo pathForKey maxSize walk middle last) :
    LeadsTo pathForKey maxSize walk first last := by
  obtain ⟨count, rfl⟩ := leads
  obtain ⟨more, rfl⟩ := rest
  refine ⟨count + more, ?_⟩
  unfold diskRun
  rw [List.replicate_add, List.foldl_append]

theorem LeadsTo.step {phase : DiskPhase} {next last : DiskState}
    (goes : (state.only phase).resume maxSize 0 true walk phase = next)
    (rest : LeadsTo pathForKey maxSize walk next last) :
    LeadsTo pathForKey maxSize walk (state.only phase) last := by
  obtain ⟨count, run⟩ := rest
  refine ⟨count + 1, ?_⟩
  rw [List.replicate_succ, diskRun, List.foldl_cons]
  have first : diskStep pathForKey maxSize (state.only phase)
      (.resume 0 true walk) = next := goes
  rw [first]
  exact run

theorem listed_erase (path : String) :
    ({ state with files := state.files.erase path } : DiskState).listed walk =
      (state.listed walk).filter fun other => other.path ≠ path := by
  unfold listed
  rw [List.filter_filterMap]
  apply List.filterMap_congr
  intro other _
  by_cases same : other = path
  · subst same
    rw [AList.lookup_erase]
    cases state.files.lookup other <;> simp [Option.filter]
  · rw [AList.lookup_erase_ne same]
    cases state.files.lookup other <;> simp [Option.filter, same]

/-- The scan from some path of the walk on. -/
theorem leadsTo_scanned {pending : List String} {files : List ScannedFile}
    {total : Nat} {seen : CacheFiles} :
    LeadsTo pathForKey maxSize walk
      (state.only (.scanning pending files (total % 2 ^ 64) seen))
      (state.only (.reconciling (files ++ state.listed pending)
        ((total + totalLen (state.listed pending)) % 2 ^ 64) seen)) := by
  induction pending generalizing files total with
  | nil =>
      refine .step rfl ?_
      have nothing : state.listed [] = [] := rfl
      rw [nothing, List.append_nil]
      exact .refl
  | cons path pending hypothesis =>
      cases found : state.files.lookup path with
      | none =>
          have skipped : state.listed (path :: pending) =
              state.listed pending := by
            simp [listed, found]
          rw [skipped]
          refine .step ?_ hypothesis
          simp [resume, capacityStep, find, only, found, goOn]
      | some file =>
          have more : state.listed (path :: pending) =
              { modified := file.modified, path, len := file.len } ::
                state.listed pending := by
            simp [listed, found]
          have next := @hypothesis
            (files ++ [{ modified := file.modified, path, len := file.len }])
            (total + file.len)
          have sizes : total + file.len + totalLen (state.listed pending) =
              total + totalLen (state.listed (path :: pending)) := by
            rw [more, totalLen, totalLen, load_cons, Nat.add_assoc]
          rw [List.append_assoc, List.singleton_append, ← more, sizes] at next
          refine .step ?_ next
          simp [resume, capacityStep, find, only, found, goOn]

/-- From an eviction on, every file of which is there, to the end. -/
theorem leadsTo_evicted {sorted : List ScannedFile} {seen : CacheFiles}
    (there : ∀ file ∈ sorted, (state.files.lookup file.path).isSome = true)
    (paths : (sorted.map ScannedFile.path).Nodup) :
    ∃ last, LeadsTo pathForKey maxSize walk (state.only (.evicting sorted seen))
        last ∧
      last.tasks = [.returned] ∧
      { files := last.listed walk, currentSize := last.currentSize } =
        evictFiles (cleanThreshold maxSize) sorted
          { files := state.listed walk, currentSize := state.currentSize } := by
  induction sorted generalizing state with
  | nil => exact ⟨_, .step rfl .refl, rfl, rfl⟩
  | cons file rest hypothesis =>
      by_cases small : state.currentSize < cleanThreshold maxSize
      · refine ⟨(state.only (.evicting (file :: rest) seen)).leaveClean 0,
          .step ?_ .refl, rfl, ?_⟩
        · simp [resume, capacityStep, only, small]
        · rw [evictFiles, if_pos small]
          rfl
      · obtain ⟨found, apart⟩ := List.nodup_cons.mp paths
        obtain ⟨gone, present⟩ := Option.isSome_iff_exists.mp
          (there file List.mem_cons_self)
        let erased : DiskState := { state with
          files := state.files.erase file.path
          currentSize := state.currentSize - file.len }
        have still : ∀ other ∈ rest,
            (erased.files.lookup other.path).isSome = true := by
          intro other listed
          have different : other.path ≠ file.path := by
            intro same
            exact found (same ▸ List.mem_map_of_mem listed)
          have kept : erased.files.lookup other.path =
              state.files.lookup other.path :=
            AList.lookup_erase_ne different
          rw [kept]
          exact there other (List.mem_cons_of_mem file listed)
        obtain ⟨last, leads, returned, same⟩ := hypothesis still apart
        refine ⟨last, ?_, returned, ?_⟩
        · have unlinks : (state.only (.evicting (file :: rest) seen)).resume
              maxSize 0 true walk (.evicting (file :: rest) seen) =
                state.only (.unlinking file.path file.len (some rest) seen) := by
            simp [resume, capacityStep, only, small, goOn]
          have deducts : (state.only (.unlinking file.path file.len
              (some rest) seen)).resume maxSize 0 true walk
                (.unlinking file.path file.len (some rest) seen) =
              only { state with files := state.files.erase file.path }
                (.deducting file.len (some rest) seen) := by
            simp [resume, removeStep, find, only, present, goOn]
          have goesOn : (only { state with
              files := state.files.erase file.path }
                (.deducting file.len (some rest) seen)).resume
                  maxSize 0 true walk
                  (.deducting file.len (some rest) seen) =
              erased.only (.evicting rest seen) := by
            simp [resume, removeStep, only, goOn, afterUnlink, erased]
          exact .step unlinks (.step deducts (.step goesOn leads))
        · rw [same, evictFiles, if_neg small]
          have listing : erased.listed walk =
              (state.listed walk).filter fun other =>
                other.path ≠ file.path :=
            listed_erase file.path
          rw [listing]

theorem recordFiles_listed
    (records : ∀ path ∈ walk, isTempFile path = false) :
    recordFiles (state.listed walk) = state.listed walk := by
  apply List.filter_eq_self.mpr
  intro file listed
  obtain ⟨path, walked, made⟩ := List.mem_filterMap.mp listed
  obtain ⟨found, _, rfl⟩ := Option.map_eq_some_iff.mp made
  simp [records path walked]

theorem listed_paths_sublist :
    ((state.listed walk).map ScannedFile.path).Sublist walk := by
  induction walk with
  | nil => exact .slnil
  | cons path rest hypothesis =>
      cases found : state.files.lookup path with
      | none => simpa [listed, found] using hypothesis.cons path
      | some file => simpa [listed, found] using hypothesis.cons_cons path

theorem isSome_lookup_of_listed {file : ScannedFile}
    (listed : file ∈ state.listed walk) :
    (state.files.lookup file.path).isSome = true := by
  obtain ⟨path, _, made⟩ := List.mem_filterMap.mp listed
  obtain ⟨found, there, rfl⟩ := Option.map_eq_some_iff.mp made
  rw [there]
  rfl

/-- A capacity check that nobody disturbs cleans as the function does. -/
theorem leadsTo_ensureCapacity (unlocked : state.cleanLocked = false)
    (once : walk.Nodup) (records : ∀ path ∈ walk, isTempFile path = false) :
    ∃ last, LeadsTo pathForKey maxSize walk (state.only .checking) last ∧
      last.tasks = [.returned] ∧
      { files := last.listed walk, currentSize := last.currentSize } =
        ensureCapacity maxSize
          { files := state.listed walk, currentSize := state.currentSize } := by
  by_cases small : state.currentSize < maxSize
  · refine ⟨state.only .returned, .step ?_ .refl, rfl, ?_⟩
    · simp [resume, capacityStep, only, small, goOn]
    · rw [ensureCapacity, if_pos small]
      rfl
  · let locked : DiskState := { state with cleanLocked := true }
    have checks : (state.only .checking).resume maxSize 0 true walk
        .checking = state.only .cleaning := by
      simp [resume, capacityStep, only, small, goOn]
    have locks : (state.only .cleaning).resume maxSize 0 true walk
        .cleaning = locked.only .rechecking := by
      simp [resume, capacityStep, only, unlocked, goOn, locked]
    have starts : (locked.only .rechecking).resume maxSize 0 true walk
        .rechecking = locked.only (.scanning walk [] (0 % 2 ^ 64)
          state.files) := by
      simp [resume, capacityStep, only, small, goOn, locked]
    have scans := @leadsTo_scanned pathForKey maxSize walk locked walk [] 0
      state.files
    rw [List.nil_append, Nat.zero_add] at scans
    have begins : LeadsTo pathForKey maxSize walk (state.only .checking)
        (locked.only (.reconciling (state.listed walk)
          (totalLen (state.listed walk) % 2 ^ 64) state.files)) :=
      .step checks (.step locks (.step starts scans))
    let reconciled : DiskState := { locked with
      currentSize := totalLen (state.listed walk) % 2 ^ 64 }
    by_cases little : totalLen (state.listed walk) % 2 ^ 64 <
        cleanThreshold maxSize
    · refine ⟨(reconciled.only (.reconciling (state.listed walk)
        (totalLen (state.listed walk) % 2 ^ 64) state.files)).leaveClean 0,
        begins.trans (.step ?_ .refl), rfl, ?_⟩
      · exact if_pos little
      · rw [ensureCapacity, if_neg small, scanFiles_eq,
          recordFiles_listed records]
        simp only [little, if_true]
        rfl
    · have paths : ((byModification (state.listed walk)).map
          ScannedFile.path).Nodup := by
        have same := (byModification_perm (state.listed walk)).map
          ScannedFile.path
        exact same.nodup_iff.mpr (once.sublist listed_paths_sublist)
      have there : ∀ file ∈ byModification (state.listed walk),
          (reconciled.files.lookup file.path).isSome = true := by
        intro file sorted
        exact isSome_lookup_of_listed
          ((byModification_perm _).mem_iff.mp sorted)
      obtain ⟨last, leads, returned, same⟩ :=
        @leadsTo_evicted pathForKey maxSize walk reconciled _ state.files
          there paths
      have reconciles : (locked.only (.reconciling (state.listed walk)
          (totalLen (state.listed walk) % 2 ^ 64) state.files)).resume
            maxSize 0 true walk
            (.reconciling (state.listed walk)
              (totalLen (state.listed walk) % 2 ^ 64) state.files) =
          reconciled.only (.evicting (byModification (state.listed walk))
            state.files) :=
        if_neg little
      refine ⟨last, begins.trans (.step reconciles leads), returned, ?_⟩
      rw [same, ensureCapacity, if_neg small, scanFiles_eq,
        recordFiles_listed records]
      simp only [little, if_false]
      rfl

end

end DiskState

end Replex
