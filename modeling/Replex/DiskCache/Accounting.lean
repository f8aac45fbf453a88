import Replex.Data.Transition
import Replex.DiskCache.Tasks

namespace Replex

open Data Ledger

/-! When the tracked size of the disk cache is the size of its files. -/

def CacheFiles.totalLen (files : CacheFiles) : Nat :=
  total CachedFile.len files

def CacheFiles.lenAt (files : CacheFiles) (path : String) : Nat :=
  sizeAt CachedFile.len files path

/-- The change of the tracked size that a task still owes for what it has done
to the files. -/
def DiskPhase.owed : DiskPhase → Int
  | .accounting oldLen newLen => newLen - (oldLen.getD 0 : Nat)
  | .deducting len _ _ => -len
  | .clearing _ cleared | .zeroing cleared => -cleared
  | _ => 0

/-- Clearing the cache does not come to the path any more. -/
def DiskPhase.hasPassed (path : String) : DiskPhase → Bool
  | .clearing pending _ => !pending.contains path
  | .zeroing _ => true
  | _ => false

namespace DiskState

/-- How a step must be scheduled. A file that is there is measured, and
unlinked by `clear_all`; a walk comes to every file, and a scan to each of them
once. Between reading a length and going by it the file's length has not
changed; nothing is added behind `clear_all`; a total or a zero is stored while
nobody else owes an adjustment; and no adjustment saturates. -/
def StepScheduled (maxSize : Nat) (state : DiskState) (index : Nat) (ok : Bool)
    (walk : List String) : DiskPhase → Prop
  | .measuring path _ _ => state.find path ok = state.files.lookup path
  | .swapping path _ _ _ seen => ok = true →
      seen.lenAt path = state.files.lenAt path ∧
        ∀ task ∈ state.tasks, task.hasPassed path = false
  | .accounting oldLen newLen =>
      oldLen.getD 0 ≤ state.currentSize ∧
        state.currentSize - oldLen.getD 0 + newLen < 2 ^ 64
  | .rechecking => maxSize ≤ state.currentSize →
      walk.Nodup ∧ ∀ path ∈ state.files.keys, path ∈ walk
  | .scanning (path :: _) _ _ seen =>
      state.find path ok = state.files.lookup path ∧
        seen.lenAt path = state.files.lenAt path
  | .reconciling _ _ seen =>
      (∀ path ∈ seen.keys ++ state.files.keys,
        seen.lenAt path = state.files.lenAt path) ∧
        outstanding DiskPhase.owed (state.tasks.eraseIdx index) = 0
  | .unlinking path _ _ seen => (state.find path ok).isSome = true →
      seen.lenAt path = state.files.lenAt path
  | .deducting len _ _ => len ≤ state.currentSize
  | .walking => ∀ path ∈ state.files.keys, path ∈ walk
  | .clearing (path :: _) _ => state.find path ok = state.files.lookup path
  | .zeroing _ => outstanding DiskPhase.owed (state.tasks.eraseIdx index) = 0
  | _ => True

instance (maxSize : Nat) (state : DiskState) (index : Nat) (ok : Bool)
    (walk : List String) : (phase : DiskPhase) →
      Decidable (state.StepScheduled maxSize index ok walk phase)
  | .measuring .. | .clearing (_ :: _) _ =>
      inferInstanceAs (Decidable (_ = _))
  | .swapping .. | .rechecking | .unlinking .. =>
      inferInstanceAs (Decidable (_ → _))
  | .accounting .. | .scanning (_ :: _) .. | .reconciling .. =>
      inferInstanceAs (Decidable (_ ∧ _))
  | .deducting len _ _ =>
      inferInstanceAs (Decidable (len ≤ state.currentSize))
  | .walking =>
      inferInstanceAs (Decidable (∀ path ∈ state.files.keys, path ∈ walk))
  | .zeroing _ => inferInstanceAs (Decidable
      (outstanding DiskPhase.owed (state.tasks.eraseIdx index) = 0))
  | .preparing .. | .writing .. | .committing .. | .checking | .cleaning
  | .scanning [] .. | .evicting .. | .reading _ | .touching _ | .sizing _
  | .clearing [] _ | .returned => isTrue trivial

end DiskState

/-- The condition on a step of a run. -/
def Scheduled (maxSize : Nat) (state : DiskState) : DiskAction → Prop
  | .resume index ok walk => ∀ phase ∈ state.tasks[index]?,
      state.StepScheduled maxSize index ok walk phase
  | _ => True

instance (maxSize : Nat) (state : DiskState) :
    (action : DiskAction) → Decidable (Scheduled maxSize state action)
  | .resume index ok walk => inferInstanceAs (Decidable
      (∀ phase ∈ state.tasks[index]?,
        state.StepScheduled maxSize index ok walk phase))
  | .putFull .. | .getFull _ | .remove _ | .clearAll | .wait _ => isTrue trivial

def DiskPhase.isReturned : DiskPhase → Bool
  | .returned => true
  | _ => false

/-- No operation is in progress. -/
def DiskState.Idle (state : DiskState) : Prop :=
  ∀ phase ∈ state.tasks, phase.isReturned = true

instance (state : DiskState) : Decidable state.Idle :=
  inferInstanceAs (Decidable (∀ phase ∈ state.tasks, _))

/-- The tracked size, once every task has settled. -/
def DiskState.Balanced (state : DiskState) : Prop :=
  (state.currentSize : Int) + outstanding DiskPhase.owed state.tasks =
    state.files.totalLen

/-- What a task goes by is what the files were like when it read them. -/
def DiskPhase.Faithful : DiskPhase → Prop
  | .swapping path _ _ oldLen seen => oldLen.getD 0 = seen.lenAt path
  | .scanning pending files total seen =>
      (files.map ScannedFile.path ++ pending).Nodup ∧
        (∀ path, seen.lenAt path ≠ 0 →
          path ∈ files.map ScannedFile.path ++ pending) ∧
        (∀ file ∈ files, file.len = seen.lenAt file.path) ∧
        total = (files.map ScannedFile.len).sum % 2 ^ 64
  | .reconciling files total seen =>
      total = seen.totalLen % 2 ^ 64 ∧
        ∀ file ∈ files, file.len = seen.lenAt file.path
  | .evicting files seen => ∀ file ∈ files, file.len = seen.lenAt file.path
  | .unlinking path len rest seen => len = seen.lenAt path ∧
      ∀ file ∈ rest.getD [], file.len = seen.lenAt file.path
  | .deducting _ rest seen =>
      ∀ file ∈ rest.getD [], file.len = seen.lenAt file.path
  | _ => True

/-- What holds between the steps of a run that is scheduled so. -/
structure DiskState.Accountable (state : DiskState) : Prop where
  balanced : state.Balanced
  bounded : state.currentSize < 2 ^ 64
  faithful : ∀ phase ∈ state.tasks, phase.Faithful
  cleared : ∀ phase ∈ state.tasks, ∀ path, phase.hasPassed path = true →
    state.files.lenAt path = 0

/-! Lengths and totals of the files. -/

namespace CacheFiles

variable {files : CacheFiles} {path : String}

theorem totalLen_insert (files : CacheFiles) (path : String)
    (file : CachedFile) :
    CacheFiles.totalLen (files.insert path file) + files.lenAt path =
      files.totalLen + file.len :=
  total_insert CachedFile.len files path file

theorem totalLen_erase (files : CacheFiles) (path : String) :
    CacheFiles.totalLen (files.erase path) + files.lenAt path =
      files.totalLen :=
  total_erase CachedFile.len files path

theorem lenAt_of_lookup {file : CachedFile}
    (found : files.lookup path = some file) : files.lenAt path = file.len := by
  rw [lenAt, sizeAt, found]
  rfl

theorem lenAt_of_absent (absent : files.lookup path = none) :
    files.lenAt path = 0 := by
  rw [lenAt, sizeAt, absent]
  rfl

/-- A file that is replaced by one of its length. -/
theorem lenAt_insert_same {file : CachedFile}
    (same : file.len = files.lenAt path) (other : String) :
    CacheFiles.lenAt (files.insert path file) other = files.lenAt other := by
  by_cases apart : other = path
  · subst apart
    exact (sizeAt_insert_self CachedFile.len other file).trans same
  · exact sizeAt_insert_of_ne CachedFile.len file apart

theorem mem_of_lenAt {walk : List String}
    (covers : ∀ path ∈ files.keys, path ∈ walk) (path : String)
    (found : files.lenAt path ≠ 0) : path ∈ walk :=
  covers path (mem_keys_of_sizeAt CachedFile.len path found)

end CacheFiles

@[simp] theorem DiskPhase.owed_afterUnlink (rest : Option (List ScannedFile))
    (seen : CacheFiles) : (afterUnlink rest seen).owed = 0 := by
  cases rest <;> rfl

@[simp] theorem DiskPhase.hasPassed_afterUnlink
    (rest : Option (List ScannedFile)) (seen : CacheFiles) (path : String) :
    (afterUnlink rest seen).hasPassed path = false := by
  cases rest <;> rfl

theorem DiskPhase.faithful_afterUnlink {rest : Option (List ScannedFile)}
    {seen : CacheFiles}
    (each : ∀ file ∈ rest.getD [], file.len = seen.lenAt file.path) :
    (afterUnlink rest seen).Faithful := by
  cases rest with
  | none => trivial
  | some rest => exact each

/-- A path of the walk that no file stands at. -/
theorem DiskPhase.Faithful.skip {path : String} {pending : List String}
    {files : List ScannedFile} {total : Nat} {seen : CacheFiles}
    (faithful :
      (DiskPhase.scanning (path :: pending) files total seen).Faithful)
    (absent : seen.lenAt path = 0) :
    (DiskPhase.scanning pending files total seen).Faithful := by
  obtain ⟨once, covers, lengths, sum⟩ := faithful
  refine ⟨?_, ?_, lengths, sum⟩
  · exact once.sublist ((List.sublist_cons_self path pending).append_left _)
  · intro other found
    rcases List.mem_append.mp (covers other found) with listed | later
    · exact List.mem_append_left _ listed
    · rcases List.mem_cons.mp later with rfl | later
      · exact absurd absent found
      · exact List.mem_append_right _ later

theorem DiskPhase.Faithful.count (file : ScannedFile) {pending : List String}
    {files : List ScannedFile} {total : Nat} {seen : CacheFiles}
    (faithful :
      (DiskPhase.scanning (file.path :: pending) files total seen).Faithful)
    (measured : file.len = seen.lenAt file.path) :
    (DiskPhase.scanning pending (files ++ [file])
      ((total + file.len) % 2 ^ 64) seen).Faithful := by
  obtain ⟨once, covers, lengths, sum⟩ := faithful
  have moved : (files ++ [file]).map ScannedFile.path ++ pending =
      files.map ScannedFile.path ++ file.path :: pending := by
    simp
  refine ⟨?_, ?_, ?_, ?_⟩
  · rw [moved]
    exact once
  · rw [moved]
    exact covers
  · intro other listed
    rcases List.mem_append.mp listed with earlier | latest
    · exact lengths other earlier
    · cases List.mem_singleton.mp latest
      exact measured
  · rw [sum, List.map_append, List.sum_append, List.map_singleton,
      List.sum_singleton, Nat.mod_add_mod]

/-- A scan that has come to its end has the total of the files it went over. -/
theorem DiskPhase.Faithful.reconciling {files : List ScannedFile} {total : Nat}
    {seen : CacheFiles}
    (faithful : (DiskPhase.scanning [] files total seen).Faithful) :
    (DiskPhase.reconciling files total seen).Faithful := by
  obtain ⟨once, covers, lengths, sum⟩ := faithful
  rw [List.append_nil] at once covers
  refine ⟨?_, lengths⟩
  have sizes : files.map ScannedFile.len =
      (files.map ScannedFile.path).map seen.lenAt := by
    rw [List.map_map]
    exact List.map_congr_left lengths
  rw [sum, sizes]
  exact congrArg (· % 2 ^ 64) (sum_sizeAt CachedFile.len once covers)

namespace DiskState

variable {state : DiskState} {index : Nat} {phase next : DiskPhase}
  {maxSize : Nat} {ok : Bool} {walk : List String}

@[simp] theorem currentSize_goOn :
    (state.goOn index phase).currentSize = state.currentSize :=
  rfl

@[simp] theorem files_goOn : (state.goOn index phase).files = state.files :=
  rfl

theorem lookup_of_find {path : String} {file : CachedFile}
    (found : state.find path ok = some file) :
    state.files.lookup path = some file := by
  unfold find at found
  split at found
  · exact found
  · cases found

theorem Balanced.change (balanced : state.Balanced)
    (found : state.tasks[index]? = some phase) {later : DiskState}
    (tasks : later.tasks = state.tasks.set index next)
    (change : (later.currentSize : Int) + next.owed + state.files.totalLen =
      state.currentSize + phase.owed + later.files.totalLen) :
    later.Balanced := by
  unfold Balanced at balanced ⊢
  rw [tasks, outstanding_set found]
  omega

/-- A task goes on. Where it changes the files, whatever `clear_all` has passed
stays gone. -/
theorem Accountable.change (accountable : state.Accountable)
    (found : state.tasks[index]? = some phase) {later : DiskState}
    (tasks : later.tasks = state.tasks.set index next)
    (change : (later.currentSize : Int) + next.owed + state.files.totalLen =
      state.currentSize + phase.owed + later.files.totalLen)
    (bounded : later.currentSize < 2 ^ 64) (faithful : next.Faithful)
    (cleared : ∀ path, next.hasPassed path = true →
      later.files.lenAt path = 0)
    (others : ∀ task ∈ state.tasks, ∀ path, task.hasPassed path = true →
      state.files.lenAt path = 0 → later.files.lenAt path = 0) :
    later.Accountable where
  balanced := accountable.balanced.change found tasks change
  bounded := bounded
  faithful := by
    rw [tasks]
    intro task listed
    rcases List.mem_or_eq_of_mem_set listed with earlier | rfl
    · exact accountable.faithful task earlier
    · exact faithful
  cleared := by
    rw [tasks]
    intro task listed path passed
    rcases List.mem_or_eq_of_mem_set listed with earlier | rfl
    · exact others task earlier path passed
        (accountable.cleared task earlier path passed)
    · exact cleared path passed

/-- A step that leaves the files, the tracked size and the debts alone. -/
theorem Accountable.goOn (accountable : state.Accountable)
    (found : state.tasks[index]? = some phase)
    (same : next.owed = phase.owed) (faithful : next.Faithful)
    (cleared : ∀ path, next.hasPassed path = true →
      state.files.lenAt path = 0) : (state.goOn index next).Accountable := by
  refine accountable.change found rfl ?_ ?_ faithful cleared ?_
  · rw [same]
    rfl
  · exact accountable.bounded
  · intro task listed path passed gone
    exact gone

theorem Accountable.locks (accountable : state.Accountable)
    (commitLocked cleanLocked : Bool) :
    Accountable { state with commitLocked, cleanLocked } :=
  ⟨accountable.balanced, accountable.bounded, accountable.faithful,
    accountable.cleared⟩

theorem Accountable.leaveClean (accountable : state.Accountable)
    (found : state.tasks[index]? = some phase) (settled : phase.owed = 0) :
    (state.leaveClean index).Accountable := by
  apply Accountable.locks
  exact accountable.goOn found settled.symm trivial (by rintro path ⟨⟩)

/-- A file is unlinked. -/
theorem Accountable.erase (accountable : state.Accountable)
    (found : state.tasks[index]? = some phase) {path : String}
    (owed : next.owed = phase.owed - (state.files.lenAt path : Nat))
    (faithful : next.Faithful)
    (cleared : ∀ other, next.hasPassed other = true →
      other = path ∨ state.files.lenAt other = 0) :
    Accountable { state.goOn index next with
      files := state.files.erase path } := by
  refine accountable.change found rfl ?_ ?_ faithful ?_ ?_
  · have total := CacheFiles.totalLen_erase state.files path
    dsimp only
    rw [owed, currentSize_goOn]
    omega
  · exact accountable.bounded
  · intro other passed
    rcases cleared other passed with rfl | gone
    · have erased := AList.lookup_erase other state.files
      exact CacheFiles.lenAt_of_absent erased
    · exact sizeAt_erase_eq_zero CachedFile.len gone path
  · intro task listed other passed gone
    exact sizeAt_erase_eq_zero CachedFile.len gone path

/-- A file is put in place, behind nobody that has passed its path. -/
theorem Accountable.insert (accountable : state.Accountable)
    (found : state.tasks[index]? = some phase) {path : String}
    {file : CachedFile}
    (owed : next.owed =
      phase.owed + file.len - (state.files.lenAt path : Nat))
    (faithful : next.Faithful) (ahead : ∀ other, next.hasPassed other = false)
    (behind : ∀ task ∈ state.tasks, task.hasPassed path = true →
      file.len = state.files.lenAt path) :
    Accountable { state.goOn index next with
      files := state.files.insert path file } := by
  refine accountable.change found rfl ?_ ?_ faithful ?_ ?_
  · have total := CacheFiles.totalLen_insert state.files path file
    dsimp only
    rw [owed, currentSize_goOn]
    omega
  · exact accountable.bounded
  · intro other passed
    rw [ahead other] at passed
    cases passed
  · intro task listed other passed gone
    by_cases same : other = path
    · subst same
      exact (CacheFiles.lenAt_insert_same (behind task listed passed)
        other).trans gone
    · exact (sizeAt_insert_of_ne CachedFile.len file same).trans gone

theorem Accountable.commitStep (accountable : state.Accountable)
    (found : state.tasks[index]? = some phase)
    (scheduled : state.StepScheduled maxSize index ok walk phase) :
    (state.commitStep index ok phase).Accountable := by
  have faithful := accountable.faithful phase (List.mem_of_getElem? found)
  cases phase with
  | preparing path data contentType =>
      simp only [DiskState.commitStep]
      split
      · split
        · exact accountable.goOn found rfl trivial (by rintro _ ⟨⟩)
        · split
          · exact accountable.goOn found rfl trivial (by rintro _ ⟨⟩)
          · exact accountable.goOn found rfl trivial (by rintro _ ⟨⟩)
      · exact accountable.goOn found rfl trivial (by rintro _ ⟨⟩)
  | writing path encoded =>
      simp only [DiskState.commitStep]
      split
      · exact accountable.goOn found rfl trivial (by rintro _ ⟨⟩)
      · exact accountable.goOn found rfl trivial (by rintro _ ⟨⟩)
  | committing path encoded written =>
      simp only [DiskState.commitStep]
      split
      · exact accountable
      · apply Accountable.locks
        exact accountable.goOn found rfl trivial (by rintro _ ⟨⟩)
  | measuring path encoded written =>
      have measured : state.find path ok = state.files.lookup path := scheduled
      refine accountable.goOn found rfl ?_ (by rintro _ ⟨⟩)
      simp only [DiskPhase.Faithful, measured]
      rfl
  | swapping path encoded written oldLen seen =>
      simp only [DiskState.commitStep]
      split
      next renamed =>
          obtain ⟨unchanged, behind⟩ := scheduled renamed
          have read : oldLen.getD 0 = seen.lenAt path := faithful
          apply accountable.insert found
          · simp only [DiskPhase.owed, CachedFile.len, read, unchanged]
            omega
          · trivial
          · intro other
            rfl
          · intro task listed passed
            rw [behind task listed] at passed
            cases passed
      · apply Accountable.locks
        exact accountable.goOn found rfl trivial (by rintro _ ⟨⟩)
  | accounting oldLen newLen =>
      obtain ⟨enough, fits⟩ := scheduled
      have exactly : min (state.currentSize - oldLen.getD 0 + newLen)
          (2 ^ 64 - 1) = state.currentSize - oldLen.getD 0 + newLen :=
        Nat.min_eq_left (by omega)
      simp only [DiskState.commitStep, exactly]
      refine accountable.change found rfl ?_ fits trivial (by rintro _ ⟨⟩) ?_
      · simp only [DiskPhase.owed, files_goOn]
        omega
      · intro task listed path passed gone
        exact gone
  | _ => exact accountable

/-- A walk that has been over all files and the sizes of which still hold finds
the size that was tracked. -/
theorem Accountable.scanned (accountable : state.Accountable)
    {files : List ScannedFile} {total : Nat} {seen : CacheFiles}
    (found : state.tasks[index]? = some (.reconciling files total seen))
    (scheduled : state.StepScheduled maxSize index ok walk
      (.reconciling files total seen)) : total = state.currentSize := by
  obtain ⟨unchanged, others⟩ := scheduled
  obtain ⟨counted, -⟩ :=
    accountable.faithful _ (List.mem_of_getElem? found)
  have lengths : ∀ path, seen.lenAt path = state.files.lenAt path := by
    intro path
    by_cases kept : path ∈ seen.keys ++ state.files.keys
    · exact unchanged path kept
    · rw [List.mem_append, not_or] at kept
      rw [CacheFiles.lenAt_of_absent (AList.lookup_eq_none.mpr kept.1),
        CacheFiles.lenAt_of_absent (AList.lookup_eq_none.mpr kept.2)]
  have sameTotal : seen.totalLen = state.files.totalLen :=
    total_congr CachedFile.len lengths
  have balanced := accountable.balanced
  have bounded := accountable.bounded
  rw [outstanding_eraseIdx found] at others
  unfold Balanced at balanced
  simp only [DiskPhase.owed] at others
  rw [counted, sameTotal, Nat.mod_eq_of_lt (by omega)]
  omega

theorem Accountable.capacityStep (accountable : state.Accountable)
    (found : state.tasks[index]? = some phase)
    (scheduled : state.StepScheduled maxSize index ok walk phase) :
    (state.capacityStep maxSize index ok walk phase).Accountable := by
  have faithful := accountable.faithful phase (List.mem_of_getElem? found)
  cases phase with
  | checking =>
      simp only [DiskState.capacityStep]
      split
      · exact accountable.goOn found rfl trivial (by rintro _ ⟨⟩)
      · exact accountable.goOn found rfl trivial (by rintro _ ⟨⟩)
  | cleaning =>
      simp only [DiskState.capacityStep]
      split
      · exact accountable
      · apply Accountable.locks
        exact accountable.goOn found rfl trivial (by rintro _ ⟨⟩)
  | rechecking =>
      simp only [DiskState.capacityStep]
      split
      · exact accountable.leaveClean found rfl
      next full =>
          obtain ⟨once, covers⟩ := scheduled (Nat.le_of_not_lt full)
          refine accountable.goOn found rfl ?_ (by rintro _ ⟨⟩)
          refine ⟨once, CacheFiles.mem_of_lenAt covers, ?_, rfl⟩
          intro file listed
          cases listed
  | scanning pending files total seen =>
      cases pending with
      | nil =>
          have whole := faithful.reconciling
          exact accountable.goOn found rfl whole (by rintro _ ⟨⟩)
      | cons path pending =>
          obtain ⟨asked, unchanged⟩ := scheduled
          simp only [DiskState.capacityStep]
          cases there : state.find path ok with
          | none =>
              refine accountable.goOn found rfl ?_ (by rintro _ ⟨⟩)
              apply faithful.skip
              rw [unchanged]
              exact CacheFiles.lenAt_of_absent (asked.symm.trans there)
          | some file =>
              refine accountable.goOn found rfl ?_ (by rintro _ ⟨⟩)
              exact faithful.count ⟨file.modified, path, file.len⟩
                ((CacheFiles.lenAt_of_lookup (lookup_of_find there)).symm.trans
                  unchanged.symm)
  | reconciling files total seen =>
      have same := accountable.scanned found scheduled
      have reconciled : Accountable { state with currentSize := total } := by
        rw [same]
        exact accountable
      simp only [DiskState.capacityStep]
      split
      · exact reconciled.leaveClean found rfl
      · refine reconciled.goOn found rfl ?_ (by rintro _ ⟨⟩)
        intro file listed
        exact faithful.2 file ((List.perm_insertionSort ..).mem_iff.mp listed)
  | evicting files seen =>
      cases files with
      | nil => exact accountable.leaveClean found rfl
      | cons file rest =>
          simp only [DiskState.capacityStep]
          split
          · exact accountable.leaveClean found rfl
          · refine accountable.goOn found rfl ?_ (by rintro _ ⟨⟩)
            exact List.forall_mem_cons.mp faithful
  | _ => exact accountable

theorem Accountable.removeStep (accountable : state.Accountable)
    (found : state.tasks[index]? = some phase)
    (scheduled : state.StepScheduled maxSize index ok walk phase) :
    (state.removeStep index ok phase).Accountable := by
  have faithful := accountable.faithful phase (List.mem_of_getElem? found)
  cases phase with
  | reading path =>
      simp only [DiskState.removeStep]
      split
      · exact accountable.goOn found rfl trivial (by rintro _ ⟨⟩)
      · split <;> exact accountable.goOn found rfl trivial (by rintro _ ⟨⟩)
  | touching path =>
      simp only [DiskState.removeStep]
      cases there : state.find path ok with
      | none => exact accountable.goOn found rfl trivial (by rintro _ ⟨⟩)
      | some file =>
          have same := CacheFiles.lenAt_of_lookup (lookup_of_find there)
          apply accountable.insert found
          · simp only [DiskPhase.owed, CachedFile.len, same]
            omega
          · trivial
          · intro other
            rfl
          · intro task listed passed
            exact same.symm
  | sizing path =>
      simp only [DiskState.removeStep]
      cases there : state.find path ok with
      | none => exact accountable.goOn found rfl trivial (by rintro _ ⟨⟩)
      | some file =>
          refine accountable.goOn found rfl ?_ (by rintro _ ⟨⟩)
          refine ⟨(CacheFiles.lenAt_of_lookup (lookup_of_find there)).symm, ?_⟩
          intro file listed
          cases listed
  | unlinking path len rest seen =>
      obtain ⟨read, each⟩ := faithful
      simp only [DiskState.removeStep]
      cases there : state.find path ok with
      | none =>
          refine accountable.goOn found (DiskPhase.owed_afterUnlink rest seen)
            (DiskPhase.faithful_afterUnlink each) ?_
          intro other passed
          rw [DiskPhase.hasPassed_afterUnlink] at passed
          cases passed
      | some file =>
          have unchanged := scheduled (by rw [there]; rfl)
          apply accountable.erase found
          · simp only [DiskPhase.owed, read, unchanged]
            omega
          · exact each
          · rintro other ⟨⟩
  | deducting len rest seen =>
      have enough : len ≤ state.currentSize := scheduled
      have bounded := accountable.bounded
      simp only [DiskState.removeStep]
      refine accountable.change found rfl ?_ ?_
        (DiskPhase.faithful_afterUnlink faithful) ?_ ?_
      · rw [DiskPhase.owed_afterUnlink]
        simp only [DiskPhase.owed, files_goOn]
        omega
      · dsimp only
        omega
      · intro path passed
        rw [DiskPhase.hasPassed_afterUnlink] at passed
        cases passed
      · intro task listed path passed gone
        exact gone
  | _ => exact accountable

theorem Accountable.clearStep (accountable : state.Accountable)
    (found : state.tasks[index]? = some phase)
    (scheduled : state.StepScheduled maxSize index ok walk phase) :
    (state.clearStep index ok walk phase).Accountable := by
  have gone := accountable.cleared phase (List.mem_of_getElem? found)
  cases phase with
  | walking =>
      refine accountable.goOn found rfl trivial ?_
      intro path passed
      by_contra left
      have listed := CacheFiles.mem_of_lenAt scheduled path left
      simp [DiskPhase.hasPassed, listed] at passed
  | clearing pending cleared =>
      cases pending with
      | nil =>
          refine accountable.goOn found rfl trivial ?_
          intro path _
          exact gone path rfl
      | cons path pending =>
          have asked : state.find path ok = state.files.lookup path :=
            scheduled
          have before : ∀ other,
              (DiskPhase.clearing pending 0).hasPassed other = true →
                other = path ∨ state.files.lenAt other = 0 := by
            intro other passed
            by_cases same : other = path
            · exact .inl same
            · refine .inr (gone other ?_)
              simp only [DiskPhase.hasPassed, Bool.not_eq_true',
                List.contains_eq_mem, decide_eq_false_iff_not] at passed ⊢
              rw [List.mem_cons, not_or]
              exact ⟨same, passed⟩
          simp only [DiskState.clearStep]
          cases there : state.find path ok with
          | none =>
              refine accountable.goOn found rfl trivial ?_
              intro other passed
              rcases before other passed with rfl | absent
              · exact CacheFiles.lenAt_of_absent (asked.symm.trans there)
              · exact absent
          | some file =>
              apply accountable.erase found
              · rw [CacheFiles.lenAt_of_lookup (lookup_of_find there)]
                simp only [DiskPhase.owed]
                omega
              · trivial
              · exact before
  | zeroing cleared =>
      have others : outstanding DiskPhase.owed
          (state.tasks.eraseIdx index) = 0 := scheduled
      rw [outstanding_eraseIdx found] at others
      have nothing : state.files.totalLen = 0 :=
        total_eq_zero CachedFile.len fun path => gone path rfl
      have balanced := accountable.balanced
      unfold Balanced at balanced
      simp only [DiskState.clearStep]
      refine accountable.change found rfl ?_ ?_ trivial (by rintro _ ⟨⟩) ?_
      · simp only [DiskPhase.owed, files_goOn] at others ⊢
        omega
      · exact Nat.two_pow_pos 64
      · intro task listed path passed absent
        exact absent
  | _ => exact accountable

theorem Accountable.resume (accountable : state.Accountable)
    (found : state.tasks[index]? = some phase)
    (scheduled : state.StepScheduled maxSize index ok walk phase) :
    (state.resume maxSize index ok walk phase).Accountable := by
  cases phase <;> first
    | exact accountable.commitStep found scheduled
    | exact accountable.capacityStep found scheduled
    | exact accountable.removeStep found scheduled
    | exact accountable.clearStep found scheduled

theorem Accountable.start (accountable : state.Accountable)
    (settled : phase.owed = 0) (faithful : phase.Faithful)
    (ahead : ∀ path, phase.hasPassed path = false) :
    (state.start phase).Accountable where
  balanced := by
    have balanced := accountable.balanced
    unfold Balanced at balanced ⊢
    simp only [DiskState.start, outstanding_append, settled]
    omega
  bounded := accountable.bounded
  faithful := by
    intro task listed
    rcases List.mem_append.mp listed with earlier | latest
    · exact accountable.faithful task earlier
    · cases List.mem_singleton.mp latest
      exact faithful
  cleared := by
    intro task listed path passed
    rcases List.mem_append.mp listed with earlier | latest
    · exact accountable.cleared task earlier path passed
    · cases List.mem_singleton.mp latest
      rw [ahead path] at passed
      cases passed

end DiskState

theorem accountable_diskStep (pathForKey : String → String) (maxSize : Nat)
    (state : DiskState) (action : DiskAction)
    (accountable : state.Accountable)
    (scheduled : Scheduled maxSize state action) :
    (diskStep pathForKey maxSize state action).Accountable := by
  cases action with
  | putFull key data contentType =>
      exact accountable.start rfl trivial fun _ => rfl
  | getFull key => exact accountable.start rfl trivial fun _ => rfl
  | remove key => exact accountable.start rfl trivial fun _ => rfl
  | clearAll => exact accountable.start rfl trivial fun _ => rfl
  | resume index ok walk =>
      simp only [diskStep]
      cases found : state.tasks[index]? with
      | none => exact accountable
      | some phase => exact accountable.resume found (scheduled phase found)
  | wait elapsed =>
      exact ⟨accountable.balanced, accountable.bounded, accountable.faithful,
        accountable.cleared⟩

theorem DiskState.Balanced.matches {state : DiskState}
    (balanced : state.Balanced) (idle : state.Idle) :
    state.currentSize = state.files.totalLen := by
  have settled : outstanding DiskPhase.owed state.tasks = 0 := by
    apply outstanding_eq_zero
    intro phase listed
    have returned := idle phase listed
    cases phase <;> first | rfl | cases returned
  unfold DiskState.Balanced at balanced
  omega

/-- While no operation is in progress the tracked size is the size of the
files, after every run that is scheduled so. -/
theorem tracked_size_matches (pathForKey : String → String) (maxSize : Nat)
    {start : DiskState} (fresh : start.tasks = [])
    (tracked : start.currentSize = start.files.totalLen)
    (bounded : start.currentSize < 2 ^ 64) {actions taken : List DiskAction}
    (scheduled : Transition.Meets (diskStep pathForKey maxSize)
      (Scheduled maxSize) start actions)
    (reached : taken <+: actions)
    (idle : (diskRun pathForKey maxSize start taken).Idle) :
    (diskRun pathForKey maxSize start taken).currentSize =
      (diskRun pathForKey maxSize start taken).files.totalLen := by
  have initial : start.Accountable := by
    refine ⟨?_, bounded, ?_, ?_⟩
    · unfold DiskState.Balanced
      rw [fresh, tracked]
      exact Int.add_zero _
    · rw [fresh]
      exact fun _ listed => absurd listed List.not_mem_nil
    · rw [fresh]
      exact fun _ listed => absurd listed List.not_mem_nil
  have accountable := Transition.invariant_of_meets
    (accountable_diskStep pathForKey maxSize) initial
    (Transition.meets_of_prefix scheduled reached)
  exact accountable.balanced.matches idle

/-! Posters in a small cache. -/

/-- A write from the start to the capacity check. -/
def wholeWrite (index : Nat) : List DiskAction :=
  List.replicate 7 (.resume index true [])

/-- The first poster is written twice and the third one fills the cache: two
are evicted, and what is left is cleared. -/
def filledCache : List DiskAction :=
  [.putFull "first" ⟨[1, 2, 3], by decide⟩ none] ++ wholeWrite 0 ++
    .wait 1 :: .putFull "first" ⟨[4], by decide⟩ none :: wholeWrite 1 ++
    .wait 1 :: .putFull "second" ⟨[5, 6], by decide⟩ none :: wholeWrite 2 ++
    .wait 1 :: .putFull "third" ⟨[7, 8, 9], by decide⟩ none :: wholeWrite 3 ++
    List.replicate 14 (.resume 3 true ["third", "first", "second"]) ++
    .clearAll :: List.replicate 4 (.resume 4 true ["third"])

theorem filled_cache_tracked :
    (diskRun id 36 {} (filledCache.take 49)).currentSize = 17 ∧
      (diskRun id 36 {} filledCache).currentSize = 0 := by
  refine ⟨?_, ?_⟩
  · rw [tracked_size_matches id 36 rfl rfl (by decide) _
      (List.take_prefix 49 filledCache)]
    · decide +kernel
    · decide +kernel
    · decide +kernel
  · rw [tracked_size_matches id 36 rfl rfl (by decide) _
      (List.prefix_refl filledCache)]
    · decide +kernel
    · decide +kernel
    · decide +kernel

/-- The poster is removed between the rename and the count of its write. -/
def removedPoster : List DiskAction :=
  [.putFull "poster" ⟨[1, 2, 3], by decide⟩ none] ++
    List.replicate 5 (.resume 0 true []) ++
    .remove "poster" :: List.replicate 3 (.resume 1 true []) ++
    List.replicate 2 (.resume 0 true [])

theorem removed_poster_still_tracked :
    (diskRun id (45 * 2 ^ 30) {} removedPoster).Idle ∧
      (diskRun id (45 * 2 ^ 30) {} removedPoster).currentSize ≠
        (diskRun id (45 * 2 ^ 30) {} removedPoster).files.totalLen := by
  decide

end Replex
