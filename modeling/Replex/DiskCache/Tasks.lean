import Mathlib.Data.List.Sort
import Replex.Data.Ledger
import Replex.DiskCache.Record

namespace Replex

open Data Ledger

/-! The record files of the disk cache, and the size that is tracked for
them. Tasks go one file-system step at a time. -/

structure CachedFile where
  bytes : List UInt8
  modified : Nat
  deriving DecidableEq

/-- The committed records by their paths. -/
abbrev CacheFiles := Table String CachedFile

def CachedFile.len (file : CachedFile) : Nat :=
  file.bytes.length

structure ScannedFile where
  modified : Nat
  path : String
  len : Nat
  deriving DecidableEq

/-- Where a task is. Writers go from `preparing` to `accounting` and on to the
capacity check; `unlinking` and `deducting` belong to removals, and with the
files that remain to be evicted to the capacity check. A task that goes by
lengths it has read has the files as they were then, `seen`; no step reads
them. -/
inductive DiskPhase where
  | preparing (path : String) (data : Slice) (contentType : Option String)
  | writing (path : String) (encoded : Slice)
  | committing (path : String) (encoded : Slice) (written : Nat)
  | measuring (path : String) (encoded : Slice) (written : Nat)
  | swapping (path : String) (encoded : Slice) (written : Nat)
      (oldLen : Option Nat) (seen : CacheFiles)
  | accounting (oldLen : Option Nat) (newLen : Nat)
  | checking
  | cleaning
  | rechecking
  | scanning (pending : List String) (files : List ScannedFile) (total : Nat)
      (seen : CacheFiles)
  | reconciling (files : List ScannedFile) (total : Nat) (seen : CacheFiles)
  | evicting (files : List ScannedFile) (seen : CacheFiles)
  | reading (path : String)
  | touching (path : String)
  | sizing (path : String)
  | unlinking (path : String) (len : Nat) (rest : Option (List ScannedFile))
      (seen : CacheFiles)
  | deducting (len : Nat) (rest : Option (List ScannedFile))
      (seen : CacheFiles)
  | walking
  /-- With the length of what has been cleared; nothing reads it. -/
  | clearing (pending : List String) (cleared : Nat)
  | zeroing (cleared : Nat)
  | returned

structure DiskState where
  files : CacheFiles := ∅
  currentSize : Nat := 0
  commitLocked : Bool := false
  cleanLocked : Bool := false
  now : Nat := 0
  tasks : List DiskPhase := []

/-- A step that asks the file system gets its answer with `ok`; a walk over
the cache directory comes to the paths `walk`. -/
inductive DiskAction where
  | putFull (key : String) (data : Slice) (contentType : Option String)
  | getFull (key : String)
  | remove (key : String)
  | clearAll
  | resume (index : Nat) (ok : Bool) (walk : List String)
  | wait (elapsed : Nat)

def cleanThreshold (max : Nat) : Nat :=
  min (max * 85) (2 ^ 64 - 1) / 100

/-- After an unlink a removal is done, and an eviction goes on. -/
def afterUnlink (rest : Option (List ScannedFile)) (seen : CacheFiles) :
    DiskPhase :=
  match rest with
  | none => .returned
  | some rest => .evicting rest seen

namespace DiskState

def goOn (state : DiskState) (index : Nat) (phase : DiskPhase) : DiskState :=
  { state with tasks := state.tasks.set index phase }

/-- `metadata` and `read`. -/
def find (state : DiskState) (path : String) (ok : Bool) :
    Option CachedFile :=
  if ok then state.files.lookup path else none

def leaveClean (state : DiskState) (index : Nat) : DiskState :=
  { state.goOn index .returned with cleanLocked := false }

def commitStep (state : DiskState) (index : Nat) (ok : Bool) :
    DiskPhase → DiskState
  | .preparing path data contentType =>
      if ok then
        match encodeRecord contentType data with
        | .error _ => state.goOn index .returned
        | .ok encoded =>
            -- No vector reaches half of the address space.
            if bounded : encoded.length < 2 ^ 63 then
              state.goOn index (.writing path ⟨encoded, bounded⟩)
            else
              state.goOn index .returned
      else
        state.goOn index .returned
  | .writing path encoded =>
      if ok then state.goOn index (.committing path encoded state.now)
      else state.goOn index .returned
  | .committing path encoded written =>
      if state.commitLocked then
        state
      else
        { state.goOn index (.measuring path encoded written) with
          commitLocked := true }
  | .measuring path encoded written =>
      state.goOn index (.swapping path encoded written
        ((state.find path ok).map CachedFile.len) state.files)
  | .swapping path encoded written oldLen _ =>
      if ok then
        { state.goOn index (.accounting oldLen encoded.bytes.length) with
          files := state.files.insert path
            { bytes := encoded.bytes, modified := written } }
      else
        { state.goOn index .returned with commitLocked := false }
  | .accounting oldLen newLen =>
      { state.goOn index .checking with
        currentSize :=
          min (state.currentSize - oldLen.getD 0 + newLen) (2 ^ 64 - 1)
        commitLocked := false }
  | _ => state

def capacityStep (maxSize : Nat) (state : DiskState) (index : Nat) (ok : Bool)
    (walk : List String) : DiskPhase → DiskState
  | .checking =>
      state.goOn index
        (if state.currentSize < maxSize then .returned else .cleaning)
  | .cleaning =>
      if state.cleanLocked then state
      else { state.goOn index .rechecking with cleanLocked := true }
  | .rechecking =>
      if state.currentSize < maxSize then state.leaveClean index
      else state.goOn index (.scanning walk [] 0 state.files)
  | .scanning [] files total seen =>
      state.goOn index (.reconciling files total seen)
  | .scanning (path :: pending) files total seen =>
      match state.find path ok with
      | none => state.goOn index (.scanning pending files total seen)
      | some file =>
          state.goOn index (.scanning pending
            (files ++ [{ modified := file.modified, path, len := file.len }])
            ((total + file.len) % 2 ^ 64) seen)
  | .reconciling files total seen =>
      let state := { state with currentSize := total }
      if total < cleanThreshold maxSize then
        state.leaveClean index
      else
        state.goOn index (.evicting (files.insertionSort fun left right =>
          left.modified ≤ right.modified) seen)
  | .evicting [] _ => state.leaveClean index
  | .evicting (file :: rest) seen =>
      if state.currentSize < cleanThreshold maxSize then
        state.leaveClean index
      else
        state.goOn index (.unlinking file.path file.len (some rest) seen)
  | _ => state

def removeStep (state : DiskState) (index : Nat) (ok : Bool) :
    DiskPhase → DiskState
  | .reading path =>
      match state.find path ok with
      | none => state.goOn index .returned
      | some file =>
          match decodeRecord file.bytes with
          | .ok none => state.goOn index (.sizing path)
          | .ok (some _) => state.goOn index (.touching path)
          | .error _ => state.goOn index .returned
  | .touching path =>
      match state.find path ok with
      | none => state.goOn index .returned
      | some file =>
          { state.goOn index .returned with
            files := state.files.insert path
              { file with modified := state.now } }
  | .sizing path =>
      match state.find path ok with
      | none => state.goOn index .returned
      | some file =>
          state.goOn index (.unlinking path file.len none state.files)
  | .unlinking path len rest seen =>
      match state.find path ok with
      | none => state.goOn index (afterUnlink rest seen)
      | some _ =>
          { state.goOn index (.deducting len rest seen) with
            files := state.files.erase path }
  | .deducting len rest seen =>
      { state.goOn index (afterUnlink rest seen) with
        currentSize := state.currentSize - len }
  | _ => state

def clearStep (state : DiskState) (index : Nat) (ok : Bool)
    (walk : List String) : DiskPhase → DiskState
  | .walking => state.goOn index (.clearing walk 0)
  | .clearing [] cleared => state.goOn index (.zeroing cleared)
  | .clearing (path :: pending) cleared =>
      match state.find path ok with
      | none => state.goOn index (.clearing pending cleared)
      | some file =>
          { state.goOn index (.clearing pending (cleared + file.len)) with
            files := state.files.erase path }
  | .zeroing _ => { state.goOn index .returned with currentSize := 0 }
  | _ => state

/-- What a task does next. -/
def resume (maxSize : Nat) (state : DiskState) (index : Nat) (ok : Bool)
    (walk : List String) (phase : DiskPhase) : DiskState :=
  match phase with
  | .preparing .. | .writing .. | .committing .. | .measuring ..
  | .swapping .. | .accounting .. => state.commitStep index ok phase
  | .checking | .cleaning | .rechecking | .scanning .. | .reconciling ..
  | .evicting .. => state.capacityStep maxSize index ok walk phase
  | .reading .. | .touching .. | .sizing .. | .unlinking ..
  | .deducting .. => state.removeStep index ok phase
  | .walking | .clearing .. | .zeroing .. =>
      state.clearStep index ok walk phase
  | .returned => state

def start (state : DiskState) (phase : DiskPhase) : DiskState :=
  { state with tasks := state.tasks ++ [phase] }

end DiskState

section

variable (pathForKey : String → String) (maxSize : Nat)

def diskStep (state : DiskState) : DiskAction → DiskState
  | .putFull key data contentType =>
      state.start (.preparing (pathForKey key) data contentType)
  | .getFull key => state.start (.reading (pathForKey key))
  | .remove key => state.start (.sizing (pathForKey key))
  | .clearAll => state.start .walking
  | .resume index ok walk =>
      match state.tasks[index]? with
      | none => state
      | some phase => state.resume maxSize index ok walk phase
  | .wait elapsed => { state with now := state.now + elapsed }

def diskRun (start : DiskState) (actions : List DiskAction) : DiskState :=
  actions.foldl (diskStep pathForKey maxSize) start

end

end Replex
