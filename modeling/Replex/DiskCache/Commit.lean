import Mathlib.Data.List.AList
import Replex.Data.Claims
import Replex.Data.DecimalText
import Replex.Data.Transition
import Replex.DiskCache.Tasks

namespace Replex

open Data

/-! Committing one record: a temporary file beside the destination, a rename
over it, and the account of both lengths. -/

/-- A path that ends in a file name. -/
structure FilePath where
  parent : String
  name : String
  deriving DecidableEq

/-- The name up to its last dot, unless the name begins with that dot. -/
def fileStem (name : String) : String :=
  match name.toList.reverse.dropWhile (· != '.') with
  | [] => name
  | _ :: before =>
      if before = [] then name else String.ofList before.reverse

def withExtension (path : FilePath) (extension : String) : FilePath :=
  { path with name := fileStem path.name ++ "." ++ extension }

def tempPath (processId : Nat) (path : FilePath) (counter : UInt64) :
    FilePath :=
  withExtension path
    ("tmp." ++ toString processId ++ "." ++ toString counter)

inductive DirEntry where
  | file (bytes : List UInt8)
  | directory
  deriving DecidableEq

abbrev Directory := Ledger.Table FilePath DirEntry

namespace Directory

variable (directory : Directory)

def fileLen (path : FilePath) : Option Nat :=
  match directory.lookup path with
  | some (.file bytes) => some bytes.length
  | _ => none

/-- Opening to write creates or empties a file; over a directory it fails. -/
def create (path : FilePath) (ok : Bool) : Option Directory :=
  if ok = true ∧ directory.lookup path ≠ some .directory then
    some (directory.insert path (.file []))
  else none

def removeFile (path : FilePath) : Directory :=
  match directory.lookup path with
  | some (.file _) => directory.erase path
  | _ => directory

/-- A file moves over a file or to a free path, never over a directory. -/
def rename (source target : FilePath) (ok : Bool) : Option Directory :=
  match directory.lookup source, directory.lookup target with
  | some (.file bytes), none | some (.file bytes), some (.file _) =>
      if ok then
        some (AList.insert target (.file bytes) (directory.erase source))
      else none
  | _, _ => none

end Directory

/-- How writing the temporary file may fail: it is not opened, or the writing
breaks off after some bytes. -/
inductive WriteFault where
  | unopened
  | interrupted (written : Nat)
  deriving DecidableEq

def writeFile (directory : Directory) (path : FilePath) (bytes : List UInt8)
    (fault : Option WriteFault) : Bool × Directory :=
  match directory.create path (fault != some .unopened) with
  | none => (false, directory)
  | some created =>
      match fault with
      | some (.interrupted written) =>
          (false, created.insert path (.file (bytes.take written)))
      | _ => (true, created.insert path (.file bytes))

structure CommitFaults where
  write : Option WriteFault := none
  rename : Bool := false

structure CommitState where
  directory : Directory
  writeCounter : UInt64 := 0
  trackedSize : Nat := 0

/-- The tracked size when a record of one length replaces one of another. -/
def accountFor (tracked : Nat) (oldLen : Option Nat) (newLen : Nat) : Nat :=
  min (tracked - oldLen.getD 0 + newLen) (2 ^ 64 - 1)

/-- `true` where the commit succeeds. -/
def commitRecord (processId : Nat) (path : FilePath) (encoded : List UInt8)
    (faults : CommitFaults) (state : CommitState) : Bool × CommitState :=
  let temp := tempPath processId path state.writeCounter
  let state := { state with writeCounter := state.writeCounter + 1 }
  match writeFile state.directory temp encoded faults.write with
  | (false, directory) =>
      (false, { state with directory := directory.removeFile temp })
  | (true, directory) =>
      let oldLen := directory.fileLen path
      match directory.rename temp path (!faults.rename) with
      | none =>
          (false, { state with directory := directory.removeFile temp })
      | some renamed =>
          (true, { state with
            directory := renamed
            trackedSize :=
              accountFor state.trackedSize oldLen encoded.length })

/-! The temporary path is none of a record and differs for each call. -/

theorem toString_injective : Function.Injective (toString : Nat → String) := by
  intro left right equal
  have lists : Nat.toDigits 10 left = Nat.toDigits 10 right := by
    have := congrArg String.toList equal
    simpa using this
  have values := congrArg DecimalText.digits? lists
  simpa using values

theorem tempPath_injective (processId : Nat) (path : FilePath) :
    Function.Injective (tempPath processId path) := by
  intro left right equal
  have names := congrArg (String.toList ∘ FilePath.name) equal
  simp only [tempPath, withExtension, Function.comp_apply,
    String.toList_append, List.append_assoc, List.append_cancel_left_eq]
    at names
  exact UInt64.toNat_inj.mp
    (toString_injective (String.toList_injective names))

theorem fileStem_cases (name : String) :
    fileStem name = name ∨ ∃ extension : List Char, '.' ∉ extension ∧
      name.toList = (fileStem name).toList ++ '.' :: extension := by
  unfold fileStem
  split
  · exact .inl rfl
  · rename_i dot before rest
    split
    · exact .inl rfl
    · right
      refine ⟨(name.toList.reverse.takeWhile (· != '.')).reverse, ?_, ?_⟩
      · intro listed
        have kept := List.all_eq_true.mp List.all_takeWhile '.'
          (List.mem_reverse.mp listed)
        simp at kept
      · have parts := List.takeWhile_append_dropWhile
          (p := fun char => char != '.') (l := name.toList.reverse)
        have isDot : dot = '.' := by
          have head := List.head?_dropWhile_not (fun char => char != '.')
            name.toList.reverse
          simpa [rest] using head
        rw [rest, isDot] at parts
        have forward := congrArg List.reverse parts
        simpa using forward.symm

theorem tempPath_ne (processId : Nat) (path : FilePath) (counter : UInt64) :
    tempPath processId path counter ≠ path := by
  intro equal
  have names := congrArg (String.toList ∘ FilePath.name) equal
  simp only [tempPath, withExtension, Function.comp_apply,
    String.toList_append] at names
  rcases fileStem_cases path.name with whole | ⟨extension, noDot, parts⟩
  · rw [whole] at names
    have lengths := congrArg List.length names
    simp at lengths
  · rw [parts] at names
    have dot : ".".toList = ['.'] := by simp
    have word : "tmp.".toList = ['t', 'm', 'p', '.'] := by simp
    rw [dot, word] at names
    simp only [List.append_assoc, List.append_cancel_left_eq,
      List.cons_append, List.nil_append, List.cons.injEq, true_and] at names
    apply noDot
    rw [← names]
    simp

/-! What each file operation leaves alone, and what it leaves behind. -/

namespace Directory

variable {directory : Directory} {path other source target : FilePath}

theorem lookup_create {ok : Bool} {created : Directory}
    (opened : directory.create path ok = some created) :
    created.lookup path = some (.file []) ∧
      ∀ other ≠ path, created.lookup other = directory.lookup other := by
  unfold create at opened
  split at opened
  · cases opened
    exact ⟨AList.lookup_insert _, fun _ apart => AList.lookup_insert_ne apart⟩
  · cases opened

theorem lookup_removeFile_of_ne (apart : other ≠ path) :
    (directory.removeFile path).lookup other = directory.lookup other := by
  unfold removeFile
  split
  · exact AList.lookup_erase_ne apart
  · rfl

theorem removeFile_leaves_no_file (bytes : List UInt8) :
    (directory.removeFile path).lookup path ≠ some (.file bytes) := by
  unfold removeFile
  split
  · rw [AList.lookup_erase]
    simp
  · rename_i noFile
    exact noFile bytes

theorem rename_eq_some {ok : Bool} {renamed : Directory}
    (moved : directory.rename source target ok = some renamed) :
    ∃ bytes, directory.lookup source = some (.file bytes) ∧
      renamed = AList.insert target (.file bytes) (directory.erase source) := by
  unfold rename at moved
  split at moved
  · rename_i bytes found free
    split at moved
    · exact ⟨bytes, found, (Option.some.inj moved).symm⟩
    · cases moved
  · rename_i bytes replaced found there
    split at moved
    · exact ⟨bytes, found, (Option.some.inj moved).symm⟩
    · cases moved
  · cases moved

theorem lookup_rename {ok : Bool} {renamed : Directory}
    (apart : source ≠ target)
    (moved : directory.rename source target ok = some renamed) :
    renamed.lookup target = directory.lookup source ∧
      renamed.lookup source = none ∧
      ∀ other, other ≠ source → other ≠ target →
        renamed.lookup other = directory.lookup other := by
  obtain ⟨bytes, found, rfl⟩ := rename_eq_some moved
  refine ⟨?_, ?_, ?_⟩
  · rw [AList.lookup_insert, found]
  · rw [AList.lookup_insert_ne apart, AList.lookup_erase]
  · intro other awayFromSource awayFromTarget
    rw [AList.lookup_insert_ne awayFromTarget,
      AList.lookup_erase_ne awayFromSource]

end Directory

theorem lookup_writeFile {directory written : Directory} {path : FilePath}
    {bytes : List UInt8} {fault : Option WriteFault} {ok : Bool}
    (equation : writeFile directory path bytes fault = (ok, written)) :
    (∀ other ≠ path, written.lookup other = directory.lookup other) ∧
      (ok = true → written.lookup path = some (.file bytes)) := by
  unfold writeFile at equation
  split at equation
  · cases equation
    exact ⟨fun _ _ => rfl, fun failed => by cases failed⟩
  · rename_i created opened
    have fresh := (Directory.lookup_create opened).2
    split at equation
    · cases equation
      refine ⟨fun other apart => ?_, fun failed => by cases failed⟩
      rw [AList.lookup_insert_ne apart, fresh other apart]
    · cases equation
      refine ⟨fun other apart => ?_, fun _ => AList.lookup_insert _⟩
      rw [AList.lookup_insert_ne apart, fresh other apart]

section

variable {processId : Nat} {path : FilePath} {encoded : List UInt8}
  {faults : CommitFaults} {state after : CommitState}

theorem commitRecord_failed
    (failed : commitRecord processId path encoded faults state =
      (false, after)) :
    after.trackedSize = state.trackedSize ∧
      (∀ other ≠ tempPath processId path state.writeCounter,
        after.directory.lookup other = state.directory.lookup other) ∧
      ∀ bytes, after.directory.lookup
        (tempPath processId path state.writeCounter) ≠ some (.file bytes) := by
  unfold commitRecord at failed
  dsimp only at failed
  split at failed
  · rename_i written equation
    cases failed
    refine ⟨rfl, fun other apart => ?_, ?_⟩
    · dsimp only
      rw [Directory.lookup_removeFile_of_ne apart,
        (lookup_writeFile equation).1 other apart]
    · exact Directory.removeFile_leaves_no_file
  · rename_i written equation
    split at failed
    · cases failed
      refine ⟨rfl, fun other apart => ?_, ?_⟩
      · dsimp only
        rw [Directory.lookup_removeFile_of_ne apart,
          (lookup_writeFile equation).1 other apart]
      · exact Directory.removeFile_leaves_no_file
    · cases failed

theorem commitRecord_succeeded
    (succeeded : commitRecord processId path encoded faults state =
      (true, after)) :
    after.trackedSize = accountFor state.trackedSize
        (state.directory.fileLen path) encoded.length ∧
      after.directory.lookup path = some (.file encoded) ∧
      after.directory.lookup
        (tempPath processId path state.writeCounter) = none ∧
      ∀ other, other ≠ path →
        other ≠ tempPath processId path state.writeCounter →
          after.directory.lookup other = state.directory.lookup other := by
  have apart := tempPath_ne processId path state.writeCounter
  unfold commitRecord at succeeded
  dsimp only at succeeded
  split at succeeded
  · cases succeeded
  · rename_i written equation
    obtain ⟨untouched, complete⟩ := lookup_writeFile equation
    split at succeeded
    · cases succeeded
    · rename_i renamed moved
      cases succeeded
      obtain ⟨landed, gone, others⟩ := Directory.lookup_rename apart moved
      have sameLen : written.fileLen path = state.directory.fileLen path := by
        unfold Directory.fileLen
        rw [untouched path apart.symm]
      refine ⟨by rw [sameLen], ?_, gone, ?_⟩
      · rw [landed, complete rfl]
      · intro other awayFromPath awayFromTemp
        rw [others other awayFromTemp awayFromPath,
          untouched other awayFromTemp]

end

end Replex
