import Replex.AccountScope
import Replex.Data.Scanning
import Replex.DiskCache.ConcurrentCommits
import Replex.DiskCache.Truncation

namespace Replex

open Data

/-! The cache directory over several lives of the process. Commits break off
anywhere, and the next process walks over what they have left. -/

/-- A temporary file, also one of an earlier naming. -/
def FilePath.isTemp (path : FilePath) : Bool :=
  Text.endsWith path.name ".tmp" || Text.contains path.name ".tmp."

/-- `hash` is the hexadecimal SHA-256 of a text, the function that also makes
fingerprints of tokens. -/
def pathForKey (cacheDir : String) (hash : TokenDigest) (key : String) :
    FilePath where
  parent := cacheDir ++ "/" ++
    String.ofList ((hash.tokenFingerprint key).toList.take 2)
  name := hash.tokenFingerprint key

structure PutCall where
  path : FilePath
  call : CommitCall

structure CacheProcess where
  processId : Nat
  directory : Directory
  writeCounter : UInt64 := 0
  trackedSize : Nat := 0
  locked : Bool := false
  calls : List PutCall := []

/-- Temporary files are removed, the lengths of all others are added up; every
visit tells whether its file operation succeeds. -/
def initVisit (scanned : Directory × Nat) (visit : FilePath × Bool) :
    Directory × Nat :=
  match scanned.1.lookup visit.1 with
  | some (.file bytes) =>
      if !visit.2 then scanned
      else if visit.1.isTemp then
        (scanned.1.removeFile visit.1, scanned.2)
      else (scanned.1, min (scanned.2 + bytes.length) (2 ^ 64 - 1))
  | _ => scanned

def init (directory : Directory) (walk : List (FilePath × Bool)) :
    Directory × Nat :=
  walk.foldl initVisit (directory, 0)

namespace CacheProcess

variable (state : CacheProcess)

/-- What one call sees of the process. -/
def seenBy (call : CommitCall) : CommitsState where
  directory := state.directory
  writeCounter := state.writeCounter
  trackedSize := state.trackedSize
  locked := state.locked
  calls := [call]

/-- A file that is written to has lost its name. -/
def unlinked (put : PutCall) : Bool :=
  match put.call.phase with
  | .filling _ =>
      (state.directory.lookup (put.call.temp state.processId put.path)).isNone
  | _ => false

/-- The process after a step of one call. -/
def taking (index : Nat) (put : PutCall) (after : CommitsState) :
    CacheProcess :=
  { state with
    directory := after.directory
    writeCounter := after.writeCounter
    trackedSize := after.trackedSize
    locked := after.locked
    calls := state.calls.set index
      { put with call := after.calls.headD put.call } }

def resume (index : Nat) (ok : Bool) (amount : Nat) : CacheProcess :=
  match state.calls[index]? with
  | none => state
  | some put =>
      let after := state.taking index put
        (commitCallStep state.processId put.path (state.seenBy put.call)
          { index := 0, ok, amount } put.call)
      if state.unlinked put then { after with directory := state.directory }
      else after

end CacheProcess

/-- `unlink` stands for every removal of a file by `remove`, by the capacity
check and by `clear_all`, which also meets temporary files. -/
inductive CacheEvent where
  | putFull (key : String) (contentType : Option String) (body : Slice)
  | resume (index : Nat) (ok : Bool) (amount : Nat)
  | unlink (path : FilePath)
  | restart (processId : Nat) (walk : List (FilePath × Bool))

section

variable (cacheDir : String) (hash : TokenDigest)

def cacheStep (state : CacheProcess) : CacheEvent → CacheProcess
  | .putFull key contentType body =>
      match encodeRecord contentType body with
      | .error _ => state
      | .ok encoded =>
          { state with
            calls := state.calls ++
              [{ path := pathForKey cacheDir hash key, call := { encoded } }] }
  | .resume index ok amount => state.resume index ok amount
  | .unlink path =>
      { state with directory := state.directory.removeFile path }
  | .restart processId walk =>
      { processId
        directory := (init state.directory walk).1
        trackedSize := (init state.directory walk).2 }

def cacheRun (state : CacheProcess) (events : List CacheEvent) :
    CacheProcess :=
  events.foldl (cacheStep cacheDir hash) state

end

/-! Names of records and of temporary files. -/

theorem isTemp_tempPath (processId : Nat) (path : FilePath)
    (counter : UInt64) : (tempPath processId path counter).isTemp = true := by
  have inside : Text.contains (tempPath processId path counter).name
      ".tmp." = true := by
    rw [Text.contains_iff_infix]
    refine ⟨(fileStem path.name).toList,
      (toString processId ++ "." ++ toString counter).toList, ?_⟩
    simp [tempPath, withExtension]
  rw [FilePath.isTemp, inside, Bool.or_true]

theorem isTemp_pathForKey (cacheDir : String) (hash : TokenDigest)
    (key : String) : (pathForKey cacheDir hash key).isTemp = false := by
  have noDot : '.' ∉ (hash.tokenFingerprint key).toList := by
    intro listed
    have hex := List.all_eq_true.mp (hash.hex_fingerprint key) '.' listed
    revert hex
    decide
  have suffix : Text.endsWith (hash.tokenFingerprint key) ".tmp" = false := by
    rw [← Bool.not_eq_true]
    intro ends
    have listed := (List.isSuffixOf_iff_suffix.mp ends).subset
    exact noDot (listed (by decide))
  have inside : Text.contains (hash.tokenFingerprint key) ".tmp." = false := by
    rw [← Bool.not_eq_true, Text.contains_iff_infix]
    intro inside
    exact noDot (inside.subset (by decide))
  rw [FilePath.isTemp, pathForKey, suffix, inside]
  rfl

theorem counter_of_tempPath {processId : Nat} {path other : FilePath}
    {counter drawn : UInt64}
    (same : tempPath processId path counter =
      tempPath processId other drawn) : counter = drawn := by
  have digits (value : Nat) : '.' ∉ (toString value).toList := by
    intro listed
    have digit := DecimalText.isDigit_of_mem_toString listed
    revert digit
    decide
  have parts (path : FilePath) (counter : UInt64) :
      (tempPath processId path counter).name.toList =
        ((fileStem path.name).toList ++ '.' ::
          ("tmp.".toList ++ (toString processId).toList)) ++
            '.' :: (toString counter).toList := by
    simp [tempPath, withExtension]
  have names := congrArg (String.toList ∘ FilePath.name) same
  simp only [Function.comp_apply, parts] at names
  exact UInt64.toNat_inj.mp (toString_injective (String.toList_injective
    (Text.after_last_separator (digits counter.toNat) (digits drawn.toNat)
      names)))

/-! What holds in every life. -/

def PutCall.drawn (put : PutCall) : Option UInt64 :=
  put.call.drawn

/-- What stands under the temporary name of a call, if anything does. -/
def PutCall.Whole (processId : Nat) (directory : Directory)
    (put : PutCall) : Prop :=
  ∀ bytes, directory.lookup (put.call.temp processId put.path) =
      some (.file bytes) →
    match put.call.phase with
    | .filling written => bytes = put.call.encoded.take written
    | .locking | .measuring | .swapping _ => bytes = put.call.encoded
    | _ => True

structure Recoverable (origins : FilePath → List UInt8 → Prop)
    (state : CacheProcess) : Prop where
  drawn : ∃ claimed, Claims.Exact PutCall.drawn state.calls claimed ∧
    Claims.Drawn state.writeCounter claimed
  origin : ∀ put ∈ state.calls,
    put.path.isTemp = false ∧ origins put.path put.call.encoded
  temps : ∀ {index : Nat} {put : PutCall}, state.calls[index]? = some put →
    put.call.phase ≠ .starting → put.Whole state.processId state.directory
  records : ∀ path, path.isTemp = false → ∀ bytes,
    state.directory.lookup path = some (.file bytes) → origins path bytes

section

variable {origins : FilePath → List UInt8 → Prop} {state later : CacheProcess}
  {index : Nat} {put : PutCall}

/-- Files that only disappear do no harm. -/
theorem Recoverable.shrink (recoverable : Recoverable origins state)
    {directory : Directory}
    (shrinks : ∀ path bytes, directory.lookup path = some (.file bytes) →
      state.directory.lookup path = some (.file bytes)) :
    Recoverable origins { state with directory } where
  drawn := recoverable.drawn
  origin := recoverable.origin
  temps found begun bytes there :=
    recoverable.temps found begun bytes (shrinks _ _ there)
  records path record bytes there :=
    recoverable.records path record bytes (shrinks _ _ there)

/-- A call that has drawn its counter goes on. It may write to its temporary
file, and give its record what it encoded. -/
theorem Recoverable.change (recoverable : Recoverable origins state)
    (found : state.calls[index]? = some put) (next : CommitCall)
    (begun : put.call.phase ≠ .starting) (still : next.phase ≠ .starting)
    (sameCounter : next.counter = put.call.counter)
    (sameBytes : next.encoded = put.call.encoded)
    (process : later.processId = state.processId)
    (counter : later.writeCounter = state.writeCounter)
    (calls : later.calls = state.calls.set index { put with call := next })
    (frame : ∀ path bytes,
      path ≠ put.call.temp state.processId put.path →
      later.directory.lookup path = some (.file bytes) →
        state.directory.lookup path = some (.file bytes) ∨
          path = put.path ∧ bytes = put.call.encoded)
    (whole : PutCall.Whole state.processId later.directory
      { put with call := next }) :
    Recoverable origins later where
  drawn := by
    obtain ⟨claimed, exact', below⟩ := recoverable.drawn
    refine ⟨claimed, ?_, ?_⟩
    · rw [calls]
      apply exact'.step found
      rw [PutCall.drawn, PutCall.drawn, CommitCall.drawn_of_begun still,
        CommitCall.drawn_of_begun begun, sameCounter]
    · rw [counter]
      exact below
  origin := by
    rw [calls]
    intro other listed
    rcases List.mem_or_eq_of_mem_set listed with there | rfl
    · exact recoverable.origin other there
    · obtain ⟨record, origin⟩ :=
        recoverable.origin put (List.mem_of_getElem? found)
      exact ⟨record, sameBytes ▸ origin⟩
  temps := by
    intro position other elsewhere otherBegun
    rw [calls] at elsewhere
    rw [process]
    by_cases same : index = position
    · subst same
      obtain ⟨inside, -⟩ := List.getElem?_eq_some_iff.mp found
      rw [List.getElem?_set_self inside] at elsewhere
      cases elsewhere
      exact whole
    · rw [List.getElem?_set_ne same] at elsewhere
      intro bytes there
      refine recoverable.temps elsewhere otherBegun bytes ?_
      obtain ⟨claimed, exact', -⟩ := recoverable.drawn
      have apart : other.call.temp state.processId other.path ≠
          put.call.temp state.processId put.path := by
        intro sameTemp
        apply same
        apply exact'.unique found elsewhere
          (CommitCall.drawn_of_begun begun)
        rw [PutCall.drawn, CommitCall.drawn_of_begun otherBegun,
          counter_of_tempPath sameTemp]
      rcases frame _ bytes apart there with before | ⟨record, -⟩
      · exact before
      · have plain := (recoverable.origin put
          (List.mem_of_getElem? found)).1
        rw [← record, CommitCall.temp, isTemp_tempPath] at plain
        cases plain
  records := by
    intro path record bytes there
    obtain ⟨plain, origin⟩ :=
      recoverable.origin put (List.mem_of_getElem? found)
    have apart : path ≠ put.call.temp state.processId put.path := by
      rintro rfl
      rw [CommitCall.temp, isTemp_tempPath] at record
      cases record
    rcases frame path bytes apart there with before | ⟨rfl, rfl⟩
    · exact recoverable.records path record bytes before
    · exact origin

theorem Recoverable.begin (recoverable : Recoverable origins state)
    (room : state.calls.length ≤ 2 ^ 64)
    (found : state.calls[index]? = some put)
    (fresh : put.call.phase = .starting) :
    Recoverable origins
      { state with
        writeCounter := state.writeCounter + 1
        calls := state.calls.set index
          { put with
            call := { put.call with
              counter := state.writeCounter, phase := .creating } } } where
  drawn := by
    obtain ⟨claimed, exact', drawn⟩ := recoverable.drawn
    have idle : put.drawn = none := if_pos fresh
    have free : state.writeCounter ∉ claimed := by
      apply drawn.free
      have fewer := exact'.length_lt found idle
      omega
    exact ⟨state.writeCounter :: claimed, exact'.claim found idle rfl free,
      drawn.draw⟩
  origin := by
    intro other listed
    rcases List.mem_or_eq_of_mem_set listed with there | rfl
    · exact recoverable.origin other there
    · exact recoverable.origin put (List.mem_of_getElem? found)
  temps := by
    intro position other elsewhere otherBegun
    by_cases same : index = position
    · subst same
      obtain ⟨inside, -⟩ := List.getElem?_eq_some_iff.mp found
      rw [List.getElem?_set_self inside] at elsewhere
      cases elsewhere
      intro bytes there
      trivial
    · rw [List.getElem?_set_ne same] at elsewhere
      exact recoverable.temps elsewhere otherBegun
  records := recoverable.records

/-- The call touches no file but its temporary one. -/
theorem Recoverable.privately (recoverable : Recoverable origins state)
    (found : state.calls[index]? = some put) (phase : CommitPhase)
    (begun : put.call.phase ≠ .starting) (still : phase ≠ .starting)
    (process : later.processId = state.processId)
    (counter : later.writeCounter = state.writeCounter)
    (calls : later.calls =
      state.calls.set index { put with call := { put.call with phase } })
    (frame : ∀ path ≠ put.call.temp state.processId put.path,
      later.directory.lookup path = state.directory.lookup path)
    (whole : PutCall.Whole state.processId later.directory
      { put with call := { put.call with phase } }) :
    Recoverable origins later :=
  recoverable.change found { put.call with phase } begun still rfl rfl process
    counter calls (fun path _ apart there => .inl (frame path apart ▸ there))
    whole

/-- A call goes on with a file whose name is gone. -/
theorem Recoverable.resume_unlinked (recoverable : Recoverable origins state)
    (found : state.calls[index]? = some put)
    (gone : state.unlinked put = true) (ok : Bool) (amount : Nat) :
    Recoverable origins
      { state.taking index put
          (commitCallStep state.processId put.path (state.seenBy put.call)
            { index := 0, ok, amount } put.call) with
        directory := state.directory } := by
  obtain ⟨path, encoded, counter, phase⟩ := put
  cases phase with
  | filling written =>
      have absent := Option.isNone_iff_eq_none.mp gone
      have whole (phase : CommitPhase) :
          PutCall.Whole state.processId state.directory
            ⟨path, encoded, counter, phase⟩ := by
        intro bytes there
        exact absurd (absent.symm.trans there) (by simp)
      simp only [commitCallStep]
      split
      · exact recoverable.privately found (.discarding false)
          (by simp) (by simp) rfl rfl rfl (fun _ _ => rfl) (whole _)
      · split
        · exact recoverable.privately found .locking
            (by simp) (by simp) rfl rfl rfl (fun _ _ => rfl) (whole _)
        · exact recoverable.privately found (.filling (written + amount))
            (by simp) (by simp) rfl rfl rfl (fun _ _ => rfl) (whole _)
  | _ => cases gone

theorem Recoverable.resume_linked (recoverable : Recoverable origins state)
    (room : state.calls.length ≤ 2 ^ 64)
    (found : state.calls[index]? = some put) (ok : Bool) (amount : Nat) :
    Recoverable origins
      (state.taking index put
        (commitCallStep state.processId put.path (state.seenBy put.call)
          { index := 0, ok, amount } put.call)) := by
  have held := recoverable.temps found
  have plain := (recoverable.origin put (List.mem_of_getElem? found)).1
  obtain ⟨path, encoded, counter, phase⟩ := put
  cases phase with
  | starting => exact recoverable.begin room found rfl
  | creating =>
      simp only [commitCallStep]
      split
      · rename_i created opened
        obtain ⟨empty, frame⟩ := Directory.lookup_create opened
        refine recoverable.privately found (.filling 0)
          (by simp) (by simp) rfl rfl rfl frame ?_
        intro bytes there
        exact (DirEntry.file.inj
          (Option.some.inj (empty.symm.trans there))).symm
      · exact recoverable.privately found (.discarding false)
          (by simp) (by simp) rfl rfl rfl (fun _ _ => rfl)
          (fun _ _ => trivial)
  | filling written =>
      simp only [commitCallStep]
      split
      · exact recoverable.privately found (.discarding false)
          (by simp) (by simp) rfl rfl rfl (fun _ _ => rfl)
          (fun _ _ => trivial)
      · split
        · rename_i complete
          refine recoverable.privately found .locking
            (by simp) (by simp) rfl rfl rfl (fun _ _ => rfl) ?_
          intro bytes there
          exact (held (by simp) bytes there).trans
            (List.take_of_length_le complete.2)
        · refine recoverable.privately found (.filling (written + amount))
            (by simp) (by simp) rfl rfl rfl
            (fun _ apart => AList.lookup_insert_ne apart) ?_
          intro bytes there
          exact (DirEntry.file.inj (Option.some.inj
            ((AList.lookup_insert _).symm.trans there))).symm
  | locking =>
      simp only [commitCallStep]
      split
      · exact recoverable.privately found .locking
          (by simp) (by simp) rfl rfl rfl (fun _ _ => rfl) (held (by simp))
      · exact recoverable.privately found .measuring
          (by simp) (by simp) rfl rfl rfl (fun _ _ => rfl) (held (by simp))
  | measuring =>
      exact recoverable.privately found
        (.swapping (state.directory.fileLen path))
        (by simp) (by simp) rfl rfl rfl (fun _ _ => rfl) (held (by simp))
  | swapping oldLen =>
      simp only [commitCallStep]
      split
      · rename_i renamed moved
        have apart := tempPath_ne state.processId path counter
        obtain ⟨bytes, there, -⟩ := Directory.rename_eq_some moved
        obtain ⟨landed, gone, frame⟩ := Directory.lookup_rename apart moved
        have same : bytes = encoded := held (by simp) bytes there
        refine recoverable.change found
          ⟨encoded, counter, .accounting oldLen⟩ (by simp) (by simp)
          rfl rfl rfl rfl rfl ?_ (fun _ _ => trivial)
        intro other read away found
        by_cases destination : other = path
        · subst destination
          have equal := landed.symm.trans found
          cases there.symm.trans equal
          exact .inr ⟨rfl, same⟩
        · exact .inl ((frame other away destination).symm.trans found)
      · exact recoverable.privately found (.discarding true)
          (by simp) (by simp) rfl rfl rfl (fun _ _ => rfl)
          (fun _ _ => trivial)
  | accounting oldLen =>
      exact recoverable.privately found (.returned true)
        (by simp) (by simp) rfl rfl rfl (fun _ _ => rfl)
        (fun _ _ => trivial)
  | discarding locked =>
      exact recoverable.privately found (.returned false)
        (by simp) (by simp) rfl rfl rfl
        (fun _ apart => Directory.lookup_removeFile_of_ne apart)
        (fun _ _ => trivial)
  | returned ok =>
      exact recoverable.privately found (.returned ok)
        (by simp) (by simp) rfl rfl rfl (fun _ _ => rfl)
        (fun _ _ => trivial)

theorem Recoverable.resume (recoverable : Recoverable origins state)
    (room : state.calls.length ≤ 2 ^ 64) (index : Nat) (ok : Bool)
    (amount : Nat) :
    Recoverable origins (state.resume index ok amount) := by
  unfold CacheProcess.resume
  cases found : state.calls[index]? with
  | none => exact recoverable
  | some put =>
      dsimp only
      split
      · rename_i gone
        exact recoverable.resume_unlinked found gone ok amount
      · exact recoverable.resume_linked room found ok amount

/-- A call that has not begun has drawn nothing. -/
theorem Recoverable.putFull (recoverable : Recoverable origins state)
    {path : FilePath} {encoded : List UInt8} (plain : path.isTemp = false)
    (origin : origins path encoded) :
    Recoverable origins
      { state with
        calls := state.calls ++ [{ path, call := { encoded } }] } where
  drawn := by
    obtain ⟨claimed, exact', below⟩ := recoverable.drawn
    exact ⟨claimed, exact'.start rfl, below⟩
  origin := by
    intro other listed
    rcases List.mem_append.mp listed with there | new
    · exact recoverable.origin other there
    · cases List.mem_singleton.mp new
      exact ⟨plain, origin⟩
  temps := by
    intro index other found begun
    by_cases earlier : index < state.calls.length
    · rw [List.getElem?_append_left earlier] at found
      exact recoverable.temps found begun
    · rw [List.getElem?_append_right (Nat.le_of_not_lt earlier)] at found
      cases List.mem_singleton.mp (List.mem_of_getElem? found)
      exact absurd rfl begun
  records := recoverable.records

/-- The calls of an earlier life are gone, whatever they had come to. -/
theorem Recoverable.restart (recoverable : Recoverable origins state)
    (processId trackedSize : Nat) {directory : Directory}
    (shrinks : ∀ path bytes, directory.lookup path = some (.file bytes) →
      state.directory.lookup path = some (.file bytes)) :
    Recoverable origins { processId, directory, trackedSize } where
  drawn := ⟨[], Claims.exact_empty, Claims.drawn_nil _⟩
  origin := by simp
  temps := by simp
  records path record bytes there :=
    recoverable.records path record bytes (shrinks _ _ there)

end

theorem lookup_of_removeFile {directory : Directory} {path other : FilePath}
    {bytes : List UInt8}
    (there : (directory.removeFile path).lookup other = some (.file bytes)) :
    directory.lookup other = some (.file bytes) := by
  by_cases same : other = path
  · subst same
    exact absurd there (Directory.removeFile_leaves_no_file bytes)
  · rwa [Directory.lookup_removeFile_of_ne same] at there

theorem initVisit_shrinks {scanned : Directory × Nat}
    {visit : FilePath × Bool} {path : FilePath} {bytes : List UInt8}
    (there : (initVisit scanned visit).1.lookup path = some (.file bytes)) :
    scanned.1.lookup path = some (.file bytes) := by
  unfold initVisit at there
  split at there
  · split at there
    · exact there
    · split at there
      · exact lookup_of_removeFile there
      · exact there
  · exact there

/-- The walk writes nothing. -/
theorem init_shrinks (walk : List (FilePath × Bool))
    (scanned : Directory × Nat) {path : FilePath} {bytes : List UInt8}
    (there : (walk.foldl initVisit scanned).1.lookup path =
      some (.file bytes)) :
    scanned.1.lookup path = some (.file bytes) := by
  induction walk generalizing scanned with
  | nil => exact there
  | cons visit walk hypothesis => exact initVisit_shrinks (hypothesis _ there)

section

variable {cacheDir : String} {hash : TokenDigest}
  {origins : FilePath → List UInt8 → Prop} {state : CacheProcess}

/-- What an event puts is among the origins. -/
def CacheEvent.Known (cacheDir : String) (hash : TokenDigest)
    (origins : FilePath → List UInt8 → Prop) : CacheEvent → Prop
  | .putFull key contentType body => ∀ encoded,
      encodeRecord contentType body = .ok encoded →
        origins (pathForKey cacheDir hash key) encoded
  | _ => True

def CacheEvent.isPut : CacheEvent → Bool
  | .putFull _ _ _ => true
  | _ => false

theorem length_calls_step (event : CacheEvent) :
    (cacheStep cacheDir hash state event).calls.length ≤
      state.calls.length + [event].countP CacheEvent.isPut := by
  cases event with
  | putFull key contentType body =>
      simp only [cacheStep]
      split
      · exact Nat.le_add_right _ _
      · simp [CacheEvent.isPut]
  | resume index ok amount =>
      simp only [cacheStep, CacheProcess.resume]
      split
      · exact Nat.le_add_right _ _
      · split <;> simp [CacheProcess.taking]
  | unlink path => exact Nat.le_add_right _ _
  | restart processId walk => exact Nat.zero_le _

theorem Recoverable.step (recoverable : Recoverable origins state)
    (room : state.calls.length ≤ 2 ^ 64) {event : CacheEvent}
    (known : event.Known cacheDir hash origins) :
    Recoverable origins (cacheStep cacheDir hash state event) := by
  cases event with
  | putFull key contentType body =>
      simp only [cacheStep]
      split
      · exact recoverable
      · rename_i encoded written
        exact recoverable.putFull (isTemp_pathForKey cacheDir hash key)
          (known encoded written)
  | resume index ok amount =>
      exact recoverable.resume room index ok amount
  | unlink path =>
      exact recoverable.shrink fun _ _ there => lookup_of_removeFile there
  | restart processId walk =>
      exact recoverable.restart processId _
        fun _ _ there => init_shrinks walk _ there

/-- A life has at most as many calls as there have been puts. -/
theorem recoverable_cacheRun (recoverable : Recoverable origins state)
    (idle : state.calls = []) {events : List CacheEvent}
    (known : ∀ event ∈ events, event.Known cacheDir hash origins)
    (room : events.countP CacheEvent.isPut ≤ 2 ^ 64) :
    Recoverable origins (cacheRun cacheDir hash state events) := by
  have run := @Transition.invariant_of_prefixes _ _ (cacheStep cacheDir hash)
    state (fun taken reached => taken <+: events →
      Recoverable origins reached ∧
        reached.calls.length ≤ taken.countP CacheEvent.isPut)
    (fun _ => ⟨recoverable, by simp [idle]⟩) ?_ events
  · exact (run (List.prefix_refl _)).1
  · intro taken event before upTo
    obtain ⟨recoverable, calls⟩ :=
      before ((List.prefix_append taken [event]).trans upTo)
    have fewer := (((List.prefix_append taken [event]).trans
      upTo).sublist.countP_le).trans room
    refine ⟨recoverable.step (calls.trans fewer)
      (known event (upTo.subset (by simp))), ?_⟩
    rw [List.countP_append]
    exact (length_calls_step event).trans (Nat.add_le_add_right calls _)

end

/-- Whatever breaks off, a record file is one that was there at the start, or
one call of `put_full` in full: a reader gets what that call was given. -/
theorem cached_record_is_whole (cacheDir : String) (hash : TokenDigest)
    (processId : Nat) (directory : Directory) (events : List CacheEvent)
    (room : events.countP CacheEvent.isPut ≤ 2 ^ 64) (key : String)
    (bytes : List UInt8)
    (there : (cacheRun cacheDir hash { processId, directory }
      events).directory.lookup (pathForKey cacheDir hash key) =
        some (.file bytes)) :
    directory.lookup (pathForKey cacheDir hash key) = some (.file bytes) ∨
      ∃ other contentType body,
        CacheEvent.putFull other contentType body ∈ events ∧
          hash.tokenFingerprint other = hash.tokenFingerprint key ∧
          encodeRecord contentType body = .ok bytes ∧
          decodeRecord bytes = .ok (some {
            contentType := contentType.filter (· ≠ ""), body := body.bytes }) := by
  let origins (path : FilePath) (bytes : List UInt8) : Prop :=
    directory.lookup path = some (.file bytes) ∨
      ∃ other contentType body,
        CacheEvent.putFull other contentType body ∈ events ∧
          pathForKey cacheDir hash other = path ∧
          encodeRecord contentType body = .ok bytes
  have fresh : Recoverable origins { processId, directory } :=
    ⟨⟨[], Claims.exact_empty, Claims.drawn_nil _⟩, by simp, by simp,
      fun _ _ _ there => .inl there⟩
  have known : ∀ event ∈ events, event.Known cacheDir hash origins := by
    intro event listed
    cases event with
    | putFull other contentType body =>
        intro encoded written
        exact .inr ⟨other, contentType, body, listed, rfl, written⟩
    | _ => trivial
  have recoverable := recoverable_cacheRun fresh rfl known room
  rcases recoverable.records _ (isTemp_pathForKey cacheDir hash key) bytes
    there with early | ⟨other, contentType, body, listed, samePath, written⟩
  · exact .inl early
  · refine .inr ⟨other, contentType, body, listed,
      congrArg FilePath.name samePath, written, ?_⟩
    have decoded := decodeRecord_encoded written []
    rwa [List.append_nil] at decoded

def posterDigest : TokenDigest where
  tokenFingerprint text :=
    if text = "poster" then
      "293b9207228b7854bc3ccb2959ebea1583e066d41983124a5b381d6fdf6575f8"
    else
      "0000000000000000000000000000000000000000000000000000000000000000"
  length_fingerprint text := by split <;> rfl
  hex_fingerprint text := by split <;> rfl

def posterPath : FilePath :=
  ⟨"/data/replex-cache/29",
    "293b9207228b7854bc3ccb2959ebea1583e066d41983124a5b381d6fdf6575f8"⟩

def posterTemp : FilePath :=
  ⟨"/data/replex-cache/29",
    "293b9207228b7854bc3ccb2959ebea1583e066d41983124a5b381d6fdf6575f8.tmp.1.0"⟩

/-- A write breaks off after five bytes and the process with it; the next one
has the same process id, as in a container, and puts the poster again. -/
def posterEvents : List CacheEvent :=
  [.putFull "poster" none ⟨[7], by decide⟩, .resume 0 true 0,
    .resume 0 true 0, .resume 0 true 5, .restart 1 [(posterTemp, true)],
    .putFull "poster" none ⟨[7], by decide⟩, .resume 0 true 0,
    .resume 0 true 0, .resume 0 true 15, .resume 0 true 0, .resume 0 true 0,
    .resume 0 true 0, .resume 0 true 0, .resume 0 true 0]

theorem poster_survives_broken_write :
    (cacheRun "/data/replex-cache" posterDigest
      { processId := 1, directory := ∅ }
      posterEvents).directory.lookup posterPath =
        some (.file posterRecord.bytes) ∧
      ∃ other contentType body,
        CacheEvent.putFull other contentType body ∈ posterEvents ∧
          posterDigest.tokenFingerprint other =
            posterDigest.tokenFingerprint "poster" ∧
          encodeRecord contentType body = .ok posterRecord.bytes ∧
          decodeRecord posterRecord.bytes = .ok (some {
            contentType := contentType.filter (· ≠ "")
            body := body.bytes }) := by
  have there : (cacheRun "/data/replex-cache" posterDigest
      { processId := 1, directory := ∅ }
      posterEvents).directory.lookup posterPath =
        some (.file posterRecord.bytes) := by
    decide +kernel
  refine ⟨there, ?_⟩
  rcases cached_record_is_whole "/data/replex-cache" posterDigest 1 ∅
    posterEvents (by decide) "poster" posterRecord.bytes there with
    early | put
  · cases early
  · exact put

/-! What the walk at the start of a process finds and leaves. -/

def DirEntry.len : DirEntry → Nat
  | .file bytes => bytes.length
  | .directory => 0

theorem sizeAt_of_no_file {directory : Directory} {path : FilePath}
    (noFile : ∀ bytes, directory.lookup path ≠ some (.file bytes)) :
    Ledger.sizeAt DirEntry.len directory path = 0 := by
  rw [Ledger.sizeAt]
  cases found : directory.lookup path with
  | none => rfl
  | some entry =>
      cases entry with
      | directory => rfl
      | file bytes => exact absurd found (noFile bytes)

section

variable {scanned : Directory × Nat} {visit : FilePath × Bool}
  {path : FilePath}

theorem initVisit_keeps (plain : path.isTemp = false) :
    (initVisit scanned visit).1.lookup path = scanned.1.lookup path := by
  unfold initVisit
  split
  · split
    · rfl
    · split
      · rename_i temp
        apply Directory.lookup_removeFile_of_ne
        rintro rfl
        rw [plain] at temp
        cases temp
      · rfl
  · rfl

theorem init_keeps (walk : List (FilePath × Bool))
    (plain : path.isTemp = false) :
    (walk.foldl initVisit scanned).1.lookup path = scanned.1.lookup path := by
  induction walk generalizing scanned with
  | nil => rfl
  | cons visit walk hypothesis =>
      exact hypothesis.trans (initVisit_keeps plain)

theorem initVisit_removes (temp : path.isTemp = true) (bytes : List UInt8) :
    (initVisit scanned (path, true)).1.lookup path ≠ some (.file bytes) := by
  unfold initVisit
  split
  · simp only [Bool.not_true, temp, if_true]
    exact Directory.removeFile_leaves_no_file bytes
  · rename_i noFile
    exact noFile bytes

theorem init_removes (walk : List (FilePath × Bool))
    (temp : path.isTemp = true) (visited : (path, true) ∈ walk)
    (bytes : List UInt8) :
    (walk.foldl initVisit scanned).1.lookup path ≠ some (.file bytes) := by
  induction walk generalizing scanned with
  | nil => cases visited
  | cons visit walk hypothesis =>
      rcases List.mem_cons.mp visited with rfl | later
      · intro there
        exact initVisit_removes temp bytes (init_shrinks walk _ there)
      · exact hypothesis later

/-- What a visit adds to the account. -/
def counted (directory : Directory) (visit : FilePath × Bool) : Nat :=
  if visit.2 && !visit.1.isTemp then
    Ledger.sizeAt DirEntry.len directory visit.1
  else 0

theorem initVisit_counts (scanned : Directory × Nat)
    (visit : FilePath × Bool) (bounded : scanned.2 ≤ 2 ^ 64 - 1) :
    (initVisit scanned visit).2 =
      min (scanned.2 + counted scanned.1 visit) (2 ^ 64 - 1) := by
  have same : min scanned.2 (2 ^ 64 - 1) = scanned.2 :=
    Nat.min_eq_left bounded
  obtain ⟨path, ok⟩ := visit
  unfold initVisit
  split
  · rename_i bytes there
    cases ok <;> cases temp : path.isTemp <;>
      simp [counted, Ledger.sizeAt, DirEntry.len, temp, there]
    all_goals exact bounded
  · rename_i noFile
    have nothing : counted scanned.1 (path, ok) = 0 := by
      rw [counted, sizeAt_of_no_file noFile, ite_self]
    rw [nothing, Nat.add_zero, same]

theorem counted_initVisit (scanned : Directory × Nat)
    (visit : FilePath × Bool) (other : FilePath × Bool) :
    counted (initVisit scanned visit).1 other = counted scanned.1 other := by
  unfold counted
  split
  · rename_i plain
    have plain : other.1.isTemp = false := by simp at plain; exact plain.2
    rw [Ledger.sizeAt, Ledger.sizeAt, initVisit_keeps plain]
  · rfl

theorem init_counts (walk : List (FilePath × Bool))
    (scanned : Directory × Nat) (bounded : scanned.2 ≤ 2 ^ 64 - 1) :
    (walk.foldl initVisit scanned).2 =
      min (scanned.2 + (walk.map (counted scanned.1)).sum) (2 ^ 64 - 1) := by
  induction walk generalizing scanned with
  | nil => simpa using bounded
  | cons visit walk hypothesis =>
      have step := initVisit_counts scanned visit bounded
      have rest : walk.map (counted (initVisit scanned visit).1) =
          walk.map (counted scanned.1) :=
        List.map_congr_left fun other _ => counted_initVisit scanned visit other
      rw [List.foldl_cons, hypothesis _ (by omega), rest, step,
        List.map_cons, List.sum_cons]
      omega

end

/-- The account of a process that starts: with all files visited and every
operation a success no temporary file is left, no record has changed, and the
tracked size is what the directory holds, up to saturation. -/
theorem startup_account_is_exact (cacheDir : String) (hash : TokenDigest)
    (state : CacheProcess) (events : List CacheEvent) (processId : Nat)
    (walk : List (FilePath × Bool)) (once : (walk.map Prod.fst).Nodup)
    (covers : ∀ path bytes,
      (cacheRun cacheDir hash state events).directory.lookup path =
          some (.file bytes) → (path, true) ∈ walk) :
    let before := cacheRun cacheDir hash state events
    let started :=
      cacheRun cacheDir hash state (events ++ [.restart processId walk])
    (∀ path, path.isTemp = true → ∀ bytes,
        started.directory.lookup path ≠ some (.file bytes)) ∧
      (∀ path, path.isTemp = false →
        started.directory.lookup path = before.directory.lookup path) ∧
      started.trackedSize =
        min (Ledger.total DirEntry.len started.directory) (2 ^ 64 - 1) ∧
      started.calls = [] := by
  intro before started
  have restarted : started = { processId
                               directory := (init before.directory walk).1
                               trackedSize := (init before.directory walk).2 } := by
    simp only [started, cacheRun, List.foldl_append, List.foldl_cons,
      List.foldl_nil, cacheStep, before]
  have noTemps (path : FilePath) (temp : path.isTemp = true)
      (bytes : List UInt8) :
      started.directory.lookup path ≠ some (.file bytes) := by
    intro there
    rw [restarted] at there
    have visited := covers path bytes (init_shrinks walk _ there)
    exact init_removes walk temp visited bytes there
  have kept (path : FilePath) (plain : path.isTemp = false) :
      started.directory.lookup path = before.directory.lookup path := by
    rw [restarted]
    exact init_keeps walk plain
  refine ⟨noTemps, kept, ?_, by rw [restarted]⟩
  have tracked : started.trackedSize =
      min ((walk.map (counted before.directory)).sum) (2 ^ 64 - 1) := by
    rw [restarted]
    simpa [init] using init_counts walk (before.directory, 0) (by omega)
  have sizes : walk.map (counted before.directory) =
      (walk.map Prod.fst).map
        (Ledger.sizeAt DirEntry.len started.directory) := by
    rw [List.map_map]
    apply List.map_congr_left
    rintro ⟨path, ok⟩ listed
    rw [Function.comp_apply, counted]
    cases temp : path.isTemp with
    | true =>
        rw [sizeAt_of_no_file (noTemps path temp)]
        simp
    | false =>
        rw [Ledger.sizeAt, Ledger.sizeAt, kept path temp]
        cases ok with
        | true => rfl
        | false =>
            -- Each path is visited once, so no file is passed over.
            refine (sizeAt_of_no_file fun bytes there => ?_).symm
            have visited := covers path bytes there
            have same := List.inj_on_of_nodup_map once listed visited rfl
            cases same
  rw [tracked, sizes, Ledger.sum_sizeAt DirEntry.len once]
  intro path found
  by_contra unvisited
  apply found
  apply sizeAt_of_no_file
  intro bytes there
  rw [restarted] at there
  exact unvisited (List.mem_map_of_mem
    (covers path bytes (init_shrinks walk _ there)))

theorem broken_write_is_swept :
    (∀ path, path.isTemp = true → ∀ bytes,
      (cacheRun "/data/replex-cache" posterDigest
        { processId := 1, directory := ∅ }
        (posterEvents.take 5)).directory.lookup path ≠ some (.file bytes)) ∧
      (cacheRun "/data/replex-cache" posterDigest
        { processId := 1, directory := ∅ }
        (posterEvents.take 4)).directory.lookup posterTemp =
          some (.file [82, 80, 67, 49, 0]) := by
  have broken : (cacheRun "/data/replex-cache" posterDigest
      { processId := 1, directory := ∅ }
      (posterEvents.take 4)).directory.entries =
        [⟨posterTemp, .file [82, 80, 67, 49, 0]⟩] := by
    decide +kernel
  refine ⟨?_, by rw [AList.lookup, broken]; rfl⟩
  apply (startup_account_is_exact "/data/replex-cache" posterDigest
    { processId := 1, directory := ∅ } (posterEvents.take 4) 1
    [(posterTemp, true)] (by decide) ?_).1
  intro path bytes there
  have listed := AList.mem_lookup_iff.mp there
  rw [broken] at listed
  cases List.mem_singleton.mp listed
  exact List.mem_singleton_self _

end Replex
