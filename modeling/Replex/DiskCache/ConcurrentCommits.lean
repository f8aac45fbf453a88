import Replex.DiskCache.Commit

namespace Replex

open Data

/-! Several commits to one path, each going on by one file operation at a
time. -/

inductive CommitPhase where
  | starting
  | creating
  | filling (written : Nat)
  | locking
  | measuring
  | swapping (oldLen : Option Nat)
  | accounting (oldLen : Option Nat)
  | discarding (locked : Bool)
  | returned (ok : Bool)
  deriving DecidableEq

structure CommitCall where
  encoded : List UInt8
  counter : UInt64 := 0
  phase : CommitPhase := .starting
  deriving DecidableEq

structure CommitsState extends CommitState where
  locked : Bool := false
  calls : List CommitCall

/-- The call at an index goes on. Its file operation is answered with `ok`; a
write gets so many more bytes down, and with none left it returns. -/
structure CommitAction where
  index : Nat
  ok : Bool := true
  amount : Nat := 0

def CommitsState.goOn (state : CommitsState) (index : Nat) (call : CommitCall)
    (phase : CommitPhase) : CommitsState :=
  { state with calls := state.calls.set index { call with phase } }

section

variable (processId : Nat) (path : FilePath)

def CommitCall.temp (call : CommitCall) : FilePath :=
  tempPath processId path call.counter

def commitCallStep (state : CommitsState) (action : CommitAction)
    (call : CommitCall) : CommitsState :=
  let temp := call.temp processId path
  match call.phase with
  | .starting =>
      { state with
        writeCounter := state.writeCounter + 1
        calls := state.calls.set action.index
          { call with counter := state.writeCounter, phase := .creating } }
  | .creating =>
      match state.directory.create temp action.ok with
      | some created =>
          { state.goOn action.index call (.filling 0) with
            directory := created }
      | none => state.goOn action.index call (.discarding false)
  | .filling written =>
      if action.ok = false then
        state.goOn action.index call (.discarding false)
      else if action.amount = 0 ∧ call.encoded.length ≤ written then
        state.goOn action.index call .locking
      else
        { state.goOn action.index call (.filling (written + action.amount)) with
          directory := state.directory.insert temp
            (.file (call.encoded.take (written + action.amount))) }
  | .locking =>
      if state.locked then state
      else { state.goOn action.index call .measuring with locked := true }
  | .measuring =>
      state.goOn action.index call (.swapping (state.directory.fileLen path))
  | .swapping oldLen =>
      match state.directory.rename temp path action.ok with
      | some renamed =>
          { state.goOn action.index call (.accounting oldLen) with
            directory := renamed }
      | none => state.goOn action.index call (.discarding true)
  | .accounting oldLen =>
      { state.goOn action.index call (.returned true) with
        trackedSize :=
          accountFor state.trackedSize oldLen call.encoded.length
        locked := false }
  | .discarding locked =>
      { state.goOn action.index call (.returned false) with
        directory := state.directory.removeFile temp
        locked := if locked then false else state.locked }
  | .returned _ => state

def commitsStep (state : CommitsState) (action : CommitAction) :
    CommitsState :=
  match state.calls[action.index]? with
  | none => state
  | some call => commitCallStep processId path state action call

def commitsRun (state : CommitsState) (actions : List CommitAction) :
    CommitsState :=
  actions.foldl (commitsStep processId path) state

end

/-- Calls for these records, none of which has begun. -/
def CommitState.beginAll (state : CommitState) (records : List (List UInt8)) :
    CommitsState :=
  { state with calls := records.map fun encoded => { encoded } }

/-! A commit that nobody interrupts is the run of its own steps. -/

/-- The answers a lone call gets. -/
def commitAnswers (encoded : List UInt8) (faults : CommitFaults) :
    List CommitAction :=
  let goOn : CommitAction := { index := 0 }
  let fail : CommitAction := { index := 0, ok := false }
  match faults.write with
  | some .unopened => [goOn, fail, goOn]
  | some (.interrupted 0) => [goOn, goOn, fail, goOn]
  | some (.interrupted (written + 1)) =>
      [goOn, goOn, { index := 0, amount := written + 1 }, fail, goOn]
  | none =>
      [goOn, goOn, { index := 0, amount := encoded.length + 1 }, goOn, goOn,
        goOn, { index := 0, ok := !faults.rename }, goOn]

/-- The only call of a process. -/
def CommitState.alone (base : CommitState) (locked : Bool) (counter : UInt64)
    (encoded : List UInt8) (phase : CommitPhase) : CommitsState :=
  { base with locked, calls := [{ encoded, counter, phase }] }

section

variable {processId : Nat} {path : FilePath} {encoded : List UInt8}
  (base : CommitState) {counter : UInt64} {ok : Bool} {amount : Nat}

theorem alone_creates {created : Directory}
    (opened : base.directory.create (tempPath processId path counter) ok =
      some created) :
    commitsStep processId path (base.alone false counter encoded .creating)
        { index := 0, ok, amount } =
      CommitState.alone { base with directory := created } false counter
        encoded (.filling 0) := by
  simp [commitsStep, commitCallStep, CommitState.alone, CommitCall.temp,
    CommitsState.goOn, opened]

theorem alone_cannot_create
    (failed : base.directory.create (tempPath processId path counter) ok =
      none) :
    commitsStep processId path (base.alone false counter encoded .creating)
        { index := 0, ok, amount } =
      base.alone false counter encoded (.discarding false) := by
  simp [commitsStep, commitCallStep, CommitState.alone, CommitCall.temp,
    CommitsState.goOn, failed]

theorem alone_fills {written : Nat} (some : amount ≠ 0) :
    commitsStep processId path
        (base.alone false counter encoded (.filling written))
        { index := 0, amount } =
      CommitState.alone
        { base with
          directory := base.directory.insert (tempPath processId path counter)
            (.file (encoded.take (written + amount))) }
        false counter encoded (.filling (written + amount)) := by
  simp [commitsStep, commitCallStep, CommitState.alone, CommitCall.temp,
    CommitsState.goOn, some]

theorem alone_breaks_off {written : Nat} :
    commitsStep processId path
        (base.alone false counter encoded (.filling written))
        { index := 0, ok := false, amount } =
      base.alone false counter encoded (.discarding false) := by
  simp [commitsStep, commitCallStep, CommitState.alone, CommitsState.goOn]

theorem alone_renames {oldLen : Option Nat} {renamed : Directory}
    (moved : base.directory.rename (tempPath processId path counter) path ok =
      some renamed) :
    commitsStep processId path
        (base.alone true counter encoded (.swapping oldLen))
        { index := 0, ok, amount } =
      CommitState.alone { base with directory := renamed } true counter
        encoded (.accounting oldLen) := by
  simp [commitsStep, commitCallStep, CommitState.alone, CommitCall.temp,
    CommitsState.goOn, moved]

theorem alone_cannot_rename {oldLen : Option Nat}
    (failed : base.directory.rename (tempPath processId path counter) path ok =
      none) :
    commitsStep processId path
        (base.alone true counter encoded (.swapping oldLen))
        { index := 0, ok, amount } =
      base.alone true counter encoded (.discarding true) := by
  simp [commitsStep, commitCallStep, CommitState.alone, CommitCall.temp,
    CommitsState.goOn, failed]

theorem alone_discards {locked : Bool} :
    commitsStep processId path
        (base.alone locked counter encoded (.discarding locked))
        { index := 0, ok, amount } =
      CommitState.alone
        { base with
          directory :=
            base.directory.removeFile (tempPath processId path counter) }
        false counter encoded (.returned false) := by
  cases locked <;>
    simp [commitsStep, commitCallStep, CommitState.alone, CommitCall.temp,
      CommitsState.goOn]

theorem alone_accounts {oldLen : Option Nat} :
    commitsStep processId path
        (base.alone true counter encoded (.accounting oldLen))
        { index := 0, ok, amount } =
      CommitState.alone
        { base with
          trackedSize := accountFor base.trackedSize oldLen encoded.length }
        false counter encoded (.returned true) :=
  rfl

/-- From the full file to the rename. -/
theorem alone_measures {written : Nat}
    (complete : encoded.length ≤ written) (answers : List CommitAction) :
    commitsRun processId path
        (base.alone false counter encoded (.filling written))
        ({ index := 0 } :: { index := 0 } :: { index := 0 } :: answers) =
      commitsRun processId path
        (base.alone true counter encoded
          (.swapping (base.directory.fileLen path))) answers := by
  simp [commitsRun, commitsStep, commitCallStep, CommitState.alone,
    CommitsState.goOn, complete]

theorem commitsRun_cons (state : CommitsState) (action : CommitAction)
    (actions : List CommitAction) :
    commitsRun processId path state (action :: actions) =
      commitsRun processId path (commitsStep processId path state action)
        actions :=
  rfl

theorem alone_begins (state : CommitState) :
    commitsStep processId path (state.beginAll [encoded]) { index := 0 } =
      CommitState.alone { state with writeCounter := state.writeCounter + 1 }
        false state.writeCounter encoded .creating :=
  rfl

end

theorem create_again {directory created : Directory} {path : FilePath}
    {ok : Bool} (opened : directory.create path ok = some created) :
    created.insert path (.file []) = created := by
  unfold Directory.create at opened
  split at opened
  · cases opened
    exact AList.insert_insert _
  · cases opened

theorem commitsRun_lone (processId : Nat) (path : FilePath)
    (encoded : List UInt8) (faults : CommitFaults) (state : CommitState) :
    commitsRun processId path (state.beginAll [encoded])
        (commitAnswers encoded faults) =
      CommitState.alone (commitRecord processId path encoded faults state).2
        false state.writeCounter encoded
        (.returned (commitRecord processId path encoded faults state).1) := by
  obtain ⟨write, rename⟩ := faults
  obtain ⟨directory, counter, tracked⟩ := state
  let begun : CommitState := ⟨directory, counter + 1, tracked⟩
  cases opened : directory.create (tempPath processId path counter)
      (write != some .unopened) with
  | none =>
      have failed : begun.directory.create (tempPath processId path counter)
          (write != some .unopened) = none := opened
      have after : commitRecord processId path encoded ⟨write, rename⟩
          ⟨directory, counter, tracked⟩ =
            (false, { begun with
              directory :=
                directory.removeFile (tempPath processId path counter) }) := by
        simp only [commitRecord, writeFile, opened, begun]
      rw [after]
      match write with
      | some .unopened =>
          have shut : begun.directory.create
              (tempPath processId path counter) false = none := failed
          simp only [commitAnswers, commitsRun_cons, alone_begins]
          rw [alone_cannot_create begun shut, alone_discards]
          rfl
      | none | some (.interrupted 0) | some (.interrupted (written + 1)) =>
          have shut : begun.directory.create
              (tempPath processId path counter) true = none := failed
          simp only [commitAnswers, commitsRun_cons, alone_begins]
          rw [alone_cannot_create begun shut, alone_discards]
          rfl
  | some created =>
      let filled : CommitState := { begun with directory := created }
      match write with
      | some .unopened => simp [Directory.create] at opened
      | some (.interrupted 0) =>
          have there : begun.directory.create
              (tempPath processId path counter) true = some created := opened
          have after : commitRecord processId path encoded
              ⟨some (.interrupted 0), rename⟩ ⟨directory, counter, tracked⟩ =
                (false, { begun with
                  directory := created.removeFile
                    (tempPath processId path counter) }) := by
            simp only [commitRecord, writeFile, opened, begun,
              List.take_zero, create_again opened]
          rw [after]
          simp only [commitAnswers, commitsRun_cons, alone_begins]
          rw [alone_creates begun there, alone_breaks_off, alone_discards]
          rfl
      | some (.interrupted (written + 1)) =>
          have there : begun.directory.create
              (tempPath processId path counter) true = some created := opened
          have after : commitRecord processId path encoded
              ⟨some (.interrupted (written + 1)), rename⟩
              ⟨directory, counter, tracked⟩ =
                (false, { begun with
                  directory := Directory.removeFile
                    (created.insert (tempPath processId path counter)
                      (.file (encoded.take (written + 1))))
                    (tempPath processId path counter) }) := by
            simp only [commitRecord, writeFile, opened, begun]
          rw [after]
          simp only [commitAnswers, commitsRun_cons, alone_begins]
          rw [alone_creates begun there,
            alone_fills filled (Nat.succ_ne_zero written), alone_breaks_off,
            alone_discards, Nat.zero_add]
          rfl
      | none =>
          have there : begun.directory.create
              (tempPath processId path counter) true = some created := opened
          let full : CommitState := { begun with
            directory := created.insert (tempPath processId path counter)
              (.file encoded) }
          have whole : encoded.take (0 + (encoded.length + 1)) = encoded :=
            List.take_of_length_le (by omega)
          have complete : encoded.length ≤ 0 + (encoded.length + 1) := by
            omega
          simp only [commitAnswers]
          rw [commitsRun_cons, alone_begins, commitsRun_cons,
            alone_creates begun there, commitsRun_cons,
            alone_fills filled (Nat.succ_ne_zero _), whole,
            alone_measures full complete, commitsRun_cons]
          cases moved : full.directory.rename
              (tempPath processId path counter) path (!rename) with
          | none =>
              have after : commitRecord processId path encoded ⟨none, rename⟩
                  ⟨directory, counter, tracked⟩ =
                    (false, { full with
                      directory := full.directory.removeFile
                        (tempPath processId path counter) }) := by
                simp only [commitRecord, writeFile, opened, moved, full, begun]
              rw [alone_cannot_rename full moved, after, commitsRun_cons,
                alone_discards]
              rfl
          | some renamed =>
              have after : commitRecord processId path encoded ⟨none, rename⟩
                  ⟨directory, counter, tracked⟩ =
                    (true, { full with
                      directory := renamed
                      trackedSize := accountFor tracked
                        (full.directory.fileLen path) encoded.length }) := by
                simp only [commitRecord, writeFile, opened, moved, full, begun]
              rw [alone_renames full moved, after, commitsRun_cons,
                alone_accounts]
              rfl

/-! What holds between the steps of all calls. -/

/-- The counter a call has drawn. -/
def CommitCall.drawn (call : CommitCall) : Option UInt64 :=
  if call.phase = .starting then none else some call.counter

/-- The rename of this call has taken place. -/
def CommitPhase.landed : CommitPhase → Bool
  | .accounting _ | .returned true => true
  | _ => false

/-- What a call has at its temporary path. -/
def CommitCall.TempHolds (processId : Nat) (path : FilePath)
    (directory : Directory) (call : CommitCall) : Prop :=
  match call.phase with
  | .starting | .creating | .discarding _ => True
  | .filling written =>
      directory.lookup (call.temp processId path) =
        some (.file (call.encoded.take written))
  | .locking | .measuring | .swapping _ =>
      directory.lookup (call.temp processId path) = some (.file call.encoded)
  | .accounting _ | .returned _ => ∀ bytes,
      directory.lookup (call.temp processId path) ≠ some (.file bytes)

structure CommitsSound (processId : Nat) (path : FilePath)
    (start : Directory) (records : List (List UInt8)) (state : CommitsState) :
    Prop where
  drawn : ∃ claimed,
    Claims.Exact CommitCall.drawn state.calls claimed ∧
      Claims.Drawn state.writeCounter claimed
  recorded : state.calls.map CommitCall.encoded = records
  temps : ∀ {index : Nat} {call : CommitCall},
    state.calls[index]? = some call →
      call.TempHolds processId path state.directory
  destination :
    (state.directory.lookup path = start.lookup path ∧
        ∀ call ∈ state.calls, call.phase.landed = false) ∨
      ∃ call ∈ state.calls, call.phase.landed = true ∧
        state.directory.lookup path = some (.file call.encoded)
  others : ∀ other ≠ path,
    (∀ counter, other ≠ tempPath processId path counter) →
      state.directory.lookup other = start.lookup other

theorem CommitCall.drawn_of_begun {call : CommitCall}
    (begun : call.phase ≠ .starting) : call.drawn = some call.counter :=
  if_neg begun

section

variable {processId : Nat} {path : FilePath} {start directory : Directory}
  {records : List (List UInt8)} {state later : CommitsState}
  {index : Nat} {call next : CommitCall}

theorem CommitCall.TempHolds.of_lookup
    (holds : call.TempHolds processId path directory) {after : Directory}
    (same : call.phase ≠ .starting →
      after.lookup (call.temp processId path) =
        directory.lookup (call.temp processId path)) :
    call.TempHolds processId path after := by
  obtain ⟨encoded, counter, phase⟩ := call
  cases phase with
  | starting => trivial
  | _ =>
      have same := same (by simp)
      simp only [TempHolds, same] at holds ⊢
      try exact holds

/-- A file that is not of the call at this index keeps what it holds. -/
theorem CommitsSound.temps_set
    (sound : CommitsSound processId path start records state)
    (found : state.calls[index]? = some call)
    (begun : call.phase ≠ .starting)
    (frame : ∀ other, other ≠ path → other ≠ call.temp processId path →
      later.directory.lookup other = state.directory.lookup other)
    (holds : next.TempHolds processId path later.directory)
    {position : Nat} {other : CommitCall}
    (elsewhere : (state.calls.set index next)[position]? = some other) :
    other.TempHolds processId path later.directory := by
  obtain ⟨claimed, exact', _⟩ := sound.drawn
  by_cases same : index = position
  · subst same
    obtain ⟨inside, _⟩ := List.getElem?_eq_some_iff.mp found
    rw [List.getElem?_set_self inside] at elsewhere
    cases elsewhere
    exact holds
  · rw [List.getElem?_set_ne same] at elsewhere
    apply (sound.temps elsewhere).of_lookup
    intro otherBegun
    apply frame
    · exact tempPath_ne processId path other.counter
    · intro sameTemp
      have sameCounter : other.counter = call.counter :=
        tempPath_injective processId path sameTemp
      apply same
      apply exact'.unique found elsewhere
        (CommitCall.drawn_of_begun begun)
      rw [CommitCall.drawn_of_begun otherBegun, sameCounter]

theorem recorded_set (found : state.calls[index]? = some call)
    (next : CommitCall)
    (sameBytes : next.encoded = call.encoded) :
    (state.calls.set index next).map CommitCall.encoded =
      state.calls.map CommitCall.encoded := by
  obtain ⟨front, back, parts, -, replaced⟩ := Claims.exists_split found
  rw [replaced, parts]
  simp [sameBytes]

/-- The destination changes only by a rename of this call. -/
theorem CommitsSound.destination_set
    (sound : CommitsSound processId path start records state)
    (found : state.calls[index]? = some call) (next : CommitCall)
    (sameBytes : next.encoded = call.encoded) {after : Directory}
    (change :
      (after.lookup path = state.directory.lookup path ∧
        next.phase.landed = call.phase.landed) ∨
      (next.phase.landed = true ∧
        after.lookup path = some (.file next.encoded))) :
    (after.lookup path = start.lookup path ∧
        ∀ one ∈ state.calls.set index next, one.phase.landed = false) ∨
      ∃ one ∈ state.calls.set index next, one.phase.landed = true ∧
        after.lookup path = some (.file one.encoded) := by
  obtain ⟨front, back, parts, -, replaced⟩ := Claims.exists_split found
  have before := sound.destination
  rw [parts] at before
  rw [replaced]
  rcases change with ⟨samePath, sameLanded⟩ | ⟨landed, there⟩
  · rcases before with ⟨untouched, none⟩ | ⟨one, listed, landed, there⟩
    · left
      refine ⟨samePath.trans untouched, ?_⟩
      intro one listed
      rcases List.mem_append.mp listed with early | late
      · exact none one (List.mem_append_left _ early)
      · rcases List.mem_cons.mp late with rfl | later
        · rw [sameLanded]
          exact none call (by simp)
        · exact none one (by simp [later])
    · right
      rcases List.mem_append.mp listed with early | late
      · exact ⟨one, by simp [early], landed, samePath.trans there⟩
      · rcases List.mem_cons.mp late with rfl | later
        · refine ⟨next, by simp, sameLanded.trans landed, ?_⟩
          rw [samePath, there, sameBytes]
        · exact ⟨one, by simp [later], landed, samePath.trans there⟩
  · exact .inr ⟨next, by simp, landed, there⟩

/-- A step of a call that has drawn its counter. -/
theorem CommitsSound.change
    (sound : CommitsSound processId path start records state)
    (found : state.calls[index]? = some call) (next : CommitCall)
    (begun : call.phase ≠ .starting) (still : next.phase ≠ .starting)
    (sameCounter : next.counter = call.counter)
    (sameBytes : next.encoded = call.encoded)
    (calls : later.calls = state.calls.set index next)
    (counter : later.writeCounter = state.writeCounter)
    (frame : ∀ other, other ≠ path → other ≠ call.temp processId path →
      later.directory.lookup other = state.directory.lookup other)
    (holds : next.TempHolds processId path later.directory)
    (change :
      (later.directory.lookup path = state.directory.lookup path ∧
        next.phase.landed = call.phase.landed) ∨
      (next.phase.landed = true ∧
        later.directory.lookup path = some (.file next.encoded))) :
    CommitsSound processId path start records later where
  drawn := by
    obtain ⟨claimed, exact', below⟩ := sound.drawn
    refine ⟨claimed, ?_, ?_⟩
    · rw [calls]
      apply exact'.step found
      rw [CommitCall.drawn_of_begun still, CommitCall.drawn_of_begun begun,
        sameCounter]
    · rw [counter]
      exact below
  recorded := by
    rw [calls, recorded_set found next sameBytes]
    exact sound.recorded
  temps := by
    intro position other elsewhere
    rw [calls] at elsewhere
    exact sound.temps_set found begun frame holds elsewhere
  destination := by
    rw [calls]
    exact sound.destination_set found next sameBytes change
  others := by
    intro other apart noTemp
    rw [frame other apart (noTemp call.counter)]
    exact sound.others other apart noTemp

theorem CommitsSound.begin
    (sound : CommitsSound processId path start records state)
    (room : records.length ≤ 2 ^ 64)
    (found : state.calls[index]? = some call)
    (fresh : call.phase = .starting) :
    CommitsSound processId path start records
      { state with
        writeCounter := state.writeCounter + 1
        calls := state.calls.set index
          { call with counter := state.writeCounter, phase := .creating } }
    where
  drawn := by
    obtain ⟨claimed, exact', drawn⟩ := sound.drawn
    have idle : call.drawn = none := if_pos fresh
    have calls : state.calls.length = records.length := by
      rw [← sound.recorded, List.length_map]
    have free : state.writeCounter ∉ claimed := by
      apply drawn.free
      have fewer := exact'.length_lt found idle
      omega
    exact ⟨state.writeCounter :: claimed, exact'.claim found idle rfl free,
      drawn.draw⟩
  recorded := (recorded_set found _ (by rfl)).trans sound.recorded
  temps := by
    intro position other elsewhere
    by_cases same : index = position
    · subst same
      obtain ⟨inside, _⟩ := List.getElem?_eq_some_iff.mp found
      rw [List.getElem?_set_self inside] at elsewhere
      cases elsewhere
      trivial
    · rw [List.getElem?_set_ne same] at elsewhere
      exact sound.temps elsewhere
  destination := by
    refine sound.destination_set found _ (by rfl) (.inl ⟨rfl, ?_⟩)
    rw [fresh]
    rfl
  others := sound.others

/-- A step that touches no file, or the temporary one of its call only. -/
theorem CommitsSound.privately
    (sound : CommitsSound processId path start records state)
    (found : state.calls[index]? = some call)
    (phase : CommitPhase) (begun : call.phase ≠ .starting)
    (still : phase ≠ .starting) (landed : phase.landed = call.phase.landed)
    (calls : later.calls = state.calls.set index { call with phase })
    (counter : later.writeCounter = state.writeCounter)
    (frame : ∀ other, other ≠ call.temp processId path →
      later.directory.lookup other = state.directory.lookup other)
    (holds : CommitCall.TempHolds processId path later.directory
      { call with phase }) :
    CommitsSound processId path start records later :=
  sound.change found { call with phase } begun still rfl rfl calls counter
    (fun other _ apart => frame other apart) holds
    (.inl ⟨frame path (tempPath_ne processId path call.counter).symm, landed⟩)

theorem CommitsSound.step
    (sound : CommitsSound processId path start records state)
    (room : records.length ≤ 2 ^ 64) (action : CommitAction) :
    CommitsSound processId path start records
      (commitsStep processId path state action) := by
  unfold commitsStep
  cases found : state.calls[action.index]? with
  | none => exact sound
  | some call =>
      have held := sound.temps found
      obtain ⟨encoded, counter, phase⟩ := call
      cases phase with
      | starting => exact sound.begin room found rfl
      | creating =>
          simp only [commitCallStep]
          split
          · rename_i created opened
            obtain ⟨empty, frame⟩ := Directory.lookup_create opened
            refine sound.privately found (.filling 0)
              (by simp) (by simp) rfl rfl rfl
              frame ?_
            exact empty
          · exact sound.privately found (.discarding false)
              (by simp) (by simp) rfl rfl rfl
              (fun _ _ => rfl) trivial
      | filling written =>
          simp only [commitCallStep]
          split
          · exact sound.privately found (.discarding false)
              (by simp) (by simp) rfl rfl rfl
              (fun _ _ => rfl) trivial
          · split
            · rename_i complete
              refine sound.privately found .locking
                (by simp) (by simp) rfl rfl rfl
                (fun _ _ => rfl) ?_
              have whole : encoded.take written = encoded :=
                List.take_of_length_le complete.2
              simp only [CommitCall.TempHolds, whole] at held
              exact held
            · refine sound.privately found (.filling (written + action.amount))
                (by simp) (by simp) rfl rfl rfl
                (fun _ apart => AList.lookup_insert_ne apart) ?_
              exact AList.lookup_insert _
      | locking =>
          simp only [commitCallStep]
          split
          · exact sound
          · exact sound.privately found .measuring
              (by simp) (by simp) rfl rfl rfl
              (fun _ _ => rfl) held
      | measuring =>
          exact sound.privately found (.swapping (state.directory.fileLen path))
            (by simp) (by simp) rfl rfl rfl
            (fun _ _ => rfl) held
      | swapping oldLen =>
          simp only [commitCallStep]
          split
          · rename_i renamed moved
            have apart := tempPath_ne processId path counter
            obtain ⟨there, gone, frame⟩ :=
              Directory.lookup_rename apart moved
            refine sound.change found ⟨encoded, counter, .accounting oldLen⟩
              (by simp) (by simp) rfl rfl rfl rfl
              (fun other away noTemp => frame other noTemp away) ?_
              (.inr ⟨rfl, there.trans held⟩)
            intro bytes
            exact ne_of_eq_of_ne gone (by simp)
          · exact sound.privately found (.discarding true)
              (by simp) (by simp) rfl rfl rfl
              (fun _ _ => rfl) trivial
      | accounting oldLen =>
          exact sound.privately found (.returned true)
            (by simp) (by simp) rfl rfl rfl
            (fun _ _ => rfl) held
      | discarding locked =>
          refine sound.privately found (.returned false)
            (by simp) (by simp) rfl rfl rfl
            (fun _ apart => Directory.lookup_removeFile_of_ne apart) ?_
          exact Directory.removeFile_leaves_no_file
      | returned ok => exact sound

theorem commitsSound_beginAll (processId : Nat) (path : FilePath)
    (state : CommitState) (records : List (List UInt8)) :
    CommitsSound processId path state.directory records
      (state.beginAll records) where
  drawn := by
    refine ⟨[], ⟨List.nodup_nil, ?_⟩, Claims.drawn_nil _⟩
    have none : (state.beginAll records).calls.filterMap CommitCall.drawn =
        [] := by
      apply List.filterMap_eq_nil_iff.mpr
      intro call listed
      obtain ⟨encoded, _, rfl⟩ := List.mem_map.mp listed
      rfl
    rw [none]
  recorded := by
    simp [CommitState.beginAll, Function.comp_def]
  temps := by
    intro index call found
    obtain ⟨encoded, _, rfl⟩ := List.mem_map.mp (List.mem_of_getElem? found)
    trivial
  destination := by
    refine .inl ⟨rfl, ?_⟩
    intro call listed
    obtain ⟨encoded, _, rfl⟩ := List.mem_map.mp listed
    rfl
  others := fun _ _ _ => rfl

theorem commitsSound_run (processId : Nat) (path : FilePath)
    (state : CommitState) {records : List (List UInt8)}
    (room : records.length ≤ 2 ^ 64) (actions : List CommitAction) :
    CommitsSound processId path state.directory records
      (commitsRun processId path (state.beginAll records) actions) :=
  Transition.invariant_of_steps
    (fun _ action sound => sound.step room action)
    (commitsSound_beginAll processId path state records) actions

end

theorem accountFor_eq {tracked newLen : Nat} {oldLen : Option Nat}
    (enough : oldLen.getD 0 ≤ tracked)
    (fits : tracked - oldLen.getD 0 + newLen < 2 ^ 64) :
    (accountFor tracked oldLen newLen : Int) =
      tracked + newLen - (oldLen.getD 0 : Nat) := by
  unfold accountFor
  omega

def CommitsState.Settled (state : CommitsState) : Prop :=
  ∀ call ∈ state.calls, ∃ ok, call.phase = .returned ok

/-- A failed commit changes nothing, a successful one replaces the record and
accounts for both lengths up to saturation. Of several commits to one path the
file always holds what was there before or one record in full, and in the end
one of those that succeeded. Were they more than `2 ^ 64`, two of them could
draw one number. -/
theorem commit_record_all_or_nothing (processId : Nat) (path : FilePath)
    (state : CommitState) :
    (∀ (encoded : List UInt8) (faults : CommitFaults) (after : CommitState),
      (commitRecord processId path encoded faults state = (false, after) →
        after.trackedSize = state.trackedSize ∧
          (∀ other ≠ tempPath processId path state.writeCounter,
            after.directory.lookup other = state.directory.lookup other) ∧
          ∀ bytes, after.directory.lookup
            (tempPath processId path state.writeCounter) ≠
              some (.file bytes)) ∧
      (commitRecord processId path encoded faults state = (true, after) →
        after.trackedSize = accountFor state.trackedSize
            (state.directory.fileLen path) encoded.length ∧
          ((state.directory.fileLen path).getD 0 ≤ state.trackedSize →
            state.trackedSize - (state.directory.fileLen path).getD 0 +
                encoded.length < 2 ^ 64 →
              (after.trackedSize : Int) = state.trackedSize +
                encoded.length - ((state.directory.fileLen path).getD 0 : Nat)) ∧
          after.directory.lookup path = some (.file encoded) ∧
          after.directory.lookup
            (tempPath processId path state.writeCounter) = none ∧
          ∀ other, other ≠ path →
            other ≠ tempPath processId path state.writeCounter →
              after.directory.lookup other =
                state.directory.lookup other)) ∧
    ∀ (records : List (List UInt8)) (actions : List CommitAction)
      (reached : CommitsState), records.length ≤ 2 ^ 64 →
      commitsRun processId path (state.beginAll records) actions = reached →
        (reached.directory.lookup path = state.directory.lookup path ∨
          ∃ encoded ∈ records,
            reached.directory.lookup path = some (.file encoded)) ∧
        (reached.Settled →
          ((∃ call ∈ reached.calls, call.phase = .returned true) →
            ∃ call ∈ reached.calls, call.phase = .returned true ∧
              call.encoded ∈ records ∧
              reached.directory.lookup path = some (.file call.encoded)) ∧
          ((∀ call ∈ reached.calls, call.phase = .returned false) →
            reached.directory.lookup path = state.directory.lookup path) ∧
          ∀ call ∈ reached.calls, ∀ bytes, reached.directory.lookup
            (call.temp processId path) ≠ some (.file bytes)) := by
  refine ⟨?_, ?_⟩
  · intro encoded faults after
    refine ⟨commitRecord_failed, ?_⟩
    intro succeeded
    obtain ⟨tracked, there, gone, others⟩ := commitRecord_succeeded succeeded
    refine ⟨tracked, ?_, there, gone, others⟩
    intro enough fits
    rw [tracked, accountFor_eq enough fits]
  · rintro records actions reached room rfl
    have sound := commitsSound_run processId path state room actions
    generalize commitsRun processId path (state.beginAll records) actions =
      reached at sound
    have among {call : CommitCall} (listed : call ∈ reached.calls) :
        call.encoded ∈ records := by
      rw [← sound.recorded]
      exact List.mem_map_of_mem listed
    refine ⟨?_, fun settled => ⟨?_, ?_, ?_⟩⟩
    · rcases sound.destination with
        ⟨untouched, _⟩ | ⟨call, listed, _, there⟩
      · exact .inl untouched
      · exact .inr ⟨call.encoded, among listed, there⟩
    · rintro ⟨winner, member, succeeded⟩
      rcases sound.destination with
        ⟨_, none⟩ | ⟨call, listed, landed, there⟩
      · have := none winner member
        rw [succeeded] at this
        cases this
      · obtain ⟨ok, returned⟩ := settled call listed
        rw [returned] at landed
        cases ok with
        | false => cases landed
        | true => exact ⟨call, listed, returned, among listed, there⟩
    · intro failed
      rcases sound.destination with
        ⟨untouched, _⟩ | ⟨call, listed, landed, _⟩
      · exact untouched
      · rw [failed call listed] at landed
        cases landed
    · intro call listed
      obtain ⟨index, found⟩ := List.mem_iff_getElem?.mp listed
      obtain ⟨ok, returned⟩ := settled call listed
      have holds := sound.temps found
      simp only [CommitCall.TempHolds, returned] at holds
      exact holds

/-- The tracked size may have drifted below the length that is replaced. -/
theorem drifted_commit_saturates :
    ¬ ∀ (processId : Nat) (path : FilePath) (state after : CommitState)
      (encoded : List UInt8) (faults : CommitFaults),
      commitRecord processId path encoded faults state = (true, after) →
        (after.trackedSize : Int) = state.trackedSize + encoded.length -
          ((state.directory.fileLen path).getD 0 : Nat) := by
  intro exactly
  have changed := exactly 1 ⟨"ab", "abcd"⟩
    { directory := AList.insert ⟨"ab", "abcd"⟩ (.file [1, 2]) ∅ } _ [3] {} rfl
  exact absurd changed (by decide)

end Replex
