import Replex.DiskCache.Tasks

namespace Replex

open Data

/-! What a reader makes of a record file that was cut short. -/

theorem getD_filter_ne_empty (contentType : Option String) :
    (contentType.filter (· ≠ "")).getD "" = contentType.getD "" := by
  cases contentType with
  | none => rfl
  | some text =>
      by_cases empty : text = "" <;> simp [Option.filter, empty]

/-- What two encodings decode to tells them apart. -/
theorem encoded_eq_of_decoded_eq {contentType other : Option String}
    {body rest : Slice} {encoded again : List UInt8}
    (written : encodeRecord contentType body = .ok encoded)
    (rewritten : encodeRecord other rest = .ok again)
    (types : contentType.filter (· ≠ "") = other.filter (· ≠ ""))
    (bodies : body.bytes = rest.bytes) : encoded = again := by
  have sameType : contentType.getD "" = other.getD "" := by
    rw [← getD_filter_ne_empty contentType, types, getD_filter_ne_empty]
  have left := (encodeRecord_eq_ok_iff.mp written).bytes
  have right := (encodeRecord_eq_ok_iff.mp rewritten).bytes
  rw [left, right, sameType, bodies]

section

variable {contentType : Option String} {body : Slice}
  {encoded data : List UInt8}

theorem decodeRecord_of_truncated
    (written : encodeRecord contentType body = .ok encoded)
    (truncated : data <+: encoded) (short : data.length < encoded.length)
    (bounded : data.length < 2 ^ 63) (headed : 4 ≤ data.length) :
    decodeRecord data = .ok none := by
  have magic : cacheMagic <+: data :=
    List.prefix_of_prefix_length_le
      (encodeRecord_eq_ok_iff.mp written).magic truncated headed
  obtain ⟨rest, parts⟩ := truncated
  obtain ⟨result, decoded⟩ := decodeRecord_total ⟨data, bounded⟩
  cases result with
  | none => exact decoded
  | some record =>
      -- The prefix would hold a whole record, so the rest would trail it.
      obtain ⟨other, body', again, trailing, rewritten, prefixParts, same⟩ :=
        @encoded_of_decodeRecord ⟨data, bounded⟩ _ magic decoded
      have whole := decodeRecord_encoded written []
      have trailed := decodeRecord_encoded rewritten (trailing ++ rest)
      rw [← List.append_assoc, ← prefixParts, parts] at trailed
      rw [List.append_nil, trailed] at whole
      have equal := CacheRecord.mk.inj (Option.some.inj (Except.ok.inj whole))
      have grown : again = encoded :=
        encoded_eq_of_decoded_eq rewritten written equal.1 equal.2
      have length : data.length = again.length + trailing.length := by
        rw [← List.length_append, ← prefixParts]
      rw [grown] at length
      omega

/-- Bytes that end before the magic does are taken for a file of the format
without it. -/
theorem decodeRecord_of_headless (headless : data.length < 4) :
    decodeRecord data = .ok (some { contentType := none, body := data }) := by
  rw [decodeRecord, if_pos headless]

end

/-- A read that finds a corrupt record removes its file and answers nothing:
a served record would have been touched. -/
theorem diskRun_getFull_of_corrupt (pathForKey : String → String)
    (maxSize : Nat) (state : DiskState) (key : String) {file : CachedFile}
    (found : state.files.lookup (pathForKey key) = some file)
    (corrupt : decodeRecord file.bytes = .ok none) :
    diskRun pathForKey maxSize state (.getFull key ::
        List.replicate 4 (.resume state.tasks.length true [])) =
      { state with
        files := state.files.erase (pathForKey key)
        currentSize := state.currentSize - file.len
        tasks := state.tasks ++ [.returned] } := by
  have last (phase : DiskPhase) :
      (state.tasks ++ [phase])[state.tasks.length]? = some phase := by simp
  have goesOn (phase next : DiskPhase) :
      (state.tasks ++ [phase]).set state.tasks.length next =
        state.tasks ++ [next] := by simp
  simp only [diskRun, List.replicate, List.foldl_cons, List.foldl_nil,
    diskStep, DiskState.start, last, DiskState.resume, DiskState.removeStep,
    DiskState.find, if_true, found, corrupt, DiskState.goOn, goesOn,
    afterUnlink]

/-- A record file cut short below the magic is read as a file without one;
cut anywhere behind it, it is corrupt, and reading it removes it. -/
theorem truncated_record_evicted {contentType : Option String}
    {body encoded data : Slice}
    (written : encodeRecord contentType body = .ok encoded.bytes)
    (truncated : data.bytes <+: encoded.bytes)
    (short : data.bytes.length < encoded.bytes.length) :
    (4 ≤ data.bytes.length →
      decodeRecord data.bytes = .ok none ∧
        ∀ (pathForKey : String → String) (maxSize : Nat) (state : DiskState)
          (key : String) (modified : Nat),
          state.files.lookup (pathForKey key) =
              some { bytes := data.bytes, modified } →
            diskRun pathForKey maxSize state (.getFull key ::
                List.replicate 4 (.resume state.tasks.length true [])) =
              { state with
                files := state.files.erase (pathForKey key)
                currentSize := state.currentSize - data.bytes.length
                tasks := state.tasks ++ [.returned] }) ∧
      (data.bytes.length < 4 →
        decodeRecord data.bytes =
          .ok (some { contentType := none, body := data.bytes })) := by
  refine ⟨?_, decodeRecord_of_headless⟩
  intro headed
  have corrupt : decodeRecord data.bytes = .ok none :=
    decodeRecord_of_truncated written truncated short data.bounded headed
  refine ⟨corrupt, ?_⟩
  intro pathForKey maxSize state key modified found
  exact diskRun_getFull_of_corrupt pathForKey maxSize state key found corrupt

/-- A poster of one byte: fourteen bytes in front of it. -/
def posterRecord : Slice where
  bytes := [82, 80, 67, 49, 0, 0, 0, 0, 0, 0, 0, 0, 0, 1, 7]
  bounded := by decide

theorem poster_cut_after_magic_evicted :
    encodeRecord none ⟨[7], by decide⟩ = .ok posterRecord.bytes ∧
      decodeRecord [82, 80, 67, 49] = .ok none := by
  have written : encodeRecord none ⟨[7], by decide⟩ =
      .ok posterRecord.bytes := by decide
  refine ⟨written, ?_⟩
  let cut : Slice := ⟨[82, 80, 67, 49], by decide⟩
  have within : cut.bytes <+: posterRecord.bytes := by decide
  exact ((truncated_record_evicted written within (by decide)).1
    (by decide)).1

theorem emptied_record_served :
    ¬ ∀ (contentType : Option String) (body encoded data : Slice),
      encodeRecord contentType body = .ok encoded.bytes →
        data.bytes <+: encoded.bytes →
          data.bytes.length < encoded.bytes.length →
            decodeRecord data.bytes = .ok none := by
  intro evicted
  have served := evicted none ⟨[7], by decide⟩ posterRecord
    ⟨[], by decide⟩ (by decide) (by decide) (by decide)
  exact absurd served (by decide)

end Replex
