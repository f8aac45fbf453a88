import Replex.Data.Drafts

namespace Replex.Data

open Records

/-! What cannot be read in a document, all of it, in the order of the
document. A forgiven leaf is never missed. -/

namespace Records

variable {ρ ℓ σ : Type}

def faultIf (wrong : Bool) : List (Fault ℓ) :=
  if wrong then [.malformed] else []

def lacks (fields : List (Field ρ ℓ)) (keys : List String) : Bool :=
  fields.any fun field =>
    !field.optional && !field.defaulted && !keys.contains field.name

namespace Format

variable (format : Format ρ ℓ σ) (forgiven : ℓ → Bool)

def leafFaults (leaf : ℓ) (draft : Draft) : List (Fault ℓ) :=
  if (draft.json?.bind (format.read leaf)).isSome || forgiven leaf then []
  else [.unreadable leaf]

mutual
def faults : Kind ρ ℓ → Draft → List (Fault ℓ)
  | .leaf leaf, draft => format.leafFaults forgiven leaf draft
  | .record name, .obj members closed =>
      faultsOfMembers (format.fields name) [] members ++ faultIf (!closed) ++
        faultIf (lacks (format.fields name) (members.map Prod.fst))
  | .record name, .arr items closed =>
      faultsOfPlaces (format.fields name) items closed
  | .records name, .arr items closed =>
      faultsOfItems name items ++ faultIf (!closed)
  | _, _ => [.malformed]

def faultsOfMembers (fields : List (Field ρ ℓ)) (seen : List String) :
    List (String × Draft) → List (Fault ℓ)
  | [] => []
  | (key, draft) :: members =>
      match fields.find? fun field => field.name == key with
      | none =>
          faultIf (!draft.skips) ++ faultsOfMembers fields seen members
      | some field =>
          faultIf (decide (key ∈ seen)) ++
            (if field.optional && draft.isNull then []
              else faults field.kind draft) ++
            faultsOfMembers fields (key :: seen) members

def faultsOfPlaces (fields : List (Field ρ ℓ)) :
    List Draft → Bool → List (Fault ℓ)
  | [], closed => faultIf (!(closed && fields.all Field.defaulted))
  | draft :: items, closed =>
      match fields with
      | [] => [.malformed]
      | field :: fields =>
          (if field.optional && draft.isNull then []
            else faults field.kind draft) ++
            faultsOfPlaces fields items closed

def faultsOfItems (name : ρ) : List Draft → List (Fault ℓ)
  | [] => []
  | item :: items => faults (.record name) item ++ faultsOfItems name items
end

end Format

end Records

/-! Typed reading of documents as they are met, one value after the other. -/

/-- What comes of a leaf that its decoder cannot read. -/
inductive OnFailure where
  | error
  | panic
  | absent
  deriving DecidableEq

/-- A decoder that makes nothing of a failure reads every document. -/
structure Decoders {ρ ℓ σ : Type} (format : Format ρ ℓ σ) where
  onFailure : ℓ → OnFailure
  forgiving : ∀ {leaf}, onFailure leaf = .absent →
    ∀ json, (format.read leaf json).isSome = true

namespace Decoders

variable {ρ ℓ σ : Type} {format : Format ρ ℓ σ} (decoders : Decoders format)

def readLeaf (leaf : ℓ) (draft : Draft) : Outcome (Value ρ σ) :=
  match draft.json?.bind (format.read leaf) with
  | some scalar? => .ok (ofLeaf scalar?)
  | none =>
      match decoders.onFailure leaf with
      | .error => .error
      | .panic => .panicked
      | .absent => .ok .absent

mutual
def read : Kind ρ ℓ → Draft → Outcome (Value ρ σ)
  | .leaf leaf, draft => decoders.readLeaf leaf draft
  | .record name, .obj members closed =>
      (readMembers (format.fields name) [] members closed).bind fun found =>
        .ofOption ((assemble (format.fields name) found).map (.record name))
  | .record name, .arr items closed =>
      (readPlaces (format.fields name) items closed).map (.record name)
  | .records name, .arr items closed =>
      (readItems name items closed).map .list
  | _, _ => .error

/-- A known member that comes again is refused before its value is read. -/
def readMembers (fields : List (Field ρ ℓ)) (seen : List String) :
    List (String × Draft) → Bool → Outcome (List (String × Value ρ σ))
  | [], closed => if closed then .ok [] else .error
  | (key, draft) :: members, closed =>
      match fields.find? fun field => field.name == key with
      | none =>
          if draft.skips then readMembers fields seen members closed
          else .error
      | some field =>
          if key ∈ seen then .error
          else
            (if field.optional && draft.isNull then .ok .absent
              else read field.kind draft).bind fun value =>
                (readMembers fields (key :: seen) members closed).map
                  ((key, value) :: ·)

def readPlaces (fields : List (Field ρ ℓ)) :
    List Draft → Bool → Outcome (List (String × Value ρ σ))
  | [], closed =>
      if closed && fields.all Field.defaulted then
        .ok (fields.map fun field => (field.name, field.empty))
      else
        .error
  | draft :: items, closed =>
      match fields with
      | [] => .error
      | field :: fields =>
          (if field.optional && draft.isNull then .ok .absent
            else read field.kind draft).bind fun value =>
              (readPlaces fields items closed).map ((field.name, value) :: ·)

def readItems (name : ρ) :
    List Draft → Bool → Outcome (List (Value ρ σ))
  | [], closed => if closed then .ok [] else .error
  | item :: items, closed =>
      (read (.record name) item).bind fun value =>
        (readItems name items closed).map (value :: ·)
end

/-! A reading stops at the first thing that cannot be read. -/

def panics : Fault ℓ → Bool
  | .unreadable leaf => decide (decoders.onFailure leaf = .panic)
  | .malformed => false

variable {decoders} {forgiven : ℓ → Bool}

theorem follows_faultIf {α : Type} {value : α} (right : Bool) :
    (if right then Outcome.ok value else .error).Follows decoders.panics
      (faultIf (!right)) := by
  cases right with
  | false => exact ⟨.malformed, rfl, rfl⟩
  | true => rfl

theorem readLeaf_follows
    (excused : ∀ leaf, forgiven leaf = true ↔ decoders.onFailure leaf = .absent)
    (leaf : ℓ) (draft : Draft) :
    (decoders.readLeaf leaf draft).Follows decoders.panics
      (format.leafFaults forgiven leaf draft) := by
  unfold readLeaf Format.leafFaults
  cases draft.json?.bind (format.read leaf) with
  | some scalar? => rfl
  | none =>
      cases failure : decoders.onFailure leaf with
      | absent =>
          rw [(excused leaf).mpr failure]
          rfl
      | error =>
          have strict : forgiven leaf = false := by
            simp [← Bool.not_eq_true, excused, failure]
          rw [strict]
          exact ⟨.unreadable leaf, rfl, by simp [panics, failure]⟩
      | panic =>
          have strict : forgiven leaf = false := by
            simp [← Bool.not_eq_true, excused, failure]
          rw [strict]
          exact ⟨.unreadable leaf, rfl, by simp [panics, failure]⟩

theorem readItems_follows {name : ρ} {items : List Draft} (closed : Bool)
    (each : ∀ item ∈ items, ∀ kind, (decoders.read kind item).Follows
      decoders.panics (format.faults forgiven kind item)) :
    (decoders.readItems name items closed).Follows decoders.panics
      (format.faultsOfItems forgiven name items ++ faultIf (!closed)) := by
  induction items with
  | nil => exact follows_faultIf closed
  | cons item items hypothesis =>
      rw [List.forall_mem_cons] at each
      rw [readItems, Format.faultsOfItems, List.append_assoc]
      apply (each.1 _).bind
      intro value _
      exact (hypothesis each.2).map _

theorem readPlaces_follows {fields : List (Field ρ ℓ)} {items : List Draft}
    (closed : Bool)
    (each : ∀ item ∈ items, ∀ kind, (decoders.read kind item).Follows
      decoders.panics (format.faults forgiven kind item)) :
    (decoders.readPlaces fields items closed).Follows decoders.panics
      (format.faultsOfPlaces forgiven fields items closed) := by
  induction items generalizing fields with
  | nil =>
      rw [readPlaces, Format.faultsOfPlaces]
      exact follows_faultIf _
  | cons item items hypothesis =>
      rw [List.forall_mem_cons] at each
      cases fields with
      | nil => exact ⟨.malformed, rfl, rfl⟩
      | cons field fields =>
          rw [readPlaces, Format.faultsOfPlaces]
          apply Outcome.Follows.bind
          · split
            · rfl
            · exact each.1 field.kind
          · intro value _
            exact (hypothesis each.2).map _

theorem readMembers_follows {fields : List (Field ρ ℓ)}
    {members : List (String × Draft)} (closed : Bool) (seen : List String)
    (each : ∀ member ∈ members, ∀ kind, (decoders.read kind member.2).Follows
      decoders.panics (format.faults forgiven kind member.2)) :
    (decoders.readMembers fields seen members closed).Follows decoders.panics
      (format.faultsOfMembers forgiven fields seen members ++
        faultIf (!closed)) := by
  induction members generalizing seen with
  | nil => exact follows_faultIf closed
  | cons member members hypothesis =>
      obtain ⟨key, draft⟩ := member
      rw [List.forall_mem_cons] at each
      rw [readMembers, Format.faultsOfMembers]
      cases fields.find? fun field => field.name == key with
      | none =>
          cases draft.skips with
          | false => exact ⟨.malformed, rfl, rfl⟩
          | true => exact hypothesis seen each.2
      | some field =>
          by_cases again : key ∈ seen
          · simp only [again, if_true, decide_true, faultIf]
            exact ⟨.malformed, rfl, rfl⟩
          · simp only [again, if_false, decide_false, faultIf,
              Bool.false_eq_true, List.nil_append, List.append_assoc]
            apply Outcome.Follows.bind
            · split
              · rfl
              · exact each.1 field.kind
            · intro value _
              exact (hypothesis (key :: seen) each.2).map _

theorem keys_readMembers {fields : List (Field ρ ℓ)}
    {members : List (String × Draft)} {closed : Bool} {seen : List String}
    {found : List (String × Value ρ σ)}
    (read : decoders.readMembers fields seen members closed = .ok found) :
    found.map Prod.fst = (members.map Prod.fst).filter fun key =>
      (fields.find? fun field => field.name == key).isSome := by
  induction members generalizing seen found with
  | nil =>
      rw [readMembers] at read
      cases closed with
      | false => cases read
      | true =>
          cases read
          rfl
  | cons member members hypothesis =>
      obtain ⟨key, draft⟩ := member
      rw [readMembers] at read
      rw [List.map_cons, List.filter_cons]
      cases known : fields.find? fun field => field.name == key with
      | none =>
          simp only [known] at read
          cases skipped : draft.skips with
          | false => simp [skipped] at read
          | true =>
              rw [skipped, if_pos rfl] at read
              exact hypothesis read
      | some field =>
          simp only [known] at read
          by_cases again : key ∈ seen
          · simp [again] at read
          · rw [if_neg again] at read
            obtain ⟨value, -, rest⟩ := Outcome.of_bind_eq_ok read
            obtain ⟨others, later, rfl⟩ := Outcome.of_map_eq_ok rest
            rw [List.map_cons, hypothesis later]
            rfl

theorem contains_keys_iff {found : List (String × Value ρ σ)} {key : String} :
    (found.map Prod.fst).contains key = (found.lookup key).isSome := by
  induction found with
  | nil => rfl
  | cons entry found hypothesis =>
      obtain ⟨name, value⟩ := entry
      rw [List.map_cons, List.contains_cons, hypothesis, List.lookup_cons]
      cases key == name <;> rfl

theorem lacks_cons (field : Field ρ ℓ) (fields : List (Field ρ ℓ))
    (found : List (String × Value ρ σ)) :
    lacks (field :: fields) (found.map Prod.fst) =
      (((found.lookup field.name).or (field.missing (σ := σ))).isNone ||
        lacks fields (found.map Prod.fst)) := by
  unfold lacks Field.missing
  rw [List.any_cons, contains_keys_iff]
  congr 1
  cases found.lookup field.name <;> cases field.optional <;>
    cases field.defaulted <;> rfl

/-- A record can be put together if no field is lacking. -/
theorem isNone_assemble (fields : List (Field ρ ℓ))
    (found : List (String × Value ρ σ)) :
    (assemble fields found).isNone = lacks fields (found.map Prod.fst) := by
  induction fields with
  | nil => rfl
  | cons field fields hypothesis =>
      rw [lacks_cons, ← hypothesis]
      unfold assemble
      rw [List.mapM_cons]
      cases (found.lookup field.name).or field.missing with
      | none => rfl
      | some value =>
          rw [Option.isNone_some, Bool.false_or]
          cases List.mapM (fun field =>
            ((found.lookup field.name).or field.missing).map (field.name, ·))
            fields <;> rfl

theorem lacks_filter (fields : List (Field ρ ℓ)) (keys : List String) :
    lacks fields (keys.filter fun key =>
      (fields.find? fun field => field.name == key).isSome) =
        lacks fields keys := by
  have same (field : Field ρ ℓ) (listed : field ∈ fields) :
      (keys.filter fun key =>
        (fields.find? fun field => field.name == key).isSome).contains
          field.name = keys.contains field.name := by
    have known : (fields.find? fun other =>
        other.name == field.name).isSome = true :=
      List.find?_isSome.mpr ⟨field, listed, beq_self_eq_true _⟩
    rw [Bool.eq_iff_iff, List.contains_iff_mem, List.contains_iff_mem,
      List.mem_filter, and_iff_left known]
  unfold lacks
  rw [Bool.eq_iff_iff, List.any_eq_true, List.any_eq_true]
  constructor
  · rintro ⟨field, listed, lacking⟩
    exact ⟨field, listed, by rwa [same field listed] at lacking⟩
  · rintro ⟨field, listed, lacking⟩
    exact ⟨field, listed, by rwa [same field listed]⟩

theorem read_follows
    (excused : ∀ leaf, forgiven leaf = true ↔ decoders.onFailure leaf = .absent)
    (kind : Kind ρ ℓ) (draft : Draft) :
    (decoders.read kind draft).Follows decoders.panics
      (format.faults forgiven kind draft) := by
  induction draft using Draft.tree_induction generalizing kind with
  | broken _ | null | bool _ | num _ | str _ =>
      cases kind with
      | leaf leaf =>
          rw [read, Format.faults]
          exact readLeaf_follows excused leaf _
      | record | records =>
          simp [read, Format.faults, Outcome.Follows, panics]
  | arr items closed each =>
      cases kind with
      | leaf leaf =>
          rw [read, Format.faults]
          exact readLeaf_follows excused leaf _
      | record name =>
          rw [read, Format.faults]
          exact (readPlaces_follows closed each).map _
      | records name =>
          rw [read, Format.faults]
          exact (readItems_follows closed each).map _
  | obj members closed each =>
      cases kind with
      | leaf leaf =>
          rw [read, Format.faults]
          exact readLeaf_follows excused leaf _
      | records name => simp [read, Format.faults, Outcome.Follows, panics]
      | record name =>
          rw [read, Format.faults]
          apply (readMembers_follows closed [] each).bind
          intro found members
          have lacking := isNone_assemble (format.fields name) found
          rw [keys_readMembers members, lacks_filter] at lacking
          rw [← lacking]
          cases assemble (format.fields name) found with
          | none => exact ⟨.malformed, rfl, rfl⟩
          | some values => rfl

/-! On a document without faults of its own the reading is the one of whole
documents. -/

theorem toOption_readLeaf (leaf : ℓ) (json : Json) :
    (decoders.readLeaf leaf (.ofJson json)).toOption =
      (format.read leaf json).map ofLeaf := by
  unfold readLeaf
  rw [Draft.json?_ofJson, Option.bind_some]
  cases read : format.read leaf json with
  | some scalar? => rfl
  | none =>
      cases failed : decoders.onFailure leaf with
      | error => rfl
      | panic => rfl
      | absent =>
          have reads := decoders.forgiving failed json
          rw [read] at reads
          cases reads

section

variable (decoders)

def Agrees (json : Json) : Prop :=
  ∀ kind, (decoders.read kind (.ofJson json)).toOption =
    format.readValue kind json

end

theorem Agrees.member {json : Json} (agrees : decoders.Agrees json)
    (field : Field ρ ℓ) :
    (if field.optional && (Draft.ofJson json).isNull then .ok .absent
      else decoders.read field.kind (.ofJson json)).toOption =
      if field.optional && json.isNull then some .absent
      else format.readValue field.kind json := by
  rw [Draft.isNull_ofJson]
  split
  · rfl
  · exact agrees field.kind

theorem toOption_readItems {name : ρ} {items : List Json}
    (each : ∀ item ∈ items, decoders.Agrees item) :
    (decoders.readItems name (Draft.ofItems items) true).toOption =
      format.readItems name items := by
  induction items with
  | nil => rfl
  | cons item items hypothesis =>
      rw [List.forall_mem_cons] at each
      rw [Draft.ofItems, readItems, Format.readItems, Outcome.toOption_bind,
        each.1]
      simp only [Outcome.toOption_map, hypothesis each.2]

theorem toOption_readPlaces {fields : List (Field ρ ℓ)} {items : List Json}
    (each : ∀ item ∈ items, decoders.Agrees item) :
    (decoders.readPlaces fields (Draft.ofItems items) true).toOption =
      format.readPlaces fields items := by
  induction items generalizing fields with
  | nil =>
      rw [Draft.ofItems, readPlaces, Format.readPlaces, Bool.true_and]
      split <;> rfl
  | cons item items hypothesis =>
      rw [List.forall_mem_cons] at each
      cases fields with
      | nil => rfl
      | cons field fields =>
          rw [Draft.ofItems, readPlaces, Format.readPlaces,
            Outcome.toOption_bind, each.1.member]
          simp only [Outcome.toOption_map, hypothesis each.2]

/-- Members that come once, and not among those seen before. -/
def onceEach (seen : List String) (found : List (String × Value ρ σ)) :
    Option (List (String × Value ρ σ)) :=
  if (found.map Prod.fst).Nodup ∧ ∀ key ∈ found.map Prod.fst, key ∉ seen then
    some found
  else
    none

theorem onceEach_cons_of_mem {seen : List String} {key : String}
    (again : key ∈ seen) (value : Value ρ σ)
    (found : List (String × Value ρ σ)) :
    onceEach seen ((key, value) :: found) = none := by
  apply if_neg
  rintro ⟨-, fresh⟩
  exact fresh key List.mem_cons_self again

theorem onceEach_cons_of_not_mem {seen : List String} {key : String}
    (fresh : key ∉ seen) (value : Value ρ σ)
    (found : List (String × Value ρ σ)) :
    onceEach seen ((key, value) :: found) =
      (onceEach (key :: seen) found).map ((key, value) :: ·) := by
  have same : (((key, value) :: found).map Prod.fst).Nodup ∧
      (∀ other ∈ ((key, value) :: found).map Prod.fst, other ∉ seen) ↔
        (found.map Prod.fst).Nodup ∧
          ∀ other ∈ found.map Prod.fst, other ∉ key :: seen := by
    rw [List.map_cons, List.nodup_cons, List.forall_mem_cons]
    constructor
    · rintro ⟨⟨apart, distinct⟩, -, others⟩
      refine ⟨distinct, ?_⟩
      intro other listed among
      rcases List.mem_cons.mp among with rfl | earlier
      · exact apart listed
      · exact others other listed earlier
    · rintro ⟨distinct, others⟩
      refine ⟨⟨?_, distinct⟩, fresh, ?_⟩
      · intro listed
        exact others key listed List.mem_cons_self
      · intro other listed earlier
        exact others other listed (List.mem_cons_of_mem _ earlier)
  unfold onceEach
  rw [if_congr same rfl rfl]
  split <;> rfl

/-- Members are refused one by one here and together there. -/
theorem toOption_readMembers {fields : List (Field ρ ℓ)}
    {members : List (String × Json)} (seen : List String)
    (each : ∀ member ∈ members, decoders.Agrees member.2) :
    (decoders.readMembers fields seen (Draft.ofMembers members)
        true).toOption =
      (format.readMembers fields members).bind (onceEach seen) := by
  induction members generalizing seen with
  | nil =>
      rw [Draft.ofMembers, readMembers, Format.readMembers]
      simp [Outcome.toOption, onceEach]
  | cons member members hypothesis =>
      obtain ⟨key, json⟩ := member
      rw [List.forall_mem_cons] at each
      rw [Draft.ofMembers, readMembers, Format.readMembers]
      cases fields.find? fun field => field.name == key with
      | none =>
          rw [Draft.skips_ofJson]
          exact hypothesis seen each.2
      | some field =>
          have later := hypothesis (key :: seen) each.2
          have first := each.1.member field
          simp only at first ⊢
          by_cases again : key ∈ seen
          · rw [if_pos again, Option.bind_assoc, eq_comm]
            apply Option.bind_eq_none_iff.mpr
            intro value _
            rw [Option.bind_map]
            apply Option.bind_eq_none_iff.mpr
            intro found _
            exact onceEach_cons_of_mem again value found
          · rw [if_neg again, Outcome.toOption_bind, first,
              Option.bind_assoc]
            apply Option.bind_congr
            intro value _
            rw [Outcome.toOption_map, later, Option.map_bind,
              Option.bind_map]
            apply Option.bind_congr
            intro found _
            exact (onceEach_cons_of_not_mem again value found).symm

theorem agrees (json : Json) : decoders.Agrees json := by
  induction json using Json.tree_induction with
  | null | bool _ | num _ | str _ =>
      intro kind
      cases kind with
      | leaf leaf =>
          rw [read, Format.readValue]
          exact toOption_readLeaf leaf _
      | record | records =>
          simp [Draft.ofJson, read, Format.readValue, Outcome.toOption]
  | arr items each =>
      intro kind
      cases kind with
      | leaf leaf =>
          rw [read, Format.readValue]
          exact toOption_readLeaf leaf _
      | record name =>
          rw [Draft.ofJson, read, Format.readValue, Outcome.toOption_map,
            toOption_readPlaces each]
      | records name =>
          rw [Draft.ofJson, read, Format.readValue, Outcome.toOption_map,
            toOption_readItems each]
  | obj members each =>
      intro kind
      cases kind with
      | leaf leaf =>
          rw [read, Format.readValue]
          exact toOption_readLeaf leaf _
      | records name =>
          simp [Draft.ofJson, read, Format.readValue, Outcome.toOption]
      | record name =>
          rw [Draft.ofJson, read, Format.readValue, Outcome.toOption_bind,
            toOption_readMembers [] each, Option.bind_assoc]
          apply Option.bind_congr
          intro found _
          unfold onceEach
          by_cases once : (found.map Prod.fst).Nodup
          · have fresh : ∀ key ∈ found.map Prod.fst, key ∉ [] :=
              fun _ _ => List.not_mem_nil
            rw [if_pos ⟨once, fresh⟩, if_pos once, Option.bind_some,
              Outcome.toOption_ofOption]
          · rw [if_neg fun both => once both.1, if_neg once,
              Option.bind_none]

end Decoders

end Replex.Data
