import Replex.Data.Script
import Replex.HubCache
import Replex.Routes.LibraryKeys

namespace Replex

open Data

/-! The warmer's passes over the library pages of an account, as scripts: what
they ask for, and what they leave behind. -/

/-- The body is absent when reading it broke off. -/
inductive PageReply where
  | failed
  | answered (status : StatusCode) (body : Option Bytes)

/-- The body of a page that was got. -/
def PageReply.got? : PageReply → Option Bytes
  | .answered 200 body => body
  | _ => none

inductive PageQuestion where
  | sections
  | held (key : String)
  | page (path : String)
  | put (key : String) (entry : LibraryEntry)

/-- Only what was asked for is looked at. -/
structure PageAnswer where
  sections : Option (List String) := none
  held : Bool := false
  page : PageReply := .failed
  written : Bool := false

abbrev PageExchange : Type := PageQuestion × PageAnswer

abbrev PageScript : Type := Script PageQuestion PageAnswer Unit

/-- Where the pages of a section start. -/
def warmStarts : List Nat :=
  [0, 50, 100, 150, 200]

section

variable (codec : TargetCodec) (digest : TokenDigest) (token : String)

def pageKey (sectionId : String) (start : Nat) : String :=
  libraryCacheKeyFor codec digest (warmLibraryPath sectionId start) (some token)

def pageEntry (sectionId : String) (start : Nat) (body : Bytes) :
    LibraryEntry where
  body := body
  fetch :=
    { token := some token
      canonicalPath :=
        canonicalLibraryPath codec (warmLibraryPath sectionId start) }

/-- The pages of a section from some start on. -/
def warmPages (sectionId : String) (next : PageScript) : List Nat → PageScript
  | [] => next
  | start :: starts =>
      let key := pageKey codec digest token sectionId start
      .ask (.held key) fun answer =>
        if answer.held then
          warmPages sectionId next starts
        else
          .ask (.page (warmLibraryPath sectionId start)) fun answer =>
            match answer.page.got? with
            | none => next
            | some body =>
                .ask (.put key (pageEntry codec token sectionId start body))
                  fun _ =>
                    if body.length < 1000 then next
                    else warmPages sectionId next starts

def warmSections : List String → PageScript
  | [] => .done ()
  | sectionId :: sectionIds =>
      warmPages codec digest token sectionId (warmSections sectionIds)
        warmStarts

def warmLibraryPages : PageScript :=
  .ask .sections fun answer =>
    warmSections codec digest token (answer.sections.getD [])

end

/-! What is known from the exchanges of a pass. -/

section

variable (seen : List PageExchange)

def Listed (sectionId : String) : Prop :=
  ∃ answer sectionIds, seen.head? = some (PageQuestion.sections, answer) ∧
    answer.sections = some sectionIds ∧ sectionId ∈ sectionIds

/-- The page could not be got. -/
def PageMissed (sectionId : String) (start : Nat) : Prop :=
  ∃ answer, (PageQuestion.page (warmLibraryPath sectionId start), answer) ∈
    seen ∧ answer.page.got? = none

/-- The page ends its section, because it could not be got or is short. -/
def PageEnds (sectionId : String) (start : Nat) : Prop :=
  ∃ answer, (PageQuestion.page (warmLibraryPath sectionId start), answer) ∈
    seen ∧ ∀ body, answer.page.got? = some body → body.length < 1000

/-- The pass has seen an entry for the key, or has put one. -/
def PageStood (key : String) : Prop :=
  (∃ answer, (PageQuestion.held key, answer) ∈ seen ∧ answer.held = true) ∨
    ∃ entry answer, (PageQuestion.put key entry, answer) ∈ seen ∧
      answer.written = true

def PageUnwritten (key : String) : Prop :=
  ∃ entry answer, (PageQuestion.put key entry, answer) ∈ seen ∧
    answer.written = false

variable (codec : TargetCodec) (digest : TokenDigest) (token : String)

/-- What has become of a page. -/
def PageSettled (sectionId : String) (start : Nat) : Prop :=
  PageStood seen (pageKey codec digest token sectionId start) ∨
    PageUnwritten seen (pageKey codec digest token sectionId start) ∨
    PageMissed seen sectionId start ∨
    ∃ earlier ∈ warmStarts, earlier < start ∧ PageEnds seen sectionId earlier

/-- Why the pass may ask. -/
def PageWarranted : PageQuestion → Prop
  | .sections => seen = []
  | .held key => ∃ sectionId start, Listed seen sectionId ∧
      start ∈ warmStarts ∧ key = pageKey codec digest token sectionId start
  | .page path => ∃ sectionId start answer, Listed seen sectionId ∧
      start ∈ warmStarts ∧ path = warmLibraryPath sectionId start ∧
      seen.getLast? =
        some (.held (pageKey codec digest token sectionId start), answer) ∧
      answer.held = false
  | .put key entry => ∃ sectionId start answer body, Listed seen sectionId ∧
      start ∈ warmStarts ∧ key = pageKey codec digest token sectionId start ∧
      entry = pageEntry codec token sectionId start body ∧
      seen.getLast? =
        some (.page (warmLibraryPath sectionId start), answer) ∧
      answer.page.got? = some body

/-- A pass leaves no page of a section open. -/
def PagesEnded (_ : Unit) : Prop :=
  ∀ sectionId, Listed seen sectionId → ∀ start ∈ warmStarts,
    PageSettled seen codec digest token sectionId start

end

section

variable {codec : TargetCodec} {digest : TokenDigest} {token : String}
  {seen : List PageExchange} {sectionId : String} {start : Nat}

theorem Listed.append (listed : Listed seen sectionId)
    (later : List PageExchange) : Listed (seen ++ later) sectionId := by
  obtain ⟨answer, sectionIds, first, rest⟩ := listed
  refine ⟨answer, sectionIds, ?_, rest⟩
  rw [List.head?_append, first]
  rfl

theorem Listed.of_append {other : String} {later : List PageExchange}
    (listed : Listed (seen ++ later) sectionId) (begun : Listed seen other) :
    Listed seen sectionId := by
  obtain ⟨answer, sectionIds, first, rest⟩ := listed
  obtain ⟨_, _, start, -⟩ := begun
  rw [List.head?_append, start] at first
  exact ⟨answer, sectionIds, start.trans first, rest⟩

theorem PageStood.append {key : String} (stood : PageStood seen key)
    (later : List PageExchange) : PageStood (seen ++ later) key := by
  rcases stood with ⟨answer, listed, held⟩ | ⟨entry, answer, listed, written⟩
  · exact .inl ⟨answer, List.mem_append_left later listed, held⟩
  · exact .inr ⟨entry, answer, List.mem_append_left later listed, written⟩

theorem PageEnds.append (ends : PageEnds seen sectionId start)
    (later : List PageExchange) : PageEnds (seen ++ later) sectionId start := by
  obtain ⟨answer, listed, short⟩ := ends
  exact ⟨answer, List.mem_append_left later listed, short⟩

theorem PageSettled.append
    (settled : PageSettled seen codec digest token sectionId start)
    (later : List PageExchange) :
    PageSettled (seen ++ later) codec digest token sectionId start := by
  rcases settled with stood | ⟨entry, answer, listed, refused⟩ |
    ⟨answer, listed, missed⟩ | ⟨earlier, among, before, ends⟩
  · exact .inl (stood.append later)
  · exact .inr (.inl
      ⟨entry, answer, List.mem_append_left later listed, refused⟩)
  · exact .inr (.inr (.inl
      ⟨answer, List.mem_append_left later listed, missed⟩))
  · exact .inr (.inr (.inr ⟨earlier, among, before, ends.append later⟩))

/-- A page that was put is settled, whether it was written or not. -/
theorem pageSettled_of_put {entry : LibraryEntry} {answer : PageAnswer}
    (put : (PageQuestion.put (pageKey codec digest token sectionId start) entry,
      answer) ∈ seen) :
    PageSettled seen codec digest token sectionId start := by
  cases written : answer.written with
  | true => exact .inl (.inr ⟨entry, answer, put, written⟩)
  | false => exact .inr (.inl ⟨entry, answer, put, written⟩)

end

/-! Every question of a pass is warranted, and every page settled at its
end. -/

section

variable (codec : TargetCodec) (digest : TokenDigest) (token : String)

/-- The script keeps to its warrants after these exchanges. -/
def PageScript.Keeps (script : PageScript) (seen : List PageExchange) : Prop :=
  script.Obeys (fun seen => PageWarranted seen codec digest token)
    (fun seen => PagesEnded seen codec digest token) seen

variable {codec digest token} {seen : List PageExchange} {sectionId : String}
  {next : PageScript}

/-- With the section ended at a page, the ones before it are settled and the
ones after it need not be. -/
theorem settled_of_ended {front back : List Nat} {start : Nat}
    (split : warmStarts = front ++ start :: back)
    (done : ∀ earlier ∈ front,
      PageSettled seen codec digest token sectionId earlier)
    (settled : PageSettled seen codec digest token sectionId start)
    (ends : PageEnds seen sectionId start) :
    ∀ other ∈ warmStarts,
      PageSettled seen codec digest token sectionId other := by
  have ascending : warmStarts.Pairwise (· < ·) := by decide
  have among : start ∈ warmStarts := by rw [split]; simp
  intro other listed
  rw [split] at ascending listed
  rcases List.mem_append.mp listed with early | late
  · exact done other early
  · rcases List.mem_cons.mp late with rfl | later
    · exact settled
    · have above := (List.pairwise_cons.mp
        (List.pairwise_append.mp ascending).2.1).1 other later
      exact .inr (.inr (.inr ⟨start, among, above, ends⟩))

/-- Induction on the pages that remain of the section. -/
theorem keeps_warmPages {front starts : List Nat}
    (split : warmStarts = front ++ starts) (listed : Listed seen sectionId)
    (done : ∀ start ∈ front,
      PageSettled seen codec digest token sectionId start)
    (continues : ∀ later, (∀ start ∈ warmStarts,
      PageSettled (seen ++ later) codec digest token sectionId start) →
        next.Keeps codec digest token (seen ++ later)) :
    (warmPages codec digest token sectionId next starts).Keeps codec digest
      token seen := by
  induction starts generalizing front seen with
  | nil =>
      rw [List.append_nil] at split
      have whole := continues []
      rw [List.append_nil, split] at whole
      exact whole done
  | cons start starts hypothesis =>
      have among : start ∈ warmStarts := by rw [split]; simp
      have onward {later : List PageExchange}
          (settled : PageSettled (seen ++ later) codec digest token sectionId
            start) :
          (warmPages codec digest token sectionId next starts).Keeps codec
            digest token (seen ++ later) := by
        have next : warmStarts = (front ++ [start]) ++ starts := by
          rw [split, List.append_assoc, List.singleton_append]
        apply hypothesis next
        · exact listed.append later
        · intro other earlier
          rcases List.mem_append.mp earlier with before | last
          · exact (done other before).append later
          · cases List.mem_singleton.mp last
            exact settled
        · intro more all
          rw [List.append_assoc] at all ⊢
          exact continues (later ++ more) all
      have ended {later : List PageExchange}
          (settled : PageSettled (seen ++ later) codec digest token sectionId
            start)
          (ends : PageEnds (seen ++ later) sectionId start) :
          next.Keeps codec digest token (seen ++ later) :=
        continues later (settled_of_ended split
          (fun other before => (done other before).append later) settled ends)
      refine .ask ⟨sectionId, start, listed, among, rfl⟩ fun looked => ?_
      split
      next there =>
          apply onward
          exact .inl (.inl ⟨looked, by simp, there⟩)
      next absent =>
          refine .ask ⟨sectionId, start, looked, listed.append _, among, rfl,
            by simp, by simpa using absent⟩ fun reply => ?_
          split
          next missed =>
              rw [List.append_assoc]
              apply ended
              · exact .inr (.inr (.inl ⟨reply, by simp, missed⟩))
              · exact ⟨reply, by simp, by simp [missed]⟩
          next body got =>
              refine .ask ⟨sectionId, start, reply, body,
                (listed.append _).append _, among, rfl, rfl, by simp, got⟩
                fun stored => ?_
              have settled := @pageSettled_of_put codec digest token _
                sectionId start (pageEntry codec token sectionId start body)
                stored (List.mem_append_right
                  ((seen ++ [(.held (pageKey codec digest token sectionId start),
                    looked)]) ++
                    [(.page (warmLibraryPath sectionId start), reply)])
                  (List.mem_singleton_self _))
              rw [List.append_assoc, List.append_assoc] at settled ⊢
              split
              next short =>
                  refine ended settled ⟨reply, by simp, ?_⟩
                  intro other same
                  cases got.symm.trans same
                  exact short
              next long => exact onward settled

theorem keeps_warmSections {sectionIds : List String}
    (listed : ∀ sectionId ∈ sectionIds, Listed seen sectionId)
    (rest : ∀ sectionId, Listed seen sectionId → sectionId ∈ sectionIds ∨
      ∀ start ∈ warmStarts,
        PageSettled seen codec digest token sectionId start) :
    (warmSections codec digest token sectionIds).Keeps codec digest token
      seen := by
  induction sectionIds generalizing seen with
  | nil =>
      refine .done fun sectionId among => ?_
      rcases rest sectionId among with none | settled
      · cases none
      · exact settled
  | cons first sectionIds hypothesis =>
      have named := listed first List.mem_cons_self
      have whole : warmStarts = [] ++ warmStarts := rfl
      apply keeps_warmPages whole named
      · intro start none
        cases none
      · intro later settled
        apply hypothesis
        · intro sectionId among
          exact (listed sectionId (List.mem_cons_of_mem first among)).append
            later
        · intro sectionId among
          have before : Listed seen sectionId := among.of_append named
          rcases rest sectionId before with inside | done
          · rcases List.mem_cons.mp inside with rfl | remains
            · exact .inr settled
            · exact .inl remains
          · exact .inr fun start within => (done start within).append later

theorem keeps_warmLibraryPages :
    (warmLibraryPages codec digest token).Keeps codec digest token [] := by
  refine .ask rfl fun answer => ?_
  have named (sectionId : String) :
      Listed ([] ++ [(PageQuestion.sections, answer)]) sectionId ↔
        sectionId ∈ answer.sections.getD [] := by
    constructor
    · rintro ⟨other, sectionIds, first, told, among⟩
      cases first
      rw [told]
      exact among
    · intro among
      cases told : answer.sections with
      | none =>
          rw [told] at among
          cases among
      | some sectionIds =>
          rw [told] at among
          exact ⟨answer, sectionIds, rfl, told, among⟩
  apply keeps_warmSections
  · exact fun sectionId => (named sectionId).mpr
  · exact fun sectionId among => .inl ((named sectionId).mp among)

end

end Replex
