import Replex.Data.Transition
import Replex.Routes.PageScript

namespace Replex

open Data

/-! The passes among the live requests. -/

structure PagePass where
  token : String
  exchanges : List PageExchange := []
  rest : PageScript

def PagePass.exchange (pass : PagePass) (question : PageQuestion)
    (answer : PageAnswer) (rest : PageScript) : PagePass :=
  { pass with
    exchanges := pass.exchanges ++ [(question, answer)]
    rest }

structure PageState where
  library : LibraryState
  passes : List PagePass := []

/-- The records that a write makes room for, its own among them, go by an
eviction of the library. -/
inductive PageAction where
  | library (action : LibraryAction)
  | start (token : String)
  | advance (index : Nat) (answer : PageAnswer)

/-- A record may fail to be read, but none is read where there is none. -/
def LibraryState.tell (library : LibraryState) (question : PageQuestion)
    (answer : PageAnswer) : PageAnswer :=
  match question with
  | .held key =>
      { answer with
        held := answer.held && (library.disk.lookup key).isSome }
  | _ => answer

def LibraryState.serve (library : LibraryState) (answer : PageAnswer) :
    PageQuestion → LibraryState
  | .put key entry =>
      if answer.written then
        { library with disk := library.disk.insert key entry }
      else
        library
  | _ => library

def PageState.advance (state : PageState) (index : Nat) (answer : PageAnswer)
    (pass : PagePass) : PageState :=
  match pass.rest with
  | .done _ => state
  | .ask question next =>
      let answer := state.library.tell question answer
      { library := state.library.serve answer question
        passes := state.passes.set index
          (pass.exchange question answer (next answer)) }

section

variable (codec : TargetCodec) (digest : TokenDigest) (config : Config)
  (fromBytes : Bytes → Option MediaContainer)

/-- The passes stand in for the warmer of the library model. -/
def pageStep (state : PageState) : PageAction → PageState
  | .library (.warm _ _ _) => state
  | .library action =>
      { state with
        library := libraryStep codec digest config fromBytes state.library
          action }
  | .start token =>
      if config.warmInterval ≠ 0 ∧ token ∈ warmTokenList config ∧
          (warmerClient config token).isSome then
        { state with
          passes := state.passes ++
            [{ token, rest := warmLibraryPages codec digest token }] }
      else
        state
  | .advance index answer =>
      match state.passes[index]? with
      | none => state
      | some pass => state.advance index answer pass

def pageRun (library : LibraryState) (actions : List PageAction) : PageState :=
  actions.foldl (pageStep codec digest config fromBytes) { library }

/-- A live request got the body from Plex. -/
def LiveStored (actions : List PageAction) (key : String)
    (entry : LibraryEntry) : Prop :=
  ∃ index order reply request,
    .library (.answer index order reply) ∈ actions ∧
      reply.isSuccess = true ∧ entry.body = reply.body ∧
      key = libraryCacheKey codec digest order
        (normalizeLibraryFetch codec request)

end

/-! What live requests do to the library cache. -/

def LibraryTask.IsLive : LibraryTask → Prop
  | .proxied _ => True
  | .warmed _ _ => False

section

variable {codec : TargetCodec} {digest : TokenDigest} {config : Config}
  {fromBytes : Bytes → Option MediaContainer} {library : LibraryState}
  {action : LibraryAction}

end

/-! What a pass does to the library cache. -/

section

variable {codec : TargetCodec} {digest : TokenDigest} {config : Config}
  {fromBytes : Bytes → Option MediaContainer} {library : LibraryState}

/-- What is done for a question only adds the entry that is put, and after it
an entry stands where the pass has seen one or has put one. -/
structure LibraryState.Serves (before after : LibraryState)
    (question : PageQuestion) (answer : PageAnswer) : Prop where
  tasks : after.tasks = before.tasks
  added : ∀ key entry, after.disk.lookup key = some entry →
    before.disk.lookup key = some entry ∨ question = .put key entry
  present : ∀ key, (before.disk.lookup key).isSome = true →
    (after.disk.lookup key).isSome = true
  stood : ∀ key, PageStood [(question, answer)] key →
    (after.disk.lookup key).isSome = true

theorem serves_tell (question : PageQuestion) (answer : PageAnswer) :
    library.Serves
      (library.serve (library.tell question answer) question) question
      (library.tell question answer) := by
  cases question with
  | held key =>
      refine ⟨rfl, fun _ _ found => .inl found, fun _ there => there, ?_⟩
      rintro other (⟨told, listed, held⟩ | ⟨entry, told, listed, -⟩)
      · obtain ⟨same, rfl⟩ := Prod.mk.inj (List.mem_singleton.mp listed)
        cases same
        simp only [LibraryState.tell, Bool.and_eq_true] at held
        exact held.2
      · have apart := (Prod.mk.inj (List.mem_singleton.mp listed)).1
        cases apart
  | put key entry =>
      have told : library.tell (.put key entry) answer = answer := rfl
      rw [told]
      simp only [LibraryState.serve]
      by_cases kept : answer.written = true
      · rw [if_pos kept]
        refine ⟨rfl, ?_, fun _ there => Store.isSome_lookup_insert there _ _,
          ?_⟩
        · intro other value found
          by_cases same : other = key
          · rw [same, Store.lookup_insert_self] at found
            cases found
            exact .inr (by rw [same])
          · rw [Store.lookup_insert_of_ne _ same] at found
            exact .inl found
        · rintro other (⟨told, listed, -⟩ | ⟨value, told, listed, -⟩)
          · have apart := (Prod.mk.inj (List.mem_singleton.mp listed)).1
            cases apart
          · have same := (Prod.mk.inj (List.mem_singleton.mp listed)).1
            cases same
            rw [Store.lookup_insert_self]
            rfl
      · rw [if_neg kept]
        refine ⟨rfl, fun _ _ found => .inl found, fun _ there => there, ?_⟩
        rintro other (⟨told, listed, -⟩ | ⟨value, told, listed, written⟩)
        · have apart := (Prod.mk.inj (List.mem_singleton.mp listed)).1
          cases apart
        · obtain ⟨-, rfl⟩ := Prod.mk.inj (List.mem_singleton.mp listed)
          exact absurd written kept
  | _ =>
      refine ⟨rfl, fun _ _ found => .inl found, fun _ there => there, ?_⟩
      rintro other (⟨told, listed, -⟩ | ⟨value, told, listed, -⟩)
      · have apart := (Prod.mk.inj (List.mem_singleton.mp listed)).1
        cases apart
      · have apart := (Prod.mk.inj (List.mem_singleton.mp listed)).1
        cases apart

theorem pageStood_append_iff {seen later : List PageExchange} {key : String} :
    PageStood (seen ++ later) key ↔
      PageStood seen key ∨ PageStood later key := by
  simp only [PageStood, List.mem_append]
  constructor
  · rintro (⟨answer, early | late, held⟩ | ⟨entry, answer, early | late,
      written⟩)
    · exact .inl (.inl ⟨answer, early, held⟩)
    · exact .inr (.inl ⟨answer, late, held⟩)
    · exact .inl (.inr ⟨entry, answer, early, written⟩)
    · exact .inr (.inr ⟨entry, answer, late, written⟩)
  · rintro ((⟨answer, listed, held⟩ | ⟨entry, answer, listed, written⟩) |
      (⟨answer, listed, held⟩ | ⟨entry, answer, listed, written⟩))
    · exact .inl ⟨answer, .inl listed, held⟩
    · exact .inr ⟨entry, answer, .inl listed, written⟩
    · exact .inl ⟨answer, .inr listed, held⟩
    · exact .inr ⟨entry, answer, .inr listed, written⟩

end

/-! Runs. -/

section

variable (codec : TargetCodec) (digest : TokenDigest) (config : Config)
  (fromBytes : Bytes → Option MediaContainer) (library : LibraryState)

/-- The warmer may run for the token, and has come so far. -/
structure PagePass.Begun (pass : PagePass) : Prop where
  enabled : config.warmInterval ≠ 0
  listed : pass.token ∈ warmTokenList config
  client : (warmerClient config pass.token).isSome
  leads : (warmLibraryPages codec digest pass.token).Leads pass.exchanges
    pass.rest

/-- When the pass saw an entry stand, or put it, there was one. -/
def StoodThen (actions : List PageAction) (index : Nat) (key : String) :
    Prop :=
  ∃ earlier later pass, actions = earlier ++ later ∧
    (pageRun codec digest config fromBytes library earlier).passes[index]? =
      some pass ∧
    PageStood pass.exchanges key ∧
    ((pageRun codec digest config fromBytes library
      earlier).library.disk.lookup key).isSome = true

/-- Where an entry is from. -/
def PageOrigin (actions : List PageAction) (passes : List PagePass)
    (key : String) (entry : LibraryEntry) : Prop :=
  library.disk.lookup key = some entry ∨
    (∃ pass ∈ passes, ∃ answer,
      (PageQuestion.put key entry, answer) ∈ pass.exchanges) ∨
    LiveStored codec digest actions key entry

structure PageState.Accounted (actions : List PageAction) (state : PageState) :
    Prop where
  live : ∀ task ∈ state.library.tasks, task.IsLive
  begun : ∀ pass ∈ state.passes, pass.Begun codec digest config
  stood : ∀ index pass key, state.passes[index]? = some pass →
    PageStood pass.exchanges key →
      StoodThen codec digest config fromBytes library actions index key
  origin : ∀ key entry, state.library.disk.lookup key = some entry →
    PageOrigin codec digest library actions state.passes key entry

variable {codec digest config fromBytes library} {actions : List PageAction}
  {state : PageState}

theorem pageRun_concat (action : PageAction) :
    pageRun codec digest config fromBytes library (actions ++ [action]) =
      pageStep codec digest config fromBytes
        (pageRun codec digest config fromBytes library actions) action :=
  List.foldl_concat _ _ _ _

theorem StoodThen.append {index : Nat} {key : String}
    (stood : StoodThen codec digest config fromBytes library actions index key)
    (more : List PageAction) :
    StoodThen codec digest config fromBytes library (actions ++ more) index
      key := by
  obtain ⟨earlier, later, pass, rfl, rest⟩ := stood
  exact ⟨earlier, later ++ more, pass, List.append_assoc _ _ _, rest⟩

theorem LiveStored.mono {others : List PageAction} {key : String}
    {entry : LibraryEntry} (stored : LiveStored codec digest actions key entry)
    (grown : actions ⊆ others) :
    LiveStored codec digest others key entry := by
  obtain ⟨index, order, reply, request, listed, rest⟩ := stored
  exact ⟨index, order, reply, request, grown listed, rest⟩

theorem PageOrigin.mono {others : List PageAction}
    {passes more : List PagePass} {key : String} {entry : LibraryEntry}
    (origin : PageOrigin codec digest library actions passes key entry)
    (grown : actions ⊆ others)
    (kept : ∀ pass ∈ passes, ∃ other ∈ more,
      ∀ exchange ∈ pass.exchanges, exchange ∈ other.exchanges) :
    PageOrigin codec digest library others more key entry := by
  rcases origin with start | ⟨pass, listed, answer, put⟩ | stored
  · exact .inl start
  · obtain ⟨other, there, same⟩ := kept pass listed
    exact .inr (.inl ⟨other, there, answer, same _ put⟩)
  · exact .inr (.inr (stored.mono grown))

/-- A step after which all is as it was keeps the account. -/
theorem PageState.Accounted.mono
    (accounted : state.Accounted codec digest config fromBytes library actions)
    (more : List PageAction) :
    state.Accounted codec digest config fromBytes library
      (actions ++ more) where
  live := accounted.live
  begun := accounted.begun
  stood index pass key found seen :=
    (accounted.stood index pass key found seen).append more
  origin key entry found :=
    (accounted.origin key entry found).mono (List.subset_append_left _ _)
      fun pass listed => ⟨pass, listed, fun _ same => same⟩

theorem PageState.Accounted.start
    (accounted : state.Accounted codec digest config fromBytes library actions)
    {token : String} (enabled : config.warmInterval ≠ 0)
    (listed : token ∈ warmTokenList config)
    (client : (warmerClient config token).isSome) :
    PageState.Accounted codec digest config fromBytes library
      (actions ++ [.start token])
      { state with
        passes := state.passes ++
          [{ token, rest := warmLibraryPages codec digest token }] } where
  live := accounted.live
  begun pass among := by
    rcases List.mem_append.mp among with earlier | new
    · exact accounted.begun pass earlier
    · cases List.mem_singleton.mp new
      exact ⟨enabled, listed, client, .start _⟩
  stood index pass key found seen := by
    by_cases old : index < state.passes.length
    · rw [List.getElem?_append_left old] at found
      exact (accounted.stood index pass key found seen).append _
    · rw [List.getElem?_append_right (Nat.le_of_not_lt old)] at found
      cases List.mem_singleton.mp (List.mem_of_getElem? found)
      rcases seen with ⟨answer, listed, -⟩ | ⟨entry, answer, listed, -⟩
      · cases listed
      · cases listed
  origin key entry found :=
    (accounted.origin key entry found).mono (List.subset_append_left _ _)
      fun pass listed =>
        ⟨pass, List.mem_append_left _ listed, fun _ same => same⟩

/-- Whatever the pass has just seen or put is there now. -/
theorem PageState.Accounted.advance {index : Nat} {pass : PagePass}
    (answer : PageAnswer)
    (accounted : (pageRun codec digest config fromBytes library
      actions).Accounted codec digest config fromBytes library actions)
    (found : (pageRun codec digest config fromBytes library
      actions).passes[index]? = some pass) :
    PageState.Accounted codec digest config fromBytes library
      (actions ++ [.advance index answer])
      ((pageRun codec digest config fromBytes library actions).advance index
        answer pass) := by
  have reached := @pageRun_concat codec digest config fromBytes library actions
    (.advance index answer)
  simp only [pageStep, found] at reached
  generalize pageRun codec digest config fromBytes library actions = state
    at accounted found reached
  rw [PageState.advance] at reached ⊢
  split at reached
  · exact accounted.mono _
  next question next rest =>
      dsimp only at reached ⊢
      have serves : state.library.Serves _ question _ :=
        serves_tell question answer
      generalize state.library.tell question answer = told at serves reached ⊢
      obtain ⟨inside, same⟩ := List.getElem?_eq_some_iff.mp found
      have there := List.mem_set inside
        (pass.exchange question told (next told))
      refine ⟨?_, ?_, ?_, ?_⟩
      · rw [serves.tasks]
        exact accounted.live
      · intro other listed
        rcases List.mem_or_eq_of_mem_set listed with earlier | rfl
        · exact accounted.begun other earlier
        · obtain ⟨enabled, named, client, leads⟩ :=
            accounted.begun pass (List.mem_of_getElem? found)
          rw [rest] at leads
          exact ⟨enabled, named, client, leads.snoc told⟩
      · intro position other key held stood
        by_cases here : position = index
        · subst here
          have now := held
          rw [List.getElem?_set_self inside] at held
          cases held
          rcases pageStood_append_iff.mp stood with before | just
          · exact (accounted.stood position pass key found before).append _
          · refine ⟨_, [], _, (List.append_nil _).symm, ?_, stood, ?_⟩
            · rw [reached]
              exact now
            · rw [reached]
              exact serves.stood key just
        · rw [List.getElem?_set_ne (Ne.symm here)] at held
          exact (accounted.stood position other key held stood).append _
      · intro key entry held
        rcases serves.added key entry held with earlier | put
        · apply (accounted.origin key entry earlier).mono
            (List.subset_append_left _ _)
          intro other listed
          obtain ⟨position, placed⟩ := List.getElem?_of_mem listed
          by_cases here : position = index
          · subst here
            cases placed.symm.trans found
            exact ⟨_, there,
              fun exchange among => List.mem_append_left _ among⟩
          · refine ⟨other, List.mem_of_getElem? (i := position) ?_,
              fun _ same => same⟩
            rw [List.getElem?_set_ne (Ne.symm here), placed]
        · refine .inr (.inl ⟨_, there, told, ?_⟩)
          rw [← put]
          exact List.mem_append_right _ (List.mem_singleton_self _)

theorem PagePass.Begun.warranted {pass : PagePass}
    (begun : pass.Begun codec digest config) {before after : List PageExchange}
    {exchange : PageExchange}
    (split : pass.exchanges = before ++ exchange :: after) :
    PageWarranted before codec digest pass.token exchange.1 :=
  keeps_warmLibraryPages.warranted begun.leads split

theorem PagePass.Begun.ended {pass : PagePass}
    (begun : pass.Begun codec digest config) (done : pass.rest = .done ()) :
    PagesEnded pass.exchanges codec digest pass.token () := by
  have keeps := (@keeps_warmLibraryPages codec digest pass.token).of_leads
    begun.leads
  rw [done] at keeps
  cases keeps with
  | done ended => exact ended

end

/-! Requests that look a page up. -/

section

variable {codec : TargetCodec} {digest : TokenDigest}

end

/-- The pass put the body that Plex answered with for that page and token. -/
def PageGot (codec : TargetCodec) (digest : TokenDigest) (pass : PagePass)
    (key : String) (entry : LibraryEntry) : Prop :=
  ∃ sectionId start answer body, Listed pass.exchanges sectionId ∧
    start ∈ warmStarts ∧ key = pageKey codec digest pass.token sectionId start ∧
    entry = pageEntry codec pass.token sectionId start body ∧
    (PageQuestion.page (warmLibraryPath sectionId start), answer) ∈
      pass.exchanges ∧
    answer.page.got? = some body

section

variable {codec : TargetCodec} {digest : TokenDigest} {config : Config}

theorem PagePass.Begun.got {pass : PagePass}
    (begun : pass.Begun codec digest config) {key : String}
    {entry : LibraryEntry} {answer : PageAnswer}
    (put : (PageQuestion.put key entry, answer) ∈ pass.exchanges) :
    PageGot codec digest pass key entry := by
  obtain ⟨before, after, split⟩ := List.append_of_mem put
  obtain ⟨sectionId, start, answer, body, listed, among, keyed, made, last,
    got⟩ := begun.warranted split
  refine ⟨sectionId, start, answer, body, ?_, among, keyed, made, ?_, got⟩
  · rw [split]
    exact listed.append _
  · rw [split]
    exact List.mem_append_left _ (List.mem_of_getLast? last)

end

end Replex
