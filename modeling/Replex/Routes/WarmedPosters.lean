import Replex.Routes.WarmerScript

namespace Replex

open Data

/-! The passes among the live requests. -/

structure PosterPass where
  token : String
  paths : List String
  exchanges : List WarmExchange := []
  rest : WarmScript

def PosterPass.exchange (pass : PosterPass) (question : WarmQuestion)
    (answer : WarmAnswer) (rest : WarmScript) : PosterPass :=
  { pass with
    exchanges := pass.exchanges ++ [(question, answer)]
    rest }

structure PosterState where
  photos : PhotoState := {}
  passes : List PosterPass := []

/-- A pass goes on with an answer from outside; `put` tells whether the disk
takes what it is given. -/
inductive PosterAction where
  | photo (action : PhotoAction)
  | start (token : String) (paths : List String)
  | advance (index : Nat) (answer : WarmAnswer) (put : Bool)

/-- What is in memory is not for the outside to say. -/
def PhotoState.tell (photos : PhotoState) (question : WarmQuestion)
    (answer : WarmAnswer) : WarmAnswer :=
  match question with
  | .held key => { answer with held := (photos.memory.lookup key).isSome }
  | _ => answer

def PhotoState.serve (photos : PhotoState) (token : String) (put : Bool)
    (answer : WarmAnswer) : WarmQuestion → PhotoState
  | .poster target =>
      match answer.reply.prefetched? with
      | none => photos
      | some image =>
          { photos with
            fetched := photos.fetched ++
              [{ token := some token, target, live := false, image }] }
  | .keep key image =>
      { photos with memory := photos.memory.insert key image }
  | .put key record =>
      if put then { photos with disk := photos.disk.insert key record }
      else photos
  | _ => photos

def PosterState.advance (state : PosterState) (index : Nat)
    (answer : WarmAnswer) (put : Bool) (pass : PosterPass) : PosterState :=
  match pass.rest with
  | .done _ => state
  | .ask question next =>
      let answer := state.photos.tell question answer
      { photos := state.photos.serve pass.token put answer question
        passes := state.passes.set index
          (pass.exchange question answer (next answer)) }

section

variable (codec : TargetCodec) (digest : TokenDigest)
  (parseTarget : String → Option Uri)

/-- The passes stand in for the prefetches of the photo model. -/
def posterStep (state : PosterState) : PosterAction → PosterState
  | .photo (.prefetch _ _) => state
  | .photo action =>
      { state with photos := photoStep codec digest state.photos action }
  | .start token paths =>
      { state with
        passes := state.passes ++
          [{ token
             paths
             rest := warmHubsForToken codec digest parseTarget token paths }] }
  | .advance index answer put =>
      match state.passes[index]? with
      | none => state
      | some pass => state.advance index answer put pass

def posterRun (actions : List PosterAction) : PosterState :=
  actions.foldl (posterStep codec digest parseTarget) {}

end

/-! What live requests do to the photo caches. -/

def PhotoTask.IsLive : PhotoTask → Prop
  | prefetching _ _ _ => False
  | _ => True

/-- Only live requests have fetched anything new, and an image is gone from
memory only when it has been evicted. -/
structure PhotoState.LiveStep (before after : PhotoState)
    (evicted : String → Prop) : Prop where
  fetched : ∃ more, after.fetched = before.fetched ++ more ∧
    ∀ fetch ∈ more, fetch.live = true
  tasks : ∀ task ∈ after.tasks, task.IsLive
  memory : ∀ key, (before.memory.lookup key).isSome = true →
    (after.memory.lookup key).isSome = true ∨ evicted key

section

variable {codec : TargetCodec} {digest : TokenDigest} {photos : PhotoState}

theorem PhotoState.LiveStep.of_same {after : PhotoState}
    {evicted : String → Prop} (fetched : after.fetched = photos.fetched)
    (memory : after.memory = photos.memory)
    (tasks : ∀ task ∈ after.tasks, task.IsLive) :
    photos.LiveStep after evicted where
  fetched := ⟨[], by simp [fetched], by simp⟩
  tasks := tasks
  memory key present := .inl (by rw [memory]; exact present)

theorem PhotoTask.liveStep_resume {task : PhotoTask} {evicted : String → Prop}
    (live : ∀ task ∈ photos.tasks, task.IsLive) (isLive : task.IsLive)
    (index : Nat) (reply : PhotoReply) (put : Bool) :
    photos.LiveStep (task.resume codec photos index reply put) evicted := by
  have finished : ∀ task ∈ (photos.finish index).tasks, task.IsLive :=
    fun task listed => live task (List.mem_of_mem_eraseIdx listed)
  have set {next : PhotoTask} (isLive : next.IsLive) :
      ∀ task ∈ photos.tasks.set index next, task.IsLive := by
    intro task listed
    rcases List.mem_or_eq_of_mem_set listed with earlier | rfl
    · exact live task earlier
    · exact isLive
  cases task with
  | looking visit key =>
      simp only [PhotoTask.resume]
      split
      · exact .of_same rfl rfl finished
      · exact .of_same rfl rfl (set trivial)
  | proxying visit key =>
      simp only [PhotoTask.resume]
      split
      · exact .of_same rfl rfl finished
      · refine ⟨⟨_, rfl, ?_⟩, set trivial, ?_⟩
        · intro fetch listed
          cases List.mem_singleton.mp listed
          rfl
        · exact fun other present =>
            .inl (Store.isSome_lookup_insert present key _)
  | keeping key image =>
      simp only [PhotoTask.resume]
      split
      · exact .of_same rfl rfl finished
      · exact .of_same rfl rfl finished
  | prefetching token target key => exact isLive.elim

theorem liveStep_photoStep (live : ∀ task ∈ photos.tasks, task.IsLive)
    {action : PhotoAction}
    (other : ∀ token target, action ≠ .prefetch token target) :
    photos.LiveStep (photoStep codec digest photos action)
      (fun key => action = .evictMemory key) := by
  cases action with
  | receive visit =>
      simp only [photoStep]
      split
      · exact .of_same rfl rfl live
      · split
        · exact .of_same rfl rfl live
        · refine .of_same rfl rfl fun task listed => ?_
          rcases List.mem_append.mp listed with earlier | new
          · exact live task earlier
          · cases List.mem_singleton.mp new
            trivial
  | resume index reply put =>
      simp only [photoStep]
      split
      · exact .of_same rfl rfl live
      next task found =>
          exact PhotoTask.liveStep_resume live
            (live task (List.mem_of_getElem? found)) index reply put
  | abandon index =>
      exact .of_same rfl rfl fun task listed =>
        live task (List.mem_of_mem_eraseIdx listed)
  | prefetch token target => exact absurd rfl (other token target)
  | evictMemory key =>
      refine ⟨⟨[], by simp [photoStep], by simp⟩, live, ?_⟩
      intro held present
      by_cases same : held = key
      · exact .inr (by rw [same])
      · exact .inl (by simpa [photoStep, Store.evict, same] using present)
  | evictDisk key => exact .of_same rfl rfl live
  | keepLibrary rest record => exact .of_same rfl rfl live

end

/-! What the passes add to the caches. -/

section

variable {codec : TargetCodec} {digest : TokenDigest}
  {parseTarget : String → Option Uri} {photos : PhotoState}
  {exchanges : List WarmExchange} {token : String}

/-- The images that a pass has got are on record. -/
def Logged (photos : PhotoState) (token : String)
    (exchanges : List WarmExchange) : Prop :=
  ∀ target answer image, (WarmQuestion.poster target, answer) ∈ exchanges →
    answer.reply.prefetched? = some image →
      ({ token := some token, target, live := false, image } : PhotoFetch) ∈
        photos.fetched

theorem Logged.mono (logged : Logged photos token exchanges)
    {after : PhotoState}
    (grown : ∀ fetch ∈ photos.fetched, fetch ∈ after.fetched) :
    Logged after token exchanges :=
  fun target answer image listed got =>
    grown _ (logged target answer image listed got)

theorem fetchedFor_of_brought (logged : Logged photos token exchanges)
    {key : String} {image : CachedImage} {before after : List WarmExchange}
    (split : exchanges = before ++ after)
    (brought : Brought before codec digest token key image) :
    FetchedFor codec digest photos.fetched key image := by
  obtain ⟨target, answer, last, got, rfl⟩ := brought
  have listed : (WarmQuestion.poster target, answer) ∈ exchanges := by
    rw [split]
    exact List.mem_append_left after (List.mem_of_getLast? last)
  exact ⟨_, logged target answer image listed got, rfl, rfl⟩

/-- What is done for a warranted question keeps the caches traced, fetches
nothing but posters, and takes nothing from memory. -/
structure PhotoState.Serves (before after : PhotoState) (token : String)
    (question : WarmQuestion) (answer : WarmAnswer) : Prop where
  grown : ∀ fetch ∈ before.fetched, fetch ∈ after.fetched
  fetched : ∀ fetch ∈ after.fetched, fetch ∈ before.fetched ∨
    fetch.token = some token ∧ question = .poster fetch.target
  logged : ∀ target image, question = .poster target →
    answer.reply.prefetched? = some image →
      ({ token := some token, target, live := false, image } : PhotoFetch) ∈
        after.fetched
  tasks : after.tasks = before.tasks
  memory : ∀ key, (before.memory.lookup key).isSome = true →
    (after.memory.lookup key).isSome = true
  kept : ∀ key image, question = .keep key image →
    (after.memory.lookup key).isSome = true

theorem serves_serve (photos : PhotoState) (token : String) (put : Bool)
    (question : WarmQuestion) (answer : WarmAnswer) :
    photos.Serves (photos.serve token put answer question) token question
      answer := by
  have same {question : WarmQuestion} {after : PhotoState}
      (notPoster : ∀ target, question ≠ .poster target)
      (notKeep : ∀ key image, question ≠ .keep key image)
      (fetched : after.fetched = photos.fetched)
      (tasks : after.tasks = photos.tasks)
      (memory : after.memory = photos.memory) :
      photos.Serves after token question answer :=
    ⟨fun fetch listed => by rw [fetched]; exact listed,
      fun fetch listed => .inl (by rw [← fetched]; exact listed),
      fun target image asked => absurd asked (notPoster target), tasks,
      fun key present => by rw [memory]; exact present,
      fun key image asked => absurd asked (notKeep key image)⟩
  cases question with
  | poster target =>
      simp only [PhotoState.serve]
      split
      next missed =>
          refine ⟨fun _ listed => listed, fun _ listed => .inl listed, ?_, rfl,
            fun _ present => present, nofun⟩
          rintro other image - got
          rw [missed] at got
          cases got
      next image got =>
          refine ⟨fun _ listed => List.mem_append_left _ listed, ?_, ?_, rfl,
            fun _ present => present, nofun⟩
          · intro fetch listed
            rcases List.mem_append.mp listed with earlier | new
            · exact .inl earlier
            · cases List.mem_singleton.mp new
              exact .inr ⟨rfl, rfl⟩
          · rintro other brought ⟨⟩ same
            cases got.symm.trans same
            exact List.mem_append_right _ (List.mem_singleton_self _)
  | keep key image =>
      refine ⟨fun _ listed => listed, fun _ listed => .inl listed, nofun, rfl,
        ?_, ?_⟩
      · exact fun other present =>
          Store.isSome_lookup_insert present key image
      · rintro other brought ⟨⟩
        simp [PhotoState.serve]
  | put key record =>
      simp only [PhotoState.serve]
      split
      · exact same nofun nofun rfl rfl rfl
      · exact same nofun nofun rfl rfl rfl
  | _ => exact same nofun nofun rfl rfl rfl

theorem traced_serve (traced : photos.Traced codec digest)
    {paths : List String} {question : WarmQuestion}
    (logged : Logged photos token exchanges)
    (warranted : Warranted exchanges codec digest parseTarget token paths
      question) (put : Bool) (answer : WarmAnswer) :
    (photos.serve token put answer question).Traced codec digest := by
  cases question with
  | poster target =>
      simp only [PhotoState.serve]
      split
      · exact traced
      next image got =>
          refine ⟨?_, ?_, ?_, ?_, ?_⟩
          · exact fun key image found =>
              (traced.memory key image found).later _
          · intro key record found photo
            obtain ⟨image, kept, known⟩ := traced.disk key record found photo
            exact ⟨image, kept, known.later _⟩
          · exact fun task listed => (traced.tasks task listed).later _
          · intro fetch listed
            rcases List.mem_append.mp listed with earlier | new
            · exact traced.fetched fetch earlier
            · cases List.mem_singleton.mp new
              exact ⟨PhotoReply.small_of_prefetched got, nofun⟩
          · intro hit listed
            obtain ⟨image, same, known⟩ := traced.hits hit listed
            exact ⟨image, same, known.later _⟩
  | keep key image =>
      obtain ⟨-, brought⟩ := warranted
      have known := fetchedFor_of_brought logged
        (List.append_nil exchanges).symm brought
      exact ⟨traced.memory.insert known, traced.disk, traced.tasks,
        traced.fetched, traced.hits⟩
  | put key record =>
      obtain ⟨before, image, reply, split, brought, rfl⟩ := warranted
      have known := fetchedFor_of_brought logged split brought
      simp only [PhotoState.serve]
      split
      · exact ⟨traced.memory,
          traced.disk.insert fun _ => ⟨image, rfl, known⟩, traced.tasks,
          traced.fetched, traced.hits⟩
      · exact traced
  | _ => exact traced

end

section

variable (codec : TargetCodec) (digest : TokenDigest)
  (parseTarget : String → Option Uri)

def PosterPass.script (pass : PosterPass) : WarmScript :=
  warmHubsForToken codec digest parseTarget pass.token pass.paths

/-- A pass among the live requests, with the keys that were evicted. -/
structure PosterPass.Among (pass : PosterPass) (photos : PhotoState)
    (evicted : String → Prop) : Prop where
  leads : (pass.script codec digest parseTarget).Leads pass.exchanges pass.rest
  logged : Logged photos pass.token pass.exchanges
  kept : ∀ key image answer,
    (WarmQuestion.keep key image, answer) ∈ pass.exchanges →
      (photos.memory.lookup key).isSome = true ∨ evicted key

/-- The image was got by a pass, which had been shown its poster. -/
def PhotoFetch.OfPass (passes : List PosterPass) (fetch : PhotoFetch) : Prop :=
  ∃ pass ∈ passes, fetch.token = some pass.token ∧
    ∃ answer, (WarmQuestion.poster fetch.target, answer) ∈ pass.exchanges

structure PosterState.Accounted (evicted : String → Prop)
    (state : PosterState) : Prop where
  traced : state.photos.Traced codec digest
  live : ∀ task ∈ state.photos.tasks, task.IsLive
  among : ∀ pass ∈ state.passes,
    pass.Among codec digest parseTarget state.photos evicted
  fetched : ∀ fetch ∈ state.photos.fetched, fetch.live = false →
    fetch.OfPass state.passes

variable {codec digest parseTarget} {state : PosterState}
  {evicted : String → Prop}

theorem PosterPass.Among.warranted {pass : PosterPass} {photos : PhotoState}
    (among : pass.Among codec digest parseTarget photos evicted)
    {before after : List WarmExchange} {exchange : WarmExchange}
    (split : pass.exchanges = before ++ exchange :: after) :
    Warranted before codec digest parseTarget pass.token pass.paths
      exchange.1 :=
  obeys_warmHubsForToken.warranted among.leads split

/-- What a pass asks next is warranted by what it has been told. -/
theorem PosterPass.Among.next {pass : PosterPass} {photos : PhotoState}
    (among : pass.Among codec digest parseTarget photos evicted)
    {question : WarmQuestion} {next : WarmAnswer → WarmScript}
    (rest : pass.rest = .ask question next) :
    Warranted pass.exchanges codec digest parseTarget pass.token pass.paths
      question := by
  have obeys := (@obeys_warmHubsForToken codec digest parseTarget pass.token
    pass.paths).of_leads among.leads
  rw [rest] at obeys
  cases obeys with
  | ask warranted each => exact warranted

theorem PosterPass.Among.ended {pass : PosterPass} {photos : PhotoState}
    (among : pass.Among codec digest parseTarget photos evicted)
    {result : Option Nat} (rest : pass.rest = .done result) :
    Ended pass.exchanges codec digest parseTarget pass.token pass.paths
      result := by
  have obeys := (@obeys_warmHubsForToken codec digest parseTarget pass.token
    pass.paths).of_leads among.leads
  rw [rest] at obeys
  cases obeys with
  | done ended => exact ended

theorem PosterPass.Among.mono {pass : PosterPass} {before after : PhotoState}
    (among : pass.Among codec digest parseTarget before evicted)
    (grown : ∀ fetch ∈ before.fetched, fetch ∈ after.fetched)
    (memory : ∀ key, (before.memory.lookup key).isSome = true →
      (after.memory.lookup key).isSome = true ∨ evicted key) :
    pass.Among codec digest parseTarget after evicted where
  leads := among.leads
  logged := among.logged.mono grown
  kept key image answer listed := by
    rcases among.kept key image answer listed with present | gone
    · exact memory key present
    · exact .inr gone

theorem PhotoFetch.OfPass.mono {passes others : List PosterPass}
    {fetch : PhotoFetch} (ofPass : fetch.OfPass passes)
    (grown : ∀ pass ∈ passes, ∃ other ∈ others, other.token = pass.token ∧
      ∀ exchange ∈ pass.exchanges, exchange ∈ other.exchanges) :
    fetch.OfPass others := by
  obtain ⟨pass, listed, named, answer, asked⟩ := ofPass
  obtain ⟨other, there, same, more⟩ := grown pass listed
  exact ⟨other, there, by rw [same, named], answer, more _ asked⟩

theorem PosterState.Accounted.photo
    (accounted : state.Accounted codec digest parseTarget evicted)
    {action : PhotoAction}
    (other : ∀ token target, action ≠ .prefetch token target)
    (noted : ∀ key, action = .evictMemory key → evicted key) :
    PosterState.Accounted codec digest parseTarget evicted
      { state with photos := photoStep codec digest state.photos action } := by
  have step : state.photos.LiveStep (photoStep codec digest state.photos action)
      (fun key => action = .evictMemory key) :=
    liveStep_photoStep accounted.live other
  obtain ⟨more, grown, live⟩ := step.fetched
  refine ⟨traced_photoStep accounted.traced action, step.tasks, ?_, ?_⟩
  · intro pass listed
    apply (accounted.among pass listed).mono
    · intro fetch known
      rw [grown]
      exact List.mem_append_left more known
    · exact fun key present => (step.memory key present).imp_right (noted key)
  · intro fetch listed prefetched
    rw [grown] at listed
    rcases List.mem_append.mp listed with earlier | new
    · exact accounted.fetched fetch earlier prefetched
    · rw [live fetch new] at prefetched
      cases prefetched

/-- The exchange is the only thing that is new about a pass. -/
theorem PosterPass.Among.exchange {pass : PosterPass}
    {before after : PhotoState}
    (among : pass.Among codec digest parseTarget before evicted)
    {question : WarmQuestion} {next : WarmAnswer → WarmScript}
    (rest : pass.rest = .ask question next) {answer : WarmAnswer}
    (serves : before.Serves after pass.token question answer) :
    (pass.exchange question answer (next answer)).Among codec digest
      parseTarget after evicted where
  leads := by
    have leads := among.leads
    rw [rest] at leads
    exact leads.snoc answer
  logged := by
    intro target reply image listed got
    rcases List.mem_append.mp listed with earlier | new
    · exact serves.grown _ (among.logged target reply image earlier got)
    · cases List.mem_singleton.mp new
      exact serves.logged target image rfl got
  kept := by
    intro key image reply listed
    rcases List.mem_append.mp listed with earlier | new
    · exact (among.kept key image reply earlier).imp_left (serves.memory key)
    · cases List.mem_singleton.mp new
      exact .inl (serves.kept key image rfl)

theorem PosterState.Accounted.advance
    (accounted : state.Accounted codec digest parseTarget evicted)
    {index : Nat} {pass : PosterPass}
    (found : state.passes[index]? = some pass) (answer : WarmAnswer)
    (put : Bool) :
    (state.advance index answer put pass).Accounted codec digest parseTarget
      evicted := by
  have among := accounted.among pass (List.mem_of_getElem? found)
  unfold PosterState.advance
  split
  · exact accounted
  next question next rest =>
      dsimp only
      generalize state.photos.tell question answer = answer
      have serves :=
        serves_serve state.photos pass.token put question answer
      obtain ⟨inside, same⟩ := List.getElem?_eq_some_iff.mp found
      have there := List.mem_set inside (pass.exchange question answer
        (next answer))
      refine ⟨traced_serve accounted.traced among.logged (among.next rest) put
        answer, ?_, ?_, ?_⟩
      · rw [serves.tasks]
        exact accounted.live
      · intro other listed
        rcases List.mem_or_eq_of_mem_set listed with earlier | rfl
        · exact (accounted.among other earlier).mono serves.grown
            fun key present => .inl (serves.memory key present)
        · exact among.exchange rest serves
      · intro fetch listed prefetched
        rcases serves.fetched fetch listed with earlier | ⟨named, asked⟩
        · refine (accounted.fetched fetch earlier prefetched).mono ?_
          intro other held
          obtain ⟨position, held⟩ := List.getElem?_of_mem held
          by_cases here : position = index
          · subst here
            cases held.symm.trans found
            exact ⟨_, there, rfl,
              fun exchange listed => List.mem_append_left _ listed⟩
          · refine ⟨other, List.mem_of_getElem? (i := position) ?_, rfl,
              fun exchange listed => listed⟩
            rw [List.getElem?_set_ne (Ne.symm here), held]
        · refine ⟨_, there, named, answer, ?_⟩
          rw [← asked]
          exact List.mem_append_right _ (List.mem_singleton_self _)

theorem PosterState.Accounted.start
    (accounted : state.Accounted codec digest parseTarget evicted)
    (token : String) (paths : List String) :
    PosterState.Accounted codec digest parseTarget evicted
      { state with
        passes := state.passes ++
          [{ token
             paths
             rest := warmHubsForToken codec digest parseTarget token
               paths }] } where
  traced := accounted.traced
  live := accounted.live
  among pass listed := by
    rcases List.mem_append.mp listed with earlier | new
    · exact accounted.among pass earlier
    · cases List.mem_singleton.mp new
      refine ⟨Script.Leads.start (warmHubsForToken codec digest parseTarget
        token paths), ?_, ?_⟩
      · rintro target answer image ⟨⟩
      · rintro key image answer ⟨⟩
  fetched fetch listed prefetched := by
    apply (accounted.fetched fetch listed prefetched).mono
    exact fun pass known => ⟨pass, List.mem_append_left _ known, rfl,
      fun exchange listed => listed⟩

theorem accounted_posterRun (actions : List PosterAction) :
    (posterRun codec digest parseTarget actions).Accounted codec digest
      parseTarget fun key => .photo (.evictMemory key) ∈ actions := by
  have initial : PosterState.Accounted codec digest parseTarget
      (fun key => .photo (.evictMemory key) ∈ actions) {} :=
    ⟨traced_empty, nofun, nofun, nofun⟩
  refine @Transition.invariant_of_meets _ _
    (posterStep codec digest parseTarget) (fun _ action => action ∈ actions) _
    ?_ actions {} initial
    (Transition.meets_of_forall _ (fun _ listed => listed) _)
  intro state action accounted listed
  cases action with
  | photo action =>
      by_cases prefetch : ∃ token target, action = .prefetch token target
      · obtain ⟨token, target, rfl⟩ := prefetch
        exact accounted
      · have other (token target : String) : action ≠ .prefetch token target :=
          fun same => prefetch ⟨token, target, same⟩
        have step : posterStep codec digest parseTarget state (.photo action) =
            { state with
              photos := photoStep codec digest state.photos action } := by
          cases action with
          | prefetch token target => exact absurd rfl (other token target)
          | _ => rfl
        rw [step]
        apply accounted.photo other
        rintro key rfl
        exact listed
  | start token paths => exact accounted.start token paths
  | advance index answer put =>
      simp only [posterStep]
      split
      · exact accounted
      next pass found => exact accounted.advance found answer put

theorem PosterPass.Among.rowed {pass : PosterPass} {photos : PhotoState}
    (among : pass.Among codec digest parseTarget photos evicted)
    {target : String} {answer : WarmAnswer}
    (asked : (WarmQuestion.poster target, answer) ∈ pass.exchanges) :
    ∃ thumb, Rowed pass.exchanges thumb ∧ target = posterTarget codec thumb := by
  obtain ⟨before, after, split⟩ := List.append_of_mem asked
  obtain ⟨thumb, rowed, same, -⟩ := among.warranted split
  rw [split]
  exact ⟨thumb, rowed.append _, same⟩

/-- Whatever is interleaved, a pass claims one hub after the other and asks only
for hubs that it has claimed and for the first posters of rows that it has got;
it stores what it was sent, within the budget, and leaves no claim and no poster
behind. An image that live requests are then answered with was got by a live
request, or by a pass for a poster it had been shown. -/
theorem warmed_posters_accounted (codec : TargetCodec) (digest : TokenDigest)
    (parseTarget : String → Option Uri) (actions : List PosterAction) :
    let reached := posterRun codec digest parseTarget actions
    (∀ pass ∈ reached.passes,
      (∀ before exchange after,
        pass.exchanges = before ++ exchange :: after →
          Warranted before codec digest parseTarget pass.token pass.paths
            exchange.1) ∧
      (∀ result, pass.rest = .done result →
        Ended pass.exchanges codec digest parseTarget pass.token pass.paths
          result) ∧
      ∀ key image answer,
        (WarmQuestion.keep key image, answer) ∈ pass.exchanges →
          (reached.photos.memory.lookup key).isSome = true ∨
            .photo (.evictMemory key) ∈ actions) ∧
    ∀ hit ∈ reached.photos.hits, ∃ fetch ∈ reached.photos.fetched,
      digest.tokenScope fetch.token = digest.tokenScope
          (photoRequestToken codec hit.visit.order hit.visit.request) ∧
        canonicalPhotoKey codec fetch.target =
          canonicalPhotoKey codec hit.visit.request.target ∧
        hit.image.body = fetch.image.body ∧
        (fetch.live = false →
          ∃ pass ∈ reached.passes, fetch.token = some pass.token ∧
            ∃ thumb, Rowed pass.exchanges thumb ∧
              fetch.target = posterTarget codec thumb) := by
  intro reached
  have accounted := @accounted_posterRun codec digest parseTarget actions
  refine ⟨?_, ?_⟩
  · intro pass listed
    have among := accounted.among pass listed
    exact ⟨fun before exchange after => among.warranted,
      fun result => among.ended, among.kept⟩
  · intro hit listed
    obtain ⟨fetch, known, scope, picture, body, -⟩ :=
      accounted.traced.provenance hit listed
    refine ⟨fetch, known, scope, picture, body, fun prefetched => ?_⟩
    obtain ⟨pass, there, named, answer, asked⟩ :=
      accounted.fetched fetch known prefetched
    exact ⟨pass, there, named, (accounted.among pass there).rowed asked⟩

end

end Replex
