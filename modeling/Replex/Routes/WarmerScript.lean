import Replex.Data.Script
import Replex.HubCache.CanonicalFetch
import Replex.Routes.PhotoCache
import Replex.Transform.FilterLoop

namespace Replex

open Data

/-! What the warmer does for an account: it goes through the hubs, and then
through the posters of their rows. -/

inductive WarmQuestion where
  | claim (cacheKey : String)
  | hubs (fetchPath : String)
  | store (cacheKey : String) (payload : MediaContainer)
  | release (cacheKey : String)
  | held (key : String)
  | poster (target : String)
  | keep (key : String) (image : CachedImage)
  | put (key : String) (record : CacheRecord)

/-- Only what was asked for is looked at. -/
structure WarmAnswer where
  granted : Bool := false
  payload : Except StatusCode MediaContainer := .error 502
  held : Bool := false
  reply : PhotoReply := {}

abbrev WarmExchange : Type := WarmQuestion × WarmAnswer

/-- The result is the number of posters, or absent when the warmer panics. -/
abbrev WarmScript : Type := Script WarmQuestion WarmAnswer (Option Nat)

def postersPerRow : Nat := 12

def posterBudget : Nat := 400

def rowPosters (payload : MediaContainer) : List MetaData :=
  payload.childrenMut.flatMap fun hub => hub.children.take postersPerRow

/-- The URL that the parameters are appended to always parses. -/
def buildTranscodeQuery (codec : TargetCodec) (thumb : String) : String :=
  codec.serialize [("width", "240"), ("height", "360"), ("minSize", "1"),
    ("upscale", "1"), ("url", thumb)]

def posterTarget (codec : TargetCodec) (thumb : String) : String :=
  "/photo/:/transcode?" ++ buildTranscodeQuery codec thumb

section

variable (codec : TargetCodec) (digest : TokenDigest)
  (parseTarget : String → Option Uri) (token : String)

def posterKey (target : String) : String :=
  photoCacheKeyFor codec digest target (some token)

def warmKey (uri : Uri) : String :=
  hubCacheKey digest (cacheKeyForRequest uri) (some token)

/-- Only what is stored is charged to the budget. -/
def prefetchPosters : List MetaData → Nat → Nat → WarmScript
  | [], _, fetched => .done (some fetched)
  | item :: items, budget, fetched =>
      if budget = 0 then
        .done (some fetched)
      else
        match item.thumb with
        | none => prefetchPosters items budget fetched
        | some thumb =>
            let target := posterTarget codec thumb
            let key := posterKey codec digest token target
            .ask (.held key) fun answer =>
              if answer.held then
                prefetchPosters items budget fetched
              else
                .ask (.poster target) fun answer =>
                  match answer.reply.prefetched? with
                  | none => prefetchPosters items budget fetched
                  | some image =>
                      .ask (.keep key image) fun _ =>
                        .ask (.put key image.record) fun _ =>
                          prefetchPosters items (budget - 1) (fetched + 1)

def warmHubs : List String → List MediaContainer → WarmScript
  | [], warmed =>
      prefetchPosters codec digest token (warmed.flatMap rowPosters)
        posterBudget 0
  | path :: paths, warmed =>
      match parseTarget (warmFetchPath path) with
      | none => .done none
      | some uri =>
          let cacheKey := warmKey digest token uri
          .ask (.claim cacheKey) fun answer =>
            if answer.granted then
              .ask (.hubs (warmFetchPath path)) fun answer =>
                match answer.payload with
                | .ok payload =>
                    .ask (.store cacheKey payload) fun _ =>
                      .ask (.release cacheKey) fun _ =>
                        warmHubs paths (warmed ++ [payload])
                | .error _ =>
                    .ask (.release cacheKey) fun _ => warmHubs paths warmed
            else
              warmHubs paths warmed

def warmHubsForToken (paths : List String) : WarmScript :=
  warmHubs codec digest parseTarget token paths []

end

/-! What is known from the exchanges. -/

section

variable (seen : List WarmExchange)

/-- The claim that is held after the exchanges. -/
def claimAfter (held : Option String) (exchange : WarmExchange) :
    Option String :=
  match exchange.1 with
  | .claim cacheKey => if exchange.2.granted then some cacheKey else held
  | .release _ => none
  | _ => held

def heldClaim : Option String :=
  seen.foldl claimAfter none

def WarmQuestion.isKeep : WarmQuestion → Bool
  | keep _ _ => true
  | _ => false

def keptPosters : Nat :=
  seen.countP fun exchange => exchange.1.isKeep

/-- The pass has got the payload. -/
def Got (payload : MediaContainer) : Prop :=
  ∃ fetchPath answer, (WarmQuestion.hubs fetchPath, answer) ∈ seen ∧
    answer.payload = .ok payload

/-- The thumb is one of the first of a row that the pass has got. -/
def Rowed (thumb : String) : Prop :=
  ∃ payload, Got seen payload ∧
    ∃ item ∈ rowPosters payload, item.thumb = some thumb

variable (codec : TargetCodec) (digest : TokenDigest)
  (parseTarget : String → Option Uri) (token : String) (paths : List String)

/-- The poster was there already, or cannot be got, or has been kept. -/
def Settled (thumb : String) : Prop :=
  let target := posterTarget codec thumb
  let key := posterKey codec digest token target
  (∃ answer, (WarmQuestion.held key, answer) ∈ seen ∧
      answer.held = true) ∨
    (∃ answer, (WarmQuestion.poster target, answer) ∈ seen ∧
      answer.reply.prefetched? = none) ∨
    ∃ image answer, (WarmQuestion.keep key image, answer) ∈ seen

/-- The last exchange brought the image for the key. -/
def Brought (key : String) (image : CachedImage) : Prop :=
  ∃ target answer, seen.getLast? = some (WarmQuestion.poster target, answer) ∧
    answer.reply.prefetched? = some image ∧
      key = posterKey codec digest token target

/-- Why the pass may ask. -/
def Warranted : WarmQuestion → Prop
  | .claim cacheKey =>
      heldClaim seen = none ∧
        ∃ path ∈ paths, ∃ uri, parseTarget (warmFetchPath path) = some uri ∧
          cacheKey = warmKey digest token uri
  | .hubs fetchPath =>
      ∃ path ∈ paths, fetchPath = warmFetchPath path ∧
        ∃ uri, parseTarget fetchPath = some uri ∧
          heldClaim seen = some (warmKey digest token uri)
  | .store cacheKey payload =>
      heldClaim seen = some cacheKey ∧
        ∃ fetchPath answer,
          seen.getLast? = some (.hubs fetchPath, answer) ∧
            answer.payload = .ok payload
  | .release cacheKey => heldClaim seen = some cacheKey
  | .held key =>
      ∃ thumb, Rowed seen thumb ∧
        key = posterKey codec digest token (posterTarget codec thumb)
  | .poster target =>
      ∃ thumb, Rowed seen thumb ∧ target = posterTarget codec thumb ∧
        ∃ answer, answer.held = false ∧
          seen.getLast? =
            some (.held (posterKey codec digest token target), answer)
  | .keep key image =>
      keptPosters seen < posterBudget ∧
        Brought seen codec digest token key image
  | .put key record =>
      ∃ before image answer, seen = before ++ [(.keep key image, answer)] ∧
        Brought before codec digest token key image ∧ record = image.record

/-- No claim is left, and no poster but for the budget. A pass is broken off by
a path that is no request target. -/
def Ended : Option Nat → Prop
  | none =>
      heldClaim seen = none ∧
        ∃ path ∈ paths, parseTarget (warmFetchPath path) = none
  | some fetched =>
      heldClaim seen = none ∧ fetched = keptPosters seen ∧
        fetched ≤ posterBudget ∧
        (fetched < posterBudget → ∀ thumb, Rowed seen thumb →
          Settled seen codec digest token thumb)

end

section

variable {codec : TargetCodec} {digest : TokenDigest}
  {parseTarget : String → Option Uri} {token : String} {paths : List String}
  {seen : List WarmExchange} {thumb : String}

theorem heldClaim_append (later : List WarmExchange) :
    heldClaim (seen ++ later) = later.foldl claimAfter (heldClaim seen) :=
  List.foldl_append

theorem keptPosters_append (later : List WarmExchange) :
    keptPosters (seen ++ later) = keptPosters seen + keptPosters later :=
  List.countP_append

theorem Got.append {payload : MediaContainer} (got : Got seen payload)
    (later : List WarmExchange) : Got (seen ++ later) payload := by
  obtain ⟨fetchPath, answer, listed, same⟩ := got
  exact ⟨fetchPath, answer, List.mem_append_left later listed, same⟩

theorem Rowed.append (rowed : Rowed seen thumb) (later : List WarmExchange) :
    Rowed (seen ++ later) thumb := by
  obtain ⟨payload, got, inRow⟩ := rowed
  exact ⟨payload, got.append later, inRow⟩

theorem Settled.append (settled : Settled seen codec digest token thumb)
    (later : List WarmExchange) :
    Settled (seen ++ later) codec digest token thumb := by
  rcases settled with ⟨answer, listed, there⟩ | ⟨answer, listed, missed⟩ |
    ⟨image, answer, listed⟩
  · exact .inl ⟨answer, List.mem_append_left later listed, there⟩
  · exact .inr (.inl ⟨answer, List.mem_append_left later listed, missed⟩)
  · exact .inr (.inr ⟨image, answer, List.mem_append_left later listed⟩)

/-- The exchanges are about posters. -/
def AboutPosters (exchanges : List WarmExchange) : Prop :=
  ∀ exchange ∈ exchanges, match exchange.1 with
    | .held _ | .poster _ | .keep _ _ | .put _ _ => True
    | _ => False

theorem AboutPosters.heldClaim_append {later : List WarmExchange}
    (about : AboutPosters later) :
    heldClaim (seen ++ later) = heldClaim seen := by
  rw [Replex.heldClaim_append]
  generalize heldClaim seen = held
  induction later with
  | nil => rfl
  | cons exchange later hypothesis =>
      obtain ⟨first, rest⟩ := List.forall_mem_cons.mp about
      have still : claimAfter held exchange = held := by
        unfold claimAfter
        revert first
        cases exchange.1 <;> simp
      rw [List.foldl_cons, still]
      exact hypothesis rest

theorem AboutPosters.rowed {later : List WarmExchange}
    (about : AboutPosters later) (rowed : Rowed (seen ++ later) thumb) :
    Rowed seen thumb := by
  obtain ⟨payload, ⟨fetchPath, answer, listed, same⟩, inRow⟩ := rowed
  refine ⟨payload, ⟨fetchPath, answer, ?_, same⟩, inRow⟩
  rcases List.mem_append.mp listed with earlier | new
  · exact earlier
  · exact (about _ new).elim

variable (codec digest token) in
/-- What holds while the items are gone through. -/
structure Prefetching (seen : List WarmExchange) (items : List MetaData)
    (budget fetched : Nat) : Prop where
  rowed : ∀ item ∈ items, ∀ thumb, item.thumb = some thumb →
    Rowed seen thumb
  covered : ∀ thumb, Rowed seen thumb →
    Settled seen codec digest token thumb ∨
      ∃ item ∈ items, item.thumb = some thumb
  counted : fetched = keptPosters seen
  total : budget + fetched = posterBudget
  unclaimed : heldClaim seen = none

section

variable {item : MetaData} {items : List MetaData} {budget fetched : Nat}

/-- One item is done with. -/
theorem Prefetching.next
    (prefetching : Prefetching codec digest token seen (item :: items) budget
      fetched) {later : List WarmExchange} (about : AboutPosters later)
    (settles : ∀ thumb, item.thumb = some thumb →
      Settled (seen ++ later) codec digest token thumb) {kept : Nat}
    (counts : keptPosters later = kept) (affords : kept ≤ budget) :
    Prefetching codec digest token (seen ++ later) items (budget - kept)
      (fetched + kept) where
  rowed other listed thumb same :=
    (prefetching.rowed other (List.mem_cons_of_mem item listed) thumb
      same).append later
  covered thumb rowed := by
    rcases prefetching.covered thumb (about.rowed rowed) with
      settled | ⟨other, listed, same⟩
    · exact .inl (settled.append later)
    · rcases List.mem_cons.mp listed with rfl | rest
      · exact .inl (settles thumb same)
      · exact .inr ⟨other, rest, same⟩
  counted := by
    rw [keptPosters_append, counts, prefetching.counted]
  total := by
    have total := prefetching.total
    omega
  unclaimed := by
    rw [about.heldClaim_append]
    exact prefetching.unclaimed

theorem Prefetching.pass
    (prefetching : Prefetching codec digest token seen (item :: items) budget
      fetched) {later : List WarmExchange} (about : AboutPosters later)
    (settles : ∀ thumb, item.thumb = some thumb →
      Settled (seen ++ later) codec digest token thumb)
    (none : keptPosters later = 0) :
    Prefetching codec digest token (seen ++ later) items budget fetched :=
  prefetching.next about settles none (Nat.zero_le budget)

theorem Prefetching.ended
    (prefetching : Prefetching codec digest token seen items budget fetched)
    (finished : items = [] ∨ budget = 0) :
    Ended seen codec digest parseTarget token paths (some fetched) := by
  have total := prefetching.total
  refine ⟨prefetching.unclaimed, prefetching.counted, by omega, ?_⟩
  intro under thumb rowed
  rcases prefetching.covered thumb rowed with settled | ⟨item, listed, -⟩
  · exact settled
  · rcases finished with none | spent
    · rw [none] at listed
      cases listed
    · omega

theorem obeys_prefetchPosters
    (prefetching : Prefetching codec digest token seen items budget fetched) :
    (prefetchPosters codec digest token items budget fetched).Obeys
      (fun seen => Warranted seen codec digest parseTarget token paths)
      (fun seen => Ended seen codec digest parseTarget token paths) seen := by
  induction items generalizing seen budget fetched with
  | nil => exact .done (prefetching.ended (.inl rfl))
  | cons item items hypothesis =>
      unfold prefetchPosters
      split
      next spent => exact .done (prefetching.ended (.inr spent))
      next left =>
          split
          next absent =>
              have about : AboutPosters [] := by simp [AboutPosters]
              have same := prefetching.pass about (by simp [absent])
                List.countP_nil
              rw [List.append_nil] at same
              exact hypothesis same
          next thumb shown =>
              have rowed := prefetching.rowed item List.mem_cons_self thumb
                shown
              have only {later : List WarmExchange}
                  (settled : Settled (seen ++ later) codec digest token
                    thumb) (other : String) (same : item.thumb = some other) :
                  Settled (seen ++ later) codec digest token other := by
                cases shown.symm.trans same
                exact settled
              refine .ask ⟨thumb, rowed, rfl⟩ fun answer => ?_
              split
              next there =>
                  apply hypothesis
                  apply prefetching.pass (by simp [AboutPosters]) (only ?_)
                    (by simp [keptPosters, WarmQuestion.isKeep])
                  exact .inl ⟨answer, by simp, there⟩
              next absent =>
                  refine .ask ⟨thumb, rowed.append _, rfl, answer,
                    by simpa using absent, by simp⟩ fun reply => ?_
                  split
                  next missed =>
                      rw [List.append_assoc]
                      apply hypothesis
                      apply prefetching.pass (by simp [AboutPosters]) (only ?_)
                        (by simp [keptPosters, WarmQuestion.isKeep])
                      exact .inr (.inl ⟨reply, by simp, missed⟩)
                  next image got =>
                      -- Neither of the two exchanges has stored anything.
                      have affords : keptPosters (seen ++
                          [(.held (posterKey codec digest token
                            (posterTarget codec thumb)), answer)] ++
                          [(.poster (posterTarget codec thumb), reply)]) <
                            posterBudget := by
                        rw [keptPosters_append, keptPosters_append,
                          ← prefetching.counted]
                        have total := prefetching.total
                        simp only [keptPosters, WarmQuestion.isKeep,
                          List.countP_singleton, Bool.false_eq_true, if_false]
                        omega
                      refine .ask ⟨affords, _, reply, by simp, got, rfl⟩
                        fun kept => ?_
                      refine .ask ⟨_, image, kept, rfl,
                        ⟨_, reply, by simp, got, rfl⟩, rfl⟩ fun written => ?_
                      simp only [List.append_assoc, List.singleton_append]
                      apply hypothesis
                      apply prefetching.next (by simp [AboutPosters]) (only ?_)
                        (by simp [keptPosters, WarmQuestion.isKeep])
                        (Nat.one_le_iff_ne_zero.mpr left)
                      exact .inr (.inr ⟨image, kept, by simp⟩)

end

/-- What holds from path to path. -/
structure Warming (seen : List WarmExchange) (warmed : List MediaContainer) :
    Prop where
  got : ∀ payload, payload ∈ warmed ↔ Got seen payload
  unkept : keptPosters seen = 0
  unclaimed : heldClaim seen = none

theorem Got.append_iff {later : List WarmExchange} {payload : MediaContainer} :
    Got (seen ++ later) payload ↔ Got seen payload ∨ Got later payload := by
  simp only [Got, List.mem_append, or_and_right, exists_or]

theorem Warming.append {warmed brought : List MediaContainer}
    (warming : Warming seen warmed) {later : List WarmExchange}
    (got : ∀ payload, payload ∈ brought ↔ Got later payload)
    (unkept : keptPosters later = 0)
    (unclaimed : later.foldl claimAfter none = none) :
    Warming (seen ++ later) (warmed ++ brought) where
  got payload := by
    rw [List.mem_append, Got.append_iff, warming.got, got]
  unkept := by rw [keptPosters_append, warming.unkept, unkept]
  unclaimed := by rw [heldClaim_append, warming.unclaimed, unclaimed]

theorem Warming.pass {warmed : List MediaContainer}
    (warming : Warming seen warmed) {later : List WarmExchange}
    (none : ∀ payload, ¬ Got later payload) (unkept : keptPosters later = 0)
    (unclaimed : later.foldl claimAfter .none = .none) :
    Warming (seen ++ later) warmed := by
  have brought (payload : MediaContainer) : payload ∈ [] ↔ Got later payload :=
    iff_of_false List.not_mem_nil (none payload)
  have same := warming.append brought unkept unclaimed
  rwa [List.append_nil] at same

theorem Warming.prefetching {warmed : List MediaContainer}
    (warming : Warming seen warmed) :
    Prefetching codec digest token seen (warmed.flatMap rowPosters)
      posterBudget 0 where
  rowed item listed thumb shown := by
    obtain ⟨payload, warm, inRow⟩ := List.mem_flatMap.mp listed
    exact ⟨payload, (warming.got payload).mp warm, item, inRow, shown⟩
  covered thumb rowed := by
    obtain ⟨payload, got, item, inRow, shown⟩ := rowed
    refine .inr ⟨item, List.mem_flatMap.mpr ⟨payload, ?_, inRow⟩, shown⟩
    exact (warming.got payload).mpr got
  counted := warming.unkept.symm
  total := rfl
  unclaimed := warming.unclaimed

theorem obeys_warmHubs {todo : List String} {warmed : List MediaContainer}
    (listed : ∀ path ∈ todo, path ∈ paths) (warming : Warming seen warmed) :
    (warmHubs codec digest parseTarget token todo warmed).Obeys
      (fun seen => Warranted seen codec digest parseTarget token paths)
      (fun seen => Ended seen codec digest parseTarget token paths) seen := by
  induction todo generalizing seen warmed with
  | nil => exact obeys_prefetchPosters warming.prefetching
  | cons path todo hypothesis =>
      obtain ⟨here, later⟩ := List.forall_mem_cons.mp listed
      unfold warmHubs
      split
      next refused => exact .done ⟨warming.unclaimed, path, here, refused⟩
      next uri parsed =>
          refine .ask ⟨warming.unclaimed, path, here, uri, parsed, rfl⟩
            fun claimed => ?_
          split
          next granted =>
              have held : heldClaim (seen ++
                  [(.claim (warmKey digest token uri), claimed)]) =
                    some (warmKey digest token uri) := by
                simp [heldClaim_append, claimAfter, granted]
              refine .ask ⟨path, here, rfl, uri, parsed, held⟩
                fun fetched => ?_
              split
              next payload got =>
                  have holds : heldClaim (seen ++
                      [(.claim (warmKey digest token uri), claimed)] ++
                      [(.hubs (warmFetchPath path), fetched)]) =
                        some (warmKey digest token uri) := by
                    rw [heldClaim_append, held]
                    rfl
                  refine .ask ⟨holds, warmFetchPath path, fetched, by simp,
                    got⟩ fun stored => ?_
                  refine .ask ?_ fun released => ?_
                  · rw [Warranted, heldClaim_append, holds]
                    rfl
                  simp only [List.append_assoc, List.singleton_append]
                  apply hypothesis later
                  apply warming.append
                  · intro other
                    simp [Got, got, eq_comm]
                  · simp [keptPosters, WarmQuestion.isKeep]
                  · simp [claimAfter]
              next failed =>
                  refine .ask ?_ fun released => ?_
                  · rw [Warranted, heldClaim_append, held]
                    rfl
                  simp only [List.append_assoc, List.singleton_append]
                  apply hypothesis later
                  apply warming.pass
                  · simp [Got, failed]
                  · simp [keptPosters, WarmQuestion.isKeep]
                  · simp [claimAfter]
          next denied =>
              apply hypothesis later
              apply warming.pass
              · simp [Got]
              · simp [keptPosters, WarmQuestion.isKeep]
              · simp [claimAfter, denied]

theorem obeys_warmHubsForToken :
    (warmHubsForToken codec digest parseTarget token paths).Obeys
      (fun seen => Warranted seen codec digest parseTarget token paths)
      (fun seen => Ended seen codec digest parseTarget token paths) [] :=
  obeys_warmHubs (fun _ listed => listed)
    ⟨fun payload => by simp [Got], List.countP_nil, rfl⟩

end

end Replex
