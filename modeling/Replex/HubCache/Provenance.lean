import Replex.Data.Transition
import Replex.HubCache

namespace Replex

open Data

/-! Outside the shared merges, a hub payload stays with the account scope it
was fetched for. -/

/-! The key function keeps scopes apart. -/

theorem colon_not_mem_tokenScope (digest : TokenDigest)
    (token : Option String) : ':' ∉ (digest.tokenScope token).toList := by
  cases token with
  | none => simp [TokenDigest.tokenScope]
  | some token =>
      intro listed
      have hex := digest.hex_fingerprint token
      rw [List.all_eq_true] at hex
      rw [TokenDigest.tokenScope, String.toList_ofList] at listed
      have digit := hex ':' (List.mem_of_mem_take listed)
      revert digit
      decide

theorem takeWhile_ne_colon {front rest : List Char} (absent : ':' ∉ front) :
    (front ++ ':' :: rest).takeWhile (· ≠ ':') = front := by
  rw [List.takeWhile_append_of_pos]
  · simp
  · intro char listed
    have different : char ≠ ':' := by
      intro same
      exact absent (same ▸ listed)
    simpa using different

theorem toList_hubCacheKey {digest : TokenDigest} {keyPath : String}
    (own : isSharedPath keyPath = false) (token : Option String) :
    (hubCacheKey digest keyPath token).toList =
      "hubcache:u:".toList ++
        ((digest.tokenScope token).toList ++ ':' :: keyPath.toList) := by
  cases token with
  | none => simp [hubCacheKey, own, TokenDigest.tokenScope]
  | some token => simp [hubCacheKey, own]

theorem toList_hubCacheKey_shared {digest : TokenDigest} {keyPath : String}
    (shared : isSharedPath keyPath = true) (token : Option String) :
    (hubCacheKey digest keyPath token).toList =
      "hubcache:global:".toList ++ keyPath.toList := by
  simp [hubCacheKey, shared]

theorem tokenScope_of_hubCacheKey_eq {digest : TokenDigest}
    {keyPath other : String} {token otherToken : Option String}
    (own : isSharedPath keyPath = false)
    (same : hubCacheKey digest keyPath token =
      hubCacheKey digest other otherToken) :
    digest.tokenScope token = digest.tokenScope otherToken := by
  have lists := congrArg String.toList same
  rw [toList_hubCacheKey own] at lists
  cases shared : isSharedPath other with
  | true =>
      rw [toList_hubCacheKey_shared shared] at lists
      simp at lists
  | false =>
      rw [toList_hubCacheKey shared, List.append_cancel_left_eq] at lists
      have scopes := congrArg (List.takeWhile (· ≠ ':')) lists
      rw [takeWhile_ne_colon (colon_not_mem_tokenScope digest token),
        takeWhile_ne_colon (colon_not_mem_tokenScope digest otherToken)]
        at scopes
      exact String.toList_injective scopes

theorem head?_hubCacheKey (digest : TokenDigest) (keyPath : String)
    (token : Option String) :
    (hubCacheKey digest keyPath token).toList.head? = some 'h' := by
  cases shared : isSharedPath keyPath with
  | true => simp [toList_hubCacheKey_shared shared]
  | false => simp [toList_hubCacheKey shared]

theorem head?_name_append (lookup : SideLookup) (rest : List Char) :
    (lookup.name.toList ++ rest).head? ≠ some 'h' := by
  cases lookup with
  | collection id =>
      unfold SideLookup.name
      simp only [String.toList_append]
      generalize (toString id).toList = idText
      simp
  | sectionCollections id =>
      unfold SideLookup.name
      simp only [String.toList_append]
      generalize (toString id).toList = idText
      simp
  | collectionChildren id offset limit =>
      unfold SideLookup.name
      simp only [String.toList_append, List.append_assoc]
      generalize (toString id).toList = idText
      simp

theorem head?_generateCacheKey (lookup : SideLookup) (context : PlexContext) :
    (generateCacheKey lookup.name context).toList.head? ≠ some 'h' := by
  unfold generateCacheKey
  rw [String.toList_append, String.toList_append, List.append_assoc]
  exact head?_name_append lookup _

theorem hubCacheKey_ne_generateCacheKey (digest : TokenDigest)
    (keyPath : String) (token : Option String) (lookup : SideLookup)
    (context : PlexContext) :
    hubCacheKey digest keyPath token ≠
      generateCacheKey lookup.name context := by
  intro same
  apply head?_generateCacheKey lookup context
  rw [← same]
  exact head?_hubCacheKey digest keyPath token

/-! What every writer establishes and every reader relies on. -/

/-- An entry that a request of some scope can read was fetched for it. -/
def OwnScope (digest : TokenDigest) (key : String) (fetched : Fetched) :
    Prop :=
  ∀ keyPath token, isSharedPath keyPath = false →
    key = hubCacheKey digest keyPath token →
    digest.tokenScope fetched.token = digest.tokenScope token

def HubFetch.Keyed (digest : TokenDigest) (fetch : HubFetch) : Prop :=
  fetch.cacheKey =
    hubCacheKey digest fetch.keyPath fetch.client.context.token

def HubAnswer.FromOwnScope (digest : TokenDigest) (answer : HubAnswer) :
    Prop :=
  isSharedPath answer.keyPath = false →
    digest.tokenScope answer.fetched.token = digest.tokenScope answer.token

structure HubState.Scoped (digest : TokenDigest) (state : HubState) :
    Prop where
  entries : state.metadata.Holds (OwnScope digest)
  keyed : ∀ task ∈ state.tasks, task.fetch.Keyed digest
  answered : ∀ answer ∈ state.answers, answer.FromOwnScope digest

namespace HubState.Scoped

variable {digest : TokenDigest} {state : HubState} {fetch : HubFetch}

theorem storePayload (holds : state.Scoped digest)
    (keyed : fetch.Keyed digest) (payload : MediaContainer) :
    (state.storePayload fetch payload).Scoped digest := by
  refine ⟨?_, holds.keyed, holds.answered⟩
  apply holds.entries.insert
  intro keyPath token own same
  exact (tokenScope_of_hubCacheKey_eq own
    (same.symm.trans keyed)).symm

theorem answer (holds : state.Scoped digest) {fetched : Fetched}
    (own : isSharedPath fetch.keyPath = false →
      digest.tokenScope fetched.token =
        digest.tokenScope fetch.client.context.token) :
    (state.answer fetch fetched).Scoped digest := by
  refine ⟨holds.entries, holds.keyed, ?_⟩
  intro answer listed
  rcases List.mem_append.mp listed with earlier | latest
  · exact holds.answered answer earlier
  · cases List.mem_singleton.mp latest
    exact own

theorem addTask (holds : state.Scoped digest) {task : HubTask}
    (keyed : task.fetch.Keyed digest) :
    (state.addTask task).Scoped digest := by
  refine ⟨holds.entries, ?_, holds.answered⟩
  intro other listed
  rcases List.mem_append.mp listed with earlier | latest
  · exact holds.keyed other earlier
  · cases List.mem_singleton.mp latest
    exact keyed

theorem cachedHubsResponse (config : Config) (holds : state.Scoped digest)
    (keyed : fetch.Keyed digest) :
    (cachedHubsResponse config fetch state).Scoped digest := by
  unfold Replex.cachedHubsResponse
  split
  next cached found =>
      have answered : (state.answer fetch cached).Scoped digest :=
        holds.answer fun own => holds.entries _ cached found _ _ own keyed
      simp only
      split
      · exact answered.addTask keyed
      · exact answered
  next missing =>
      exact holds.addTask keyed

theorem spawnHubRefresh (holds : state.Scoped digest)
    (keyed : fetch.Keyed digest) :
    (spawnHubRefresh fetch state).Scoped digest := by
  unfold Replex.spawnHubRefresh
  simp only
  split
  · exact holds
  · have claimed : (state.claim fetch.cacheKey).Scoped digest :=
      ⟨holds.entries, holds.keyed, holds.answered⟩
    have added : ((state.claim fetch.cacheKey).addTask
        (.refresh fetch)).Scoped digest := claimed.addTask keyed
    exact ⟨added.entries, added.keyed, added.answered⟩

theorem refreshHubEntry (upstream : String → Reply MediaContainer)
    (holds : state.Scoped digest) (keyed : fetch.Keyed digest) :
    (refreshHubEntry upstream fetch state).Scoped digest := by
  unfold Replex.refreshHubEntry
  split
  · exact ⟨holds.entries, holds.keyed, holds.answered⟩
  next payload fetched =>
      have stored := holds.storePayload keyed payload
      exact ⟨stored.entries, stored.keyed, stored.answered⟩

theorem finishMiss (upstream : String → Reply MediaContainer)
    (holds : state.Scoped digest) (keyed : fetch.Keyed digest) :
    (finishMiss upstream fetch state).Scoped digest := by
  unfold Replex.finishMiss
  split
  · exact holds
  next payload fetched =>
      apply (holds.storePayload keyed payload).answer
      intro own
      rfl

theorem runTask (upstream : String → Reply MediaContainer)
    (holds : state.Scoped digest) {task : HubTask}
    (keyed : task.fetch.Keyed digest) :
    (runTask upstream state task).Scoped digest := by
  cases task with
  | miss fetch => exact holds.finishMiss upstream keyed
  | scheduled fetch => exact holds.spawnHubRefresh keyed
  | refresh fetch => exact holds.refreshHubEntry upstream keyed
  | warm fetch => exact holds.refreshHubEntry upstream keyed

theorem warmNext (parseTarget : String → Option Uri)
    (holds : state.Scoped digest) :
    (warmNext digest parseTarget state).Scoped digest := by
  unfold Replex.warmNext
  split
  · exact holds
  next client path rest queued =>
      split
      · exact holds
      · simp only
        split
        · exact ⟨holds.entries, holds.keyed, holds.answered⟩
        next uri parsed =>
            split
            · exact ⟨holds.entries, holds.keyed, holds.answered⟩
            · apply addTask
              · exact ⟨holds.entries, holds.keyed, holds.answered⟩
              · rfl

end HubState.Scoped

theorem keyed_of_hubFetch {digest : TokenDigest} {config : Config}
    {depot : Depot} {request : Request} {fetch : HubFetch}
    (built : hubFetch digest config depot request = some fetch) :
    fetch.Keyed digest := by
  unfold hubFetch at built
  split at built
  · cases built
  · split at built
    · cases built
    · cases built
      rfl

section

variable (digest : TokenDigest) (config : Config)
  (parseTarget : String → Option Uri)

theorem scoped_hubStep (state : HubState) (action : HubAction)
    (holds : state.Scoped digest) :
    (hubStep digest config parseTarget state action).Scoped digest := by
  cases action with
  | request depot request =>
      simp only [hubStep]
      split
      · exact holds
      next fetch built =>
          exact holds.cachedHubsResponse config (keyed_of_hubFetch built)
  | run index upstream =>
      simp only [hubStep]
      split
      · exact holds
      next task found =>
          have remaining : HubState.Scoped digest
              { state with tasks := state.tasks.eraseIdx index } :=
            ⟨holds.entries,
              fun other listed => holds.keyed other
                (List.mem_of_mem_eraseIdx listed),
              holds.answered⟩
          exact remaining.runTask upstream
            (holds.keyed task (List.mem_of_getElem? found))
  | warm sharedSections sections =>
      simp only [hubStep]
      split
      · exact ⟨holds.entries, holds.keyed, holds.answered⟩
      · exact holds
  | warmNext => exact holds.warmNext parseTarget
  | getCached context lookup payload =>
      simp only [hubStep]
      split
      · exact holds
      · refine ⟨?_, holds.keyed, holds.answered⟩
        apply holds.entries.insert
        intro keyPath token own same
        -- The transforms share the store under keys no hub request reads.
        exact absurd same.symm
          (hubCacheKey_ne_generateCacheKey digest keyPath token lookup context)
  | forget key =>
      exact ⟨holds.entries.evict key, holds.keyed, holds.answered⟩
  | markAllHubsStale =>
      exact ⟨holds.entries, holds.keyed, holds.answered⟩
  | wait seconds =>
      exact ⟨holds.entries, holds.keyed, holds.answered⟩

theorem scoped_initial : HubState.Scoped digest {} where
  entries := Store.holds_empty _
  keyed task listed := by cases listed
  answered answer listed := by cases listed

/-- Every answer so far, on any other than a shared path, is a payload fetched
with a token of the scope of the request's own token. -/
def AnsweredFromOwnScope (state : HubState) : Prop :=
  ∀ answer ∈ state.answers, answer.FromOwnScope digest

theorem hub_answers_from_own_scope (actions : List HubAction) :
    AnsweredFromOwnScope digest
      (hubRun digest config parseTarget actions) := by
  have holds := Transition.invariant_of_steps
    (scoped_hubStep digest config parseTarget) (scoped_initial digest) actions
  exact holds.answered

end

/-! Two accounts and the promoted hubs. -/

def hubDepot (token : String) : Depot where
  requestContext := some
    { plex := { token := some token }
      upstreamHost := viewerRequest.upstreamHost
      tokenScope := viewerDigest.tokenScope (some token) }

def promotedRequest : Request where
  uri := { origin := "http://replex", path := "/hubs/promoted", queries := ⟨[]⟩ }

/-- The first account waits for its fetch; the second one finds the payload. -/
theorem promoted_payload_shared :
    ∃ answer ∈ (hubRun viewerDigest viewerConfig (fun _ => none)
        [.request (hubDepot "jodie-token") promotedRequest,
          .run 0 (fun _ => .answered 200 (.ok {})),
          .request (hubDepot "luke-token") promotedRequest]).answers,
      answer.token = some "luke-token" ∧
        answer.fetched.token = some "jodie-token" ∧
        viewerDigest.tokenScope answer.token ≠
          viewerDigest.tokenScope answer.fetched.token := by
  refine ⟨_, List.mem_cons_of_mem _ List.mem_cons_self, rfl, rfl, ?_⟩
  decide

end Replex
