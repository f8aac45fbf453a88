import Replex.HubCache.CanonicalFetch
import Replex.HubCache.Freshness
import Replex.Routes.StreamFacts

namespace Replex

open Data

/-! Several upstream servers behind one process, and which of them the cached
hub payloads and part facts come from. -/

/-- A request as it arrives, with what the middlewares behind the first one
put into the depot. -/
structure Visit where
  plex : PlexContext
  securityState : Option SecurityContextState := none
  skipOptionalTransforms : Bool := false
  request : Request

/-- The server of the request that used something, and the server it had been
obtained from. -/
structure CacheUse where
  server : String
  obtainedFrom : Option String
  deriving DecidableEq

/-- A call waits between two inserts. All of its versions come from one body,
and a body that is replayed from disk may be older than the request. -/
structure Recording where
  origin : String
  inserts : List (Int64 × Media)

structure ServersState where
  hub : HubState := {}
  parts : PartMediaCache := .empty
  recordings : List Recording := []
  /-- The servers that the entries of both caches come from, and who used
  them; nothing reads these. -/
  payloadOrigin : Store String String := .empty
  partOrigin : Store Int64 String := .empty
  served : List CacheUse := []
  consulted : List CacheUse := []

inductive ServersAction where
  | visit (visit : Visit)
  | stream (visit : Visit)
      (identity : PlexClient → Except IdentityError ResolvedIdentity)
      (runtime : PolicySnapshot) (route : StreamRoute)
  | run (index : Nat) (upstream : String → String → Reply MediaContainer)
  | warm (sharedSections : List String) (sections : String → List String)
  | warmNext
  | getCached (context : PlexContext) (lookup : SideLookup)
      (payload : MediaContainer)
  | forget (key : String)
  | markAllHubsStale
  | wait (seconds : Nat)
  | record (origin : String) (media : List Media)
  | insertNext (index : Nat)
  | forgetPart (id : Int64)

/-- What a task stores once its server has answered. -/
def HubTask.fetched (upstream : String → Reply MediaContainer) :
    HubTask → Option MediaContainer
  | .scheduled _ => none
  | .miss fetch | .refresh fetch | .warm fetch =>
      (fetchHubsPayload upstream fetch.fetchPath).toOption

/-- The part whose facts decide about a stream, for the client that asks. -/
def consultedPart
    (identity : PlexClient → Except IdentityError ResolvedIdentity)
    (config : Config) (runtime : PolicySnapshot) (depot : Depot)
    (route : StreamRoute) : Option Int64 :=
  if !runtime.enabled then
    none
  else
    match depot.requestContext with
    | none => none
    | some request =>
        match plexClientFromDepot config request.plex depot with
        | .error _ => none
        | .ok client =>
            match streamAccount identity runtime depot client with
            | .ok (some policy) =>
                if streamRestricted policy then route.partidParam else none
            | _ => none

/-- Nothing else of the part cache matters to the handler. -/
theorem protectedRedirectStream_congr
    {identity : PlexClient → Except IdentityError ResolvedIdentity}
    {config : Config} {runtime : PolicySnapshot} {depot : Depot}
    {parts other : PartMediaCache} {route : StreamRoute}
    (same : ∀ id ∈ consultedPart identity config runtime depot route,
      parts.lookup id = other.lookup id) :
    protectedRedirectStream identity config runtime depot parts route =
      protectedRedirectStream identity config runtime depot other route := by
  unfold consultedPart at same
  unfold protectedRedirectStream
  split
  · rfl
  next enabled =>
      rw [if_neg enabled] at same
      cases present : depot.requestContext with
      | none => rfl
      | some request =>
          simp only [present] at same
          cases built : plexClientFromDepot config request.plex depot with
          | error error => simp only [built]
          | ok client =>
              simp only [built] at same ⊢
              cases account : streamAccount identity runtime depot client with
              | error status => rfl
              | ok policy =>
                  cases policy with
                  | none => rfl
                  | some policy =>
                      simp only [account] at same
                      change serveStream config policy parts route =
                        serveStream config policy other route
                      unfold serveStream
                      cases restricted : streamRestricted policy with
                      | false => rfl
                      | true =>
                          simp only [restricted, if_true] at same
                          cases asked : route.partidParam with
                          | none => rfl
                          | some id => simp only [same id asked]

section

variable (reader : HostReader) (digest : TokenDigest) (config : Config)
  (parseTarget : String → Option Uri)

/-- The server that the `Host` header selects. -/
def Visit.server (visit : Visit) : String :=
  ((decodedReplexStreamHost reader visit.request).or config.host).getD ""

/-- What a handler finds in its depot; `none` when the request was refused. -/
def Visit.depot (visit : Visit) : Option Depot :=
  match requestContextMiddleware reader digest config visit.plex
      visit.request with
  | .error _ => none
  | .ok context => some
      { requestContext := some context
        securityState := visit.securityState
        skipOptionalTransforms := visit.skipOptionalTransforms }

def Visit.hubFetch (visit : Visit) : Option HubFetch :=
  (visit.depot reader digest config).bind fun depot =>
    Replex.hubFetch digest config depot visit.request

def Visit.consultedPart (visit : Visit)
    (identity : PlexClient → Except IdentityError ResolvedIdentity)
    (runtime : PolicySnapshot) (route : StreamRoute) : Option Int64 :=
  (visit.depot reader digest config).bind fun depot =>
    Replex.consultedPart identity config runtime depot route

namespace ServersState

def cache (state : ServersState) (action : HubAction) : ServersState :=
  { state with hub := hubStep digest config parseTarget state.hub action }

def serve (state : ServersState) (server : String)
    (obtainedFrom : Option String) : ServersState :=
  { state with served := state.served ++ [{ server, obtainedFrom }] }

/-- A hit is answered from the cache as it is. -/
def visited (state : ServersState) (visit : Visit) : ServersState :=
  match visit.depot reader digest config with
  | none => state
  | some depot =>
      let next := state.cache digest config parseTarget
        (.request depot visit.request)
      match visit.hubFetch reader digest config with
      | none => next
      | some fetch =>
          if (state.hub.metadata.lookup fetch.cacheKey).isSome then
            next.serve (visit.server reader config)
              (state.payloadOrigin.lookup fetch.cacheKey)
          else
            next

/-- Each fetch goes to the server of the client it was made for. -/
def ran (state : ServersState) (index : Nat)
    (upstream : String → String → Reply MediaContainer) : ServersState :=
  match state.hub.tasks[index]? with
  | none => state
  | some task =>
      let host := task.fetch.client.host
      let next := state.cache digest config parseTarget
        (.run index (upstream host))
      match task.fetched (upstream host) with
      | none => next
      | some _ =>
          let next := { next with
            payloadOrigin := state.payloadOrigin.insert task.cacheKey host }
          match task with
          | .miss _ => next.serve host (some host)
          | _ => next

def streamed (state : ServersState) (visit : Visit)
    (identity : PlexClient → Except IdentityError ResolvedIdentity)
    (runtime : PolicySnapshot) (route : StreamRoute) : ServersState :=
  match visit.consultedPart reader digest config identity runtime route with
  | none => state
  | some id =>
      if (state.parts.lookup id).isSome then
        { state with consulted := state.consulted ++
            [{ server := visit.server reader config
               obtainedFrom := state.partOrigin.lookup id }] }
      else
        state

def insertNext (state : ServersState) (index : Nat) : ServersState :=
  match state.recordings[index]? with
  | some { origin, inserts := insert :: rest } =>
      { state with
        parts := recordPart state.parts insert
        partOrigin := state.partOrigin.insert insert.1 origin
        recordings := state.recordings.set index { origin, inserts := rest } }
  | _ => state

end ServersState

def serversStep (state : ServersState) : ServersAction → ServersState
  | .visit visit => state.visited reader digest config parseTarget visit
  | .stream visit identity runtime route =>
      state.streamed reader digest config visit identity runtime route
  | .run index upstream => state.ran digest config parseTarget index upstream
  | .warm sharedSections sections =>
      state.cache digest config parseTarget (.warm sharedSections sections)
  | .warmNext => state.cache digest config parseTarget .warmNext
  | .getCached context lookup payload =>
      state.cache digest config parseTarget (.getCached context lookup payload)
  | .forget key => state.cache digest config parseTarget (.forget key)
  | .markAllHubsStale => state.cache digest config parseTarget .markAllHubsStale
  | .wait seconds => state.cache digest config parseTarget (.wait seconds)
  | .record origin media =>
      { state with recordings := state.recordings ++
          [{ origin, inserts := partInserts media }] }
  | .insertNext index => state.insertNext index
  | .forgetPart id => { state with parts := state.parts.evict id }

def serversRun (actions : List ServersAction) : ServersState :=
  actions.foldl (serversStep reader digest config parseTarget) {}

end

/-- Everything that was used came from the server of the request. -/
structure ServersState.NothingMixed (state : ServersState) : Prop where
  served : ∀ access ∈ state.served,
    access.obtainedFrom = some access.server
  consulted : ∀ access ∈ state.consulted,
    access.obtainedFrom = some access.server

/-! Keys and part ids that only one server uses. -/

/-- The one server that uses a cache key, and the one that numbers a part. -/
structure Homes where
  payload : String → String
  part : Int64 → String

section

variable (reader : HostReader) (digest : TokenDigest) (config : Config)
  (parseTarget : String → Option Uri) (homes : Homes)

/-- The client of the warmer's next path, and the key it is stored under. -/
def nextWarmKey (state : HubState) : Option (PlexClient × String) :=
  match state.warmQueue with
  | [] => none
  | (client, path) :: _ =>
      (parseTarget (warmFetchPath path)).map fun uri =>
        (client, hubCacheKey digest (cacheKeyForRequest uri)
          client.context.token)

/-- A key is used for its own server only, and so is a part id. -/
def KeepsToHomes (state : ServersState) : ServersAction → Prop
  | .visit visit => ∀ fetch ∈ visit.hubFetch reader digest config,
      homes.payload fetch.cacheKey = visit.server reader config
  | .warmNext => ∀ warm ∈ nextWarmKey digest parseTarget state.hub,
      homes.payload warm.2 = warm.1.host
  | .stream visit identity runtime route =>
      ∀ id ∈ visit.consultedPart reader digest config identity runtime route,
        homes.part id = visit.server reader config
  | .record origin media => ∀ insert ∈ partInserts media,
      homes.part insert.1 = origin
  | _ => True

variable {reader digest config parseTarget homes}

theorem Visit.hubFetch_spec {visit : Visit} {fetch : HubFetch}
    (made : visit.hubFetch reader digest config = some fetch) :
    fetch.client.host = visit.server reader config ∧ fetch.Keyed digest := by
  unfold Visit.hubFetch at made
  obtain ⟨depot, present, found⟩ := Option.bind_eq_some_iff.mp made
  refine ⟨?_, keyed_of_hubFetch found⟩
  unfold Visit.depot at present
  split at present
  · cases present
  next context admitted =>
      cases present
      unfold Replex.hubFetch at found
      simp only at found
      split at found
      · cases found
      next client built =>
          cases found
          rw [host_of_plexClientFromDepot rfl built]
          exact upstreamHost_of_admitted admitted

/-! What the hub cache does to its entries and tasks. -/

theorem metadata_runTask (upstream : String → Reply MediaContainer)
    (state : HubState) (task : HubTask) :
    (runTask upstream state task).metadata =
      match task.fetched upstream with
      | some payload => state.metadata.insert task.cacheKey
          { payload, token := task.fetch.client.context.token }
      | none => state.metadata := by
  cases task with
  | miss fetch =>
      simp only [runTask, finishMiss, HubTask.fetched]
      cases fetchHubsPayload upstream fetch.fetchPath with
      | error status => rfl
      | ok payload => rfl
  | scheduled fetch =>
      simp only [runTask, spawnHubRefresh, HubTask.fetched]
      split
      · rfl
      · rfl
  | refresh fetch =>
      simp only [runTask, refreshHubEntry, HubTask.fetched]
      cases fetchHubsPayload upstream fetch.fetchPath with
      | error status => rfl
      | ok payload => rfl
  | warm fetch =>
      simp only [runTask, refreshHubEntry, HubTask.fetched]
      cases fetchHubsPayload upstream fetch.fetchPath with
      | error status => rfl
      | ok payload => rfl

/-- A task may leave another one behind, for the same fetch. -/
theorem tasks_runTask {upstream : String → Reply MediaContainer}
    {state : HubState} {task other : HubTask}
    (listed : other ∈ (runTask upstream state task).tasks) :
    other ∈ state.tasks ∨ other.fetch = task.fetch := by
  cases task with
  | miss fetch =>
      simp only [runTask, finishMiss] at listed
      split at listed
      · exact .inl listed
      · exact .inl listed
  | scheduled fetch =>
      simp only [runTask, spawnHubRefresh] at listed
      split at listed
      · exact .inl listed
      · rcases List.mem_append.mp listed with earlier | latest
        · exact .inl earlier
        · cases List.mem_singleton.mp latest
          exact .inr rfl
  | refresh fetch =>
      simp only [runTask, refreshHubEntry] at listed
      split at listed
      · exact .inl listed
      · exact .inl listed
  | warm fetch =>
      simp only [runTask, refreshHubEntry] at listed
      split at listed
      · exact .inl listed
      · exact .inl listed

theorem metadata_cachedHubsResponse (config : Config) (fetch : HubFetch)
    (state : HubState) :
    (cachedHubsResponse config fetch state).metadata = state.metadata := by
  unfold cachedHubsResponse
  split
  · simp only
    split
    · rfl
    · rfl
  · rfl

theorem tasks_cachedHubsResponse {fetch : HubFetch} {state : HubState}
    {other : HubTask}
    (listed : other ∈ (cachedHubsResponse config fetch state).tasks) :
    other ∈ state.tasks ∨ other.fetch = fetch := by
  unfold cachedHubsResponse at listed
  split at listed
  · simp only at listed
    split at listed
    · rcases List.mem_append.mp listed with earlier | latest
      · exact .inl earlier
      · cases List.mem_singleton.mp latest
        exact .inr rfl
    · exact .inl listed
  · rcases List.mem_append.mp listed with earlier | latest
    · exact .inl earlier
    · cases List.mem_singleton.mp latest
      exact .inr rfl

theorem tasks_warmNext {state : HubState} {other : HubTask}
    (listed : other ∈ (warmNext digest parseTarget state).tasks) :
    other ∈ state.tasks ∨ other.fetch.Keyed digest ∧
      nextWarmKey digest parseTarget state =
        some (other.fetch.client, other.cacheKey) := by
  unfold warmNext at listed
  split at listed
  · exact .inl listed
  next client path rest queued =>
      split at listed
      · exact .inl listed
      · simp only at listed
        split at listed
        · exact .inl listed
        next uri parsed =>
            split at listed
            · exact .inl listed
            · rcases List.mem_append.mp listed with earlier | latest
              · exact .inl earlier
              · cases List.mem_singleton.mp latest
                refine .inr ⟨rfl, ?_⟩
                simp only [nextWarmKey, queued, parsed]
                rfl

/-! What the servers' steps preserve. -/

def IsHubKey (digest : TokenDigest) (key : String) : Prop :=
  ∃ keyPath token, key = hubCacheKey digest keyPath token

def HubFetch.AtHome (digest : TokenDigest) (homes : Homes) (fetch : HubFetch) :
    Prop :=
  fetch.Keyed digest ∧ homes.payload fetch.cacheKey = fetch.client.host

structure ServersState.AtHome (digest : TokenDigest) (homes : Homes)
    (state : ServersState) : Prop where
  tasks : ∀ task ∈ state.hub.tasks, task.fetch.AtHome digest homes
  payloads : state.hub.metadata.Traced state.payloadOrigin homes.payload
    (IsHubKey digest)
  recordings : ∀ recording ∈ state.recordings,
    ∀ insert ∈ recording.inserts, homes.part insert.1 = recording.origin
  parts : state.parts.Traced state.partOrigin homes.part fun _ => True
  served : ∀ access ∈ state.served, access.obtainedFrom = some access.server
  consulted : ∀ access ∈ state.consulted,
    access.obtainedFrom = some access.server

namespace ServersState.AtHome

variable {state : ServersState}

/-- A step of the hub cache that keeps its entries and adds no task of
another server. -/
theorem cache (holds : state.AtHome digest homes) {action : HubAction}
    (entries : (hubStep digest config parseTarget state.hub
      action).metadata.Traced state.payloadOrigin homes.payload
        (IsHubKey digest))
    (added : ∀ task ∈ (hubStep digest config parseTarget state.hub
      action).tasks, task ∈ state.hub.tasks ∨ task.fetch.AtHome digest homes) :
    (state.cache digest config parseTarget action).AtHome digest homes := by
  refine ⟨?_, entries, holds.recordings, holds.parts, holds.served,
    holds.consulted⟩
  intro task listed
  rcases added task listed with earlier | latest
  · exact holds.tasks task earlier
  · exact latest

theorem serve (holds : state.AtHome digest homes) {server : String}
    {obtainedFrom : Option String} (own : obtainedFrom = some server) :
    (state.serve server obtainedFrom).AtHome digest homes := by
  refine ⟨holds.tasks, holds.payloads, holds.recordings, holds.parts, ?_,
    holds.consulted⟩
  intro access listed
  rcases List.mem_append.mp listed with earlier | latest
  · exact holds.served access earlier
  · cases List.mem_singleton.mp latest
    exact own

theorem visited (holds : state.AtHome digest homes) {visit : Visit}
    (keeps : KeepsToHomes reader digest config parseTarget homes state
      (.visit visit)) :
    (state.visited reader digest config parseTarget visit).AtHome digest
      homes := by
  unfold ServersState.visited
  cases present : visit.depot reader digest config with
  | none => exact holds
  | some depot =>
      have fetched : visit.hubFetch reader digest config =
          hubFetch digest config depot visit.request := by
        rw [Visit.hubFetch, present, Option.bind_some]
      simp only
      cases made : visit.hubFetch reader digest config with
      | none =>
          have idle : hubStep digest config parseTarget state.hub
              (.request depot visit.request) = state.hub := by
            simp only [hubStep, ← fetched, made]
          apply holds.cache
          · rw [idle]
            exact holds.payloads
          · rw [idle]
            exact fun task listed => .inl listed
      | some fetch =>
          obtain ⟨host, keyed⟩ := Visit.hubFetch_spec made
          have own := keeps fetch made
          have asked : hubStep digest config parseTarget state.hub
              (.request depot visit.request) =
                cachedHubsResponse config fetch state.hub := by
            simp only [hubStep, ← fetched, made]
          have next : (state.cache digest config parseTarget
              (.request depot visit.request)).AtHome digest homes := by
            apply holds.cache
            · rw [asked, metadata_cachedHubsResponse]
              exact holds.payloads
            · rw [asked]
              intro task listed
              rcases tasks_cachedHubsResponse listed with earlier | latest
              · exact .inl earlier
              · rw [latest]
                exact .inr ⟨keyed, own.trans host.symm⟩
          simp only
          split
          next found =>
              apply next.serve
              rw [holds.payloads _ ⟨_, _, keyed⟩ found, own]
          · exact next

theorem ran (holds : state.AtHome digest homes) (index : Nat)
    (upstream : String → String → Reply MediaContainer) :
    (state.ran digest config parseTarget index upstream).AtHome digest
      homes := by
  unfold ServersState.ran
  cases found : state.hub.tasks[index]? with
  | none => exact holds
  | some task =>
      have atHome := holds.tasks task (List.mem_of_getElem? found)
      have answered : hubStep digest config parseTarget state.hub
          (.run index (upstream task.fetch.client.host)) =
            runTask (upstream task.fetch.client.host)
              { state.hub with tasks := state.hub.tasks.eraseIdx index }
              task := by
        simp only [hubStep, found]
      have added : ∀ other ∈ (hubStep digest config parseTarget state.hub
          (.run index (upstream task.fetch.client.host))).tasks,
          other ∈ state.hub.tasks ∨ other.fetch.AtHome digest homes := by
        rw [answered]
        intro other listed
        rcases tasks_runTask listed with earlier | latest
        · exact .inl (List.mem_of_mem_eraseIdx earlier)
        · rw [latest]
          exact .inr atHome
      have entries := metadata_runTask (upstream task.fetch.client.host)
        { state.hub with tasks := state.hub.tasks.eraseIdx index } task
      rw [← answered] at entries
      simp only
      cases stored : task.fetched (upstream task.fetch.client.host) with
      | none =>
          simp only [stored] at entries
          apply holds.cache _ added
          rw [entries]
          exact holds.payloads
      | some payload =>
          simp only [stored] at entries
          have next : { state.cache digest config parseTarget
                (.run index (upstream task.fetch.client.host)) with
              payloadOrigin := state.payloadOrigin.insert task.cacheKey
                task.fetch.client.host : ServersState }.AtHome digest
                  homes := by
            refine ⟨?_, ?_, holds.recordings, holds.parts, holds.served,
              holds.consulted⟩
            · intro other listed
              rcases added other listed with earlier | latest
              · exact holds.tasks other earlier
              · exact latest
            · change (hubStep digest config parseTarget state.hub
                (.run index (upstream task.fetch.client.host))).metadata.Traced
                  _ _ _
              rw [entries]
              exact holds.payloads.insert atHome.2 _
          cases task with
          | miss fetch => exact next.serve rfl
          | scheduled fetch => exact next
          | refresh fetch => exact next
          | warm fetch => exact next

theorem streamed (holds : state.AtHome digest homes) {visit : Visit}
    {identity : PlexClient → Except IdentityError ResolvedIdentity}
    {runtime : PolicySnapshot} {route : StreamRoute}
    (keeps : KeepsToHomes reader digest config parseTarget homes state
      (.stream visit identity runtime route)) :
    (state.streamed reader digest config visit identity runtime
      route).AtHome digest homes := by
  unfold ServersState.streamed
  cases asked : visit.consultedPart reader digest config identity runtime
      route with
  | none => exact holds
  | some id =>
      simp only
      split
      next found =>
          refine ⟨holds.tasks, holds.payloads, holds.recordings, holds.parts,
            holds.served, ?_⟩
          intro access listed
          rcases List.mem_append.mp listed with earlier | latest
          · exact holds.consulted access earlier
          · cases List.mem_singleton.mp latest
            rw [holds.parts id trivial found, keeps id asked]
      · exact holds

theorem insertNext (holds : state.AtHome digest homes) (index : Nat) :
    (state.insertNext index).AtHome digest homes := by
  unfold ServersState.insertNext
  split
  next origin insert rest found =>
      have own := holds.recordings _ (List.mem_of_getElem? found)
      refine ⟨holds.tasks, holds.payloads, ?_, ?_, holds.served,
        holds.consulted⟩
      · intro recording listed
        rcases List.mem_or_eq_of_mem_set listed with earlier | rfl
        · exact holds.recordings recording earlier
        · intro later member
          exact own later (List.mem_cons_of_mem insert member)
      · exact holds.parts.insert (own insert List.mem_cons_self) _
  · exact holds

end ServersState.AtHome

theorem atHome_serversStep (state : ServersState) (action : ServersAction)
    (holds : state.AtHome digest homes)
    (keeps : KeepsToHomes reader digest config parseTarget homes state action) :
    (serversStep reader digest config parseTarget state action).AtHome digest
      homes := by
  have kept (task : HubTask) (listed : task ∈ state.hub.tasks) :
      task ∈ state.hub.tasks ∨ task.fetch.AtHome digest homes := .inl listed
  cases action with
  | visit visit => exact holds.visited keeps
  | stream visit identity runtime route => exact holds.streamed keeps
  | run index upstream => exact holds.ran index upstream
  | warm sharedSections sections =>
      apply holds.cache
      · simp only [hubStep]
        split
        · exact holds.payloads
        · exact holds.payloads
      · simp only [hubStep]
        split
        · exact kept
        · exact kept
  | warmNext =>
      apply holds.cache
      · obtain ⟨_, _, _, same⟩ :=
          HubState.exists_warmNext digest parseTarget state.hub
        simp only [hubStep, same]
        exact holds.payloads
      · intro task listed
        rcases tasks_warmNext listed with earlier | ⟨keyed, next⟩
        · exact .inl earlier
        · exact .inr ⟨keyed, keeps _ next⟩
  | getCached context lookup payload =>
      apply holds.cache
      · simp only [hubStep]
        split
        · exact holds.payloads
        · apply holds.payloads.insert_irrelevant
          rintro ⟨keyPath, token, same⟩
          exact hubCacheKey_ne_generateCacheKey digest keyPath token lookup
            context same.symm
      · simp only [hubStep]
        split
        · exact kept
        · exact kept
  | forget key => exact holds.cache (holds.payloads.evict key) kept
  | markAllHubsStale => exact holds.cache holds.payloads kept
  | wait seconds => exact holds.cache holds.payloads kept
  | record origin media =>
      refine ⟨holds.tasks, holds.payloads, ?_, holds.parts,
        holds.served, holds.consulted⟩
      intro recording listed
      rcases List.mem_append.mp listed with earlier | latest
      · exact holds.recordings recording earlier
      · cases List.mem_singleton.mp latest
        exact keeps
  | insertNext index => exact holds.insertNext index
  | forgetPart id =>
      exact ⟨holds.tasks, holds.payloads, holds.recordings,
        holds.parts.evict id, holds.served, holds.consulted⟩

theorem atHome_initial : ServersState.AtHome digest homes {} where
  tasks task listed := by cases listed
  payloads := Store.traced_empty _ _ _
  recordings recording listed := by cases listed
  parts := Store.traced_empty _ _ _
  served access listed := by cases listed
  consulted access listed := by cases listed

/-- In every state that a run passes through, nothing was mixed, provided
every key and every part id is used for one server only. -/
theorem caches_keep_servers_apart {actions taken : List ServersAction}
    (keeps : Transition.Meets (serversStep reader digest config parseTarget)
      (KeepsToHomes reader digest config parseTarget homes) {} actions)
    (reached : taken <+: actions) :
    (serversRun reader digest config parseTarget taken).NothingMixed := by
  have initial : ServersState.AtHome digest homes {} := atHome_initial
  have holds := Transition.invariant_of_meets atHome_serversStep initial
    (Transition.meets_of_prefix keeps reached)
  exact ⟨holds.served, holds.consulted⟩

/-! Every answer of the hub cache has its entry in the record. -/

theorem length_answers_cachedHubsResponse (config : Config) (fetch : HubFetch)
    (state : HubState) :
    (cachedHubsResponse config fetch state).answers.length =
      state.answers.length +
        if (state.metadata.lookup fetch.cacheKey).isSome then 1 else 0 := by
  unfold cachedHubsResponse
  cases state.metadata.lookup fetch.cacheKey with
  | none => rfl
  | some cached =>
      simp only
      split
      · exact List.length_append
      · exact List.length_append

theorem length_served_visited {state : ServersState} {visit : Visit}
    (listed : state.served.length = state.hub.answers.length) :
    let next := state.visited reader digest config parseTarget visit
    next.served.length = next.hub.answers.length := by
  unfold ServersState.visited Visit.hubFetch
  cases visit.depot reader digest config with
  | none => exact listed
  | some depot =>
      simp only [Option.bind_some]
      cases made : hubFetch digest config depot visit.request with
      | none =>
          simp only [ServersState.cache, hubStep, made]
          exact listed
      | some fetch =>
          have answers := length_answers_cachedHubsResponse config fetch
            state.hub
          simp only
          split
          next found =>
              simp only [ServersState.cache, ServersState.serve, hubStep, made,
                List.length_append, List.length_singleton]
              rw [answers, if_pos found, listed]
          next missing =>
              simp only [ServersState.cache, hubStep, made]
              rw [answers, if_neg missing, listed, Nat.add_zero]

theorem length_served_ran {state : ServersState}
    (listed : state.served.length = state.hub.answers.length) (index : Nat)
    (upstream : String → String → Reply MediaContainer) :
    let next := state.ran digest config parseTarget index upstream
    next.served.length = next.hub.answers.length := by
  unfold ServersState.ran
  cases found : state.hub.tasks[index]? with
  | none => exact listed
  | some task =>
      simp only [ServersState.cache, hubStep, found]
      cases task with
      | miss fetch =>
          simp only [HubTask.fetched, HubTask.fetch, runTask, finishMiss]
          cases fetchHubsPayload (upstream fetch.client.host)
              fetch.fetchPath with
          | error status => exact listed
          | ok payload =>
              simp only [Except.toOption, ServersState.serve, HubState.answer,
                HubState.storePayload, List.length_append,
                List.length_singleton, listed]
      | scheduled fetch =>
          simp only [HubTask.fetched, runTask, spawnHubRefresh]
          split
          · exact listed
          · exact listed
      | refresh fetch =>
          simp only [HubTask.fetched, HubTask.fetch, runTask, refreshHubEntry]
          cases fetchHubsPayload (upstream fetch.client.host)
              fetch.fetchPath with
          | error status => exact listed
          | ok payload => exact listed
      | warm fetch =>
          simp only [HubTask.fetched, HubTask.fetch, runTask, refreshHubEntry]
          cases fetchHubsPayload (upstream fetch.client.host)
              fetch.fetchPath with
          | error status => exact listed
          | ok payload => exact listed

theorem length_served_serversRun (actions : List ServersAction) :
    let state := serversRun reader digest config parseTarget actions
    state.served.length = state.hub.answers.length := by
  have step (state : ServersState) (action : ServersAction)
      (listed : state.served.length = state.hub.answers.length) :
      let next := serversStep reader digest config parseTarget state action
      next.served.length = next.hub.answers.length := by
    cases action with
    | visit visit => exact length_served_visited listed
    | run index upstream => exact length_served_ran listed index upstream
    | stream visit identity runtime route =>
        simp only [serversStep, ServersState.streamed]
        split
        · exact listed
        · split
          · exact listed
          · exact listed
    | warm sharedSections sections =>
        simp only [serversStep, ServersState.cache, hubStep]
        split
        · exact listed
        · exact listed
    | warmNext =>
        obtain ⟨_, _, _, same⟩ :=
          HubState.exists_warmNext digest parseTarget state.hub
        simp only [serversStep, ServersState.cache, hubStep, same]
        exact listed
    | getCached context lookup payload =>
        simp only [serversStep, ServersState.cache, hubStep]
        split
        · exact listed
        · exact listed
    | insertNext index =>
        simp only [serversStep, ServersState.insertNext]
        split
        · exact listed
        · exact listed
    | forget key => exact listed
    | markAllHubsStale => exact listed
    | wait seconds => exact listed
    | record origin media => exact listed
    | forgetPart id => exact listed
  exact Transition.invariant_of_steps step rfl actions

end

/-! Two servers, the second of which is reached through the `Host` header. -/

def annexConfig : Config :=
  { viewerConfig with allowedUpstreamHosts := some ["http://annex-b:32400"] }

def viewerVisit (path : String) (hostHeader : Option String) : Visit where
  plex := viewerRequest.plex
  securityState := (viewerDepot ⟨.p1080, none, []⟩).securityState
  request :=
    { uri := { origin := "http://replex", path, queries := ⟨[]⟩ }
      hostHeader }

def annexHost : String :=
  "nb2hi4b2f4xwc3tomv4c2yr2gmzdimbq.replex.stream"

def annexRun (actions : List ServersAction) : ServersState :=
  serversRun annexReader viewerDigest annexConfig (fun _ => none) actions

/-- The configured server answers for the first path and lists the part, and
the viewer turns to the second server for another path. -/
def separatePaths : List ServersAction :=
  [.visit (viewerVisit "/hubs/promoted" none),
    .run 0 (fun _ _ => .answered 200 (.ok {})),
    .record "http://plex:32400" [capturedVersion],
    .insertNext 0,
    .visit (viewerVisit "/hubs/continueWatching" (some annexHost)),
    .stream (viewerVisit "/library/parts/271990/271990/file.mkv" none)
      noIdentity viewerRuntime (.part "271990" "271990" "mkv")]

theorem separate_paths_keep_servers_apart :
    (annexRun separatePaths).NothingMixed := by
  have keeps : Transition.Meets
      (serversStep annexReader viewerDigest annexConfig (fun _ => none))
      (KeepsToHomes annexReader viewerDigest annexConfig (fun _ => none)
        { payload := fun key =>
            if key = "hubcache:global:/hubs/promoted" then "http://plex:32400"
            else "http://annex-b:32400"
          part := fun _ => "http://plex:32400" }) {} separatePaths := by
    refine ⟨?_, trivial, ?_, trivial, ?_, ?_, trivial⟩
    · rintro fetch ⟨⟩
      decide
    · intro insert listed
      rfl
    · rintro fetch ⟨⟩
      decide
    · intro id asked
      rfl
  exact caches_keep_servers_apart keeps (List.prefix_refl _)

/-- The second server's hubs are asked for after the first server's have been
cached, and its part carries the number of a part of the first. -/
theorem second_server_served_from_first :
    let state := annexRun
      [.visit (viewerVisit "/hubs/promoted" none),
        .run 0 (fun _ _ => .answered 200 (.ok {})),
        .record "http://plex:32400" [capturedVersion],
        .insertNext 0,
        .visit (viewerVisit "/hubs/promoted" (some annexHost)),
        .stream (viewerVisit "/library/parts/271990/271990/file.mkv"
            (some annexHost)) noIdentity viewerRuntime
          (.part "271990" "271990" "mkv")]
    (∀ host ∈ ["http://plex:32400", "http://annex-b:32400"],
      annexConfig.allowsUpstreamHost annexReader.parseUrl host = true) ∧
    { server := "http://annex-b:32400"
      obtainedFrom := some "http://plex:32400" } ∈ state.served ∧
    { server := "http://annex-b:32400"
      obtainedFrom := some "http://plex:32400" } ∈ state.consulted := by
  decide +kernel

end Replex
