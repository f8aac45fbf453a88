import Replex.Routes.Answers

namespace Replex

open Data

/-! Which requests for a policy route are answered by it. -/

/-- The handlers that check the policy before they answer. -/
def Handler.isPolicyChecked : Handler → Bool
  | .protectedRedirectStream _ | .playback true
  | .transformPolicyResponse => true
  | _ => false

/-- The segments of a pattern in front of its first parameter. -/
def literalSegments (pattern : String) : List String :=
  ((Text.split '/' pattern).filter (· ≠ "")).takeWhile fun segment =>
    !Text.contains segment "<"

/-- A path that a pattern matches begins with the pattern's literal segments,
in whatever way the router library reads the segments of a path. -/
def MatchesLiterals (matchPath : (pattern path : String) → Option Params)
    (segments : String → List String) : Prop :=
  ∀ pattern path params, matchPath pattern path = some params →
    literalSegments pattern <+: segments path

def Route.select (matchPath : (pattern path : String) → Option Params)
    (method : Method) (path : String) (route : Route) : Option Handler :=
  if route.accepts method then (matchPath route.pattern path).map route.handler
  else none

section

variable {matchPath : (pattern path : String) → Option Params}
  {segments : String → List String} {config : Config} {method : Method}
  {path : String}

theorem selectHandler_eq (config : Config) :
    selectHandler matchPath config method path =
      ((routes config).findSome? (Route.select matchPath method path)).getD
        .ownPage :=
  rfl

theorem handler_of_select {route : Route} {handler : Handler}
    (selected : route.select matchPath method path = some handler) :
    ∃ params, matchPath route.pattern path = some params ∧
      route.handler params = handler := by
  unfold Route.select at selected
  split at selected
  · exact Option.map_eq_some_iff.mp selected
  · cases selected

/-- Patterns whose literal segments part ways match no path in common. -/
theorem findSome?_eq_none_of_apart
    (literals : MatchesLiterals matchPath segments) {pattern : String}
    {params : Params} (matched : matchPath pattern path = some params)
    {others : List Route}
    (apart : ∀ route ∈ others,
      ¬ literalSegments route.pattern <+: literalSegments pattern ∧
        ¬ literalSegments pattern <+: literalSegments route.pattern) :
    others.findSome? (Route.select matchPath method path) = none := by
  rw [List.findSome?_eq_none_iff]
  intro route listed
  cases selected : route.select matchPath method path with
  | none => rfl
  | some handler =>
      obtain ⟨found, matches', -⟩ := handler_of_select selected
      obtain ⟨notBefore, notAfter⟩ := apart route listed
      rcases List.prefix_or_prefix_of_prefix
        (literals route.pattern path found matches')
        (literals pattern path params matched) with before | after
      · exact absurd before notBefore
      · exact absurd after notAfter

theorem literalSegments_policyRoutes {route : Route}
    (listed : route ∈ policyRoutes config) :
    literalSegments route.pattern ∈
      [["library", "metadata"], ["library", "sections"], ["playQueues"]] := by
  unfold policyRoutes at listed
  split at listed
  · simp only [List.mem_cons, List.not_mem_nil, or_false] at listed
    rcases listed with rfl | rfl | rfl <;> decide
  · cases listed

theorem literalSegments_streamRoutes {route : Route}
    (listed : route ∈ streamRoutes config) :
    literalSegments route.pattern ∈
      [["video"], ["library", "parts"]] := by
  unfold streamRoutes at listed
  split at listed
  · simp only [List.mem_cons, List.not_mem_nil, or_false] at listed
    rcases listed with rfl | rfl <;> decide
  · cases listed

theorem literalSegments_playbackRoutes {route : Route}
    (listed : route ∈ playbackRoutes config) :
    literalSegments route.pattern = ["video"] := by
  unfold playbackRoutes at listed
  simp only [List.map_cons, List.map_nil, List.mem_cons, List.not_mem_nil,
    or_false] at listed
  rcases listed with rfl | rfl | rfl
  all_goals
    dsimp only
    decide

theorem handler_policyRoutes {route : Route}
    (listed : route ∈ policyRoutes config) (params : Params) :
    route.handler params = .transformPolicyResponse := by
  unfold policyRoutes at listed
  split at listed
  · simp only [List.mem_cons, List.not_mem_nil, or_false] at listed
    rcases listed with rfl | rfl | rfl <;> rfl
  · cases listed

/-- No route for streams or playback stands in a policy route's way. -/
theorem earlier_routes_apart {route other : Route}
    (listed : route ∈ policyRoutes config)
    (earlier : other ∈ streamRoutes config ∨ other ∈ playbackRoutes config) :
    ¬ literalSegments other.pattern <+: literalSegments route.pattern ∧
      ¬ literalSegments route.pattern <+: literalSegments other.pattern := by
  have policy := literalSegments_policyRoutes listed
  have others : literalSegments other.pattern ∈
      [["video"], ["library", "parts"]] := by
    rcases earlier with stream | playback
    · exact literalSegments_streamRoutes stream
    · rw [literalSegments_playbackRoutes playback]
      exact List.mem_cons_self
  generalize literalSegments route.pattern = ours at policy ⊢
  generalize literalSegments other.pattern = theirs at others ⊢
  simp only [List.mem_cons, List.not_mem_nil, or_false] at policy others
  rcases policy with rfl | rfl | rfl <;> rcases others with rfl | rfl <;>
    decide

theorem findSome?_policyRoutes {route : Route}
    (listed : route ∈ policyRoutes config)
    (accepts : route.accepts method = true)
    (matched : (matchPath route.pattern path).isSome = true) :
    (policyRoutes config).findSome? (Route.select matchPath method path) =
      some .transformPolicyResponse := by
  cases found : (policyRoutes config).findSome?
      (Route.select matchPath method path) with
  | none =>
      have skipped := List.findSome?_eq_none_iff.mp found route listed
      obtain ⟨params, matched⟩ := Option.isSome_iff_exists.mp matched
      rw [Route.select, if_pos accepts, matched] at skipped
      cases skipped
  | some handler =>
      obtain ⟨other, also, selected⟩ := List.exists_of_findSome?_eq_some found
      obtain ⟨params, -, same⟩ := handler_of_select selected
      rw [← same, handler_policyRoutes also params]

/-- The routes that a setting puts in front of the policy routes take every
method. -/
theorem findSome?_relatedRoutes :
    (relatedRoutes config).findSome? (Route.select matchPath method path) =
      if config.disableRelated = true ∧
          ((matchPath "/library/metadata/<id>/related" path).isSome = true ∨
            (matchPath "/playQueues" path).isSome = true) then
        some .proxyRequest
      else
        none := by
  unfold relatedRoutes
  cases disabled : config.disableRelated with
  | false => simp
  | true =>
      cases related : matchPath "/library/metadata/<id>/related" path <;>
        cases queues : matchPath "/playQueues" path <;>
          simp [Route.select, Route.accepts, related, queues]

end

/-- A request for a policy route is answered under the policy exactly when no
setting has put a route without one in front of it. -/
theorem policy_route_reached_iff
    {matchPath : (pattern path : String) → Option Params}
    {segments : String → List String}
    (literals : MatchesLiterals matchPath segments) {config : Config}
    {method : Method} {path : String} {route : Route}
    (listed : route ∈ policyRoutes config)
    (accepts : route.accepts method = true)
    (matched : (matchPath route.pattern path).isSome = true) :
    (selectHandler matchPath config method path).isPolicyChecked = true ↔
      ¬ (config.disableRelated = true ∧
        ((matchPath "/library/metadata/<id>/related" path).isSome = true ∨
          (matchPath "/playQueues" path).isSome = true)) := by
  obtain ⟨params, found⟩ := Option.isSome_iff_exists.mp matched
  have streams : (streamRoutes config).findSome?
      (Route.select matchPath method path) = none :=
    findSome?_eq_none_of_apart literals found fun other earlier =>
      earlier_routes_apart listed (.inl earlier)
  have playback : (playbackRoutes config).findSome?
      (Route.select matchPath method path) = none :=
    findSome?_eq_none_of_apart literals found fun other earlier =>
      earlier_routes_apart listed (.inr earlier)
  have policy := findSome?_policyRoutes listed accepts matched
  rw [selectHandler_eq, routes]
  simp only [List.findSome?_append, streams, playback, policy,
    findSome?_relatedRoutes, Option.none_or, Option.or_assoc]
  split
  next shadowed => simp [shadowed, Handler.isPolicyChecked]
  next reached => simp [reached, Handler.isPolicyChecked]

theorem literalMatch_matchesLiterals :
    MatchesLiterals literalMatch fun path =>
      (Text.split '/' path).filter (· ≠ "") := by
  intro pattern path params matched
  unfold literalMatch at matched
  by_cases same : pattern = path
  · rw [same]
    exact List.takeWhile_prefix _
  · rw [if_neg same] at matched
    by_cases rest : pattern = "<**rest>"
    · have none : literalSegments "<**rest>" = [] := by decide
      rw [rest, none]
      exact List.nil_prefix
    · rw [if_neg rest] at matched
      cases matched

theorem play_queues_policy_checked :
    (selectHandler literalMatch viewerConfig .get
      "/playQueues").isPolicyChecked = true := by
  have listed : (policyRoutes viewerConfig)[2] ∈ policyRoutes viewerConfig :=
    List.getElem_mem _
  apply (policy_route_reached_iff literalMatch_matchesLiterals listed rfl
    (by decide)).mpr
  decide

/-- The route that drops related items from play queues has no policy. -/
theorem play_queues_unchecked :
    ¬ ∀ route ∈ policyRoutes { viewerConfig with disableRelated := true },
      route.accepts .get = true →
      (literalMatch route.pattern "/playQueues").isSome = true →
      (selectHandler literalMatch { viewerConfig with disableRelated := true }
        .get "/playQueues").isPolicyChecked = true := by
  intro checked
  have reached := checked _ (.tail _ (.tail _ (.head _))) rfl (by decide)
  revert reached
  decide

end Replex
