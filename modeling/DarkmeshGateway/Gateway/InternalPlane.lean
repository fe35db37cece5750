import DarkmeshGateway.Gateway.Router

/-!
Contract: the routes of the internal plane when it is closed.

Owns that a closed plane is invisible: over every run its routes are answered,
and leave the gateway, as a path that does not exist.

Does not own the tokens and checks of the routes when they are open.
-/

namespace DarkmeshGateway.Gateway.InternalPlane

open Foundation
open Foundation.Js
open Foundation.Machine
open Gateway.Cache (CacheState)
open Gateway.Environment
open Gateway.Router

/-- A production-like gateway without a flag that opens the internal plane. -/
structure Closed (env : Env) : Prop where
  productionLike : isProductionLikeMode env = true
  mutations : readHandlerStrictEnabledFlag env "GATEWAY_INTERNAL_PLANE_ALLOW_MUTATIONS" = false
  cache : readHandlerStrictEnabledFlag env "GATEWAY_INTERNAL_PLANE_ALLOW_CACHE" = false
  forget : readHandlerStrictEnabledFlag env "GATEWAY_INTERNAL_PLANE_ALLOW_FORGET" = false
  inbox : readHandlerStrictEnabledFlag env "GATEWAY_INTERNAL_PLANE_ALLOW_INBOX" = false

/-- The path is one of the internal plane. -/
def isInternal (pathname : JsString) : Bool :=
  match routeOf pathname with
  | .forget => true
  | .entry _ => true
  | .inbox => true
  | _ => false

/-- The event with a path of the internal plane replaced by another path. -/
def hide (other : JsString) : Event → Event
  | .serve id now request moment outside =>
      if isInternal request.pathname then
        .serve id now { request with pathname := other } moment outside
      else .serve id now request moment outside
  | event => event

section ClosedPlane

variable {platform : Platform}

theorem Closed.cacheRoute (closed : Closed platform.env) (route : VerifiedCache.InternalPlaneRoute) :
    VerifiedCache.isInternalPlaneRouteEnabled (cachePlatform platform).env route = false := by
  show VerifiedCache.isInternalPlaneRouteEnabled platform.env route = false
  unfold VerifiedCache.isInternalPlaneRouteEnabled
  rw [closed.productionLike, closed.mutations]
  cases route with
  | cache => exact closed.cache
  | forget => exact closed.forget

theorem Closed.inboxRoute (closed : Closed platform.env) : isInboxEnabled platform.env = false := by
  rw [isInboxEnabled, closed.productionLike, closed.mutations, closed.inbox]
  rfl

theorem sweep_empty (now : Int) : Cache.sweep .empty now = .empty := rfl

/-- A closed cache route is not found and changes nothing. -/
theorem Closed.serve_cache_route (closed : Closed platform.env)
    (context : VerifiedCache.IntegrityContext) (cache : CacheState)
    (request : VerifiedCache.CacheRequest) (times : VerifiedCache.Times) (forwarded : Bool)
    (route : VerifiedCache.Route) :
    VerifiedCache.serve (cachePlatform platform) context cache request times forwarded route =
      (.response (VerifiedCache.respond "not found" 404), cache) := by
  cases route with
  | forget =>
      simp only [VerifiedCache.serve, VerifiedCache.handleForget, closed.cacheRoute, Bool.not_false,
        if_true]
  | entry key =>
      simp only [VerifiedCache.serve, closed.cacheRoute, Bool.not_false, if_true]

/-- Nothing is ever stored behind a closed plane. -/
theorem Closed.keeps_empty (closed : Closed platform.env) {context : IntegrityContext}
    {request : HttpRequest} {cache : CacheState}
    (moved : CacheMove platform context request .empty cache) : cache = .empty := by
  cases moved with
  | same => rfl
  | swept now => exact sweep_empty now
  | routed route times forwarded asked => rw [closed.serve_cache_route]

/-- Behind a closed plane a request to an internal path is not found. -/
theorem Closed.serve_internal (closed : Closed platform.env) {request : HttpRequest}
    (internal : isInternal request.pathname = true) (memory : Memory) (context : IntegrityContext)
    (moment : Moment) (outside : Outside) :
    serve platform memory context request moment outside =
      (memory, plainErrorResponse 404 "not found") := by
  unfold isInternal at internal
  unfold serve
  cases routed : routeOf request.pathname with
  | forget =>
      have handled := fun forwarded => closed.serve_cache_route (cacheContext context) memory.cache
        (cacheRequest request) moment.cache forwarded .forget
      simp only [VerifiedCache.serve] at handled
      have refused (removed : Nat) (forwarded : Bool) :
          ¬VerifiedCache.Answer.response (VerifiedCache.respond "not found" 404) =
            .response (VerifiedCache.forgetResponse removed forwarded) := by
        simp [VerifiedCache.forgetResponse, VerifiedCache.respond]
      simp only [serveForget, handled, if_neg (refused _ _)]
      rfl
  | entry key =>
      simp only [serveEntry, closed.serve_cache_route]
      rfl
  | inbox =>
      simp only [serveInbox, closed.inboxRoute, Bool.not_false, if_true]
  | health => simp [routed] at internal
  | state => simp [routed] at internal
  | incident => simp [routed] at internal
  | templateCall => simp [routed] at internal
  | templateConfig => simp [routed] at internal
  | frontController => simp [routed] at internal
  | metrics => simp [routed] at internal
  | webhook provider => simp [routed] at internal
  | demoForward => simp [routed] at internal
  | root => simp [routed] at internal
  | unknown => simp [routed] at internal

/-- With nothing stored, a path that no route takes leaves the memory as it is. -/
theorem serve_unknown {request : HttpRequest} (unknown : routeOf request.pathname = .unknown)
    {memory : Memory} (bare : memory.cache = .empty) (context : IntegrityContext) (moment : Moment)
    (outside : Outside) :
    serve platform memory context request moment outside =
      (memory, plainErrorResponse 404 "not found") := by
  unfold serve
  rw [unknown]
  have kept : sweepCache memory moment = memory := by
    rw [sweepCache, bare, sweep_empty, ← bare]
  rw [kept]

/-- A step on a hidden event is the step on the event itself. -/
theorem Closed.step_hide (closed : Closed platform.env) {other : JsString}
    (unknown : routeOf other = .unknown) {system : System}
    (bare : system.memory.cache = .empty) (event : Event) :
    step platform system (hide other event) = step platform system event := by
  cases event with
  | start id now => rfl
  | refreshDone id now refresh => rfl
  | notifyDone id now ok => rfl
  | serve id now request moment outside =>
      simp only [hide]
      split
      next internal =>
        have behind : routeOf request.pathname ≠ .incident ∧ routeOf request.pathname ≠ .health := by
          unfold isInternal at internal
          constructor
          · intro same
            simp [same] at internal
          · intro same
            simp [same] at internal
        have missing (context : IntegrityContext) :
            serve platform system.memory context { request with pathname := other } moment outside =
              (system.memory, plainErrorResponse 404 "not found") :=
          serve_unknown unknown bare context moment outside
        simp only [step, unknown, reduceCtorEq, if_false, if_neg behind.1, if_neg behind.2, missing,
          closed.serve_internal internal]
      next => rfl

theorem Closed.step_empty (closed : Closed platform.env) {system next : System} {event : Event}
    (bare : system.memory.cache = .empty) (stepped : step platform system event = some next) :
    next.memory.cache = .empty := by
  cases event with
  | start id now =>
      obtain ⟨policy, -, rfl⟩ := Option.map_eq_some_iff.mp stepped
      exact bare
  | refreshDone id now refresh =>
      obtain ⟨policy, -, rfl⟩ := Option.map_eq_some_iff.mp stepped
      exact bare
  | notifyDone id now ok =>
      obtain ⟨policy, -, rfl⟩ := Option.map_eq_some_iff.mp stepped
      exact bare
  | serve id now request moment outside =>
      rcases step_serve stepped with ⟨-, policy, -, rfl⟩ | ⟨-, -, -, effect, answered, rfl⟩
      · exact bare
      · cases answered with
        | health asked => exact bare
        | route context resolved behind =>
            have moved := serve_cache platform system.memory context request moment outside
            rw [bare] at moved
            exact closed.keeps_empty moved

end ClosedPlane

/-- Behind a closed internal plane, every run goes as if each request to one of
its paths had asked for a path that does not exist, and nothing is stored. -/
theorem closed_plane_invisible {platform : Platform} (closed : Closed platform.env)
    {other : JsString} (unknown : routeOf other = .unknown) (events : List Event) :
    run (step platform) initial (events.map (hide other)) = run (step platform) initial events ∧
      ∀ final, run (step platform) initial events = some final →
        final.memory.cache = .empty := by
  constructor
  · suffices same : ∀ system : System, system.memory.cache = .empty →
        run (step platform) system (events.map (hide other)) = run (step platform) system events by
      exact same initial rfl
    induction events with
    | nil =>
        intro system _
        rfl
    | cons event rest inductionHypothesis =>
        intro system bare
        rw [List.map_cons, run, run, closed.step_hide unknown bare]
        cases stepped : step platform system event with
        | none => rfl
        | some next => exact inductionHypothesis next (closed.step_empty bare stepped)
  · intro final reached
    exact run_invariant_always (fun system : System => system.memory.cache = .empty)
      closed.step_empty rfl reached

def productionEnv : Env := fun name =>
  if name = "GATEWAY_MODE" then some (js "production") else none

theorem productionEnv_closed : Closed productionEnv where
  productionLike := by decide
  mutations := by decide
  cache := by decide
  forget := by decide
  inbox := by decide

/-- An upload to a production gateway. -/
def uploadRun : List Event :=
  [.start 0 1000, .refreshDone 0 1001 (.failed none),
    quietServe 0 1002 ⟨js "PUT", js "/cache/index", js "gateway", [], fun _ => none, [1]⟩]

theorem closed_plane_invisible_upload :
    let gateway := quietPlatform productionEnv fun _ => none
    isInternal (js "/cache/index") = true ∧ (run (step gateway) initial uploadRun).isSome ∧
      run (step gateway) initial (uploadRun.map (hide (js "/nowhere"))) =
        run (step gateway) initial uploadRun := by
  intro gateway
  refine ⟨by decide, rfl, ?_⟩
  exact (@closed_plane_invisible gateway productionEnv_closed _ (by decide) uploadRun).1

end DarkmeshGateway.Gateway.InternalPlane
