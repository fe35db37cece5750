import DarkmeshGateway.Resolver.Resolve

/-!
Contract: `route`, the entry of the resolver process.

Owns the order of its checks, the idempotency key, the dispatch to the six
handlers, the two reports, and the resolver as a machine over calls.

Does not own `ao.shared`: what its checks and its store answer comes with each
call. Metrics and persistence leave no trace in a reply.
-/

namespace DarkmeshGateway.Resolver.Route

open Foundation
open Foundation.Lua
open Resolver.Normalize
open Resolver.Policies
open Resolver.State
open Resolver.Cache
open Resolver.PolicyBundle
open Resolver.Resolve

/-! ### Calls -/

/-- `allowed_actions` -/
inductive Action where
  | resolveHostForNode
  | resolveRouteForHost
  | getResolverState
  | applyPolicyBundle
  | invalidateResolverCache
  | getResolverCacheStats
deriving DecidableEq, Repr

def Action.name : Action → String
  | .resolveHostForNode => "ResolveHostForNode"
  | .resolveRouteForHost => "ResolveRouteForHost"
  | .getResolverState => "GetResolverState"
  | .applyPolicyBundle => "ApplyPolicyBundle"
  | .invalidateResolverCache => "InvalidateResolverCache"
  | .getResolverCacheStats => "GetResolverCacheStats"

def Action.all : List Action :=
  [.resolveHostForNode, .resolveRouteForHost, .getResolverState, .applyPolicyBundle,
    .invalidateResolverCache, .getResolverCacheStats]

/-- `public_read_actions[action]` -/
def Action.publicRead : Action → Bool
  | .applyPolicyBundle | .invalidateResolverCache => false
  | _ => true

/-- `handlers[msg.Action]` -/
def readAction (msg : Entries) : Option Action :=
  match field msg "Action" with
  | some (.str text) => Action.all.find? fun action => lua action.name = text
  | _ => none

inductive ActionCheck where
  | allowed
  | unknown
  | missing
deriving DecidableEq

/-- What the shared modules answer at a call: the tags that are missing, the
checks in their order, and the keys whose answers are still stored. -/
structure Shared where
  missingTags : List LuaString
  action : ActionCheck
  enforce : Except LuaString Unit
  rateLimit : Except LuaString Unit
  outboxHmac : Except LuaString Unit
  role : Except LuaString Unit
  retained : LuaString → Bool

/-- A message at a time. Only one of the allowed actions is let through. -/
structure Call where
  now : Int
  msg : Entries
  shared : Shared
  known : shared.action = .allowed → (readAction msg).isSome

/-! ### Replies -/

structure StateReport where
  policyMode : PolicyMode
  failOpen : Bool
  cacheHints : CacheHints
  hostPolicies : Nat
  sitePolicies : Nat
  routePolicies : Nat
  dnsProofState : Nat
  resolutionCache : Nat
  bundleMeta : BundleMeta
  lastInvalidatedAt : Option LuaString
  lastResolvedAt : Option LuaString

def getResolverState (state : ResolverState) : StateReport where
  policyMode := state.policyMode
  failOpen := state.failOpen
  cacheHints := state.cacheHints
  hostPolicies := state.hostPolicies.size
  sitePolicies := state.sitePolicies.size
  routePolicies := state.routePolicies.size
  dnsProofState := state.dnsProofState.size
  resolutionCache := state.resolutionCache.size
  bundleMeta := state.bundleMeta
  lastInvalidatedAt := state.lastInvalidatedAt
  lastResolvedAt := state.lastResolvedAt

/-- Every cached proof state is one of the four, so `other` counts none. -/
structure CacheStats where
  entriesTotal : Nat
  mappedHosts : Nat
  unmappedHosts : Nat
  byProofState : ProofState → Nat
  lastAppliedAt : Option LuaString
  lastResolvedAt : Option LuaString
  lastInvalidatedAt : Option LuaString

def getResolverCacheStats (state : ResolverState) : CacheStats :=
  let cached := state.resolutionCache.entries.map Prod.snd
  let mapped := cached.countP fun entry => entry.siteId.any (· ≠ [])
  { entriesTotal := cached.length
    mappedHosts := mapped
    unmappedHosts := cached.length - mapped
    byProofState := fun proofState => cached.countP (·.proof.dnsProofState = proofState)
    lastAppliedAt := state.bundleMeta.appliedAt
    lastResolvedAt := state.lastResolvedAt
    lastInvalidatedAt := state.lastInvalidatedAt }

inductive Response where
  | missingTags (missing : List LuaString)
  | unknownAction (action : Option Value)
  | missingAction
  | forbidden (message : LuaString)
  | resolution (reply : Except Failure ResolveReply)
  | bundle (reply : Except Failure BundleReply)
  | invalidation (reply : Except Failure InvalidateReply)
  | state (report : StateReport)
  | stats (report : CacheStats)

/-! ### Checks -/

/-- `require_tags` and `require_action` -/
def checkAction (call : Call) : Except Response Unit :=
  if call.shared.missingTags ≠ [] then .error (.missingTags call.shared.missingTags)
  else
    match call.shared.action with
    | .allowed => .ok ()
    | .unknown => .error (.unknownAction (field call.msg "Action"))
    | .missing => .error .missingAction

def forbid : Except LuaString Unit → Except Response Unit :=
  Except.mapError Response.forbidden

/-- Public reads are rate limited, everything else is authenticated. -/
def authorise (publicReadRequireAuth : Bool) (call : Call) : Except Response Unit := do
  if publicReadRequireAuth || !((readAction call.msg).any Action.publicRead) then
    forbid call.shared.enforce
  else forbid call.shared.rateLimit
  forbid call.shared.outboxHmac
  forbid call.shared.role

/-! ### Idempotency -/

/-- What a call is about, as far as its idempotency key tells. -/
structure RequestScope where
  requestId : LuaString
  action : LuaString
  host : LuaString
  path : LuaString
  method : LuaString
deriving DecidableEq

/-- `tostring(msg[first] or msg[second] or "")` -/
def scopeText (platform : Platform) (msg : Entries) (first second : String) : LuaString :=
  ((firstOf [field msg first, field msg second, some (.str [])]).map platform.tostring).getD []

def requestScope (platform : Platform) (msg : Entries) : RequestScope where
  requestId := readRequestId msg
  action := ((field msg "Action").map platform.tostring).getD (lua "nil")
  host := scopeText platform msg "Host" "host"
  path := scopeText platform msg "Path" "path"
  method := upper (scopeText platform msg "Method" "method")

def RequestScope.key (scope : RequestScope) : LuaString :=
  concatBar [scope.requestId, scope.action, scope.host, scope.path, scope.method]

/-- A call without a request id has no key. -/
def idempotencyKey (platform : Platform) (msg : Entries) : Option LuaString :=
  if readRequestId msg = [] then none else some (requestScope platform msg).key

/-- An answer in the store, with the call it was given to. -/
structure Recorded where
  call : Call
  response : Response

/-! ### The process -/

structure RouterState where
  resolver : ResolverState
  answers : OrderedMap LuaString Recorded

def RouterState.initial (resolver : ResolverState) : RouterState := ⟨resolver, .empty⟩

/-- The handler of an action. -/
def handle (platform : Platform) (state : ResolverState) (now : Int) (msg : Entries) :
    Action → ResolverState × Response
  | .resolveHostForNode =>
      ((resolveHostForNode platform state now msg).1,
        .resolution (resolveHostForNode platform state now msg).2)
  | .resolveRouteForHost =>
      ((resolveRouteForHost platform state now msg).1,
        .resolution (resolveRouteForHost platform state now msg).2)
  | .applyPolicyBundle =>
      ((applyPolicyBundle platform state now msg).1,
        .bundle (applyPolicyBundle platform state now msg).2)
  | .invalidateResolverCache =>
      ((invalidateResolverCache platform state now msg).1,
        .invalidation (invalidateResolverCache platform state now msg).2)
  | .getResolverState => (state, .state (getResolverState state))
  | .getResolverCacheStats => (state, .stats (getResolverCacheStats state))

/-- A reply that was made now, or one from the store. -/
inductive Answer where
  | fresh (response : Response)
  | replayed (recorded : Recorded)

/-- The handler's reply, recorded under the key if there is one. -/
def dispatch (platform : Platform) (state : RouterState) (call : Call) (key : Option LuaString) :
    RouterState × Answer :=
  match readAction call.msg with
  | none => (state, .fresh (.unknownAction (field call.msg "Action")))
  | some action =>
      let handled := handle platform state.resolver call.now call.msg action
      let answers := match key with
        | none => state.answers
        | some key => state.answers.set key ⟨call, handled.2⟩
      (⟨handled.1, answers⟩, .fresh handled.2)

/-- The state a call with an allowed action meets: the resolution cache is
pruned, and the store has forgotten what it no longer retains. -/
def RouterState.prepare (platform : Platform) (state : RouterState) (call : Call) : RouterState where
  resolver := pruneResolutionCache platform call.now state.resolver
  answers := state.answers.filter fun key _ => call.shared.retained key

def route (platform : Platform) (publicReadRequireAuth : Bool) (state : RouterState)
    (call : Call) : RouterState × Answer :=
  match checkAction call with
  | .error response => (state, .fresh response)
  | .ok () =>
      let state := state.prepare platform call
      match authorise publicReadRequireAuth call with
      | .error response => (state, .fresh response)
      | .ok () =>
          let key := idempotencyKey platform call.msg
          match key.bind state.answers.find with
          | some recorded => (state, .replayed recorded)
          | none => dispatch platform state call key

def step (platform : Platform) (publicReadRequireAuth : Bool) (state : RouterState)
    (call : Call) : Option RouterState :=
  some (route platform publicReadRequireAuth state call).1

/-! ### What a call does -/

/-- The five ways through `route`: turned away before or behind the pruning,
answered from the store, without a handler, or handled. -/
inductive RouteEffect (platform : Platform) (publicReadRequireAuth : Bool) (state : RouterState)
    (call : Call) : RouterState → Answer → Prop where
  | refused (response : Response) (checked : checkAction call = .error response) :
      RouteEffect platform publicReadRequireAuth state call state (.fresh response)
  | forbidden (response : Response)
      (denied : authorise publicReadRequireAuth call = .error response) :
      RouteEffect platform publicReadRequireAuth state call (state.prepare platform call)
        (.fresh response)
  | replayed (key : LuaString) (recorded : Recorded) (checked : checkAction call = .ok ())
      (keyed : idempotencyKey platform call.msg = some key)
      (found : (state.prepare platform call).answers.find key = some recorded) :
      RouteEffect platform publicReadRequireAuth state call (state.prepare platform call)
        (.replayed recorded)
  | unhandled (missing : readAction call.msg = none) :
      RouteEffect platform publicReadRequireAuth state call (state.prepare platform call)
        (.fresh (.unknownAction (field call.msg "Action")))
  | handled (action : Action) (known : readAction call.msg = some action)
      (checked : checkAction call = .ok ())
      (answers : OrderedMap LuaString Recorded)
      (recorded : answers = match idempotencyKey platform call.msg with
        | none => (state.prepare platform call).answers
        | some key => (state.prepare platform call).answers.set key
            ⟨call, (handle platform (state.prepare platform call).resolver call.now call.msg
              action).2⟩) :
      RouteEffect platform publicReadRequireAuth state call
        ⟨(handle platform (state.prepare platform call).resolver call.now call.msg action).1,
          answers⟩
        (.fresh (handle platform (state.prepare platform call).resolver call.now call.msg
          action).2)

/-- A call that passes the first check has one of the six actions. -/
theorem checkAction_known {call : Call} (checked : checkAction call = .ok ()) :
    (readAction call.msg).isSome := by
  unfold checkAction at checked
  split at checked
  · contradiction
  · cases allowed : call.shared.action with
    | allowed => exact call.known allowed
    | unknown => simp [allowed] at checked
    | missing => simp [allowed] at checked

theorem route_effect (platform : Platform) (publicReadRequireAuth : Bool) (state : RouterState)
    (call : Call) :
    RouteEffect platform publicReadRequireAuth state call
      (route platform publicReadRequireAuth state call).1
      (route platform publicReadRequireAuth state call).2 := by
  unfold route
  cases checked : checkAction call with
  | error response => exact .refused response checked
  | ok _ =>
      dsimp only
      cases denied : authorise publicReadRequireAuth call with
      | error response => exact .forbidden response denied
      | ok _ =>
          dsimp only
          cases found : (idempotencyKey platform call.msg).bind
            (state.prepare platform call).answers.find with
          | some recorded =>
              obtain ⟨key, keyed, stored⟩ := Option.bind_eq_some_iff.mp found
              exact .replayed key recorded checked keyed stored
          | none =>
              dsimp only [dispatch]
              cases known : readAction call.msg with
              | none => exact .unhandled known
              | some action => exact .handled action known checked _ rfl

end DarkmeshGateway.Resolver.Route
