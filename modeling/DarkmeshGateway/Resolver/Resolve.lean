import DarkmeshGateway.Foundation.Machine
import DarkmeshGateway.Resolver.Cache
import DarkmeshGateway.Resolver.PolicyBundle

/-!
Contract: `ResolveHostForNode`, `ResolveRouteForHost`, `InvalidateResolverCache`
and the resolver as a machine.

Owns reading a resolution request, answering it from the cache or by a new
verdict, the invalidation scopes, and the step of the resolver on a message.

Does not own authentication, idempotent replies or persistence in `route`.
-/

namespace DarkmeshGateway.Resolver.Resolve

open Foundation
open Foundation.Lua
open Resolver.Normalize
open Resolver.State
open Resolver.Evaluate
open Resolver.Cache
open Resolver.PolicyBundle

/-! ### Requests -/

/-- A resolution asked for; `fallback` tells a mode that is not known. -/
structure ResolveRequest where
  query : Query
  fallback : Bool
  requestId : LuaString
  nodeId : Option LuaString

def parseNodeId (platform : Platform) (msg : Entries) : Except LuaString (Option LuaString) :=
  match anyField msg ["Node-Id", "nodeId", "Resolver-Id"] with
  | none => .ok none
  | some nodeId => do
      platform.checkLength nodeId 128 (lua "Node-Id")
      return some (platform.tostring nodeId)

def readRequestId (msg : Entries) : LuaString :=
  match anyField msg ["Request-Id", "requestId"] with
  | some (.str requestId) => trim requestId
  | _ => []

def requestedMode (platform : Platform) (state : ResolverState) (msg : Entries) :
    PolicyMode × Bool :=
  normalizeMode platform state.policyMode (anyField msg ["Policy-Mode", "PolicyMode"])

/-- A field of a message, normalised; `nil` has the wrong type. -/
def normalizeField (platform : Platform) (name : String)
    (normalize : Platform → Value → LuaString → Except LuaString LuaString)
    (value : Option Value) : Except Failure LuaString :=
  onField name (match value with
    | none => invalidType (lua name)
    | some raw => normalize platform raw (lua name))

def routeFields : List String :=
  ["Action", "Request-Id", "Host", "Path", "Method", "Node-Id", "nodeId", "Resolver-Id",
    "Policy-Mode", "PolicyMode", "Schema-Version", "Query", "Actor-Role", "X-Caller", "Site-Id",
    "Signature"]

def readRouteRequest (platform : Platform) (state : ResolverState) (msg : Entries) :
    Except Failure ResolveRequest := do
  requireFields platform msg ["Host", "Path", "Method"]
  rejectExtras platform msg routeFields
  let host ← normalizeField platform "Host" normalizeHost (field msg "Host")
  let path ← normalizeField platform "Path" normalizePath (field msg "Path")
  let method ← normalizeField platform "Method" normalizeMethod (field msg "Method")
  let nodeId ← onField "Node-Id" (parseNodeId platform msg)
  let mode := requestedMode platform state msg
  return { query := { host, subject := .route path method, mode := mode.1 }
           fallback := mode.2
           requestId := readRequestId msg
           nodeId }

def hostFields : List String :=
  ["Action", "Request-Id", "Host", "host", "Node-Id", "nodeId", "Resolver-Id", "Policy-Mode",
    "PolicyMode", "Schema-Version", "Method", "Path", "Query", "Actor-Role", "X-Caller", "Site-Id",
    "Signature"]

def readHostRequest (platform : Platform) (state : ResolverState) (msg : Entries) :
    Except Failure ResolveRequest := do
  let hostInput := anyField msg ["Host", "host"]
  if hostInput.isNone then throw ⟨"INVALID_INPUT", lua "Missing field", .missing [lua "Host"]⟩
  rejectExtras platform msg hostFields
  let host ← normalizeField platform "Host" normalizeHost hostInput
  let nodeId ← onField "Node-Id" (parseNodeId platform msg)
  let mode := requestedMode platform state msg
  return { query := { host, subject := .host, mode := mode.1 }
           fallback := mode.2
           requestId := readRequestId msg
           nodeId }

/-! ### Replies -/

/-- `payload.result` and `payload.policy` -/
structure ResultEnvelope where
  status : String
  failOpen : Bool
  enforceMode : Bool
  denyReady : Bool

structure ResolveReply where
  requestId : LuaString
  nodeId : Option LuaString
  host : LuaString
  subject : Subject
  verdict : Verdict
  hintSource : Option String
  cache : CachePayload
  proof : ProofPayload
  result : ResultEnvelope

def denyReady (reasonCode : String) : Bool := "DENY_READY_".toList.isPrefixOf reasonCode.toList

/-- `with_result_envelope` -/
def resultEnvelope (state : ResolverState) (verdict : Verdict) : ResultEnvelope where
  status := if verdict.decision = .deny then "DENY" else "ALLOW"
  failOpen := state.failOpen
  enforceMode := verdict.mode = .enforce
  denyReady := denyReady verdict.reasonCode

/-- `payload_from_cached_entry`. An entry with a site id holds its site. -/
def payloadFromCachedEntry (state : ResolverState) (now : Int) (request : ResolveRequest)
    (entry : CacheEntry) (cacheState : CacheState) : ResolveReply where
  requestId := request.requestId
  nodeId := request.nodeId
  host := entry.query.host
  subject := entry.query.subject
  verdict := entry.verdict
  hintSource := entry.verdict.actionHint.map fun _ => "cache"
  cache := buildCachePayload state.cacheHints now entry.hostKnown entry.proof
    entry.query.subject.surface cacheState (some (entry.expiresAtEpoch, entry.staleUntilEpoch))
  proof := entry.proof
  result := resultEnvelope state entry.verdict

/-- The reply to a request that the cache does not answer. -/
def missReply (state : ResolverState) (now : Int) (request : ResolveRequest) : ResolveReply :=
  let hostKnown := (state.hostPolicies.find request.query.host).isSome
  let proof := buildProofPayload state.dnsProofState request.query.host
  let verdict := evaluate state request.query request.fallback
  { requestId := request.requestId
    nodeId := request.nodeId
    host := request.query.host
    subject := request.query.subject
    verdict
    hintSource := (subjectHint state request.query).map Prod.snd
    cache := buildCachePayload state.cacheHints now hostKnown proof
      request.query.subject.surface .miss none
    proof
    result := resultEnvelope state verdict }

/-- A miss is cached under the key of its query. -/
def recordReply (state : ResolverState) (now : Int) (request : ResolveRequest)
    (reply : ResolveReply) : ResolverState :=
  let hostKnown := (state.hostPolicies.find request.query.host).isSome
  upsertResolutionCache { state with lastResolvedAt := some (isoTime now) }
    (makeCacheKey request.query)
    (newEntry state.cacheHints now request.query reply.verdict hostKnown reply.proof
      reply.cache.dnsNextCheckAt)

/-- What both handlers do with a request. -/
def resolve (state : ResolverState) (now : Int) (request : ResolveRequest) :
    ResolverState × ResolveReply :=
  match getCachedResolution state now (makeCacheKey request.query) with
  | (state, some (entry, cacheState)) =>
      (state, payloadFromCachedEntry state now request entry cacheState)
  | (state, none) =>
      let reply := missReply state now request
      (recordReply state now request reply, reply)

def resolveRead (state : ResolverState) (now : Int) :
    Except Failure ResolveRequest → ResolverState × Except Failure ResolveReply
  | .error failure => (state, .error failure)
  | .ok request => ((resolve state now request).1, .ok (resolve state now request).2)

def resolveRouteForHost (platform : Platform) (state : ResolverState) (now : Int)
    (msg : Entries) : ResolverState × Except Failure ResolveReply :=
  resolveRead state now (readRouteRequest platform state msg)

def resolveHostForNode (platform : Platform) (state : ResolverState) (now : Int)
    (msg : Entries) : ResolverState × Except Failure ResolveReply :=
  resolveRead state now (readHostRequest platform state msg)

/-! ### Invalidation -/

structure InvalidateReply where
  scope : LuaString
  target : Option LuaString
  removedEntries : Nat
  remainingEntries : Nat
  lastInvalidatedAt : Option LuaString

def invalidateFields : List String :=
  ["Action", "Request-Id", "Scope", "Host", "Site-Id", "Actor-Role", "Schema-Version", "Signature",
    "Hmac", "hmac"]

/-- What an invalidation removes. -/
inductive Scope where
  | all
  | host (name : LuaString)
  | site (siteId : LuaString)

def Scope.text : Scope → LuaString
  | .all => lua "all"
  | .host _ => lua "host"
  | .site _ => lua "site"

def Scope.target : Scope → Option LuaString
  | .all => none
  | .host name => some name
  | .site siteId => some siteId

def readScope (platform : Platform) (msg : Entries) : Except Failure Scope := do
  rejectExtras platform msg invalidateFields
  let raw := firstOf [field msg "Scope", some (.str (lua "all"))]
  let scope := lower ((raw.map platform.tostring).getD [])
  if scope = lua "all" then return .all
  else if scope = lua "host" then
    requireFields platform msg ["Host"]
    return .host (← normalizeField platform "Host" normalizeHost (field msg "Host"))
  else if scope = lua "site" then
    requireFields platform msg ["Site-Id"]
    return .site (← normalizeField platform "Site-Id" normalizeSiteId (field msg "Site-Id"))
  else throw ⟨"INVALID_INPUT", lua "Invalid scope", .oneOf "Scope" ["all", "host", "site"]⟩

def Scope.invalidate : Scope → ResolverState → ResolverState × Nat
  | .all => invalidateCacheAll
  | .host name => invalidateCacheByHost name
  | .site siteId => invalidateCacheBySite siteId

def invalidateResolverCache (platform : Platform) (state : ResolverState) (now : Int)
    (msg : Entries) : ResolverState × Except Failure InvalidateReply :=
  match readScope platform msg with
  | .error failure => (state, .error failure)
  | .ok scope =>
      let removed := scope.invalidate state
      let state := { removed.1 with lastInvalidatedAt := some (isoTime now) }
      (state, .ok
        { scope := scope.text
          target := scope.target
          removedEntries := removed.2
          remainingEntries := state.resolutionCache.size
          lastInvalidatedAt := state.lastInvalidatedAt })

/-! ### The resolver -/

/-- `ResolveHostForNode` or `ResolveRouteForHost` -/
inductive ResolveAction where
  | hostForNode
  | routeForHost
deriving DecidableEq, Repr

def ResolveAction.read (action : ResolveAction) (platform : Platform) (state : ResolverState)
    (msg : Entries) : Except Failure ResolveRequest :=
  match action with
  | .hostForNode => readHostRequest platform state msg
  | .routeForHost => readRouteRequest platform state msg

def ResolveAction.handler (action : ResolveAction) (platform : Platform) (state : ResolverState)
    (now : Int) (msg : Entries) : ResolverState × Except Failure ResolveReply :=
  match action with
  | .hostForNode => resolveHostForNode platform state now msg
  | .routeForHost => resolveRouteForHost platform state now msg

theorem ResolveAction.handler_eq (action : ResolveAction) (platform : Platform)
    (state : ResolverState) (now : Int) (msg : Entries) :
    action.handler platform state now msg =
      resolveRead state now (action.read platform state msg) := by
  cases action <;> rfl

/-- A message that reaches `route`, with the time it is handled at. `other` is
one that reaches no handler here: turned away, answered before, or a report. -/
inductive ResolverEvent where
  | applyPolicyBundle (now : Int) (msg : Entries)
  | invalidateResolverCache (now : Int) (msg : Entries)
  | resolve (action : ResolveAction) (now : Int) (msg : Entries)
  | other (now : Int)

/-- `route` prunes the cache and then calls the handler. -/
def step (platform : Platform) (state : ResolverState) : ResolverEvent → Option ResolverState
  | .applyPolicyBundle now msg =>
      some (applyPolicyBundle platform (pruneResolutionCache platform now state) now msg).1
  | .invalidateResolverCache now msg =>
      some (invalidateResolverCache platform (pruneResolutionCache platform now state) now msg).1
  | .resolve action now msg =>
      some (action.handler platform (pruneResolutionCache platform now state) now msg).1
  | .other now => some (pruneResolutionCache platform now state)

end DarkmeshGateway.Resolver.Resolve
