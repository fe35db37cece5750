import DarkmeshGateway.Resolver.Resolve

/-!
Contract: cached resolutions against new ones.

Owns the invariant of the resolution cache over the policies in force, what
each handler does to it, and when a reply from the cache is the one a resolver
with an empty cache would give.

Does not own the handlers themselves.
-/

namespace DarkmeshGateway.Resolver.Coherence

open Foundation
open Foundation.Lua
open Resolver.Normalize
open Resolver.State
open Resolver.Evaluate
open Resolver.Cache
open Resolver.PolicyBundle
open Resolver.Resolve

/-! ### The invariant -/

/-- An entry is stored under the key of its query and holds the verdict of the
policies in force, as given to a request of one of the two kinds. -/
structure EntryCoherent (state : ResolverState) (key : LuaString) (entry : CacheEntry) : Prop where
  separable : Separable entry.query
  key : key = makeCacheKey entry.query
  verdict : ∃ fallback, entry.verdict = evaluate state entry.query fallback

def Coherent (state : ResolverState) : Prop :=
  ∀ key entry, state.resolutionCache.find key = some entry → EntryCoherent state key entry

theorem coherent_default : Coherent defaultState := by
  intro key entry found
  simp [defaultState] at found

theorem EntryCoherent.transfer {before after : ResolverState} {key : LuaString}
    {entry : CacheEntry} (coherent : EntryCoherent before key entry)
    (same : ∀ fallback, evaluate after entry.query fallback =
      evaluate before entry.query fallback) : EntryCoherent after key entry := by
  rcases coherent.verdict with ⟨fallback, verdict⟩
  exact ⟨coherent.separable, coherent.key, fallback, verdict.trans (same fallback).symm⟩

theorem Coherent.shrink {before after : ResolverState} (coherent : Coherent before)
    (shrinks : Shrinks before after) : Coherent after := by
  intro key entry found
  exact (coherent key entry (shrinks.cache key entry found)).transfer fun fallback =>
    shrinks.evaluate_eq entry.query fallback

/-! ### Resolutions -/

/-- A field that is read was there and is normal. -/
theorem normalizeField_ok {platform : Platform} {name : String}
    {normalize : Platform → Value → LuaString → Except LuaString LuaString}
    {value : Option Value} {text : LuaString}
    (read : normalizeField platform name normalize value = .ok text) :
    ∃ raw, normalize platform raw (lua name) = .ok text := by
  unfold normalizeField at read
  cases value with
  | none => simp [onField, invalidType] at read
  | some raw =>
      cases outcome : normalize platform raw (lua name) with
      | error failure => simp [onField, outcome] at read
      | ok normal =>
          simp only [onField, outcome, Except.ok.injEq] at read
          exact ⟨raw, read ▸ outcome⟩

theorem host_free {platform : Platform} {value : Option Value} {host : LuaString}
    (read : normalizeField platform "Host" normalizeHost value = .ok host) : 124 ∉ host := by
  rcases normalizeField_ok read with ⟨raw, normalized⟩
  intro member
  have byte := normalizeHost_bytes normalized 124 member
  revert byte
  decide

theorem method_free {platform : Platform} {value : Option Value} {method : LuaString}
    (read : normalizeField platform "Method" normalizeMethod value = .ok method) :
    124 ∉ method := by
  rcases normalizeField_ok read with ⟨raw, normalized⟩
  intro member
  have byte := normalizeMethod_bytes normalized 124 member
  revert byte
  decide

/-- What a handler reads is separable. -/
theorem read_separable {action : ResolveAction} {platform : Platform} {state : ResolverState}
    {msg : Entries} {request : ResolveRequest}
    (read : action.read platform state msg = .ok request) : Separable request.query := by
  cases action with
  | hostForNode =>
      simp only [ResolveAction.read, readHostRequest, Outcome.guard_eq_ok, Outcome.bind_eq_ok,
        Outcome.pure_eq_ok] at read
      rcases read with ⟨_, _, _, host, hostRead, nodeId, _, rfl⟩
      refine ⟨host_free hostRead, ?_⟩
      intro _ _ asked
      contradiction
  | routeForHost =>
      simp only [ResolveAction.read, readRouteRequest, Outcome.bind_eq_ok,
        Outcome.pure_eq_ok] at read
      rcases read with ⟨_, _, _, _, host, hostRead, path, _, method, methodRead, nodeId, _, rfl⟩
      refine ⟨host_free hostRead, ?_⟩
      intro _ other asked
      cases asked
      exact method_free methodRead

/-- What a resolution does: it serves the entry under the key of its query, or
records a new verdict after at most a removal. -/
inductive ResolveEffect (state : ResolverState) (now : Int) (request : ResolveRequest) :
    ResolverState → ResolveReply → Prop where
  | served (entry : CacheEntry) (cacheState : CacheState)
      (found : state.resolutionCache.find (makeCacheKey request.query) = some entry) :
      ResolveEffect state now request state
        (payloadFromCachedEntry state now request entry cacheState)
  | recorded (left : ResolverState) (shrinks : Shrinks state left) :
      ResolveEffect state now request
        (recordReply left now request (missReply left now request))
        (missReply left now request)

theorem resolve_effect (state : ResolverState) (now : Int) (request : ResolveRequest) :
    ResolveEffect state now request (resolve state now request).1
      (resolve state now request).2 := by
  have shrinks := getCachedResolution_shrinks state now (makeCacheKey request.query)
  have served := @getCachedResolution_found state now (makeCacheKey request.query)
  unfold resolve
  cases outcome : getCachedResolution state now (makeCacheKey request.query) with
  | mk left cached =>
      rw [outcome] at shrinks served
      cases cached with
      | none => exact .recorded left shrinks
      | some cached =>
          rcases served rfl with ⟨found, unchanged⟩
          rw [show left = state from unchanged]
          exact .served cached.1 cached.2 found

/-- Recording a verdict keeps the invariant. -/
theorem Coherent.record {state : ResolverState} {request : ResolveRequest}
    (coherent : Coherent state) (separable : Separable request.query) (now : Int) :
    Coherent (recordReply state now request (missReply state now request)) := by
  intro key entry found
  by_cases same : key = makeCacheKey request.query
  · rw [same] at found ⊢
    simp only [recordReply, upsertResolutionCache, OrderedMap.find_set_self,
      Option.some.injEq] at found
    rw [← found]
    exact ⟨separable, rfl, request.fallback, rfl⟩
  · simp only [recordReply, upsertResolutionCache] at found
    rw [OrderedMap.find_set_other _ same] at found
    exact (coherent key entry found).transfer fun _ => rfl

theorem Coherent.resolveRead {state : ResolverState} {read : Except Failure ResolveRequest}
    (coherent : Coherent state) (separable : ∀ request, read = .ok request → Separable request.query)
    (now : Int) : Coherent (resolveRead state now read).1 := by
  cases read with
  | error failure => exact coherent
  | ok request =>
      have effect := resolve_effect state now request
      show Coherent (resolve state now request).1
      generalize (resolve state now request).1 = after at effect ⊢
      generalize (resolve state now request).2 = reply at effect
      cases effect with
      | served entry cacheState found => exact coherent
      | recorded left shrinks =>
          exact (coherent.shrink shrinks).record (separable request rfl) now

/-! ### Bundles and invalidations -/

/-- A bundle that is rejected for its cache hints leaves the policies, proofs
and fail-open flag of every cached host as they are. -/
def KeepsPolicies (platform : Platform) (state : ResolverState) : ResolverEvent → Prop
  | .applyPolicyBundle now msg =>
      let pruned := pruneResolutionCache platform now state
      ∀ update, readBundle platform pruned msg = .ok update →
        Related (pruned.cacheHints.merge update.cacheHints) ∨
          ∀ key entry, pruned.resolutionCache.find key = some entry →
            SameInputs (assignPolicies pruned update) pruned entry.query.host
  | .invalidateResolverCache _ _ => True
  | .resolve _ _ _ => True
  | .other _ => True

theorem Coherent.assign {state : ResolverState} {update : BundleUpdate}
    (coherent : Coherent state)
    (same : ∀ key entry, state.resolutionCache.find key = some entry →
      SameInputs (assignPolicies state update) state entry.query.host) :
    Coherent (assignPolicies state update) := by
  intro key entry found
  exact (coherent key entry found).transfer (same key entry found).evaluate_eq

theorem coherent_commit (state : ResolverState) (now : Int) (hints : CacheHints)
    (update : BundleUpdate) : Coherent (commitBundle state now hints update) := by
  intro key entry found
  simp [commitBundle] at found

theorem Coherent.applyPolicyBundle {platform : Platform} {state : ResolverState} {now : Int}
    {msg : Entries} (coherent : Coherent state)
    (keeps : ∀ update, readBundle platform state msg = .ok update →
      Related (state.cacheHints.merge update.cacheHints) ∨
        ∀ key entry, state.resolutionCache.find key = some entry →
          SameInputs (assignPolicies state update) state entry.query.host) :
    Coherent (applyPolicyBundle platform state now msg).1 := by
  have effect := applyPolicyBundle_effect platform state now msg
  generalize (PolicyBundle.applyPolicyBundle platform state now msg).1 = after at effect ⊢
  generalize (PolicyBundle.applyPolicyBundle platform state now msg).2 = reply at effect
  cases effect with
  | refused failure read => exact coherent
  | applied update reply read related => exact coherent_commit _ _ _ _
  | unrelated update failure read unrelated =>
      rcases keeps update read with related | same
      · exact absurd related unrelated
      · exact coherent.assign same

theorem scope_shrinks (scope : Scope) (state : ResolverState) :
    Shrinks state (scope.invalidate state).1 := by
  cases scope with
  | all => exact invalidateCacheAll_shrinks state
  | host name => exact invalidateCacheWhere_shrinks _ state
  | site siteId => exact invalidateCacheWhere_shrinks _ state

theorem Coherent.invalidateResolverCache {state : ResolverState} (coherent : Coherent state)
    (platform : Platform) (now : Int) (msg : Entries) :
    Coherent (invalidateResolverCache platform state now msg).1 := by
  unfold Resolve.invalidateResolverCache
  cases readScope platform msg with
  | error failure => exact coherent
  | ok scope =>
      have kept := coherent.shrink (scope_shrinks scope state)
      intro key entry found
      exact (kept key entry found).transfer fun _ => rfl

/-! ### Runs -/

/-- Every step on which a rejected bundle keeps the policies of cached hosts
keeps the invariant. -/
theorem Coherent.step {platform : Platform} {state next : ResolverState} {event : ResolverEvent}
    (coherent : Coherent state) (keeps : KeepsPolicies platform state event)
    (stepped : step platform state event = some next) : Coherent next := by
  have pruned : ∀ now, Coherent (pruneResolutionCache platform now state) := fun now =>
    coherent.shrink (pruneResolutionCache_shrinks platform now state)
  cases event with
  | applyPolicyBundle now msg =>
      cases stepped
      exact (pruned now).applyPolicyBundle keeps
  | invalidateResolverCache now msg =>
      cases stepped
      exact (pruned now).invalidateResolverCache platform now msg
  | resolve action now msg =>
      cases stepped
      rw [ResolveAction.handler_eq]
      exact (pruned now).resolveRead (fun request read => read_separable read) now
  | other now =>
      cases stepped
      exact pruned now

theorem coherent_run {platform : Platform} {events : List ResolverEvent} {state : ResolverState}
    (meets : Machine.Meets (Resolve.step platform) (KeepsPolicies platform) defaultState events)
    (reached : Machine.run (Resolve.step platform) defaultState events = some state) :
    Coherent state :=
  Machine.run_invariant Coherent Coherent.step coherent_default meets reached

/-! ### Replies from the cache -/

/-- What `route` answers to a resolution. -/
def answer (platform : Platform) (action : ResolveAction) (now : Int) (msg : Entries)
    (state : ResolverState) : Except Failure ResolveReply :=
  (action.handler platform (pruneResolutionCache platform now state) now msg).2

/-- The state with nothing cached. -/
def uncached (state : ResolverState) : ResolverState := { state with resolutionCache := .empty }

/-- The entry was recorded for a request whose mode was not known. -/
def CacheEntry.fallback (entry : CacheEntry) : Bool := entry.verdict.reasonCode == fallbackReason

/-- What is cached for the message, if anything, was recorded for a request of
its kind: both modes are known or unset, or neither is. -/
def SameKind (platform : Platform) (action : ResolveAction) (msg : Entries)
    (state : ResolverState) : Prop :=
  ∀ request entry, action.read platform state msg = .ok request →
    state.resolutionCache.find (makeCacheKey request.query) = some entry →
    CacheEntry.fallback entry = request.fallback

theorem uncached_shrinks (state : ResolverState) : Shrinks state (uncached state) := by
  refine ⟨⟨_, rfl⟩, ?_⟩
  intro key entry found
  simp [uncached] at found

theorem Shrinks.read_eq {before after : ResolverState} (shrinks : Shrinks before after)
    (action : ResolveAction) (platform : Platform) (msg : Entries) :
    action.read platform after msg = action.read platform before msg := by
  rcases shrinks.same with ⟨resolutionCache, same⟩
  rw [same]
  cases action <;> rfl

/-- A resolution is answered exactly when it is read, and then by `resolve`. -/
theorem answer_eq_ok {platform : Platform} {action : ResolveAction} {now : Int} {msg : Entries}
    {state : ResolverState} {reply : ResolveReply} :
    answer platform action now msg state = .ok reply ↔
      ∃ request, action.read platform state msg = .ok request ∧
        (resolve (pruneResolutionCache platform now state) now request).2 = reply := by
  unfold answer
  rw [ResolveAction.handler_eq,
    Shrinks.read_eq (pruneResolutionCache_shrinks platform now state)]
  cases action.read platform state msg with
  | error failure => simp [resolveRead]
  | ok request => simp [resolveRead]

/-- With nothing cached the reply is the verdict of the policies in force. -/
theorem answer_uncached {platform : Platform} {action : ResolveAction} {msg : Entries}
    {state : ResolverState} {request : ResolveRequest}
    (read : action.read platform state msg = .ok request) (now : Int) :
    ∃ fresh, answer platform action now msg (uncached state) = .ok fresh ∧
      fresh.verdict = evaluate state request.query request.fallback := by
  have empty := uncached_shrinks state
  have pruned := pruneResolutionCache_shrinks platform now (uncached state)
  refine ⟨_, answer_eq_ok.mpr ⟨request, (Shrinks.read_eq empty _ _ _).trans read, rfl⟩, ?_⟩
  have effect := resolve_effect (pruneResolutionCache platform now (uncached state)) now request
  generalize (resolve (pruneResolutionCache platform now (uncached state)) now request).2 = fresh
    at effect ⊢
  generalize (resolve (pruneResolutionCache platform now (uncached state)) now request).1 = after
    at effect
  cases effect with
  | served entry cacheState found =>
      have impossible := pruned.cache _ _ found
      simp [uncached] at impossible
  | recorded left shrinks =>
      calc evaluate left request.query request.fallback
          = evaluate (pruneResolutionCache platform now (uncached state)) request.query
              request.fallback := shrinks.evaluate_eq _ _
        _ = evaluate (uncached state) request.query request.fallback := pruned.evaluate_eq _ _
        _ = evaluate state request.query request.fallback := empty.evaluate_eq _ _

theorem fallback_of_verdict {state : ResolverState} {query : Query} {entry : CacheEntry}
    {fallback : Bool} (verdict : entry.verdict = evaluate state query fallback) :
    CacheEntry.fallback entry = fallback := by
  rw [CacheEntry.fallback, verdict, Bool.eq_iff_iff, beq_iff_eq]
  exact evaluate_reason_iff state query fallback

/-- A reply from the cache holds the verdict of the policies in force, for a
request of the kind the entry was recorded for. -/
theorem Coherent.served_verdict {platform : Platform} {action : ResolveAction} {msg : Entries}
    {state : ResolverState} {request : ResolveRequest} {entry : CacheEntry}
    (coherent : Coherent state) (read : action.read platform state msg = .ok request)
    (found : state.resolutionCache.find (makeCacheKey request.query) = some entry) :
    entry.verdict = evaluate state request.query (CacheEntry.fallback entry) := by
  have entryCoherent := coherent _ entry found
  have sameQuery : request.query = entry.query :=
    makeCacheKey_injective (read_separable read) entryCoherent.separable entryCoherent.key
  rcases entryCoherent.verdict with ⟨fallback, verdict⟩
  rw [fallback_of_verdict verdict, sameQuery]
  exact verdict

/-- Along a run on which no bundle rejected for its cache hints changes the
policies of a cached host, a resolution answered from the cache is the one an
empty cache would give exactly when what is cached was recorded for a request
of the same kind. -/
theorem cached_resolution_fresh_iff {platform : Platform} {events : List ResolverEvent}
    {state : ResolverState} {action : ResolveAction} {now : Int} {msg : Entries}
    {reply : ResolveReply}
    (meets : Machine.Meets (Resolve.step platform) (KeepsPolicies platform) defaultState events)
    (reached : Machine.run (Resolve.step platform) defaultState events = some state)
    (answered : answer platform action now msg state = .ok reply)
    (hit : reply.cache.hit = true) :
    (∃ fresh, answer platform action now msg (uncached state) = .ok fresh ∧
      reply.verdict = fresh.verdict) ↔ SameKind platform action msg state := by
  have coherent := coherent_run meets reached
  rcases answer_eq_ok.mp answered with ⟨request, read, replied⟩
  rcases answer_uncached read now with ⟨fresh, freshAnswer, freshVerdict⟩
  have effect := resolve_effect (pruneResolutionCache platform now state) now request
  rw [replied] at effect
  generalize (resolve (pruneResolutionCache platform now state) now request).1 = after at effect
  cases effect with
  | recorded left shrinks =>
      have missed : (missReply left now request).cache.hit = false := rfl
      rw [missed] at hit
      contradiction
  | served entry cacheState foundPruned =>
      have found := (pruneResolutionCache_shrinks platform now state).cache _ _ foundPruned
      have verdict := coherent.served_verdict read found
      constructor
      · intro same other stored otherRead otherFound
        rcases same with ⟨otherFresh, otherAnswer, sameVerdict⟩
        rw [freshAnswer, Except.ok.injEq] at otherAnswer
        rw [read, Except.ok.injEq] at otherRead
        rw [← otherRead, found, Option.some.injEq] at otherFound
        have freshEntry : entry.verdict = evaluate state request.query request.fallback := by
          rw [← freshVerdict, otherAnswer]
          exact sameVerdict
        rw [← otherFound, ← otherRead]
        exact fallback_of_verdict freshEntry
      · intro sameKind
        refine ⟨fresh, freshAnswer, ?_⟩
        rw [freshVerdict, ← sameKind request entry read found]
        exact verdict

/-- A host resolution that asks for a mode. -/
def hostMessage (mode : String) : Entries :=
  [(.str (lua "Action"), .str (lua "ResolveHostForNode")),
    (.str (lua "Host"), .str (lua "shop.example")),
    (.str (lua "Policy-Mode"), .str (lua mode))]

/-- A bundle that maps the host to the process of its site. -/
def shopBundle : Entries :=
  [(.str (lua "Action"), .str (lua "ApplyPolicyBundle")),
    (.str (lua "Bundle"), .table [(.str (lua "policyMode"), .str (lua "enforce")),
      (.str (lua "hosts"), .table [(.str (lua "shop.example"),
        .table [(.str (lua "siteId"), .str (lua "shop"))])]),
      (.str (lua "sites"), .table [(.str (lua "shop"),
        .table [(.str (lua "processId"), .str (lua "process-0123456789abcdef"))])])])]

/-- The bundle, and behind it one resolution of a known mode. -/
def bundleThenResolve : List ResolverEvent :=
  [.applyPolicyBundle 1777000000 shopBundle, .resolve .hostForNode 1777000005 (hostMessage "off")]

def resolvedOnce : ResolverState :=
  (Machine.run (Resolve.step fixturePlatform) defaultState bundleThenResolve).getD defaultState

set_option maxRecDepth 20000 in
/-- A known mode asked for twice. -/
theorem cached_resolution_fresh_repeat :
    ∃ reply fresh, answer fixturePlatform .hostForNode 1777000010 (hostMessage "off")
        resolvedOnce = .ok reply ∧ reply.cache.hit = true ∧
      answer fixturePlatform .hostForNode 1777000010 (hostMessage "off")
        (uncached resolvedOnce) = .ok fresh ∧ reply.verdict = fresh.verdict := by
  have sameKind : SameKind fixturePlatform .hostForNode (hostMessage "off") resolvedOnce := by
    intro request entry read found
    cases read
    cases found
    rfl
  have meets : Machine.Meets (Resolve.step fixturePlatform) (KeepsPolicies fixturePlatform)
      defaultState bundleThenResolve := by
    refine ⟨?_, fun _ _ => ⟨trivial, fun _ _ => trivial⟩⟩
    -- Nothing is cached when the bundle comes.
    intro update _
    right
    intro key entry found
    cases found
  rcases (@cached_resolution_fresh_iff fixturePlatform _ resolvedOnce .hostForNode 1777000010
    (hostMessage "off") _ meets rfl rfl rfl).mpr sameKind with ⟨fresh, answered, same⟩
  exact ⟨_, fresh, rfl, rfl, answered, same⟩

set_option maxRecDepth 20000 in
/-- A known mode is answered from the cache with the reason of an unknown one. -/
theorem cached_resolution_not_fresh :
    ¬∀ (platform : Platform) (events : List ResolverEvent) (state : ResolverState)
      (action : ResolveAction) (now : Int) (msg : Entries) (reply : ResolveReply),
      Machine.run (Resolve.step platform) defaultState events = some state →
      answer platform action now msg state = .ok reply → reply.cache.hit = true →
      ∃ fresh, answer platform action now msg (uncached state) = .ok fresh ∧
        reply.verdict = fresh.verdict := by
  intro claim
  rcases claim fixturePlatform
      [.resolve .hostForNode 1777000000 (hostMessage "bogus")] _ .hostForNode 1777000010
      (hostMessage "off") _ rfl rfl rfl with ⟨fresh, answered, same⟩
  have reason : fresh.verdict.reasonCode = "ALLOW_HOST_UNMAPPED_MODE_OFF" := by
    cases answered
    rfl
  have cached := congrArg Verdict.reasonCode same
  rw [reason] at cached
  revert cached
  decide

end DarkmeshGateway.Resolver.Coherence
