import DarkmeshGateway.Foundation.Delimited
import DarkmeshGateway.Resolver.Evaluate

/-!
Contract: the resolution cache.

Owns cache keys and when they tell queries apart, lookup, insertion,
invalidation, pruning, and what a reply says about the cache.

Does not own when the handlers use it.
-/

namespace DarkmeshGateway.Resolver.Cache

open Foundation
open Foundation.Lua
open Resolver.Normalize
open Resolver.State
open Resolver.Evaluate

/-! ### Keys -/

def makeCacheKey (query : Query) : LuaString :=
  match query.subject with
  | .route path method => concatBar [lua "route", query.mode.text, query.host, path, method]
  | .host => concatBar [lua "host", query.mode.text, query.host]

/-- Host and method are free of the separator; a path need not be. -/
structure Separable (query : Query) : Prop where
  host : 124 ∉ query.host
  method : ∀ path method, query.subject = .route path method → 124 ∉ method

theorem mode_free (mode : PolicyMode) : 124 ∉ mode.text := by
  cases mode <;> decide

theorem mode_text_injective {left right : PolicyMode} (same : left.text = right.text) :
    left = right := by
  revert same
  cases left <;> cases right <;> decide

/-- What follows the surface and the mode in a key. -/
def keyTail (query : Query) : LuaString :=
  match query.subject with
  | .route path method => query.host ++ 124 :: (path ++ 124 :: method)
  | .host => query.host

theorem makeCacheKey_eq (query : Query) :
    makeCacheKey query =
      Delimited.prefixed 124 [lua query.subject.surface, query.mode.text] (keyTail query) := by
  unfold makeCacheKey keyTail
  cases query.subject <;> simp [Subject.surface, concatBar, List.intercalate]

theorem surface_free (subject : Subject) : 124 ∉ lua subject.surface := by
  cases subject
  · show 124 ∉ lua "host"
    decide
  · show 124 ∉ lua "route"
    decide

/-- On one surface the rest of a key gives back the host and the subject. -/
theorem keyTail_injective {left right : Query} (separableLeft : Separable left)
    (separableRight : Separable right)
    (surface : lua left.subject.surface = lua right.subject.surface)
    (tail : keyTail left = keyTail right) :
    left.host = right.host ∧ left.subject = right.subject := by
  unfold keyTail at tail
  cases asked : left.subject with
  | host =>
      cases askedRight : right.subject with
      | host =>
          rw [asked, askedRight] at tail
          exact ⟨tail, rfl⟩
      | route _ _ =>
          have different : lua "host" ≠ lua "route" := by decide
          rw [asked, askedRight] at surface
          exact absurd surface different
  | route path method =>
      cases askedRight : right.subject with
      | host =>
          have different : lua "route" ≠ lua "host" := by decide
          rw [asked, askedRight] at surface
          exact absurd surface different
      | route otherPath otherMethod =>
          rw [asked, askedRight] at tail
          have first := Delimited.field_unique separableLeft.host separableRight.host tail
          have last := Delimited.last_field_unique (separableLeft.method path method asked)
            (separableRight.method otherPath otherMethod askedRight) first.2
          rw [last.1, last.2]
          exact ⟨first.1, rfl⟩

/-- Different separable queries are cached under different keys. -/
theorem makeCacheKey_injective {left right : Query} (separableLeft : Separable left)
    (separableRight : Separable right) (same : makeCacheKey left = makeCacheKey right) :
    left = right := by
  rw [makeCacheKey_eq, makeCacheKey_eq] at same
  have unique := Delimited.prefixed_injective
    (.cons (.inr ⟨surface_free _, surface_free _⟩)
      (.cons (.inr ⟨mode_free _, mode_free _⟩) .nil)) same
  have fields := unique.1
  simp only [List.cons.injEq, and_true] at fields
  have tail := keyTail_injective separableLeft separableRight fields.1 unique.2
  exact Query.ext tail.1 tail.2 (mode_text_injective fields.2)

/-! ### Lookup and insertion -/

inductive CacheState where
  | miss
  | hit
  | negativeHit
  | stale
deriving DecidableEq, Repr

/-- How long an entry is fresh. -/
def CacheHints.ttlSec (hints : CacheHints) (hostKnown : Bool) : Int :=
  if hostKnown then hints.positiveTtlSec else hints.negativeTtlSec

/-- The entry under a key and whether it is still fresh; an entry that may not
even be served stale is removed. -/
def getCachedResolution (state : ResolverState) (now : Int) (key : LuaString) :
    ResolverState × Option (CacheEntry × CacheState) :=
  match state.resolutionCache.find key with
  | none => (state, none)
  | some entry =>
      if now ≤ entry.expiresAtEpoch then
        (state, some (entry, if entry.hostKnown then .hit else .negativeHit))
      else if now ≤ entry.staleUntilEpoch then (state, some (entry, .stale))
      else ({ state with resolutionCache := state.resolutionCache.erase key }, none)

/-- The entry for a verdict reached now. -/
def newEntry (hints : CacheHints) (now : Int) (query : Query) (verdict : Verdict)
    (hostKnown : Bool) (proof : ProofPayload) (dnsNextCheckAt : Option Value) : CacheEntry where
  query := query
  verdict := verdict
  hostKnown := hostKnown
  proof := proof
  dnsNextCheckAt := dnsNextCheckAt
  cachedAt := isoTime now
  expiresAtEpoch := now + CacheHints.ttlSec hints hostKnown
  staleUntilEpoch := now + CacheHints.ttlSec hints hostKnown + hints.staleWhileRevalidateSec

def upsertResolutionCache (state : ResolverState) (key : LuaString) (entry : CacheEntry) :
    ResolverState :=
  { state with resolutionCache := state.resolutionCache.set key entry }

/-! ### Removal -/

def invalidateCacheAll (state : ResolverState) : ResolverState × Nat :=
  ({ state with resolutionCache := .empty }, state.resolutionCache.size)

/-- The entries that meet a condition are removed and counted. -/
def invalidateCacheWhere (gone : CacheEntry → Bool) (state : ResolverState) :
    ResolverState × Nat :=
  let kept := state.resolutionCache.filter fun _ entry => !gone entry
  ({ state with resolutionCache := kept }, state.resolutionCache.size - kept.size)

def invalidateCacheByHost (host : LuaString) : ResolverState → ResolverState × Nat :=
  invalidateCacheWhere fun entry => entry.query.host == host

def invalidateCacheBySite (siteId : LuaString) : ResolverState → ResolverState × Nat :=
  invalidateCacheWhere fun entry => entry.siteId == some siteId

/-- Entries that may not even be served stale go, then those that expire first
as long as there are too many. -/
def pruneResolutionCache (platform : Platform) (now : Int) (state : ResolverState) :
    ResolverState :=
  let survivors := state.resolutionCache.filter fun _ entry => now ≤ entry.staleUntilEpoch
  let order := platform.sortByExpiry
    (survivors.entries.map fun survivor => (survivor.1, survivor.2.expiresAtEpoch))
  let victims := (order.take (survivors.size - platform.maxCacheEntries)).map Prod.fst
  { state with resolutionCache := survivors.filter fun key _ => !victims.contains key }

/-! ### What a reply says about the cache -/

structure CachePayload where
  cacheable : Bool := true
  key : String
  cacheState : CacheState
  hit : Bool
  stale : Bool
  staleWhileRevalidate : Bool
  negative : Bool
  ttlSec : Int
  expiresAt : LuaString
  staleUntilAt : LuaString
  revalidateAfterAt : LuaString
  dnsNextCheckAt : Option Value
  cacheHints : CacheHints

/-- The payload for a new entry, or for the window of a cached one. -/
def buildCachePayload (hints : CacheHints) (now : Int) (hostKnown : Bool) (proof : ProofPayload)
    (surface : String) (cacheState : CacheState) (cacheWindow : Option (Int × Int)) :
    CachePayload :=
  let expiresEpoch := (cacheWindow.map Prod.fst).getD (now + CacheHints.ttlSec hints hostKnown)
  let staleUntilEpoch :=
    (cacheWindow.map Prod.snd).getD (expiresEpoch + hints.staleWhileRevalidateSec)
  { key := "resolver:" ++ surface ++ (if hostKnown then ":hit" else ":miss")
    cacheState
    hit := cacheState != .miss
    stale := cacheState == .stale
    staleWhileRevalidate := cacheState == .stale
    negative := cacheState == .negativeHit
    ttlSec := CacheHints.ttlSec hints hostKnown
    expiresAt := isoTime expiresEpoch
    staleUntilAt := isoTime staleUntilEpoch
    revalidateAfterAt := isoTime expiresEpoch
    dnsNextCheckAt :=
      firstOf [proof.dnsProofValidUntil, some (.str (isoTime (now + hints.negativeTtlSec)))]
    cacheHints := hints }

/-! ### What removal keeps -/

/-- Only cache entries are gone. -/
structure Shrinks (before after : ResolverState) : Prop where
  same : ∃ resolutionCache, after = { before with resolutionCache }
  cache : ∀ key entry, after.resolutionCache.find key = some entry →
    before.resolutionCache.find key = some entry

theorem Shrinks.refl (state : ResolverState) : Shrinks state state :=
  ⟨⟨state.resolutionCache, rfl⟩, fun _ _ found => found⟩

theorem Shrinks.evaluate_eq {before after : ResolverState} (shrinks : Shrinks before after)
    (query : Query) (fallback : Bool) :
    evaluate after query fallback = evaluate before query fallback := by
  rcases shrinks.same with ⟨resolutionCache, same⟩
  rw [same]
  rfl

theorem invalidateCacheAll_shrinks (state : ResolverState) :
    Shrinks state (invalidateCacheAll state).1 := by
  refine ⟨⟨_, rfl⟩, ?_⟩
  intro key entry found
  simp [invalidateCacheAll] at found

theorem invalidateCacheWhere_shrinks (gone : CacheEntry → Bool) (state : ResolverState) :
    Shrinks state (invalidateCacheWhere gone state).1 :=
  ⟨⟨_, rfl⟩, fun _ _ found => OrderedMap.find_of_filter found⟩

theorem pruneResolutionCache_shrinks (platform : Platform) (now : Int) (state : ResolverState) :
    Shrinks state (pruneResolutionCache platform now state) :=
  ⟨⟨_, rfl⟩, fun _ _ found => OrderedMap.find_of_filter (OrderedMap.find_of_filter found)⟩

theorem getCachedResolution_shrinks (state : ResolverState) (now : Int) (key : LuaString) :
    Shrinks state (getCachedResolution state now key).1 := by
  unfold getCachedResolution
  split
  · exact Shrinks.refl state
  · split
    · exact Shrinks.refl state
    · split
      · exact Shrinks.refl state
      · exact ⟨⟨_, rfl⟩, fun _ _ found => OrderedMap.find_of_erase found⟩

/-- A cached resolution is the entry under its key, and nothing is removed. -/
theorem getCachedResolution_found {state : ResolverState} {now : Int} {key : LuaString}
    {entry : CacheEntry} {cacheState : CacheState}
    (found : (getCachedResolution state now key).2 = some (entry, cacheState)) :
    state.resolutionCache.find key = some entry ∧ (getCachedResolution state now key).1 = state := by
  unfold getCachedResolution at found ⊢
  cases present : state.resolutionCache.find key with
  | none => simp [present] at found
  | some cached =>
      simp only [present] at found ⊢
      split at found
      · next fresh =>
          rw [if_pos fresh]
          cases found
          exact ⟨rfl, rfl⟩
      · next expired =>
          rw [if_neg expired]
          split at found
          · next stale =>
              rw [if_pos stale]
              cases found
              exact ⟨rfl, rfl⟩
          · contradiction

end DarkmeshGateway.Resolver.Cache
