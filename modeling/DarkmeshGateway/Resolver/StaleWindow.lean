import DarkmeshGateway.Resolver.Coherence
import DarkmeshGateway.Resolver.Route

/-!
Contract: how long and how much the resolver serves from its cache.

Owns the invariant that links every cache entry to the hints in force, the
bound on the number of entries, what pruning removes, and how late a cached
decision is served.

Does not own which decision an entry holds.
-/

namespace DarkmeshGateway.Resolver.StaleWindow

open Foundation
open Foundation.Lua
open Foundation.Outcome
open Resolver.Normalize
open Resolver.State
open Resolver.Cache
open Resolver.PolicyBundle
open Resolver.Resolve
open Resolver.Coherence
open Resolver.Route

variable {platform : Platform} {publicReadRequireAuth : Bool}

/-! ### Pruning -/

/-- `table.sort` on the survivors: they are rearranged by their expiry, and
survivors of one expiry stand in any order. -/
structure Sorts (platform : Platform) : Prop where
  rearranged : ∀ survivors, (platform.sortByExpiry survivors).Perm survivors
  ordered : ∀ survivors,
    (platform.sortByExpiry survivors).Pairwise fun left right => left.2 ≤ right.2

/-- The entries that may still be served. -/
def live (now : Int) (cache : OrderedMap LuaString CacheEntry) : OrderedMap LuaString CacheEntry :=
  cache.filter fun _ entry => now ≤ entry.staleUntilEpoch

/-- Only entries past their stale window go and, where the live ones are too
many, as many of these as are too many, none of which expires after one that stays. -/
structure PrunesExactly (limit : Nat) (now : Int) (before after : OrderedMap LuaString CacheEntry) :
    Prop where
  kept : ∀ key entry, after.find key = some entry →
    before.find key = some entry ∧ now ≤ entry.staleUntilEpoch
  removed : ∀ key entry, before.find key = some entry → after.find key = none →
    entry.staleUntilEpoch < now ∨ limit < (live now before).size ∧
      ∀ other stays, after.find other = some stays → entry.expiresAtEpoch ≤ stays.expiresAtEpoch
  size : after.size = min limit (live now before).size

section Pruning

variable (platform) (now : Int) (cache : OrderedMap LuaString CacheEntry)

/-- The survivors with their expiry, in the order of the sort. -/
def expiryOrder : List (LuaString × Int) :=
  platform.sortByExpiry
    ((live now cache).entries.map fun survivor => (survivor.1, survivor.2.expiresAtEpoch))

/-- The keys removed on overflow. -/
def victims : List LuaString :=
  ((expiryOrder platform now cache).take
    ((live now cache).size - platform.maxCacheEntries)).map Prod.fst

variable {platform now cache}

theorem prune_cache (state : ResolverState) :
    (pruneResolutionCache platform now state).resolutionCache =
      (live now state.resolutionCache).filter fun key _ =>
        !(victims platform now state.resolutionCache).contains key := rfl

theorem mem_expiryOrder (sorts : Sorts platform) {key : LuaString} {expiry : Int} :
    (key, expiry) ∈ expiryOrder platform now cache ↔
      ∃ entry, (live now cache).find key = some entry ∧ entry.expiresAtEpoch = expiry := by
  rw [expiryOrder, (sorts.rearranged _).mem_iff, List.mem_map]
  constructor
  · intro listed
    obtain ⟨⟨name, entry⟩, member, same⟩ := listed
    obtain ⟨rfl, rfl⟩ := Prod.mk.inj same
    exact ⟨entry, ((live now cache).mem_entries_iff name entry).mp member, rfl⟩
  · intro held
    obtain ⟨entry, found, rfl⟩ := held
    exact ⟨(key, entry), ((live now cache).mem_entries_iff key entry).mpr found, rfl⟩

theorem expiryOrder_keys (sorts : Sorts platform) :
    ((expiryOrder platform now cache).map Prod.fst).Nodup := by
  have rearranged := (sorts.rearranged ((live now cache).entries.map fun survivor =>
    (survivor.1, survivor.2.expiresAtEpoch))).map Prod.fst
  rw [expiryOrder, rearranged.nodup_iff, List.map_map]
  exact (live now cache).distinct

theorem victims_nodup (sorts : Sorts platform) : (victims platform now cache).Nodup := by
  have part := (List.take_sublist ((live now cache).size - platform.maxCacheEntries)
    (expiryOrder platform now cache)).map Prod.fst
  exact (expiryOrder_keys sorts).sublist part

theorem victims_length (sorts : Sorts platform) :
    (victims platform now cache).length = (live now cache).size - platform.maxCacheEntries := by
  have order : (expiryOrder platform now cache).length = (live now cache).size := by
    rw [expiryOrder, (sorts.rearranged _).length_eq, List.length_map]
    rfl
  rw [victims, List.length_map, List.length_take, order]
  omega

/-- A victim expires no later than any survivor that is not one. -/
theorem victim_first (sorts : Sorts platform) {gone stays : LuaString} {old kept : CacheEntry}
    (isVictim : gone ∈ victims platform now cache) (foundGone : (live now cache).find gone = some old)
    (notVictim : stays ∉ victims platform now cache)
    (foundStays : (live now cache).find stays = some kept) :
    old.expiresAtEpoch ≤ kept.expiresAtEpoch := by
  let overflow := (live now cache).size - platform.maxCacheEntries
  have ordered : ((expiryOrder platform now cache).take overflow ++
      (expiryOrder platform now cache).drop overflow).Pairwise
        fun left right => left.2 ≤ right.2 := by
    rw [List.take_append_drop]
    exact sorts.ordered _
  have across := (List.pairwise_append.mp ordered).2.2
  obtain ⟨⟨name, expiry⟩, taken, rfl⟩ := List.mem_map.mp isVictim
  have expiryGone : expiry = old.expiresAtEpoch := by
    obtain ⟨entry, found, same⟩ := (mem_expiryOrder sorts).mp (List.mem_of_mem_take taken)
    rw [foundGone, Option.some.injEq] at found
    rw [found, same]
  have listed : (stays, kept.expiresAtEpoch) ∈ expiryOrder platform now cache :=
    (mem_expiryOrder sorts).mpr ⟨kept, foundStays, rfl⟩
  rw [← List.take_append_drop overflow (expiryOrder platform now cache), List.mem_append]
    at listed
  rcases listed with early | late
  · exact absurd (List.mem_map.mpr ⟨_, early, rfl⟩) notVictim
  · rw [← expiryGone]
    exact across _ taken _ late

theorem find_live {key : LuaString} {entry : CacheEntry} :
    (live now cache).find key = some entry ↔
      cache.find key = some entry ∧ now ≤ entry.staleUntilEpoch := by
  rw [live, OrderedMap.find_filter, Option.filter_eq_some_iff, decide_eq_true_eq]

/-- `prune_resolution_cache` removes exactly what it should. -/
theorem prune_exact (sorts : Sorts platform) (now : Int) (state : ResolverState) :
    PrunesExactly platform.maxCacheEntries now state.resolutionCache
      (pruneResolutionCache platform now state).resolutionCache := by
  rw [prune_cache]
  generalize state.resolutionCache = cache
  have spec (key : LuaString) (entry : CacheEntry) :
      ((live now cache).filter fun key _ => !(victims platform now cache).contains key).find key =
        some entry ↔
          (live now cache).find key = some entry ∧ key ∉ victims platform now cache := by
    rw [OrderedMap.find_filter, Option.filter_eq_some_iff]
    simp
  constructor
  · intro key entry found
    exact find_live.mp ((spec key entry).mp found).1
  · intro key entry found gone
    by_cases fresh : now ≤ entry.staleUntilEpoch
    · right
      have isLive : (live now cache).find key = some entry := find_live.mpr ⟨found, fresh⟩
      have isVictim : key ∈ victims platform now cache := by
        by_contra other
        have stays := (spec key entry).mpr ⟨isLive, other⟩
        rw [gone] at stays
        contradiction
      refine ⟨?_, ?_⟩
      · have some_ := List.length_pos_of_mem isVictim
        rw [victims_length sorts] at some_
        omega
      · intro other stays kept
        obtain ⟨otherLive, notVictim⟩ := (spec other stays).mp kept
        exact victim_first sorts isVictim isLive notVictim otherLive
    · exact Or.inl (by omega)
  · have known : ∀ key ∈ victims platform now cache, ((live now cache).find key).isSome := by
      intro key member
      obtain ⟨⟨name, expiry⟩, taken, rfl⟩ := List.mem_map.mp member
      obtain ⟨entry, found, _⟩ := (mem_expiryOrder sorts).mp (List.mem_of_mem_take taken)
      simp [found]
    have count : ((live now cache).filter fun key _ =>
        !(victims platform now cache).contains key).size +
          (victims platform now cache).length = (live now cache).size :=
      OrderedMap.size_filter_gone _ (victims_nodup sorts) known (by simp)
    rw [victims_length sorts] at count
    omega

end Pruning

/-! ### Hints -/

theorem parseCacheHintNumber_range {input : Entries} {name : String} {low high value : Int}
    (read : parseCacheHintNumber platform input name low high = .ok (some value)) :
    low ≤ value := by
  unfold parseCacheHintNumber at read
  split at read
  · simp at read
  · split at read
    · contradiction
    · split at read
      · contradiction
      · next inside =>
          obtain rfl := Option.some.inj (Except.ok.inj read)
          omega

/-- A supplied revalidation window is not negative. -/
theorem normalizeCacheHints_stale {value : Option Value} {update : CacheHintsUpdate}
    (read : normalizeCacheHints platform value = .ok (some update)) {stale : Int}
    (supplied : update.staleWhileRevalidateSec = some stale) : 0 ≤ stale := by
  cases value with
  | none => simp [normalizeCacheHints] at read
  | some raw =>
      cases raw with
      | table input =>
          simp only [normalizeCacheHints, bind_eq_ok] at read
          obtain ⟨positive, _, negative, _, window, windowRead, hard, _, made⟩ := read
          obtain rfl := Option.some.inj (pure_eq_ok.mp made)
          obtain rfl : window = some stale := supplied
          exact parseCacheHintNumber_range windowRead
      | bool flag => simp [normalizeCacheHints, invalidType] at read
      | num number => simp [normalizeCacheHints, invalidType] at read
      | str text => simp [normalizeCacheHints, invalidType] at read

theorem readBundle_stale {state : ResolverState} {msg : Entries} {update : BundleUpdate}
    (read : readBundle platform state msg = .ok update)
    (before : 0 ≤ state.cacheHints.staleWhileRevalidateSec) :
    0 ≤ (state.cacheHints.merge update.cacheHints).staleWhileRevalidateSec := by
  simp only [readBundle, bind_eq_ok] at read
  obtain ⟨_, _, _, _, _, _, _, _, hints, hintsRead, _, _, _, _, _, _, _, _, _, _, made⟩ := read
  obtain rfl := pure_eq_ok.mp made
  cases hints with
  | none => exact before
  | some supplied =>
      show 0 ≤ supplied.staleWhileRevalidateSec.getD state.cacheHints.staleWhileRevalidateSec
      cases window : supplied.staleWhileRevalidateSec with
      | none => exact before
      | some stale =>
          have normalized := hintsRead
          unfold onField at normalized
          split at normalized
          · next outcome =>
              obtain rfl := Except.ok.inj normalized
              exact normalizeCacheHints_stale outcome window
          · contradiction

/-! ### Windows -/

/-- The hints in force are related, and every entry is served stale for as long
as they say. -/
structure Windows (state : ResolverState) : Prop where
  related : Related state.cacheHints
  positive : 0 ≤ state.cacheHints.staleWhileRevalidateSec
  window : ∀ key entry, state.resolutionCache.find key = some entry →
    entry.staleUntilEpoch - entry.expiresAtEpoch = state.cacheHints.staleWhileRevalidateSec

theorem Windows.transfer {before after : ResolverState} (windows : Windows before)
    (hints : after.cacheHints = before.cacheHints)
    (cache : ∀ key entry, after.resolutionCache.find key = some entry →
      before.resolutionCache.find key = some entry) : Windows after := by
  constructor
  · rw [hints]
    exact windows.related
  · rw [hints]
    exact windows.positive
  · intro key entry found
    rw [hints]
    exact windows.window key entry (cache key entry found)

theorem Windows.shrink {before after : ResolverState} (windows : Windows before)
    (shrinks : Shrinks before after) : Windows after := by
  obtain ⟨resolutionCache, same⟩ := shrinks.same
  apply windows.transfer _ shrinks.cache
  rw [same]

theorem Windows.record {state : ResolverState} (windows : Windows state) (now : Int)
    (request : ResolveRequest) (reply : ResolveReply) :
    Windows (recordReply state now request reply) := by
  constructor
  · exact windows.related
  · exact windows.positive
  · intro key entry found
    by_cases same : key = makeCacheKey request.query
    · simp only [same, recordReply, upsertResolutionCache, OrderedMap.find_set_self,
        Option.some.injEq] at found
      rw [← found]
      simp only [newEntry, recordReply, upsertResolutionCache]
      omega
    · simp only [recordReply, upsertResolutionCache] at found
      rw [OrderedMap.find_set_other _ same] at found
      exact windows.window key entry found

theorem Windows.resolveRead {state : ResolverState} (windows : Windows state) (now : Int)
    (read : Except Failure ResolveRequest) : Windows (resolveRead state now read).1 := by
  cases read with
  | error failure => exact windows
  | ok request =>
      have effect := resolve_effect state now request
      show Windows (resolve state now request).1
      generalize (resolve state now request).1 = after at effect ⊢
      generalize (resolve state now request).2 = reply at effect
      cases effect with
      | served entry cacheState found => exact windows
      | recorded left shrinks => exact (windows.shrink shrinks).record now request _

theorem Windows.applyPolicyBundle {state : ResolverState} (windows : Windows state)
    (platform : Platform) (now : Int) (msg : Entries) :
    Windows (applyPolicyBundle platform state now msg).1 := by
  have effect := applyPolicyBundle_effect platform state now msg
  generalize (PolicyBundle.applyPolicyBundle platform state now msg).1 = after at effect ⊢
  generalize (PolicyBundle.applyPolicyBundle platform state now msg).2 = reply at effect
  cases effect with
  | refused failure read => exact windows
  | applied update reply read related =>
      -- New hints come with an empty cache.
      exact ⟨related, readBundle_stale read windows.positive, fun key entry found => by
        simp [commitBundle] at found⟩
  | unrelated update failure read unrelated =>
      exact windows.transfer rfl fun _ _ found => found

theorem Windows.invalidateResolverCache {state : ResolverState} (windows : Windows state)
    (platform : Platform) (now : Int) (msg : Entries) :
    Windows (invalidateResolverCache platform state now msg).1 := by
  unfold Resolve.invalidateResolverCache
  cases Resolve.readScope platform msg with
  | error failure => exact windows
  | ok scope =>
      exact (windows.shrink (scope_shrinks scope state)).transfer rfl fun _ _ found => found

theorem Windows.handle {state : ResolverState} (windows : Windows state) (platform : Platform)
    (now : Int) (msg : Entries) (action : Action) :
    Windows (handle platform state now msg action).1 := by
  cases action with
  | resolveHostForNode => exact windows.resolveRead now _
  | resolveRouteForHost => exact windows.resolveRead now _
  | applyPolicyBundle => exact windows.applyPolicyBundle platform now msg
  | invalidateResolverCache => exact windows.invalidateResolverCache platform now msg
  | getResolverState => exact windows
  | getResolverCacheStats => exact windows

/-! ### Sizes -/

theorem size_resolveRead (state : ResolverState) (now : Int)
    (read : Except Failure ResolveRequest) :
    (resolveRead state now read).1.resolutionCache.size ≤ state.resolutionCache.size + 1 := by
  cases read with
  | error failure => exact Nat.le_succ _
  | ok request =>
      have left : (getCachedResolution state now (makeCacheKey request.query)).1.resolutionCache.size ≤
          state.resolutionCache.size := by
        unfold getCachedResolution
        split
        · exact Nat.le_refl _
        · split
          · exact Nat.le_refl _
          · split
            · exact Nat.le_refl _
            · exact OrderedMap.size_erase_le _ _
      show (resolve state now request).1.resolutionCache.size ≤ _
      unfold resolve
      cases outcome : getCachedResolution state now (makeCacheKey request.query) with
      | mk after cached =>
          rw [outcome] at left
          cases cached with
          | some _ => exact Nat.le_succ_of_le left
          | none => exact (OrderedMap.size_set_le _ _ _).trans (Nat.succ_le_succ left)

theorem size_invalidate (scope : Scope) (state : ResolverState) :
    (scope.invalidate state).1.resolutionCache.size ≤ state.resolutionCache.size := by
  cases scope with
  | all => exact Nat.zero_le _
  | host name => exact OrderedMap.size_filter_le _ _
  | site siteId => exact OrderedMap.size_filter_le _ _

theorem size_handle (platform : Platform) (state : ResolverState) (now : Int) (msg : Entries)
    (action : Action) :
    (handle platform state now msg action).1.resolutionCache.size ≤
      state.resolutionCache.size + 1 := by
  cases action with
  | resolveHostForNode => exact size_resolveRead state now _
  | resolveRouteForHost => exact size_resolveRead state now _
  | applyPolicyBundle =>
      have effect := applyPolicyBundle_effect platform state now msg
      show (applyPolicyBundle platform state now msg).1.resolutionCache.size ≤ _
      generalize (applyPolicyBundle platform state now msg).1 = after at effect ⊢
      generalize (applyPolicyBundle platform state now msg).2 = reply at effect
      cases effect with
      | refused failure read => exact Nat.le_succ _
      | applied update reply read related => exact Nat.zero_le _
      | unrelated update failure read unrelated => exact Nat.le_succ _
  | invalidateResolverCache =>
      show (invalidateResolverCache platform state now msg).1.resolutionCache.size ≤ _
      unfold Resolve.invalidateResolverCache
      cases Resolve.readScope platform msg with
      | error failure => exact Nat.le_succ _
      | ok scope => exact Nat.le_succ_of_le (size_invalidate scope state)
  | getResolverState => exact Nat.le_succ _
  | getResolverCacheStats => exact Nat.le_succ _

/-! ### Runs -/

/-- What holds of the resolver after every call. -/
structure Bounded (platform : Platform) (state : ResolverState) : Prop where
  windows : Windows state
  size : state.resolutionCache.size ≤ platform.maxCacheEntries + 1

theorem Bounded.prune (sorts : Sorts platform) {state : ResolverState}
    (bounded : Bounded platform state) (now : Int) :
    Windows (pruneResolutionCache platform now state) ∧
      (pruneResolutionCache platform now state).resolutionCache.size ≤
        platform.maxCacheEntries := by
  constructor
  · exact bounded.windows.shrink (pruneResolutionCache_shrinks platform now state)
  · rw [(prune_exact sorts now state).size]
    exact Nat.min_le_left _ _

/-- One call keeps the bounds. -/
theorem Bounded.route (sorts : Sorts platform) {state : RouterState}
    (bounded : Bounded platform state.resolver) (call : Call) :
    Bounded platform (Route.route platform publicReadRequireAuth state call).1.resolver := by
  obtain ⟨windows, size⟩ := bounded.prune sorts call.now
  have prepared : Bounded platform (state.prepare platform call).resolver :=
    ⟨windows, Nat.le_succ_of_le size⟩
  have effect := route_effect platform publicReadRequireAuth state call
  generalize (Route.route platform publicReadRequireAuth state call).1 = after at effect ⊢
  generalize (Route.route platform publicReadRequireAuth state call).2 = answer at effect
  cases effect with
  | refused response checked => exact bounded
  | forbidden response denied => exact prepared
  | replayed key recorded checked keyed found => exact prepared
  | unhandled missing => exact prepared
  | handled action known checked answers stored =>
      have added := size_handle platform (state.prepare platform call).resolver call.now call.msg
        action
      exact ⟨windows.handle platform call.now call.msg action,
        added.trans (Nat.succ_le_succ size)⟩

end DarkmeshGateway.Resolver.StaleWindow
