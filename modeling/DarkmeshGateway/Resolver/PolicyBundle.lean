import DarkmeshGateway.Resolver.State

/-!
Contract: `ApplyPolicyBundle`.

Owns reading and validating a bundle, assigning its parts to the state, the
cache hint relation, and when a rejected bundle leaves the state as it was.

Does not own what the policies decide.
-/

namespace DarkmeshGateway.Resolver.PolicyBundle

open Foundation
open Foundation.Lua
open Resolver.Normalize
open Resolver.Policies
open Resolver.State

/-! ### Reading a bundle -/

/-- What a bundle message changes. -/
structure BundleUpdate where
  mode : PolicyMode
  failOpen : Bool
  cacheHints : Option CacheHintsUpdate
  hosts : Option HostPolicies
  sites : Option SitePolicies
  routes : Option RoutePolicies
  dns : Option DnsProofs
  snapshotId : Option Value
  version : Option Value
  generatedAt : Option Value

def bundleFields : List String :=
  ["Action", "Request-Id", "Bundle", "bundle", "Policy-Mode", "PolicyMode", "Fail-Open", "FailOpen",
    "Cache-Hints", "CacheHints", "Actor-Role", "Schema-Version", "Signature", "Hmac", "hmac"]

/-- `msg.Bundle or msg.bundle or {}` -/
def bundleTable (msg : Entries) : Except Failure Entries :=
  match anyField msg ["Bundle", "bundle"] with
  | none => .ok []
  | some (.table bundle) => .ok bundle
  | some _ => .error (invalidInput "Bundle" (lua "Bundle must be an object"))

/-- The first truthy of the bundle's and then the message's fields. -/
def bundleField (bundle msg : Entries) (bundleNames msgNames : List String) : Option Value :=
  firstOf (bundleNames.map (field bundle) ++ msgNames.map (field msg))

def bundleMode (platform : Platform) (state : ResolverState) (bundle msg : Entries) :
    Except Failure PolicyMode :=
  match normalizeMode platform state.policyMode
      (bundleField bundle msg ["policyMode", "mode"] ["Policy-Mode", "PolicyMode"]) with
  | (_, true) => .error (invalidInput "Policy-Mode" (lua "Invalid policy mode"))
  | (mode, false) => .ok mode

def bundleFailOpen (state : ResolverState) (bundle msg : Entries) : Except Failure Bool :=
  let source := match field bundle "failOpen" with
    | some value => some value
    | none => anyField msg ["Fail-Open", "FailOpen"]
  onField "Fail-Open" (parseFailOpen source state.failOpen)

/-- Everything the handler validates before its first assignment. -/
def readBundle (platform : Platform) (state : ResolverState) (msg : Entries) :
    Except Failure BundleUpdate := do
  rejectExtras platform msg bundleFields
  let bundle ← bundleTable msg
  let mode ← bundleMode platform state bundle msg
  let failOpen ← bundleFailOpen state bundle msg
  let cacheHints ← onField "Cache-Hints" (normalizeCacheHints platform
    (bundleField bundle msg ["cacheHints"] ["Cache-Hints", "CacheHints"]))
  let hosts ← onField "hostPolicies" (normalizeHostPolicies platform
    (bundleField bundle msg ["hostPolicies", "hosts"] ["Host-Policies", "HostPolicies"]))
  let sites ← onField "sitePolicies" (normalizeSitePolicies platform
    (bundleField bundle msg ["sitePolicies", "sites"] ["Site-Policies", "SitePolicies"]))
  let dns ← onField "dnsProofState" (normalizeDnsProofState platform
    (bundleField bundle msg ["dnsProofState", "dnsProof"] ["DNS-Proof-State", "DnsProofState"]))
  let routes ← onField "routePolicies" (normalizeRoutePolicies platform
    (bundleField bundle msg ["routePolicies", "routes"] ["Route-Policies", "RoutePolicies"]))
  onField "hostPolicies" (validatePolicyGraph (hosts.getD state.hostPolicies)
    (sites.getD state.sitePolicies))
  return { mode, failOpen, cacheHints, hosts, sites, routes, dns,
           snapshotId := bundleField bundle msg ["snapshotId"] ["Snapshot-Id", "SnapshotId"],
           version := bundleField bundle msg ["version"] ["Version"],
           generatedAt := bundleField bundle msg ["generatedAt"] ["Generated-At", "GeneratedAt"] }

/-! ### Applying a bundle -/

/-- The assignments in front of the cache hint relation. -/
def assignPolicies (state : ResolverState) (update : BundleUpdate) : ResolverState :=
  { state with
    hostPolicies := update.hosts.getD state.hostPolicies
    sitePolicies := update.sites.getD state.sitePolicies
    routePolicies := update.routes.getD state.routePolicies
    dnsProofState := update.dns.getD state.dnsProofState
    policyMode := update.mode
    failOpen := update.failOpen }

/-- The hard limit on stale answers is not below the revalidation window. -/
def Related (hints : CacheHints) : Prop :=
  hints.staleWhileRevalidateSec ≤ hints.hardMaxStaleSec

instance (hints : CacheHints) : Decidable (Related hints) :=
  inferInstanceAs (Decidable (hints.staleWhileRevalidateSec ≤ hints.hardMaxStaleSec))

/-- `update or current` on bundle metadata. -/
def keepUnless (update current : Option Value) : Option Value :=
  if truthy update then update else current

/-- The assignments behind the cache hint relation. -/
def commitBundle (state : ResolverState) (now : Int) (hints : CacheHints)
    (update : BundleUpdate) : ResolverState :=
  { state with
    cacheHints := hints
    bundleMeta :=
      { snapshotId := keepUnless update.snapshotId state.bundleMeta.snapshotId
        version := keepUnless update.version state.bundleMeta.version
        generatedAt := keepUnless update.generatedAt state.bundleMeta.generatedAt
        appliedAt := some (isoTime now) }
    resolutionCache := .empty
    lastInvalidatedAt := some (isoTime now) }

/-- The answer to an applied bundle. -/
structure BundleReply where
  policyMode : PolicyMode
  failOpen : Bool
  bundleMeta : BundleMeta
  purgedEntries : Nat
  lastInvalidatedAt : Option LuaString
  hostPolicies : Nat
  sitePolicies : Nat
  routePolicies : Nat
  dnsProofState : Nat
  cacheHints : CacheHints

def bundleReply (state : ResolverState) (purgedEntries : Nat) : BundleReply where
  policyMode := state.policyMode
  failOpen := state.failOpen
  bundleMeta := state.bundleMeta
  purgedEntries := purgedEntries
  lastInvalidatedAt := state.lastInvalidatedAt
  hostPolicies := state.hostPolicies.size
  sitePolicies := state.sitePolicies.size
  routePolicies := state.routePolicies.size
  dnsProofState := state.dnsProofState.size
  cacheHints := state.cacheHints

def applyPolicyBundle (platform : Platform) (state : ResolverState) (now : Int) (msg : Entries) :
    ResolverState × Except Failure BundleReply :=
  match readBundle platform state msg with
  | .error failure => (state, .error failure)
  | .ok update =>
      let assigned := assignPolicies state update
      let hints := state.cacheHints.merge update.cacheHints
      if Related hints then
        let committed := commitBundle assigned now hints update
        (committed, .ok (bundleReply committed assigned.resolutionCache.size))
      else (assigned, .error (invalidInput "Cache-Hints" (lua "invalid_relation:hardMaxStaleSec")))

/-! ### Rejected bundles -/

/-- The policies, settings, metadata and cache are what they were. -/
structure Untouched (before after : ResolverState) : Prop where
  hostPolicies : after.hostPolicies = before.hostPolicies
  sitePolicies : after.sitePolicies = before.sitePolicies
  routePolicies : after.routePolicies = before.routePolicies
  dnsProofState : after.dnsProofState = before.dnsProofState
  policyMode : after.policyMode = before.policyMode
  failOpen : after.failOpen = before.failOpen
  cacheHints : after.cacheHints = before.cacheHints
  bundleMeta : after.bundleMeta = before.bundleMeta
  resolutionCache : after.resolutionCache = before.resolutionCache

theorem Untouched.refl (state : ResolverState) : Untouched state state :=
  ⟨rfl, rfl, rfl, rfl, rfl, rfl, rfl, rfl, rfl⟩

/-- The update supplies only what the state already holds. -/
structure Repeats (state : ResolverState) (update : BundleUpdate) : Prop where
  hosts : update.hosts.getD state.hostPolicies = state.hostPolicies
  sites : update.sites.getD state.sitePolicies = state.sitePolicies
  routes : update.routes.getD state.routePolicies = state.routePolicies
  dns : update.dns.getD state.dnsProofState = state.dnsProofState
  mode : update.mode = state.policyMode
  failOpen : update.failOpen = state.failOpen

theorem untouched_assign_iff (state : ResolverState) (update : BundleUpdate) :
    Untouched state (assignPolicies state update) ↔ Repeats state update := by
  constructor
  · intro same
    exact ⟨same.hostPolicies, same.sitePolicies, same.routePolicies, same.dnsProofState,
      same.policyMode, same.failOpen⟩
  · intro repeats
    exact ⟨repeats.hosts, repeats.sites, repeats.routes, repeats.dns, repeats.mode,
      repeats.failOpen, rfl, rfl, rfl⟩

/-- What a bundle does: it is turned away before the first assignment, applied,
or rejected behind the assignments for its cache hints. -/
inductive BundleEffect (platform : Platform) (state : ResolverState) (now : Int) (msg : Entries) :
    ResolverState → Except Failure BundleReply → Prop where
  | refused (failure : Failure) (read : readBundle platform state msg = .error failure) :
      BundleEffect platform state now msg state (.error failure)
  | applied (update : BundleUpdate) (reply : BundleReply)
      (read : readBundle platform state msg = .ok update)
      (related : Related (state.cacheHints.merge update.cacheHints)) :
      BundleEffect platform state now msg
        (commitBundle (assignPolicies state update) now
          (state.cacheHints.merge update.cacheHints) update) (.ok reply)
  | unrelated (update : BundleUpdate) (failure : Failure)
      (read : readBundle platform state msg = .ok update)
      (unrelated : ¬Related (state.cacheHints.merge update.cacheHints)) :
      BundleEffect platform state now msg (assignPolicies state update) (.error failure)

theorem applyPolicyBundle_effect (platform : Platform) (state : ResolverState) (now : Int)
    (msg : Entries) :
    BundleEffect platform state now msg (applyPolicyBundle platform state now msg).1
      (applyPolicyBundle platform state now msg).2 := by
  unfold applyPolicyBundle
  cases read : readBundle platform state msg with
  | error failure => exact .refused failure read
  | ok update =>
      by_cases related : Related (state.cacheHints.merge update.cacheHints)
      · simp only [if_pos related]
        exact .applied update _ read related
      · simp only [if_neg related]
        exact .unrelated update _ read related

/-- A rejected bundle leaves the state as it was exactly when it is turned away
before the first assignment, keeps the cache hint relation, or repeats what the
state holds. -/
theorem rejected_bundle_untouched_iff (platform : Platform) (state : ResolverState) (now : Int)
    (msg : Entries) :
    (∀ failure, (applyPolicyBundle platform state now msg).2 = .error failure →
      Untouched state (applyPolicyBundle platform state now msg).1) ↔
      ∀ update, readBundle platform state msg = .ok update →
        Related (state.cacheHints.merge update.cacheHints) ∨ Repeats state update := by
  have effect := applyPolicyBundle_effect platform state now msg
  generalize (applyPolicyBundle platform state now msg).1 = after at effect ⊢
  generalize (applyPolicyBundle platform state now msg).2 = reply at effect ⊢
  cases effect with
  | refused failure read =>
      constructor
      · intro _ update accepted
        rw [read] at accepted
        contradiction
      · intro _ _ _
        exact Untouched.refl state
  | applied update reply read related =>
      constructor
      · intro _ other accepted
        rw [read, Except.ok.injEq] at accepted
        rw [← accepted]
        exact Or.inl related
      · intro _ failure impossible
        contradiction
  | unrelated update failure read unrelated =>
      constructor
      · intro atomic other accepted
        rw [read, Except.ok.injEq] at accepted
        rw [← accepted]
        exact Or.inr ((untouched_assign_iff state update).mp (atomic failure rfl))
      · intro repeats _ _
        rcases repeats update read with related | repeated
        · exact absurd related unrelated
        · exact (untouched_assign_iff state update).mpr repeated

/-- The bundle of the fixture on cache hints, in mode `enforce`. -/
def unrelatedBundle : Entries :=
  [(.str (lua "Action"), .str (lua "ApplyPolicyBundle")),
    (.str (lua "Actor-Role"), .str (lua "admin")),
    (.str (lua "Policy-Mode"), .str (lua "enforce")),
    (.str (lua "Fail-Open"), .str (lua "true")),
    (.str (lua "Cache-Hints"), .table
      [(.str (lua "staleWhileRevalidateSec"), .num (.integer 120)),
        (.str (lua "hardMaxStaleSec"), .num (.integer 60))])]

set_option maxRecDepth 20000 in
/-- A bundle rejected for its cache hints has already changed the policy mode. -/
theorem rejected_bundle_changes_mode :
    ¬∀ (platform : Platform) (state : ResolverState) (now : Int) (msg : Entries)
      (failure : Failure), (applyPolicyBundle platform state now msg).2 = .error failure →
      Untouched state (applyPolicyBundle platform state now msg).1 := by
  intro claim
  have untouched := claim fixturePlatform defaultState 1777000000 unrelatedBundle _ rfl
  have mode : PolicyMode.enforce = .off := untouched.policyMode
  contradiction

end DarkmeshGateway.Resolver.PolicyBundle
