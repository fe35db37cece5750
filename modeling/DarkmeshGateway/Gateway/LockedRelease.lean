import DarkmeshGateway.Foundation.Machine
import DarkmeshGateway.Gateway.TemplateResolution

/-!
Contract: the locked release mode of the front controller.

Owns the transaction ids that are pinned for a host, and which runs of requests
serve pinned pages only.

Does not own the hashes of the pages.
-/

namespace DarkmeshGateway.Gateway.LockedRelease

open Foundation
open Foundation.Js
open Foundation.Machine
open Gateway.Environment
open Gateway.SiteResolver (normalizeHost)
open Gateway.FrontController
open Gateway.TemplateResolution

/-! ### Pins -/

/-- The id is pinned for the host: by its entry or the one under `*` in the
template map, or as the fallback. -/
def Pinned (platform : Platform) (env : Env) (host txId : JsString) : Prop :=
  (∃ raw fields name value entry, readTemplateMap env = some raw ∧
      platform.parseJson raw = some (.obj fields) ∧ (name = host ∨ name = js "*") ∧
      namedField fields name = some value ∧ parseEntry value = some entry ∧ entry.txId = txId) ∨
    parseTxId ((readTemplateTxId env).map .str) = some txId

/-- The record names a pinned id. -/
def NamesPinned (platform : Platform) (env : Env) (host : JsString) (txId : Option JsString) :
    Prop := ∃ pinned, txId = some pinned ∧ Pinned platform env host pinned

/-- Requests one after the other, under one environment. -/
def step (platform : Platform) (env : Env) (pages : PageCache) (request : Request) :
    Option PageCache := some (handleFrontControllerRequest platform env pages request).2

/-- Every page that a run serves has an id pinned for the host that asks. -/
def ServesPinned (platform : Platform) (env : Env) (requests : List Request) : Prop :=
  ∀ before request after pages page, requests = before ++ request :: after →
    run (step platform env) .empty before = some pages →
    (handleFrontControllerRequest platform env pages request).1 = .page page →
      NamesPinned platform env (normalizeHost request.host) page.txId

/-- The runtime hints name no template, or a pinned one; and a host whose name the
template map inherits has an entry of its own, unless the hints decide or a
record without a hash is refused anyway. -/
def KeepsLock (platform : Platform) (env : Env) (request : Request) : Prop :=
  (∀ record, resolveTemplateRecordFromRuntimeHints request.runtimeHints = .ok (some record) →
      NamesPinned platform env (normalizeHost request.host) record.txId) ∧
    (resolveTemplateRecordFromRuntimeHints request.runtimeHints = .ok none →
      Inherited (normalizeHost request.host) → readRequireHash env = false →
        ∀ raw fields, readTemplateMap env = some raw →
          platform.parseJson raw = some (.obj fields) →
            namedField fields (normalizeHost request.host) ≠ none)

/-! ### Requests -/

variable {platform : Platform} {env : Env} {pages : PageCache} {request : Request}

/-- Every cached page has an id pinned for its host. -/
def AllPinned (platform : Platform) (env : Env) (pages : PageCache) : Prop :=
  ∀ host cached, pages.find host = some cached → NamesPinned platform env host cached.txId

theorem AllPinned.set (pinned : AllPinned platform env pages) {host : JsString}
    {template : CachedTemplate} (named : NamesPinned platform env host template.txId) :
    AllPinned platform env (pages.set host template) := by
  intro other cached found
  by_cases same : other = host
  · rw [same, OrderedMap.find_set_self, Option.some.injEq] at found
    rw [same, ← found]
    exact named
  · rw [OrderedMap.find_set_other _ same] at found
    exact pinned other cached found

/-- The lock forbids the index. -/
theorem locked_refuses_index (platform : Platform) (pages : PageCache) (request : Request)
    (locked : readLockedReleaseMode env = true) (index : readIndexUrl env ≠ none) :
    (∀ page, (handleFrontControllerRequest platform env pages request).1 ≠ .page page) ∧
      (handleFrontControllerRequest platform env pages request).2 = pages := by
  have refused : validateFrontControllerRuntimeConfig env =
      some "front_controller_locked_release_index_url_forbidden" := by
    simp [validateFrontControllerRuntimeConfig, locked, index]
  unfold handleFrontControllerRequest
  split
  next => exact ⟨by simp, rfl⟩
  next =>
    split
    next => exact ⟨by simp, rfl⟩
    next =>
      rw [refused]
      exact ⟨by simp, rfl⟩

/-- A record of a request that keeps the lock is pinned, or has no id and no hash
where a hash is required. -/
theorem origin_pinned (index : readIndexUrl env = none) (keeps : KeepsLock platform env request)
    {record : TemplateIndexRecord} (origin : Origin platform env request record) :
    NamesPinned platform env (normalizeHost request.host) record.txId ∨
      (readRequireHash env = true ∧ record = inheritedRecord) := by
  cases origin with
  | runtime named => exact Or.inl (keeps.1 record named)
  | mapped raw fields value entry configured object decides parsed isRecord =>
      left
      subst isRecord
      refine ⟨entry.txId, rfl, Or.inl ?_⟩
      unfold decidingField at decides
      rcases Option.or_eq_some_iff.mp decides with own | ⟨-, wildcard⟩
      · exact ⟨raw, fields, _, value, entry, configured, object, Or.inl rfl, own, parsed, rfl⟩
      · split at wildcard
        next => cases wildcard
        next =>
          exact ⟨raw, fields, _, value, entry, configured, object, Or.inr rfl, wildcard, parsed, rfl⟩
  | inherited raw fields unhinted configured object isInherited unnamed isRecord =>
      right
      refine ⟨?_, isRecord⟩
      by_contra optional
      have unrequired : readRequireHash env = false := by simpa using optional
      exact keeps.2 unhinted isInherited unrequired raw fields configured object unnamed
  | indexed value entry configured => exact absurd index configured
  | fallback txId configured isRecord =>
      subst isRecord
      exact Or.inl ⟨txId, rfl, Or.inr configured⟩

/-- A request that keeps the lock is answered with a pinned page, if with a page,
and leaves pinned pages. -/
theorem handle_pinned (locked : readLockedReleaseMode env = true)
    (keeps : KeepsLock platform env request) (pinned : AllPinned platform env pages) :
    (∀ page, (handleFrontControllerRequest platform env pages request).1 = .page page →
        NamesPinned platform env (normalizeHost request.host) page.txId) ∧
      AllPinned platform env (handleFrontControllerRequest platform env pages request).2 := by
  by_cases index : readIndexUrl env = none
  case neg =>
    obtain ⟨noPage, unchanged⟩ :=
      locked_refuses_index platform pages request locked index
    rw [unchanged]
    exact ⟨fun page served => absurd served (noPage page), pinned⟩
  case pos =>
    have answered := handle_answered platform env pages request
    generalize handleFrontControllerRequest platform env pages request = outcome at answered ⊢
    cases answered with
    | refused response noPage => exact ⟨fun page served => absurd served (noPage page), pinned⟩
    | cached cached status found =>
        refine ⟨?_, pinned⟩
        intro page served
        obtain rfl := Response.page.inj served
        exact pinned _ cached found
    | same cached resolved expiresAt reaches resolves found samePage =>
        have named := pinned _ cached found
        refine ⟨?_, pinned.set named⟩
        intro page served
        obtain rfl := Response.page.inj served
        exact named
    | loaded template resolved expiresAt fetched reaches resolves accepted =>
        obtain ⟨sameId, -, -, hashed⟩ := acceptTemplate_ok accepted
        have named : NamesPinned platform env (normalizeHost request.host) template.txId := by
          rw [sameId]
          rcases origin_pinned index keeps (resolveTemplateRecord_origin resolves) with
            named | ⟨required, isInherited⟩
          · exact named
          · rw [isInherited] at hashed
            exact absurd rfl (hashed required)
        refine ⟨?_, pinned.set named⟩
        intro page served
        obtain rfl := Response.page.inj served
        exact named

/-! ### Runs -/

/-- In the locked release mode, a run of requests that keep the lock serves
pinned pages only. -/
theorem locked_release_serves_pinned (platform : Platform) (env : Env)
    (locked : readLockedReleaseMode env = true) (requests : List Request)
    (keeps : ∀ request ∈ requests, KeepsLock platform env request) :
    ServesPinned platform env requests := by
  rintro before request after pages page rfl reached served
  have keepsBefore : Meets (step platform env) (fun _ request => KeepsLock platform env request)
      .empty before :=
    Meets.of_forall (fun other earlier => keeps other (List.mem_append_left _ earlier))
      OrderedMap.empty
  have pinned : AllPinned platform env pages := by
    apply run_invariant (AllPinned platform env) _ _ keepsBefore reached
    · intro state next event allPinned keepsEvent stepped
      obtain rfl := Option.some.inj stepped
      exact (handle_pinned locked keepsEvent allPinned).2
    · intro host cached found
      simp at found
  exact (handle_pinned locked (keeps request (by simp)) pinned).1 page served

/-! ### A page that is not pinned -/

/-- A gateway whose only pin is a fallback id. -/
def pinnedFallback (name : String) : Option JsString :=
  if name = "GATEWAY_FRONT_CONTROLLER_LOCKED_RELEASE" then some (js "1")
  else if name = "GATEWAY_FRONT_CONTROLLER_TEMPLATE_TXID" then some (js "tx-pinned")
  else none

/-- The digest of `page`. -/
def pageDigest : JsString :=
  js "3660315a9af3df255d8f19ab077e4797822b41488a0e2a04bc6af71213c23274"

/-- Every fetched page is `page`. -/
def pagePlatform : Platform := ⟨fun _ => none, fun _ => pageDigest⟩

/-- A request for the root of a host, with what site resolution hints. -/
def rootRequest (runtimeHints : Option SiteResolver.RuntimeRoutingHints) : Request where
  method := js "GET"
  host := js "shop.example"
  refresh := false
  runtimeHints
  now := 0
  fetch _ := .response 200 none (.ok (js "page"))

def templateHint : SiteResolver.RuntimeRoutingHints :=
  ⟨some [(js "templateTxId", .str (js "tx-hinted"))], none⟩

/-- A hinted id is served in the locked release mode. -/
theorem hinted_page_served :
    readLockedReleaseMode pinnedFallback = true ∧
      ¬ServesPinned pagePlatform pinnedFallback [rootRequest (some templateHint)] := by
  refine ⟨by decide, ?_⟩
  intro serves
  obtain ⟨txId, named, pins⟩ := serves [] (rootRequest (some templateHint)) [] .empty
    ⟨js "page", js "text/html; charset=utf-8", some (js "tx-hinted"), pageDigest, .miss,
      some .runtime⟩ rfl rfl (by decide)
  obtain rfl := Option.some.inj named
  rcases pins with ⟨raw, fields, name, value, entry, configured, -⟩ | fallback
  · have noMap : readTemplateMap pinnedFallback = none := by decide
    rw [noMap] at configured
    cases configured
  · exact absurd fallback (by decide)

def pinnedHint : SiteResolver.RuntimeRoutingHints :=
  ⟨some [(js "templateTxId", .str (js "tx-pinned"))], none⟩

/-- A host without hints, and one whose hints name the pin. -/
def keptRequests : List Request :=
  [rootRequest none, { rootRequest (some pinnedHint) with host := js "cafe.example" }]

/-- Without hints the fallback is served, and with hints that name it the same page. -/
theorem locked_release_serves_pinned_fallback :
    ServesPinned pagePlatform pinnedFallback keptRequests ∧
      (handleFrontControllerRequest pagePlatform pinnedFallback .empty (rootRequest none)).1 =
        .page ⟨js "page", js "text/html; charset=utf-8", some (js "tx-pinned"), pageDigest, .miss,
          some .default⟩ := by
  refine ⟨locked_release_serves_pinned pagePlatform pinnedFallback (by decide) keptRequests ?_,
    by decide⟩
  refine List.forall_mem_cons.mpr ⟨⟨?_, ?_⟩, List.forall_mem_singleton.mpr ⟨?_, ?_⟩⟩
  · intro record named
    cases named
  · intro _ inherited
    exact absurd inherited (by decide)
  · intro record named
    have pinned : record.txId = some (js "tx-pinned") := by
      obtain rfl := Option.some.inj (Except.ok.inj named)
      rfl
    exact ⟨js "tx-pinned", pinned, Or.inr (by decide)⟩
  · intro unhinted
    cases unhinted

end DarkmeshGateway.Gateway.LockedRelease
