import DarkmeshGateway.AsyncWorker.RefreshSoundness

/-!
Contract: which refreshes may change what a domain serves.

Owns the law on valid entries and on dry runs, and the requests that keep it:
the flag of a dry run is not read again when the outcome is persisted.

Does not own the meaning of a verified assertion.
-/

namespace DarkmeshGateway.AsyncWorker.RefreshFrame

open Foundation.Js
open AsyncWorker.ConfigSignature (Platform)
open AsyncWorker.DomainMap
open AsyncWorker.DomainState
open AsyncWorker.Refresh
open AsyncWorker.RefreshSoundness

/-! ### The law -/

/-- A put makes an entry valid with a target it did not serve before. -/
def NewTarget (store : Store) (domain : JsString) (nowMs : Int) (put : Put) : Prop :=
  put.entry.status = .valid ∧
    ∀ stored, getDomainMapEntry store domain nowMs = some (some stored) →
      stored.status = .valid → stored.resolvedTarget ≠ put.entry.resolvedTarget

/-- The steps of a refresh that succeeded, that was not a dry run, whose probe
did not fail and whose assertion, when required, verified. -/
def FullyChecked (platform : Platform) (env : Env) (input : DomainRefreshRequest)
    (answers : Answers) : Prop :=
  input.dryRun = false ∧ ∃ result, runDomainRefresh platform env input answers = .ok result ∧
    result.hbProbe.status ≠ .failed ∧
    (result.routeAssertion.required = true → result.routeAssertion.status = .ok)

/-- Only a fully checked refresh gives a domain a new target, and a dry run
leaves the domain map as it was. -/
structure Lawful (platform : Platform) (env : Env) (input : DomainRefreshRequest)
    (answers : Answers) (store : Store) (persistence : PersistenceAnswers) : Prop where
  newTarget : ∀ domain, normalizeDomain (some (.str input.domain)) = .ok domain →
    ∀ put ∈ (runDomainRefreshTracked platform env input answers store persistence).puts,
      NewTarget store domain persistence.successNowMs put →
        FullyChecked platform env { input with domain } answers
  dryRun : input.dryRun = true →
    Store.putAll store
      (runDomainRefreshTracked platform env input answers store persistence).puts = store

/-! ### Wet runs -/

/-- A refresh that is not a dry run was fully checked when it succeeded. -/
theorem fullyChecked_of_wet {platform : Platform} {env : Env} {input : DomainRefreshRequest}
    {answers : Answers} {result : RefreshResult} (wet : input.dryRun = false)
    (succeeded : runDomainRefresh platform env input answers = .ok result) :
    FullyChecked platform env input answers := by
  obtain ⟨domain, txtPayload, envelope, configRaw, identity, steps⟩ :=
    runDomainRefresh_steps succeeded
  have notDry : ¬input.dryRun = true := by simp [wet]
  refine ⟨wet, result, succeeded, fun failed => notDry (steps.probed failed), ?_⟩
  intro required
  obtain ⟨hbHost, same⟩ := steps.assertion
  have notSkipped : result.routeAssertion.status ≠ .skipped := by
    rw [same] at required ⊢
    exact verifyRouteAssertion_required required
  cases status : result.routeAssertion.status with
  | ok => rfl
  | failed => exact absurd (steps.asserted status required) notDry
  | skipped => exact absurd status notSkipped

theorem newTarget_of_wet {platform : Platform} {env : Env} {input : DomainRefreshRequest}
    {answers : Answers} {store : Store} {persistence : PersistenceAnswers} {put : Put}
    {domain : JsString} (wet : input.dryRun = false)
    (normal : normalizeDomain (some (.str input.domain)) = .ok domain)
    (persisted : put ∈
      (runDomainRefreshTracked platform env input answers store persistence).puts)
    (valid : put.entry.status = .valid) :
    FullyChecked platform env { input with domain } answers := by
  obtain ⟨found, result, -, foundNormal, refreshed, -⟩ :=
    runDomainRefreshTracked_valid persisted valid
  have same : domain = found := Except.ok.inj (normal.symm.trans foundNormal)
  subst same
  exact fullyChecked_of_wet wet refreshed

/-! ### Dry runs -/

/-- Without an earlier entry and with a working store an outcome is always put. -/
theorem persistOutcome_empty {domain : JsString} (host : normalizeDomainHost domain = some domain)
    (outcome : DomainRefreshOutcome) (env : Env) (nowMs : Int) :
    ∃ put, persistOutcome Store.empty domain outcome env nowMs {} = ⟨[put], false⟩ := by
  have key : domainMapKey domain = some (js "domain:" ++ domain) := by
    rw [domainMapKey, host, Option.map_some]
  have read : getDomainMapEntry Store.empty domain nowMs = some none := by
    simp [getDomainMapEntry, key, Store.empty]
  obtain ⟨entry, applied, sameHost⟩ : ∃ entry, applyRefreshOutcome none outcome domain nowMs
      (domainStateOptionsFromEnv env) = some entry ∧ entry.host = domain := by
    have created : createEmptyDomainMapEntry domain nowMs = some (emptyEntry domain nowMs) := by
      rw [createEmptyDomainMapEntry, host, Option.map_some]
    have routed := applyHardExpiry_routing (emptyEntry domain nowMs) nowMs
    simp only [applyRefreshOutcome, startingEntry, Option.none_or, created, Option.map_some]
    cases outcome with
    | success success => exact ⟨_, rfl, routed.host⟩
    | failure error => exact ⟨_, rfl, routed.host⟩
  refine ⟨⟨js "domain:" ++ domain, entry⟩, ?_⟩
  simp [persistOutcome, read, applied, sameHost, key]

private theorem putAll_empty_ne (put : Put) : Store.putAll Store.empty [put] ≠ Store.empty := by
  intro unchanged
  have atKey := congrFun unchanged put.key
  simp [Store.putAll, DomainMap.Store.put, Store.empty] at atKey

/-- A working store is written by every refresh of a domain it does not know. -/
theorem tracked_writes (platform : Platform) {env : Env} {input : DomainRefreshRequest}
    {domain : JsString} (normal : normalizeDomain (some (.str input.domain)) = .ok domain)
    (bound : env.domainMapKv = true) (answers : Answers) (nowMs : Int) :
    ∃ put, (runDomainRefreshTracked platform env input answers Store.empty
      { successNowMs := nowMs, failureNowMs := nowMs }).puts = [put] := by
  have host := normalizeDomain_host normal
  cases refreshed : runDomainRefresh platform env { input with domain } answers with
  | ok result =>
      obtain ⟨put, written⟩ := persistOutcome_empty host
        (.success (successOutcome result nowMs)) env nowMs
      rw [← runDomainRefresh_domain normal refreshed, ← persistDomainRefreshSuccess] at written
      rw [runDomainRefreshTracked_written normal bound refreshed (by rw [written]), written]
      exact ⟨put, rfl⟩
  | error failure =>
      obtain ⟨put, written⟩ := persistOutcome_empty host
        (.failure (failureOutcome failure nowMs)) env nowMs
      rw [runDomainRefreshTracked_error normal bound refreshed, persistDomainRefreshFailure,
        written]
      exact ⟨put, rfl⟩

/-! ### The requests that keep the law -/

/-- The law holds for every state and behaviour of the store exactly when the
request is not a dry run, or nothing can be persisted: the domain is refused
or no domain map is bound. -/
theorem refresh_lawful_iff (platform : Platform) (env : Env) (input : DomainRefreshRequest)
    (answers : Answers) :
    (∀ store persistence, Lawful platform env input answers store persistence) ↔
      input.dryRun = false ∨ (∀ domain, normalizeDomain (some (.str input.domain)) ≠ .ok domain) ∨
        env.domainMapKv = false := by
  constructor
  · intro lawful
    by_contra outside
    simp only [not_or, Bool.not_eq_false, not_forall, not_not] at outside
    obtain ⟨dry, ⟨domain, normal⟩, bound⟩ := outside
    obtain ⟨put, written⟩ := tracked_writes platform normal bound answers 0
    have unchanged := (lawful Store.empty { successNowMs := 0, failureNowMs := 0 }).dryRun dry
    rw [written] at unchanged
    exact putAll_empty_ne put unchanged
  · intro condition store persistence
    rcases condition with wet | unwritten
    · refine ⟨?_, fun dry => absurd dry (by simp [wet])⟩
      intro domain normal put persisted target
      exact newTarget_of_wet wet normal persisted target.1
    · have noPut (put : Put) :
          put ∉ (runDomainRefreshTracked platform env input answers store persistence).puts := by
        intro persisted
        obtain ⟨bound, domain, normal, -⟩ := runDomainRefreshTracked_put persisted
        rcases unwritten with refused | unbound
        · exact refused domain normal
        · simp [unbound] at bound
      refine ⟨fun _ _ put persisted => absurd persisted (noPut put), fun _ => ?_⟩
      rw [List.eq_nil_iff_forall_not_mem.mpr noPut]
      rfl

/-- A dry run whose probe times out puts a valid entry. -/
theorem dry_run_persists :
    ¬Lawful alphaPlatform alphaEnv
      { domain := js "shop.example", dryRun := true, hbProbeUrl := some (js "https://hb.example/") }
      { alphaAnswers with probe := fun _ => .ok ⟨.failed, some "hb_probe_timeout", none⟩ }
      Store.empty { successNowMs := 1750000000000, failureNowMs := 1750000000000 } := by
  intro lawful
  have unchanged := congrFun (lawful.dryRun rfl) (js "domain:shop.example")
  have written := congrArg Option.isSome unchanged
  exact absurd written (by decide +kernel)

end DarkmeshGateway.AsyncWorker.RefreshFrame
