import DarkmeshGateway.Gateway.Router

/-!
Contract: what a gateway under an accepted pause still does.

Owns the read-only effect of a request that is handled as paused, and that the
gateway is read-only over every interleaving of requests that start under a
pause in force.

Does not own how long a pause holds, which the policy cell decides, nor the
fetches of documents and the lookups of sites, which only read.
-/

namespace DarkmeshGateway.Gateway.PausedGateway

open Foundation
open Foundation.Js
open Foundation.Machine
open Foundation.Outcome
open Gateway.CacheCoherence
open Gateway.Environment
open Gateway.IntegrityIncident (readIntegrityCacheTtlMs)
open Gateway.IntegrityPolicy (Covered Holding InForce Progress RefreshResult covered_cons
  covered_of_cons holding_initial inForce_cons)
open Gateway.Router
open Gateway.TemplateActions
open Gateway.TemplateApi (Proxied refusal_eq_ok)

/-! ### Read-only effects -/

/-- No entry is new or changed, and no webhook event is marked as seen. -/
structure Retains (before after : Memory) : Prop where
  entries : ∀ key entry, after.cache.store.find key = some entry →
    before.cache.store.find key = some entry
  stores : after.stores = before.stores

theorem Retains.refl (memory : Memory) : Retains memory memory := ⟨fun _ _ found => found, rfl⟩

theorem Retains.trans {first second third : Memory} (earlier : Retains first second)
    (later : Retains second third) : Retains first third where
  entries key entry found := earlier.entries key entry (later.entries key entry found)
  stores := later.stores.trans earlier.stores

/-- The call is the one of a template action that reads. -/
def Reads : OutgoingCall → Prop
  | .backend request =>
      ∃ policy, getTemplateActionPolicy request.templateAction = some policy ∧ policy.kind = .read
  | .forget _ _ _ _ => False
  | .workerNotify _ _ => False
  | .sign _ => False

/-- What a request did is read-only. -/
structure ReadOnly (before : Memory) (effect : Memory × Outcome) : Prop where
  retains : Retains before effect.1
  reads : ∀ call ∈ effect.2.calls, Reads call

theorem ReadOnly.quiet (memory : Memory) {outcome : Outcome} (silent : outcome.calls = []) :
    ReadOnly memory (memory, outcome) :=
  ⟨.refl memory, by simp [silent]⟩

theorem ReadOnly.after {before middle : Memory} {effect : Memory × Outcome}
    (retains : Retains before middle) (readOnly : ReadOnly middle effect) :
    ReadOnly before effect :=
  ⟨retains.trans readOnly.retains, readOnly.reads⟩

section Requests

variable {platform : Platform} {memory : Memory} {context : IntegrityContext}
  {request : HttpRequest} {moment : Moment} {outside : Outside}

/-! ### The cache under a pause -/

theorem entry_readOnly (paused : context.state.paused = true) (key : JsString) :
    ReadOnly memory (serveEntry platform memory context request moment key) := by
  refine ⟨⟨?_, rfl⟩, by simp [serveEntry]⟩
  intro name entry found
  have untouched : cacheContext context = ⟨true, context.snapshot.map cacheSnapshot⟩ := by
    rw [cacheContext, paused]
  simp only [serveEntry, VerifiedCache.serve, untouched] at found
  split at found
  next => exact found
  next =>
    simp only [VerifiedCache.handleCache] at found
    split at found
    next => simpa [VerifiedCache.handleUpload] using found
    next => exact find_of_fetchEntry found
    next => exact found
    next => exact found

/-- A forget is turned away before it changes the cache. -/
theorem handleForget_paused (cachePlatform : VerifiedCache.Platform)
    {policy : VerifiedCache.IntegrityContext} (paused : policy.paused = true)
    (cache : Cache.CacheState) (cacheRequest : VerifiedCache.CacheRequest) (forwarded : Bool) :
    (VerifiedCache.handleForget cachePlatform policy cache cacheRequest forwarded).2 = cache ∧
      ∀ removed answered, (VerifiedCache.handleForget cachePlatform policy cache cacheRequest
        forwarded).1 ≠ .response (VerifiedCache.forgetResponse removed answered) := by
  unfold VerifiedCache.handleForget
  simp only [paused, if_true]
  split
  next => exact ⟨rfl, by simp [VerifiedCache.forgetResponse, VerifiedCache.respond]⟩
  next =>
    split
    next => exact ⟨rfl, by simp [VerifiedCache.forgetResponse, VerifiedCache.respond]⟩
    next =>
      exact ⟨rfl, by simp [VerifiedCache.forgetResponse, VerifiedCache.policyPausedResponse,
        VerifiedCache.respond]⟩

theorem forget_readOnly (paused : context.state.paused = true) :
    ReadOnly memory (serveForget platform memory context request outside) := by
  have pausedPolicy : (cacheContext context).paused = true := paused
  have turnedAway := fun forwarded => handleForget_paused (Router.cachePlatform platform)
    pausedPolicy memory.cache (cacheRequest request) forwarded
  constructor
  · refine ⟨?_, rfl⟩
    intro key entry found
    simpa only [serveForget, (turnedAway _).1] using found
  · intro call member
    simp only [serveForget, if_neg ((turnedAway _).2 _ _)] at member
    simp at member

/-! ### Template calls under a pause -/

/-- The actions that write are the ones the handler refuses under a pause. -/
theorem read_of_not_writeAction {action : JsString} {policy : TemplateActionPolicy}
    (found : getTemplateActionPolicy action = some policy)
    (other : action ∉ TemplateCall.templateWriteActions) : policy.kind = .read := by
  have listed : policy ∈ templateActionPolicies := List.mem_of_find?_eq_some found
  have named : policy.action = action := by simpa using List.find?_some found
  subst named
  simp only [templateActionPolicies, List.mem_cons, List.not_mem_nil, or_false] at listed
  rcases listed with rfl | rfl | rfl | rfl | rfl
  · rfl
  · rfl
  · rfl
  · exact absurd (by simp [TemplateCall.templateWriteActions]) other
  · exact absurd (by simp [TemplateCall.templateWriteActions]) other

theorem admitCall_policy {templatePlatform : TemplateApi.Platform} {env : Env}
    {contract : TemplateContract} {input : TemplateApi.TemplateCallInput}
    {admitted : TemplateApi.Admitted}
    (accepted : TemplateApi.admitCall templatePlatform env contract input = .ok admitted) :
    getTemplateActionPolicy input.action = some admitted.policy.policy := by
  simp only [TemplateApi.admitCall, bind_eq_ok, pure_eq_ok, refusal_eq_ok] at accepted
  obtain ⟨resolved, policyOk, -, -, _, -, -, _, -, _, -, _, -, _, -, rfl⟩ := accepted
  unfold TemplateApi.resolvePolicy at policyOk
  split at policyOk
  next => exact absurd policyOk TemplateApi.refuse_ne_ok
  next found =>
    obtain rfl := Except.ok.inj policyOk
    exact (getResolvedPolicy_eq_some found).1

theorem buildBackendRequest_action {templatePlatform : TemplateApi.Platform} {env : Env}
    {input : TemplateApi.TemplateCallInput} {admitted : TemplateApi.Admitted}
    {draws : TemplateApi.Draws} {requestId siteId : Option JsString} {body : Fields}
    {backend : TemplateApi.BackendRequest}
    (built : TemplateApi.buildBackendRequest templatePlatform env input admitted draws requestId
      siteId body = .ok backend) : backend.templateAction = input.action := by
  simp only [TemplateApi.buildBackendRequest, bind_eq_ok, refusal_eq_ok, pure_eq_ok] at built
  obtain ⟨_, -, -, _, -, rfl⟩ := built
  rfl

/-- A call that is read under a pause is not for an action that writes. -/
theorem readTemplateCall_paused {templatePlatform : TemplateApi.Platform} {env : Env}
    {lookup : JsString → SiteResolver.AoLookupResult} {call : TemplateCall.TemplateCallRequest}
    {host : JsString} {productionLike : Bool} {input : TemplateApi.TemplateCallInput}
    (read : TemplateCall.readTemplateCall templatePlatform env lookup call true host
      productionLike = .ok input) : input.action ∉ TemplateCall.templateWriteActions := by
  unfold TemplateCall.readTemplateCall at read
  cases resolution : SiteResolver.resolveTemplateSiteIdFromHost templatePlatform.parseJson env
      lookup host productionLike with
  | failed status error =>
      simp only [resolution, bind_eq_ok, refusal_eq_ok] at read
      obtain ⟨_, -, _, -, _, -, -, refused⟩ := read
      exact absurd refused TemplateApi.refuse_ne_ok
  | ok mapped runtimeHints =>
      simp only [resolution, bind_eq_ok, refusal_eq_ok, pure_eq_ok, Bool.true_and] at read
      obtain ⟨body, -, action, -, -, -, allowed, site, -, rfl⟩ := read
      simpa using allowed

/-- The calls of a template call for an action that does not write. -/
theorem proxyTemplateCall_reads {templatePlatform : TemplateApi.Platform} {env : Env}
    {contract : TemplateContract} {input : TemplateApi.TemplateCallInput}
    (other : input.action ∉ TemplateCall.templateWriteActions) (draws : TemplateApi.Draws)
    (signer : TemplateApi.SigningRequest → TemplateApi.SignerReply) :
    ∀ call ∈ proxiedCalls (TemplateApi.proxyTemplateCall templatePlatform env contract input draws
      signer), Reads call := by
  unfold TemplateApi.proxyTemplateCall
  split
  next => simp [proxiedCalls]
  next admitted accepted =>
    have resolved : getTemplateActionPolicy input.action = some admitted.policy.policy :=
      admitCall_policy accepted
    have read := read_of_not_writeAction resolved other
    rw [read]
    intro call member
    simp only [proxiedCalls, Option.map_none, Option.toList_none, List.nil_append] at member
    split at member
    next backend built =>
      obtain rfl := List.mem_singleton.mp member
      exact ⟨_, by rw [buildBackendRequest_action built, resolved], read⟩
    next => simp at member

theorem templateCall_readOnly (paused : context.state.paused = true) :
    ReadOnly memory (serveTemplateCall platform memory context request moment outside) := by
  unfold serveTemplateCall
  split
  next => exact .quiet memory rfl
  next =>
    unfold handleTemplateCall
    constructor
    · dsimp only
      split
      next => exact ⟨fun _ _ found => found, rfl⟩
      next => exact .refl memory
    · dsimp only
      rw [paused]
      unfold TemplateCall.handleTemplateCall
      split
      next => simp [proxiedCalls]
      next input read => exact proxyTemplateCall_reads (readTemplateCall_paused read) _ _

/-! ### Every route under a pause -/

theorem showPage_readOnly : ReadOnly memory (showPage platform memory request moment outside) := by
  unfold showPage
  split
  next => exact .quiet memory rfl
  next => exact ⟨⟨fun _ _ found => found, rfl⟩, by simp⟩

theorem sweepCache_retains : Retains memory (sweepCache memory moment) :=
  ⟨fun _ _ found => find_of_sweep found, rfl⟩

theorem serveMetrics_calls : (serveMetrics platform request).calls = [] := by
  unfold serveMetrics
  dsimp only
  split
  next => rfl
  next => split <;> rfl

theorem handleIntegrityState_calls :
    (handleIntegrityState platform context request).calls = [] := by
  unfold handleIntegrityState
  split
  next => rfl
  next => split <;> rfl

theorem handleTemplateConfig_calls :
    (handleTemplateConfig platform context request moment).calls = [] := by
  unfold handleTemplateConfig
  split
  next => rfl
  next => split <;> rfl

/-- A request that is handled as paused is read-only, on every route. -/
theorem serve_readOnly (paused : context.state.paused = true) :
    ReadOnly memory (serve platform memory context request moment outside) := by
  unfold serve
  cases routeOf request.pathname with
  | health => exact .quiet memory rfl
  | state => exact .quiet memory handleIntegrityState_calls
  | incident => exact .quiet memory rfl
  | forget => exact forget_readOnly paused
  | entry key => exact entry_readOnly paused key
  | inbox =>
      simp only [serveInbox, paused, if_true]
      split
      next => exact .quiet memory rfl
      next => exact .quiet memory rfl
  | templateCall => exact templateCall_readOnly paused
  | templateConfig => exact .quiet memory handleTemplateConfig_calls
  | frontController =>
      simp only [serveFrontController]
      split
      next => exact .quiet memory rfl
      next => exact showPage_readOnly
  | metrics => exact .quiet memory serveMetrics_calls
  | webhook provider =>
      simp only [serveWebhook, paused, if_true]
      exact .quiet memory rfl
  | demoForward =>
      simp only [serveDemoForward, paused, if_true]
      exact .quiet memory rfl
  | root =>
      dsimp only
      split
      next => exact .after sweepCache_retains showPage_readOnly
      next => exact .after sweepCache_retains (.quiet _ rfl)
  | unknown => exact .after sweepCache_retains (.quiet _ rfl)

end Requests

/-! ### Requests that start under a pause -/

/-- Pauses hold, and a request that started under one in force and has its
policy resolved is handled as paused. -/
structure Guarded (deployment : IntegrityPolicy.Deployment) (policy : IntegrityPolicy.System) :
    Prop extends Holding deployment policy where
  answered : ∀ id context, policy.requests id = some (.resolved context) →
    Covered (readIntegrityCacheTtlMs deployment.env) policy.history id →
      context.state.paused = true

theorem guarded_initial (deployment : IntegrityPolicy.Deployment) :
    Guarded deployment IntegrityPolicy.initial where
  toHolding := holding_initial deployment
  answered id context present := by simp [IntegrityPolicy.initial] at present

theorem Guarded.advance {deployment : IntegrityPolicy.Deployment} {policy : IntegrityPolicy.System}
    {now : Int} (guarded : Guarded deployment policy) (order : policy.clock ≤ now) :
    Guarded deployment { policy with clock := now } where
  toHolding := guarded.toHolding.advance order
  answered := guarded.answered

section Policy

variable {deployment : IntegrityPolicy.Deployment} {policy next : IntegrityPolicy.System}

/-- A request that leaves its resolved policy behind, while no request starts. -/
theorem Guarded.leaves (guarded : Guarded deployment policy) {id : Nat} {progress : Progress}
    (settled : ∀ context, progress ≠ .resolved context)
    (requests : next.requests = Function.update policy.requests id (some progress))
    (history : ∀ other, Covered (readIntegrityCacheTtlMs deployment.env) next.history other →
      Covered (readIntegrityCacheTtlMs deployment.env) policy.history other)
    (other : Nat) (context : IntegrityIncident.IntegrityContext)
    (present : next.requests other = some (.resolved context))
    (covered : Covered (readIntegrityCacheTtlMs deployment.env) next.history other) :
    context.state.paused = true := by
  rw [requests] at present
  rcases update_eq_some present with ⟨-, same⟩ | ⟨-, before⟩
  · exact absurd same.symm (settled context)
  · exact guarded.answered other context before (history other covered)

theorem put_requests (policy : IntegrityPolicy.System) (id : Nat) (progress : Progress) :
    (policy.put id progress).requests = Function.update policy.requests id (some progress) := rfl

theorem observeAction_requests (policy : IntegrityPolicy.System) (now : Int)
    (action : IntegrityIncident.IncidentAction) :
    (IntegrityPolicy.observeAction policy now action).requests = policy.requests := by
  cases action <;> rfl

/-- A processed incident resolves no policy and starts no request. -/
theorem handleIncident_settles (policy : IntegrityPolicy.System) (id : Nat) (now : Int)
    (request : IntegrityIncident.IncidentRequest) (context : IntegrityIncident.IntegrityContext)
    (ttl : Int) :
    ∃ progress : Progress, (∀ other, progress ≠ .resolved other) ∧
      (IntegrityPolicy.handleIncident deployment policy id now request context).requests =
        Function.update policy.requests id (some progress) ∧
      ∀ other, Covered ttl
        (IntegrityPolicy.handleIncident deployment policy id now request context).history other →
          Covered ttl policy.history other := by
  unfold IntegrityPolicy.handleIncident
  split
  next refusal => exact ⟨_, by simp, rfl, fun _ covered => covered⟩
  next incident checked =>
    split
    next => exact ⟨_, by simp, rfl, fun _ covered => covered⟩
    next shared processed =>
      have observed (other : Nat) (covered : Covered ttl (IntegrityPolicy.observeAction
          { policy with shared } now incident.action).history other) :
          Covered ttl policy.history other := by
        cases action : incident.action with
        | report => simpa [IntegrityPolicy.observeAction, action] using covered
        | ack => simpa [IntegrityPolicy.observeAction, action] using covered
        | pause =>
            rw [action] at covered
            exact covered_of_cons (by simp) covered
        | resume =>
            rw [action] at covered
            exact covered_of_cons (by simp) covered
      dsimp only
      split
      next =>
        exact ⟨.notifying incident, by simp, by rw [put_requests, observeAction_requests], observed⟩
      next => exact ⟨.answered _, by simp, by rw [put_requests, observeAction_requests], observed⟩

/-- A request that starts under a pause in force meets the paused cell. -/
theorem Guarded.start_answered (guarded : Guarded deployment policy) {id : Nat}
    (fresh : policy.requests id = none) (other : Nat)
    (context : IntegrityIncident.IntegrityContext)
    (present : (IntegrityPolicy.start policy id policy.clock).requests other =
      some (.resolved context))
    (covered : Covered (readIntegrityCacheTtlMs deployment.env)
      (IntegrityPolicy.start policy id policy.clock).history other) :
    context.state.paused = true := by
  have unstarted : ¬Covered (readIntegrityCacheTtlMs deployment.env) policy.history id := by
    intro earlier
    obtain ⟨startedAt, member⟩ := earlier.started
    exact guarded.started id startedAt member fresh
  unfold IntegrityPolicy.start at present covered
  dsimp only at present covered
  split at present
  next unexpired =>
    rw [if_pos unexpired] at covered
    have begun : Covered (readIntegrityCacheTtlMs deployment.env)
        (.started id policy.clock :: policy.history) other :=
      covered_of_cons (by simp) covered
    rcases update_eq_some present with ⟨rfl, same⟩ | ⟨different, before⟩
    · obtain rfl := Progress.resolved.inj same
      rcases covered_cons begun with ⟨startedAt, started, force⟩ | earlier
      · obtain ⟨-, rfl⟩ := IntegrityPolicy.Observation.started.inj started
        exact (guarded.live _ (le_refl _) force).1
      · exact absurd earlier unstarted
    · apply guarded.answered other context before
      apply covered_of_cons _ begun
      intro startedAt started
      exact different (IntegrityPolicy.Observation.started.inj started).1.symm
  next expired =>
    rw [if_neg expired] at covered
    rcases update_eq_some present with ⟨-, same⟩ | ⟨different, before⟩
    · cases same
    · apply guarded.answered other context before
      apply covered_of_cons _ covered
      intro startedAt started
      exact different (IntegrityPolicy.Observation.started.inj started).1.symm

/-- No request that refreshes started under a pause in force. -/
theorem Guarded.refresh_answered (guarded : Guarded deployment policy) {id : Nat} {startedAt : Int}
    (refreshing : policy.requests id = some (.refreshing startedAt)) (result : RefreshResult)
    (other : Nat) (context : IntegrityIncident.IntegrityContext)
    (present : (IntegrityPolicy.finishRefresh deployment policy id startedAt result).requests
      other = some (.resolved context))
    (covered : Covered (readIntegrityCacheTtlMs deployment.env)
      (IntegrityPolicy.finishRefresh deployment policy id startedAt result).history other) :
    context.state.paused = true := by
  have earlier : Covered (readIntegrityCacheTtlMs deployment.env) policy.history other :=
    covered_of_cons (by simp) covered
  rcases update_eq_some present with ⟨rfl, -⟩ | ⟨-, before⟩
  · exact absurd earlier (guarded.uncovered other startedAt refreshing)
  · exact guarded.answered other context before earlier

/-- A step in which no refresh ends under a pause keeps the requests guarded. -/
theorem Guarded.step (guarded : Guarded deployment policy) {event : IntegrityPolicy.Event}
    (clear : IntegrityPolicy.RefreshesClear deployment policy event)
    (stepped : IntegrityPolicy.step deployment policy event = some next) :
    Guarded deployment next where
  toHolding := guarded.toHolding.step clear stepped
  answered := by
    unfold IntegrityPolicy.step at stepped
    split at stepped
    next order =>
      have ready := guarded.advance order
      cases event with
      | start id now =>
          simp only [IntegrityPolicy.act] at stepped
          split at stepped
          next fresh =>
            obtain rfl := Option.some.inj stepped
            exact ready.start_answered fresh
          next => cases stepped
      | refreshDone id now result =>
          simp only [IntegrityPolicy.act] at stepped
          split at stepped
          next startedAt present =>
            obtain rfl := Option.some.inj stepped
            exact ready.refresh_answered present result
          next => cases stepped
      | incident id now request =>
          simp only [IntegrityPolicy.act] at stepped
          split at stepped
          next context present =>
            obtain rfl := Option.some.inj stepped
            obtain ⟨progress, settled, requests, history⟩ := handleIncident_settles
              { policy with clock := now } id now request context
              (readIntegrityCacheTtlMs deployment.env)
            exact ready.leaves settled requests history
          next => cases stepped
      | notifyDone id now ok =>
          simp only [IntegrityPolicy.act] at stepped
          split at stepped
          next incident present =>
            obtain rfl := Option.some.inj stepped
            unfold IntegrityPolicy.finishNotify
            split
            next => exact ready.leaves (by simp) rfl fun _ covered => covered
            next => exact ready.leaves (by simp) rfl fun _ covered => covered
          next => cases stepped
    next => cases stepped

end Policy

/-! ### Runs of the gateway -/

/-- No refresh ends while an accepted pause is in force. -/
def RefreshesClear (platform : Platform) (system : System) : Event → Prop
  | .refreshDone _ now _ =>
      ¬InForce (readIntegrityCacheTtlMs platform.env) system.policy.history now
  | _ => True

/-- A request that is served, and is no incident, started under a pause in force. -/
def ServesCovered (platform : Platform) (system : System) : Event → Prop
  | .serve id _ request _ _ => routeOf request.pathname ≠ .incident →
      Covered (readIntegrityCacheTtlMs platform.env) system.policy.history id
  | _ => True

/-- Between two states the gateway was read-only: in its memory, and in every
outcome since. -/
structure HeldReadOnly (before after : System) : Prop where
  retains : Retains before.memory after.memory
  outcomes : ∀ id outcome, after.outcomes id = some outcome →
    before.outcomes id = some outcome ∨ ∀ call ∈ outcome.calls, Reads call

section Runs

variable {platform : Platform} {system next : System} {event : Event}

/-- The policy moves by a step of its own, or only its clock goes on. -/
theorem step_guarded (guarded : Guarded (deployment platform) system.policy)
    (clear : RefreshesClear platform system event)
    (stepped : step platform system event = some next) :
    Guarded (deployment platform) next.policy := by
  cases event with
  | start id now =>
      obtain ⟨policy, moved, rfl⟩ := Option.map_eq_some_iff.mp stepped
      refine guarded.step ?_ moved
      trivial
  | refreshDone id now refresh =>
      obtain ⟨policy, moved, rfl⟩ := Option.map_eq_some_iff.mp stepped
      refine guarded.step ?_ moved
      exact clear
  | notifyDone id now ok =>
      obtain ⟨policy, moved, rfl⟩ := Option.map_eq_some_iff.mp stepped
      refine guarded.step ?_ moved
      trivial
  | serve id now request moment outside =>
      rcases step_serve stepped with ⟨-, policy, moved, rfl⟩ | ⟨-, -, order, effect, -, rfl⟩
      · refine guarded.step ?_ moved
        trivial
      · exact guarded.advance order

theorem finish_readOnly (id : Nat) (now : Int) {effect : Memory × Outcome}
    (readOnly : ReadOnly system.memory effect) : HeldReadOnly system (system.finish id now effect)
    where
  retains := readOnly.retains
  outcomes other outcome found := by
    rcases update_eq_some found with ⟨-, rfl⟩ | ⟨-, before⟩
    · exact Or.inr readOnly.reads
    · exact Or.inl before

/-- A step in which only a covered request is served is read-only. -/
theorem step_readOnly (guarded : Guarded (deployment platform) system.policy)
    (covered : ServesCovered platform system event)
    (stepped : step platform system event = some next) : HeldReadOnly system next := by
  have unserved {policy : IntegrityPolicy.System} {snapshot : Option IntegrityRecords.IntegritySnapshot}
      {snapshots : Nat → Option IntegrityRecords.IntegritySnapshot} :
      HeldReadOnly system { system with policy, snapshot, snapshots } :=
    ⟨.refl _, fun _ _ found => Or.inl found⟩
  cases event with
  | start id now =>
      obtain ⟨policy, -, rfl⟩ := Option.map_eq_some_iff.mp stepped
      exact unserved
  | refreshDone id now refresh =>
      obtain ⟨policy, -, rfl⟩ := Option.map_eq_some_iff.mp stepped
      exact unserved
  | notifyDone id now ok =>
      obtain ⟨policy, -, rfl⟩ := Option.map_eq_some_iff.mp stepped
      exact unserved
  | serve id now request moment outside =>
      rcases step_serve stepped with ⟨-, policy, -, rfl⟩ | ⟨notIncident, -, -, effect, answered, rfl⟩
      · exact unserved
      · apply finish_readOnly id now
        cases answered with
        | health asked => exact .quiet system.memory rfl
        | route context resolved behind =>
            apply serve_readOnly
            unfold contextOf at resolved
            split at resolved
            next known present =>
              obtain rfl := Option.some.inj resolved
              exact guarded.answered id known present (covered notIncident)
            next => cases resolved

end Runs

theorem HeldReadOnly.refl (system : System) : HeldReadOnly system system :=
  ⟨.refl _, fun _ _ found => Or.inl found⟩

theorem HeldReadOnly.trans {first second third : System} (earlier : HeldReadOnly first second)
    (later : HeldReadOnly second third) : HeldReadOnly first third where
  retains := earlier.retains.trans later.retains
  outcomes id outcome found := by
    rcases later.outcomes id outcome found with before | reads
    · exact earlier.outcomes id outcome before
    · exact Or.inr reads

/-- Over every interleaving in which no refresh ends under a pause, the gateway
is read-only for as long as every request that it serves started under an
accepted pause in force. -/
theorem paused_gateway_read_only {platform : Platform} {before held : List Event}
    {system final : System} (reached : run (step platform) initial before = some system)
    (continued : run (step platform) system held = some final)
    (clear : Meets (step platform) (RefreshesClear platform) initial (before ++ held))
    (covered : Meets (step platform) (ServesCovered platform) system held) :
    HeldReadOnly system final := by
  have guarded : Guarded (deployment platform) system.policy :=
    run_invariant (fun state => Guarded (deployment platform) state.policy) step_guarded
      (guarded_initial _) clear.before reached
  have stillClear := clear.after reached
  clear clear reached
  induction held generalizing system with
  | nil =>
      obtain rfl : system = final := by simpa using continued
      exact .refl system
  | cons event rest inductionHypothesis =>
      obtain ⟨next, stepped, onwards⟩ := run_cons_eq_some.mp continued
      exact (step_readOnly guarded covered.1 stepped).trans
        (inductionHypothesis onwards (covered.2 next stepped)
          (step_guarded guarded stillClear.1 stepped) (stillClear.2 next stepped))

/-! ### A paused gateway -/

/-- A gateway whose incident token is set. -/
def pausableGateway : Platform :=
  quietPlatform
    (fun name =>
      if name = "GATEWAY_INTEGRITY_INCIDENT_TOKEN" then some (js "incident-token") else none)
    IntegrityPolicy.pausableGateway.parseJson

/-- A request with the incident token. -/
def request (method path body : String) : HttpRequest where
  method := js method
  pathname := js path
  host := js "gateway"
  searchParams := []
  headers name := if name = js "authorization" then some (js "Bearer incident-token") else none
  body := (js body).map (·.toUInt8)

/-- An upload, and a pause behind it. -/
def pausedRun : List Event :=
  [.start 0 1000, .refreshDone 0 1001 (.fetched openSnapshot),
    quietServe 0 1002 (request "PUT" "/cache/index" "tpl"), .start 1 1003,
    quietServe 1 1004 (request "POST" "/integrity/incident"
      "\x7b\"event\":\"manual-freeze\",\"action\":\"pause\"\x7d")]

/-- An upload for the same key under the pause. -/
def heldRun : List Event :=
  [.start 2 2000, quietServe 2 2001 (request "PUT" "/cache/index" "other")]

set_option maxRecDepth 20000 in
theorem paused_gateway_read_only_upload :
    ∃ system final, run (step pausableGateway) initial pausedRun = some system ∧
      run (step pausableGateway) system heldRun = some final ∧ HeldReadOnly system final ∧
        system.memory.cache.store.keys = [js "index"] ∧
          final.outcomes 2 = some pausedOutcome := by
  refine ⟨_, _, rfl, rfl, ?_, rfl, rfl⟩
  refine @paused_gateway_read_only pausableGateway pausedRun heldRun _ _ rfl rfl ?_ ?_
  · apply Meets.cons rfl trivial
    apply Meets.cons rfl
    · intro force
      rcases inForce_cons force with ⟨acceptedAt, impossible, -⟩ | ⟨-, since, _, _, same, -⟩
      · cases impossible
      · simp [initial, IntegrityPolicy.initial] at same
    apply Meets.cons rfl trivial
    apply Meets.cons rfl trivial
    apply Meets.cons rfl trivial
    apply Meets.cons rfl trivial
    apply Meets.cons rfl trivial
    trivial
  · apply Meets.cons rfl trivial
    apply Meets.cons rfl
    · intro _
      exact ⟨[.handled 2 true], 2000, _, rfl, [], 1004, _, rfl, by simp, by decide⟩
    trivial

end DarkmeshGateway.Gateway.PausedGateway
