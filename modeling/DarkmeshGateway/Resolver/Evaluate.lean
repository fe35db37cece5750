import DarkmeshGateway.Resolver.State

/-!
Contract: what the resolver decides about a query.

Owns proof payloads, the host, route and DNS proof decisions, the site and
process of a host, action hints, and the verdict on a query as a function of
the policies of its host.

Does not own the resolution cache or the messages that carry a query.
-/

namespace DarkmeshGateway.Resolver.Evaluate

open Foundation
open Foundation.Lua
open Resolver.Policies
open Resolver.State

/-! ### Proofs -/

def buildProofPayload (proofs : DnsProofs) (host : LuaString) : ProofPayload :=
  match proofs.find host with
  | none =>
      { dnsProofState := .unchecked
        dnsProofCheckedAt := none
        dnsProofValidUntil := none
        source := some (.str (lua "resolver-cache"))
        challengeRef := none }
  | some proof =>
      { dnsProofState := proof.state
        dnsProofCheckedAt := proof.checkedAt
        dnsProofValidUntil := proof.validUntil
        source := firstOf [proof.source, some (.str (lua "resolver-cache"))]
        challengeRef := proof.challengeRef }

/-! ### Decisions -/

/-- A condition that a mode lets pass under its own reason, or that is ready to
be denied and is when the resolver fails closed. -/
def evaluateCondition (failOpen : Bool) (mode : PolicyMode) (condition : String) :
    Decision × String :=
  match mode with
  | .off => (.allow, "ALLOW_" ++ condition ++ "_MODE_OFF")
  | .observe => (.allow, "ALLOW_" ++ condition ++ "_MODE_OBSERVE")
  | .soft | .enforce => (if failOpen then .allow else .deny, "DENY_READY_" ++ condition)

/-- `evaluate_dns_proof_decision` on a known host -/
def evaluateDnsProofDecision (failOpen : Bool) (mode : PolicyMode) (proofState : ProofState) :
    Decision × String :=
  match proofState with
  | .valid => (.allow, "ALLOW_DNS_PROOF_VALID")
  | .expired => evaluateCondition failOpen mode "DNS_PROOF_EXPIRED"
  | .missing => evaluateCondition failOpen mode "DNS_PROOF_MISSING"
  | .unchecked => evaluateCondition failOpen mode "DNS_PROOF_UNCHECKED"

/-- The decision on a host, mapped or not. The last branch of the source, for a
proof without a reason, is not reached: every proof state has one. -/
def evaluateMapping (unmapped : String) (failOpen : Bool) (mode : PolicyMode) (hostKnown : Bool)
    (proofState : ProofState) : Decision × String :=
  if hostKnown then evaluateDnsProofDecision failOpen mode proofState
  else evaluateCondition failOpen mode unmapped

def evaluateRouteDecision (failOpen : Bool) (mode : PolicyMode) (hostKnown : Bool)
    (proofState : ProofState) : Decision × String :=
  evaluateMapping "ROUTE_HOST_UNMAPPED" failOpen mode hostKnown proofState

def evaluateHostDecision (failOpen : Bool) (mode : PolicyMode) (hostKnown : Bool)
    (proofState : ProofState) : Decision × String :=
  evaluateMapping "HOST_UNMAPPED" failOpen mode hostKnown proofState

/-! ### Sites and processes -/

def inferSiteProcess (sites : SitePolicies) (host : LuaString) :
    Option HostPolicy → Option SiteInfo × Option ProcessInfo
  | none => (none, none)
  | some policy =>
      let site := sites.find policy.siteId
      (some
        { siteId := policy.siteId
          host
          status := (policy.status.or (site.bind SitePolicy.status)).getD (lua "unknown") },
      (processOf sites policy).map fun processId =>
        { processId
          moduleId := policy.moduleId.or (site.bind SitePolicy.moduleId)
          scheduler := policy.scheduler.or (site.bind SitePolicy.scheduler)
          routePrefix := policy.routePrefix.or (site.bind SitePolicy.routePrefix) })

/-! ### Action hints -/

def inferActionHint (path method : LuaString) : LuaString :=
  if method = lua "GET" ∨ method = lua "HEAD" then
    if startsWith path (lua "/~process@1.0/") ∨ startsWith path (lua "/~scheduler@1.0/") ∨
        startsWith path (lua "/~meta@1.0/") ∨ startsWith path (lua "/~relay@1.0/") then
      lua "control_plane"
    else lua "read"
  else if method = lua "OPTIONS" then lua "preflight"
  else lua "write"

def RouteRule.covers (rule : RouteRule) (path method : LuaString) : Bool :=
  startsWith path rule.pathPrefix && (rule.methods.elim true fun methods => methods.contains method)

/-- The hint for a route and where it comes from. -/
def resolveActionHint (sites : SitePolicies) (routes : RoutePolicies) (host path method : LuaString)
    (hostPolicy : Option HostPolicy) : LuaString × String :=
  let site := hostPolicy.bind fun policy => sites.find policy.siteId
  let routePolicy := routes.find host
  match routePolicy.bind fun policy => policy.rules.find? (RouteRule.covers · path method) with
  | some rule => (rule.actionHint, "route_policy_rule")
  | none =>
      match routePolicy.bind RoutePolicy.defaultActionHint with
      | some hint => (hint, "route_policy_default")
      | none =>
          match hostPolicy.bind HostPolicy.actionHint with
          | some hint => (hint, "host_policy")
          | none =>
              match site.bind SitePolicy.defaultActionHint with
              | some hint => (hint, "site_policy")
              | none => (inferActionHint path method, "inferred")

/-! ### Verdicts -/

def fallbackReason : String := "ERROR_INVALID_POLICY_MODE_FALLBACK"

def evaluateDecision (state : ResolverState) (query : Query) : Decision × String :=
  let hostKnown := (state.hostPolicies.find query.host).isSome
  let proofState := (buildProofPayload state.dnsProofState query.host).dnsProofState
  match query.subject with
  | .host => evaluateHostDecision state.failOpen query.mode hostKnown proofState
  | .route _ _ => evaluateRouteDecision state.failOpen query.mode hostKnown proofState

/-- The hint for the subject of a query; a host has none. -/
def subjectHint (state : ResolverState) (query : Query) : Option (LuaString × String) :=
  match query.subject with
  | .host => none
  | .route path method =>
      some (resolveActionHint state.sitePolicies state.routePolicies query.host path method
        (state.hostPolicies.find query.host))

/-- The verdict on a query. The reason tells a request whose mode was unknown. -/
def evaluate (state : ResolverState) (query : Query) (fallback : Bool) : Verdict :=
  let decided := evaluateDecision state query
  let inferred := inferSiteProcess state.sitePolicies query.host
    (state.hostPolicies.find query.host)
  { decision := decided.1
    reasonCode := if fallback then fallbackReason else decided.2
    mode := query.mode
    site := inferred.1
    process := inferred.2
    actionHint := (subjectHint state query).map Prod.fst }

/-! ### What a verdict depends on -/

/-- Two states hold the same policies, proof and fail-open flag for a host. -/
structure SameInputs (left right : ResolverState) (host : LuaString) : Prop where
  failOpen : left.failOpen = right.failOpen
  hostPolicy : left.hostPolicies.find host = right.hostPolicies.find host
  sitePolicy : ∀ policy, right.hostPolicies.find host = some policy →
    left.sitePolicies.find policy.siteId = right.sitePolicies.find policy.siteId
  routePolicy : left.routePolicies.find host = right.routePolicies.find host
  dnsProof : left.dnsProofState.find host = right.dnsProofState.find host

theorem SameInputs.evaluateDecision_eq {left right : ResolverState} {query : Query}
    (same : SameInputs left right query.host) :
    evaluateDecision left query = evaluateDecision right query := by
  unfold evaluateDecision buildProofPayload
  rw [same.failOpen, same.hostPolicy, same.dnsProof]

theorem SameInputs.inferSiteProcess_eq {left right : ResolverState} {host : LuaString}
    (same : SameInputs left right host) :
    inferSiteProcess left.sitePolicies host (left.hostPolicies.find host) =
      inferSiteProcess right.sitePolicies host (right.hostPolicies.find host) := by
  rw [same.hostPolicy]
  cases known : right.hostPolicies.find host with
  | none => rfl
  | some policy => simp only [inferSiteProcess, processOf, same.sitePolicy policy known]

theorem SameInputs.subjectHint_eq {left right : ResolverState} {query : Query}
    (same : SameInputs left right query.host) :
    subjectHint left query = subjectHint right query := by
  unfold subjectHint
  cases query.subject with
  | host => rfl
  | route path method =>
      have site : (right.hostPolicies.find query.host).bind
            (fun policy => left.sitePolicies.find policy.siteId) =
          (right.hostPolicies.find query.host).bind
            fun policy => right.sitePolicies.find policy.siteId := by
        cases known : right.hostPolicies.find query.host with
        | none => rfl
        | some policy => exact same.sitePolicy policy known
      simp only [resolveActionHint, same.hostPolicy, same.routePolicy, site]

/-- The verdict on a query depends on the policies of its host alone. -/
theorem SameInputs.evaluate_eq {left right : ResolverState} {query : Query}
    (same : SameInputs left right query.host) (fallback : Bool) :
    evaluate left query fallback = evaluate right query fallback := by
  unfold evaluate
  rw [same.evaluateDecision_eq, same.inferSiteProcess_eq, same.subjectHint_eq]

theorem evaluateCondition_reason (failOpen : Bool) (mode : PolicyMode) (condition : String) :
    (evaluateCondition failOpen mode condition).2.toList.head? ≠ some 'E' := by
  cases mode <;> simp [evaluateCondition]

/-- No decision on the policies is reported as a mode fallback. -/
theorem evaluateDecision_reason (state : ResolverState) (query : Query) :
    (evaluateDecision state query).2 ≠ fallbackReason := by
  have mapping : ∀ unmapped hostKnown proofState,
      (evaluateMapping unmapped state.failOpen query.mode hostKnown proofState).2.toList.head? ≠
        some 'E' := by
    intro unmapped hostKnown proofState
    cases hostKnown with
    | false => exact evaluateCondition_reason _ _ _
    | true =>
        cases proofState with
        | valid => simp [evaluateMapping, evaluateDnsProofDecision]
        | expired => exact evaluateCondition_reason _ _ _
        | missing => exact evaluateCondition_reason _ _ _
        | unchecked => exact evaluateCondition_reason _ _ _
  intro same
  have first : (evaluateDecision state query).2.toList.head? = some 'E' := by
    rw [same]
    rfl
  unfold evaluateDecision at first
  cases subject : query.subject with
  | host =>
      rw [subject] at first
      exact mapping _ _ _ first
  | route path method =>
      rw [subject] at first
      exact mapping _ _ _ first

/-- A verdict's reason tells whether the request's mode was unknown. -/
theorem evaluate_reason_iff (state : ResolverState) (query : Query) (fallback : Bool) :
    (evaluate state query fallback).reasonCode = fallbackReason ↔ fallback = true := by
  cases fallback with
  | false => simp [evaluate, evaluateDecision_reason]
  | true => simp [evaluate]

end DarkmeshGateway.Resolver.Evaluate
