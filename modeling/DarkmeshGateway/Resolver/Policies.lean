import DarkmeshGateway.Resolver.Normalize

/-!
Contract: the policy tables of the resolver.

Owns host, site, route and DNS proof policies, how a bundle's tables are
normalised into them, and the check that every host has a process.

Does not own which policies are in force.
-/

namespace DarkmeshGateway.Resolver.Policies

open Foundation
open Foundation.Lua
open Resolver.Normalize

/-! ### Tables -/

/-- An entry of `hostPolicies`. Bundles never set an action hint. -/
structure HostPolicy where
  siteId : LuaString
  processId : Option LuaString
  moduleId : Option LuaString
  scheduler : Option LuaString
  routePrefix : Option LuaString
  status : Option LuaString
  actionHint : Option LuaString := none
deriving DecidableEq

/-- An entry of `sitePolicies`. Bundles never set a default action hint. -/
structure SitePolicy where
  processId : Option LuaString
  moduleId : Option LuaString
  scheduler : Option LuaString
  routePrefix : Option LuaString
  status : Option LuaString
  defaultActionHint : Option LuaString := none
deriving DecidableEq

/-- A rule of a route policy; `none` admits every method. -/
structure RouteRule where
  pathPrefix : LuaString
  methods : Option (List LuaString)
  actionHint : LuaString
deriving DecidableEq

structure RoutePolicy where
  defaultActionHint : Option LuaString
  rules : List RouteRule
deriving DecidableEq

inductive ProofState where
  | valid
  | expired
  | missing
  | unchecked
deriving DecidableEq, Repr

structure DnsProof where
  state : ProofState
  checkedAt : Option Value
  validUntil : Option Value
  source : Option Value
  challengeRef : Option Value

abbrev HostPolicies := OrderedMap LuaString HostPolicy
abbrev SitePolicies := OrderedMap LuaString SitePolicy
abbrev RoutePolicies := OrderedMap LuaString RoutePolicy
abbrev DnsProofs := OrderedMap LuaString DnsProof

/-! ### Normalisation -/

/-- The entries of a table folded into a policy table, in the order of `pairs`.
Entries that are not tables are skipped. -/
def normalizeEntries {α : Type} (entry : Key → Entries → Except LuaString (LuaString × α)) :
    Entries → OrderedMap LuaString α → Except LuaString (OrderedMap LuaString α)
  | [], out => .ok out
  | (key, .table spec) :: rest, out =>
      match entry key spec with
      | .error failure => .error failure
      | .ok (name, policy) => normalizeEntries entry rest (out.set name policy)
  | _ :: rest, out => normalizeEntries entry rest out

/-- A policy table of a bundle: absent, not a table, or normalised entry by entry. -/
def normalizeTable {α : Type} (name : String)
    (entry : Key → Entries → Except LuaString (LuaString × α)) :
    Option Value → Except LuaString (Option (OrderedMap LuaString α))
  | none => .ok none
  | some (.table input) => (normalizeEntries entry input .empty).map some
  | some _ => invalidType (lua name)

/-- The process, module and scheduler identifiers and the route prefix of an entry. -/
structure ProcessFields where
  processId : Option LuaString
  moduleId : Option LuaString
  scheduler : Option LuaString
  routePrefix : Option LuaString

def normalizeProcessFields (platform : Platform) (spec : Entries) :
    Except LuaString ProcessFields := do
  let processId ← normalizeProcessIdentifier platform
    (anyField spec ["processId", "Process-Id", "process_id"]) (lua "Process-Id")
  let moduleId ← normalizeProcessIdentifier platform
    (anyField spec ["moduleId", "Module-Id", "module_id"]) (lua "Module-Id")
  let scheduler ← normalizeProcessIdentifier platform
    (anyField spec ["scheduler", "Scheduler-Id", "scheduler_id"]) (lua "Scheduler-Id")
  match anyField spec ["routePrefix", "Route-Prefix", "route_prefix"] with
  | none => return ⟨processId, moduleId, scheduler, none⟩
  | some raw =>
      let routePrefix ← normalizePath platform (.str (platform.tostring raw)) (lua "Route-Prefix")
      return ⟨processId, moduleId, scheduler, some routePrefix⟩

/-- The trimmed status of an entry, rejected with `blank` when it is blank. -/
def normalizeStatus (platform : Platform) (spec : Entries) (blank : LuaString) :
    Except LuaString (Option LuaString) :=
  match field spec "status" with
  | none => .ok none
  | some raw => do
      let status := trim (platform.tostring raw)
      platform.checkLength (.str status) 64 (lua "status")
      if status = [] then throw blank
      return some status

def normalizeHostEntry (platform : Platform) (key : Key) (spec : Entries) :
    Except LuaString (LuaString × HostPolicy) := do
  let host ← normalizeHost platform key.value (lua "hostPolicies")
  let raw ← (anyField spec ["siteId", "Site-Id", "site_id"]).elim
    (throw (lua "missing_field:hostPolicies.siteId:" ++ host)) pure
  let siteId := trim (platform.tostring raw)
  platform.checkLength (.str siteId) 128 (lua "Site-Id")
  if siteId = [] then throw (lua "invalid_format:Site-Id:" ++ host)
  let process ← normalizeProcessFields platform spec
  let status ← normalizeStatus platform spec (lua "invalid_format:status:" ++ host)
  return (host, { siteId, processId := process.processId, moduleId := process.moduleId,
                  scheduler := process.scheduler, routePrefix := process.routePrefix, status })

def normalizeSiteEntry (platform : Platform) (key : Key) (spec : Entries) :
    Except LuaString (LuaString × SitePolicy) := do
  let named := firstOf [anyField spec ["siteId", "Site-Id", "site_id"], some key.value]
  let siteId := (named.map platform.tostring).getD []
  platform.checkLength (.str siteId) 128 (lua "Site-Id")
  if siteId = [] then throw (lua "invalid_format:Site-Id")
  let process ← normalizeProcessFields platform spec
  let status ← normalizeStatus platform spec (lua "invalid_format:status")
  return (siteId, { processId := process.processId, moduleId := process.moduleId,
                    scheduler := process.scheduler, routePrefix := process.routePrefix, status })

def parseProofState (text : LuaString) : ProofState :=
  if text = lua "valid" then .valid
  else if text = lua "expired" then .expired
  else if text = lua "missing" then .missing
  else .unchecked

def normalizeDnsEntry (platform : Platform) (key : Key) (spec : Entries) :
    Except LuaString (LuaString × DnsProof) := do
  let host ← normalizeHost platform key.value (lua "dnsProofState")
  let named := anyField spec ["state", "dnsProofState"]
  let text := if truthy named then (named.map platform.tostring).getD [] else lua "unchecked"
  return (host, { state := parseProofState (lower text),
                  checkedAt := anyField spec ["checkedAt", "dnsProofCheckedAt"],
                  validUntil := anyField spec ["validUntil", "dnsProofValidUntil"],
                  source := field spec "source", challengeRef := field spec "challengeRef" })

/-- The methods of a rule, as a set. -/
def normalizeMethodSet (platform : Platform) : Option Value →
    Except LuaString (Option (List LuaString))
  | none => .ok none
  | some (.table input) =>
      ((sequence input).mapM fun method => normalizeMethod platform method (lua "methods")).map some
  | some _ => invalidType (lua "methods")

def normalizeRule (platform : Platform) (defaultActionHint : Option LuaString) (rule : Entries) :
    Except LuaString RouteRule := do
  let rawPrefix := firstOf [field rule "pathPrefix", field rule "path", some (.str (lua "/"))]
  let pathPrefix ← normalizePath platform (rawPrefix.getD (.str (lua "/"))) (lua "pathPrefix")
  let methods ← normalizeMethodSet platform (field rule "methods")
  let raw := field rule "actionHint"
  let actionHint := if truthy raw then (raw.map platform.tostring).getD []
    else defaultActionHint.getD (lua "read")
  platform.checkLength (.str actionHint) 128 (lua "actionHint")
  return ⟨pathPrefix, methods, actionHint⟩

/-- The rules of a route policy. Rules that are not tables are skipped. -/
def normalizeRules (platform : Platform) (defaultActionHint : Option LuaString) :
    List Value → Except LuaString (List RouteRule)
  | [] => .ok []
  | .table rule :: rest => do
      let first ← normalizeRule platform defaultActionHint rule
      let others ← normalizeRules platform defaultActionHint rest
      return first :: others
  | _ :: rest => normalizeRules platform defaultActionHint rest

def normalizeDefaultActionHint (platform : Platform) (spec : Entries) :
    Except LuaString (Option LuaString) :=
  match field spec "defaultActionHint" with
  | none => .ok none
  | some raw => do
      platform.checkLength raw 128 (lua "defaultActionHint")
      return some (platform.tostring raw)

def normalizeRouteEntry (platform : Platform) (key : Key) (spec : Entries) :
    Except LuaString (LuaString × RoutePolicy) := do
  let host ← normalizeHost platform key.value (lua "routePolicies")
  let defaultActionHint ← normalizeDefaultActionHint platform spec
  let raw := field spec "rules"
  let rules ← match if truthy raw then raw else some (.table []) with
    | some (.table rules) => normalizeRules platform defaultActionHint (sequence rules)
    | _ => throw (lua "invalid_type:routePolicies.rules")
  return (host, ⟨defaultActionHint, rules⟩)

def normalizeHostPolicies (platform : Platform) :
    Option Value → Except LuaString (Option HostPolicies) :=
  normalizeTable "hostPolicies" (normalizeHostEntry platform)

def normalizeSitePolicies (platform : Platform) :
    Option Value → Except LuaString (Option SitePolicies) :=
  normalizeTable "sitePolicies" (normalizeSiteEntry platform)

def normalizeDnsProofState (platform : Platform) :
    Option Value → Except LuaString (Option DnsProofs) :=
  normalizeTable "dnsProofState" (normalizeDnsEntry platform)

def normalizeRoutePolicies (platform : Platform) :
    Option Value → Except LuaString (Option RoutePolicies) :=
  normalizeTable "routePolicies" (normalizeRouteEntry platform)

/-! ### The policy graph -/

/-- The process of a host: its own, else its site's. -/
def processOf (sites : SitePolicies) (policy : HostPolicy) : Option LuaString :=
  policy.processId.or ((sites.find policy.siteId).bind SitePolicy.processId)

def checkHost (sites : SitePolicies) (host : LuaString) (policy : HostPolicy) :
    Except LuaString Unit :=
  if policy.siteId = [] then .error (lua "missing_site_id:hostPolicies." ++ host)
  else if ((processOf sites policy).getD []) = [] then
    .error (lua "missing_process_mapping:hostPolicies." ++ host)
  else .ok ()

/-- Every host has a site id and a process. -/
def validatePolicyGraph (hosts : HostPolicies) (sites : SitePolicies) : Except LuaString Unit :=
  hosts.entries.forM fun entry => checkHost sites entry.1 entry.2

end DarkmeshGateway.Resolver.Policies
