import DarkmeshGateway.Foundation.Js.Object
import DarkmeshGateway.Foundation.Outcome
import DarkmeshGateway.SecretsWorker.Fields

/-!
Contract: the policy a `/sign` body is checked against.

Owns the parsing of the policy variable into plain objects, the selection of
the checked action, role, site and signature reference, the control-plane
block list, and the scope checks with JavaScript property lookup.

Does not own the message that is signed.
-/

namespace DarkmeshGateway.SecretsWorker.SignPolicy

open Foundation.Js
open Foundation.Outcome
open SecretsWorker.Fields

/-! ### Parsing -/

/-- The distinct non-blank roles of a role list. -/
def parseSignPolicyRoles : Json → Option (List JsString)
  | .arr rolesRaw =>
      let roles := ((rolesRaw.map fun role => trimString (some role)).filter (· ≠ [])).eraseDups
      if roles = [] then none else some roles
  | _ => none

/-- The action map, filled entry by entry. -/
def parseSignPolicyRules (actionMap : Value) : Fields → Option Value
  | [] => some actionMap
  | (actionRaw, rolesRaw) :: rest =>
      let action := trim actionRaw
      if action = [] then none
      else
        match parseSignPolicyRoles rolesRaw with
        | none => none
        | some roles =>
            parseSignPolicyRules (actionMap.assign action (.array (roles.map .text))) rest

/-- The selector map, filled entry by entry. -/
def parseSignPolicySelectors (map : Value) : Fields → Option Value
  | [] => some map
  | (selectorRaw, actionsRaw) :: rest =>
      let selector := trim selectorRaw
      if selector = [] then none
      else
        match actionsRaw with
        | .obj actionRecord =>
            match parseSignPolicyRules Value.empty actionRecord with
            | none => none
            | some actionMap => parseSignPolicySelectors (map.assign selector actionMap) rest
        | _ => none

def parseSignPolicyMap (rawValue : Option Json) : Option Value :=
  (asRecord rawValue).bind (parseSignPolicySelectors Value.empty)

/-- The families a policy configures. -/
structure SignPolicyConfig where
  sites : Option Value
  signatureRefs : Option Value

/-- A family that is present must parse. -/
def parseFamily (record : Fields) (name : String) : Option (Option Value) :=
  match record.get (js name) with
  | none => some none
  | some rawValue => (parseSignPolicyMap (some rawValue)).map some

def parseSignPolicy (runtime : Runtime) (raw : JsString) : Option SignPolicyConfig := do
  let record ← asRecord (runtime.parseJson raw)
  let sites ← parseFamily record "sites"
  let signatureRefs ← parseFamily record "signatureRefs"
  return { sites, signatureRefs }

def resolveSignPolicyRaw (env : Env) : JsString :=
  if cleanEnv env.signPolicyJson = [] then cleanEnv env.signAllowlistJson
  else cleanEnv env.signPolicyJson

def signPolicyRequired (env : Env) : Bool :=
  if cleanEnv env.signPolicyRequired = [] then secretsEnforced env
  else cleanEnv env.signPolicyRequired ≠ js "0"

/-! ### What is checked -/

structure SignContext where
  action : JsString
  role : JsString
  siteId : JsString
  signatureRef : JsString
deriving DecidableEq

def resolveSignRequestContext (body : Fields) (env : Env) : Except HttpException SignContext := do
  let payload := (asRecord (body.get (js "payload"))).or (asRecord (body.get (js "Payload")))
  let topLevel ← topLevelSiteId body
  let inPayload ← payloadSiteId payload
  let siteId ← resolveCanonicalSiteId topLevel inPayload [] false
  let signatureRef ← resolveCanonicalSignatureRef body env
  return {
    action := firstNonEmptyString [body.get (js "action"), body.get (js "Action")]
    role := firstNonEmptyString
      [body.get (js "role"), body.get (js "Role"), body.get (js "Actor-Role")]
    siteId
    signatureRef }

def controlPlaneSignActions : List JsString :=
  [js "RegisterSite", js "BindDomain", js "SetSiteRuntime", js "UpsertSiteRuntime",
    js "SetActiveVersion", js "GrantRole", js "RegisterGateway", js "UpdateGatewayStatus",
    js "SetPolicyMode", js "PublishPolicySnapshot", js "RevokePolicySnapshot",
    js "SetSiteServingPolicy", js "SetSiteFundingState", js "RegisterHBNode",
    js "UpdateHBNodeStatus"].map toLowerCase

def allowControlPlaneSign (env : Env) : Bool := cleanEnv env.allowControlPlaneSign == js "1"

def isControlPlaneSignAction (action : JsString) : Bool :=
  controlPlaneSignActions.contains (toLowerCase (trim action))

/-! ### Scope checks -/

/-- The texts of one scope's refusals. -/
structure ScopeMessages where
  selectorRequired : String
  actionNotAllowed : String
  roleNotAllowed : String

def siteMessages : ScopeMessages where
  selectorRequired := "sign_policy_site_required"
  actionNotAllowed := "sign_action_not_allowed_for_site"
  roleNotAllowed := "sign_role_not_allowed_for_site"

def signatureRefMessages : ScopeMessages where
  selectorRequired := "sign_policy_signature_ref_required"
  actionNotAllowed := "sign_action_not_allowed_for_signature_ref"
  roleNotAllowed := "sign_role_not_allowed_for_signature_ref"

def roleAllowed (allowedRoles : Value) (role : JsString) : Except HttpException Bool := do
  let any ← orTypeError (allowedRoles.includes (js "*"))
  if any then return true
  orTypeError (allowedRoles.includes role)

/-- One round of the loop over the configured scopes. -/
def checkScope (messages : ScopeMessages) (selector : JsString) (family : Value)
    (context : SignContext) : Except HttpException Unit := do
  if selector = [] then throw ⟨400, messages.selectorRequired⟩
  let actionRoles ← orTypeError (family.read selector)
  if !actionRoles.truthy then throw ⟨403, messages.actionNotAllowed⟩
  let allowedRoles ← orTypeError (actionRoles.read context.action)
  if !allowedRoles.truthy then throw ⟨403, messages.actionNotAllowed⟩
  let allowed ← roleAllowed allowedRoles context.role
  if !allowed then throw ⟨403, messages.roleNotAllowed⟩

def checkFamily (messages : ScopeMessages) (selector : JsString) (family : Option Value)
    (context : SignContext) : Except HttpException Unit :=
  match family with
  | none => .ok ()
  | some family => checkScope messages selector family context

/-- The checks behind a configured policy. -/
def enforceConfigured (policy : SignPolicyConfig) (context : SignContext) :
    Except HttpException SignContext := do
  if context.action = [] then throw ⟨400, "sign_policy_action_required"⟩
  if context.role = [] then throw ⟨400, "sign_policy_role_required"⟩
  if policy.sites.isNone && policy.signatureRefs.isNone then throw ⟨403, "sign_policy_empty"⟩
  checkFamily siteMessages context.siteId policy.sites context
  checkFamily signatureRefMessages context.signatureRef policy.signatureRefs context
  return context

def enforceSignPolicy (runtime : Runtime) (env : Env) (body : Fields) :
    Except HttpException SignContext := do
  let context ← resolveSignRequestContext body env
  if context.action ≠ [] ∧ isControlPlaneSignAction context.action ∧ !allowControlPlaneSign env then
    throw ⟨403, "sign_control_plane_action_blocked"⟩
  if resolveSignPolicyRaw env = [] then
    if signPolicyRequired env then throw ⟨500, "missing_sign_policy"⟩
    return context
  match parseSignPolicy runtime (resolveSignPolicyRaw env) with
  | none => throw ⟨500, "invalid_sign_policy"⟩
  | some policy => enforceConfigured policy context

/-! ### The checked fields -/

theorem resolveSignRequestContext_fields {body : Fields} {env : Env} {context : SignContext}
    (resolved : resolveSignRequestContext body env = .ok context) :
    context.action = firstNonEmptyString [body.get (js "action"), body.get (js "Action")] ∧
      context.role = firstNonEmptyString
        [body.get (js "role"), body.get (js "Role"), body.get (js "Actor-Role")] := by
  simp only [resolveSignRequestContext, bind_eq_ok, pure_eq_ok] at resolved
  obtain ⟨_, -, _, -, _, -, _, -, rfl⟩ := resolved
  exact ⟨rfl, rfl⟩

private theorem enforceConfigured_context {policy : SignPolicyConfig}
    {context result : SignContext} (enforced : enforceConfigured policy context = .ok result) :
    result = context := by
  simp only [enforceConfigured, guard_eq_ok, bind_eq_ok, pure_eq_ok] at enforced
  obtain ⟨-, -, -, _, -, _, -, same⟩ := enforced
  exact same.symm

/-- The policy passes on the context it resolved. -/
theorem enforceSignPolicy_context {runtime : Runtime} {env : Env} {body : Fields}
    {context : SignContext} (enforced : enforceSignPolicy runtime env body = .ok context) :
    resolveSignRequestContext body env = .ok context := by
  simp only [enforceSignPolicy, bind_eq_ok, guard_eq_ok] at enforced
  obtain ⟨resolved, resolvedOk, -, checked⟩ := enforced
  suffices same : resolved = context by rw [resolvedOk, same]
  split at checked
  next =>
    rw [guard_eq_ok, pure_eq_ok] at checked
    exact checked.2
  next =>
    split at checked
    next => exact absurd checked throw_ne_ok
    next => exact (enforceConfigured_context checked).symm

end DarkmeshGateway.SecretsWorker.SignPolicy
