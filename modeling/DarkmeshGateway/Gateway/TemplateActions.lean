import DarkmeshGateway.Foundation.Js.Json

/-!
Contract: the actions of the template API.

Owns the table of actions, the checks of their payloads, the contract an action
must agree with, and the role check.

Does not own the contract file: its actions are given as they were parsed.
-/

namespace DarkmeshGateway.Gateway.TemplateActions

open Foundation.Js

/-! ### Payload checks -/

/-- `typeof object[key] === 'string'` and not blank. -/
def hasStr (object : Fields) (key : String) : Bool :=
  match object.get (js key) with
  | some (.str text) => trim text ≠ []
  | _ => false

/-- The outcome of a payload check; the error is a message. -/
abbrev ValidateResult := Except String Unit

/-- A check of the fields of a payload that must be an object. -/
def validateObject (payload : Option Json) (check : Fields → ValidateResult) : ValidateResult :=
  match asRecord payload with
  | none => .error "payload must be an object"
  | some fields => check fields

def validateResolveRoute (payload : Option Json) : ValidateResult :=
  validateObject payload fun fields => do
    if !hasStr fields "path" then throw "payload.path is required"
    if !hasStr fields "siteId" && !hasStr fields "host" then
      throw "payload.siteId or payload.host is required"

def validateGetPage (payload : Option Json) : ValidateResult :=
  validateObject payload fun fields => do
    if !hasStr fields "siteId" then throw "payload.siteId is required"
    if !hasStr fields "slug" && !hasStr fields "pageId" then
      throw "payload.slug or payload.pageId is required"

def validateSiteByHost (payload : Option Json) : ValidateResult :=
  validateObject payload fun fields => do
    if !hasStr fields "host" then throw "payload.host is required"

def validateCreateOrder (payload : Option Json) : ValidateResult :=
  validateObject payload fun fields => do
    if !hasStr fields "siteId" then throw "payload.siteId is required"
    match fields.get (js "items") with
    | some (.arr (_ :: _)) => return
    | _ => throw "payload.items must be a non-empty array"

def supportedPaymentProviders : List JsString := [js "stripe", js "paypal", js "gopay"]

def isSupportedPaymentProvider (value : JsString) : Bool :=
  supportedPaymentProviders.contains (toLowerCase (trim value))

def validateCreatePaymentIntent (payload : Option Json) : ValidateResult :=
  validateObject payload fun fields => do
    if !hasStr fields "orderId" then throw "payload.orderId is required"
    match fields.get (js "provider") with
    | some (.str provider) =>
        if trim provider = [] then throw "payload.provider is required"
        if trim provider ≠ provider || !isSupportedPaymentProvider provider then
          throw "payload.provider must be stripe|paypal|gopay"
    | _ => throw "payload.provider is required"

/-! ### Policies -/

inductive ActionKind where
  | read
  | write
deriving DecidableEq

inductive BackendTarget where
  | ao
  | write
  | worker
deriving DecidableEq

structure TemplateActionPolicy where
  action : JsString
  kind : ActionKind
  target : BackendTarget
  path : JsString
  validate : Option Json → ValidateResult

def templateActionPolicies : List TemplateActionPolicy :=
  [ { action := js "public.resolve-route", kind := .read, target := .ao,
      path := js "/api/public/resolve-route", validate := validateResolveRoute },
    { action := js "public.site-by-host", kind := .read, target := .ao,
      path := js "/api/public/site-by-host", validate := validateSiteByHost },
    { action := js "public.get-page", kind := .read, target := .ao,
      path := js "/api/public/page", validate := validateGetPage },
    { action := js "checkout.create-order", kind := .write, target := .write,
      path := js "/api/checkout/order", validate := validateCreateOrder },
    { action := js "checkout.create-payment-intent", kind := .write, target := .write,
      path := js "/api/checkout/payment-intent", validate := validateCreatePaymentIntent } ]

def getTemplateActionPolicy (action : JsString) : Option TemplateActionPolicy :=
  templateActionPolicies.find? (·.action == action)

/-! ### Contract -/

inductive IdempotencyMode where
  | required
  | optional
  | forbidden
deriving DecidableEq

/-- An action of the contract file. Its method is `POST`, as in every policy. -/
structure TemplateContractAction where
  name : JsString
  path : JsString
  requiredRole : JsString
  idempotency : IdempotencyMode
deriving DecidableEq

/-- The actions of the contract; `none` when it is missing or malformed. -/
abbrev TemplateContract := Option (List TemplateContractAction)

def getTemplateContractAction (contract : TemplateContract) (actionName : JsString) :
    Option TemplateContractAction :=
  contract.bind fun actions => actions.find? (·.name == actionName)

structure ResolvedTemplatePolicy where
  policy : TemplateActionPolicy
  contract : TemplateContractAction

def getResolvedPolicy (contract : TemplateContract) (action : JsString) :
    Option ResolvedTemplatePolicy := do
  let policy ← getTemplateActionPolicy action
  let found ← getTemplateContractAction contract action
  if found.path ≠ policy.path then none else return ⟨policy, found⟩

/-! ### Roles -/

/-- A blank role counts as missing. -/
def normalizeRole (value : JsString) : Option JsString :=
  if trim value = [] then none else some (toLowerCase (trim value))

/-- `requireAllowedRole` with one required role and the public role `public`. -/
def requireAllowedRole (requiredRole : JsString) (presentedRole : Option JsString) : Bool :=
  match normalizeRole requiredRole with
  | none => true
  | some required =>
      required = js "public" || normalizeRole (presentedRole.getD []) == some required

/-! ### Facts -/

theorem getResolvedPolicy_eq_some {contract : TemplateContract} {action : JsString}
    {resolved : ResolvedTemplatePolicy} (found : getResolvedPolicy contract action = some resolved) :
    getTemplateActionPolicy action = some resolved.policy ∧
      getTemplateContractAction contract action = some resolved.contract := by
  simp only [getResolvedPolicy, Option.bind_eq_bind, Option.bind_eq_some_iff,
    Option.pure_def] at found
  obtain ⟨policy, policyFound, contractAction, contractFound, checked⟩ := found
  split at checked
  next => exact absurd checked (by simp)
  next =>
    obtain rfl := Option.some.inj checked
    exact ⟨policyFound, contractFound⟩

/-- Every payload check demands an object. -/
theorem validate_record {policy : TemplateActionPolicy} (listed : policy ∈ templateActionPolicies)
    {payload : Option Json} (valid : policy.validate payload = .ok ()) :
    ∃ fields, payload = some (.obj fields) := by
  have checked {check : Fields → ValidateResult} (passed : validateObject payload check = .ok ()) :
      ∃ fields, payload = some (.obj fields) := by
    unfold validateObject at passed
    split at passed
    next => exact absurd passed (by simp)
    next fields record =>
      refine ⟨fields, ?_⟩
      unfold asRecord at record
      split at record
      next => rw [Option.some.inj record]
      next => exact absurd record (by simp)
  simp only [templateActionPolicies, List.mem_cons, List.not_mem_nil, or_false] at listed
  rcases listed with rfl | rfl | rfl | rfl | rfl
  all_goals exact checked valid

end DarkmeshGateway.Gateway.TemplateActions
