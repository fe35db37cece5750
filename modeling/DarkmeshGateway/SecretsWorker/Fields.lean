import DarkmeshGateway.Foundation.Js.Json

/-!
Contract: how the secrets worker reads request fields and configuration.

Owns trimmed field selection, alias agreement, environment cleaning, the
secrets gate and the canonical site and signature reference of a body.

Does not own routes or the meaning of any field.
-/

namespace DarkmeshGateway.SecretsWorker.Fields

open Foundation.Js

/-- A request ended by an exception. -/
structure HttpException where
  status : Nat
  message : String
deriving DecidableEq, Repr

/-- What the error handler answers for any exception that is not an `HttpException`. -/
def internalError : HttpException := ⟨500, "internal_error"⟩

/-- An expression that may throw a `TypeError`. -/
def orTypeError {α : Type} : Option α → Except HttpException α
  | none => .error internalError
  | some value => .ok value

theorem orTypeError_eq_ok {α : Type} {value : Option α} {result : α} :
    orTypeError value = .ok result ↔ value = some result := by
  cases value <;> simp [orTypeError]

/-- What the platform computes for the worker: `JSON.parse` (`none` is a
`SyntaxError`), `Date.parse` in milliseconds (`none` is `NaN`), and the hex
Ed25519 signature of a text under a hex key (`none` is a rejected key). -/
structure Runtime where
  parseJson : JsString → Option Json
  parseDate : JsString → Option Int
  ed25519Sign : JsString → JsString → Option JsString

/-! ### Field selection -/

def trimString : Option Json → JsString
  | some (.str value) => trim value
  | _ => []

/-- The first of the values that is a non-blank string, trimmed. -/
def firstNonEmptyString : List (Option Json) → JsString
  | [] => []
  | value :: rest =>
      if trimString value = [] then firstNonEmptyString rest else trimString value

/-- The one non-blank string among the values. -/
def canonicalFieldValue (values : List (Option Json)) (mismatchMessage : String) :
    Except HttpException JsString :=
  match ((values.map trimString).filter (· ≠ [])).eraseDups with
  | [] => .ok []
  | [provided] => .ok provided
  | _ => .error ⟨400, mismatchMessage⟩

def payloadSiteId : Option Fields → Except HttpException JsString
  | none => .ok []
  | some payload =>
      canonicalFieldValue
        [payload.get (js "siteId"), payload.get (js "SiteId"), payload.get (js "Site-Id")]
        "site_id_mismatch"

def topLevelSiteId (record : Fields) : Except HttpException JsString :=
  canonicalFieldValue
    [record.get (js "siteId"), record.get (js "SiteId"), record.get (js "Site-Id")]
    "site_id_mismatch"

def resolveCanonicalSiteId (topLevel payload header : JsString) (required : Bool) :
    Except HttpException JsString :=
  match [topLevel, payload, header].filter (· ≠ []) with
  | [] => if required then .error ⟨400, "site_id_required"⟩ else .ok []
  | canonical :: others =>
      if others.any (· ≠ canonical) then .error ⟨400, "site_id_mismatch"⟩ else .ok canonical

/-! ### Environment -/

/-- The bindings the modelled routes read. Variables are strings; the
in-memory switch may have any type. -/
structure Env where
  testInMemoryKv : Option Json := none
  requireSecrets : Option JsString := none
  signPolicyJson : Option JsString := none
  signAllowlistJson : Option JsString := none
  signPolicyRequired : Option JsString := none
  allowControlPlaneSign : Option JsString := none
  signTsWindow : Option JsString := none
  signMaxBytes : Option JsString := none
  workerSignatureRef : Option JsString := none
  workerEd25519PrivHex : Option JsString := none
  gatewayWriteAutoSign : Option JsString := none
  rateLimitMax : Option JsString := none
  rateLimitWindow : Option JsString := none
  uniqueSubjectMaxPerIp : Option JsString := none
  uniqueSubjectWindow : Option JsString := none
  replayTtl : Option JsString := none
  replayStrongMode : Option JsString := none
  subjectMaxEnvelopes : Option JsString := none
  payloadMaxBytes : Option JsString := none
  forgetMaxKeys : Option JsString := none
  notifyWebhook : Option JsString := none
  notifyDedupeTtl : Option JsString := none
  sendgridKey : Option JsString := none
  liteMode : Bool := false

def cleanEnv (value : Option JsString) : JsString :=
  let next := trim (value.getD [])
  if next = js "undefined" ∨ next = js "null" then [] else next

def boolEnv (value : Option JsString) (fallback : Bool) : Bool :=
  let normalized := toLowerCase (cleanEnv value)
  if normalized = [] then fallback
  else [js "1", js "true", js "yes", js "on"].contains normalized

/-- `variable || fallback`. -/
def envOr (value : Option JsString) (fallback : String) : JsString :=
  match value with
  | none => js fallback
  | some [] => js fallback
  | some text => text

def useMemoryKv (env : Env) : Bool :=
  match env.testInMemoryKv with
  | none => false
  | some flag =>
      match flag with
      | .str text => if text = js "1" then true else if text = js "0" then false else flag.truthy
      | _ => flag.truthy

/-- `parseInt(first || second || fallback, 10)`; `none` is `NaN`. -/
def envNumber (values : List (Option JsString)) (fallback : String) : Option Int :=
  parseInt10 (envOr ((values.filterMap id).find? (· ≠ [])) fallback)

/-- Fail closed unless the in-memory test shim is on. -/
def secretsEnforced (env : Env) : Bool := env.requireSecrets == some (js "1") || !useMemoryKv env

def placeholders : List JsString :=
  [js "change-me", js "changeme", js "placeholder", js "example", js "sample", js "setme"]

def isPlaceholderSecret (value : JsString) : Bool :=
  value.isEmpty || placeholders.any fun placeholder => includes (toLowerCase (trim value)) placeholder

def requireSecret (env : Env) (value : Option JsString) (message : String) :
    Except HttpException Unit :=
  if secretsEnforced env ∧ isPlaceholderSecret (value.getD []) then .error ⟨500, message⟩
  else .ok ()

/-- `runtime/crypto/hmac` `hexToBytes`, up to the bytes it decodes. -/
def hexDecodable (hex : JsString) : Except HttpException Unit :=
  if hex = [] ∨ hex.length % 2 ≠ 0 then .error ⟨401, "invalid_signature"⟩ else .ok ()

def resolveCanonicalSignatureRef (body : Fields) (env : Env) : Except HttpException JsString := do
  let provided ← canonicalFieldValue
    [body.get (js "signatureRef"), body.get (js "SignatureRef"), body.get (js "Signature-Ref")]
    "signature_ref_mismatch"
  if provided ≠ [] then return provided
  if cleanEnv env.workerSignatureRef ≠ [] then return cleanEnv env.workerSignatureRef
  return js "worker-ed25519"

/-! ### Facts about selection -/

@[simp] theorem trimString_none : trimString none = [] := rfl

@[simp] theorem trimString_str (text : JsString) : trimString (some (.str text)) = trim text := rfl

/-- A selected string is trimmed. -/
@[simp] theorem trim_firstNonEmptyString (values : List (Option Json)) :
    trim (firstNonEmptyString values) = firstNonEmptyString values := by
  induction values with
  | nil => rfl
  | cons value rest inductionHypothesis =>
      unfold firstNonEmptyString
      split
      next => exact inductionHypothesis
      next =>
        unfold trimString
        split
        · exact trim_trim _
        · rfl

end DarkmeshGateway.SecretsWorker.Fields
