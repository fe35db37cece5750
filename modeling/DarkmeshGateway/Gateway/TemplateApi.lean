import DarkmeshGateway.Foundation.Js.Stringify
import DarkmeshGateway.Foundation.Outcome
import DarkmeshGateway.Gateway.SecretGuard
import DarkmeshGateway.Gateway.SiteResolver
import DarkmeshGateway.Gateway.TemplateActions

/-!
Contract: template calls on their way to a backend.

Owns the admission of a call, its target, signer, token and expected signature
reference, the template variant, the envelope of a write and its signing, and
the request sent to the backend.

Does not own trace ids, metrics, timeouts and the backend's response.
-/

namespace DarkmeshGateway.Gateway.TemplateApi

open Foundation.Js
open Foundation.Outcome
open Gateway.Environment
open Gateway.SiteResolver
open Gateway.TemplateActions

/-- What the platform computes: `JSON.parse`, the host name and the protocol of
`new URL(text)`, the text of `new URL(path, base)` (`none` is a thrown
`TypeError`), and the hexadecimal HMAC-SHA256 of a text under a key. -/
structure Platform where
  parseJson : JsString → Option Json
  urlHostname : JsString → Option JsString
  urlProtocol : JsString → Option JsString
  resolveUrl : JsString → JsString → Option JsString
  hmacSha256 : JsString → JsString → JsString

structure TemplateCallInput where
  action : JsString
  payload : Option Json
  requestId : Option JsString := none
  siteId : Option JsString := none
  runtimeHints : Option RuntimeRoutingHints := none
  runtimeHintsTrusted : Bool := false
  actor : Option JsString := none
  role : Option JsString := none

/-- How a call ends without a backend request: an error response, or an
exception out of the call. -/
inductive Refusal where
  | response (status : Nat) (error : String) (detail : Fields)
  | thrown

def refuse {α : Type} (status : Nat) (error : String) (detail : Fields := []) : Except Refusal α :=
  .error (.response status error detail)

/-- One `detail` text. -/
def detailText (message : String) : Fields := [(js "detail", .str (js message))]

/-! ### Fields and variables -/

/-- A string that is not blank, trimmed. -/
def nonEmpty (value : Option JsString) : Option JsString :=
  (value.map trim).filter (· ≠ [])

def asNonEmptyString : Option Json → Option JsString
  | some (.str text) => nonEmpty (some text)
  | _ => none

def readStringEnv (env : Env) (name : String) : Option JsString := readHandlerEnvString env name

/-- `object.siteId` of a record. -/
def resolvePayloadSiteId (payload : Option Json) : Option JsString :=
  (asRecord payload).bind fun fields => asNonEmptyString (fields.get (js "siteId"))

def resolveSiteId (input : TemplateCallInput) : Option JsString :=
  (nonEmpty input.siteId).or (resolvePayloadSiteId input.payload)

/-- The first name that one of the hint records answers. -/
def resolveRuntimeHintValue (runtimeHints : Option RuntimeRoutingHints) (keys : List String) :
    Option JsString :=
  runtimeHints.bind fun hints =>
    ([hints.runtime, hints.runtimePointers].filterMap id).findSome? fun record =>
      keys.findSome? fun key => asNonEmptyString (record.get (js key))

def resolveRuntimeWritePid (runtimeHints : Option RuntimeRoutingHints) : Option JsString :=
  resolveRuntimeHintValue runtimeHints ["writeProcessId", "writePid", "write_process_id"]

def resolveRuntimeWorkerUrl (runtimeHints : Option RuntimeRoutingHints) : Option JsString :=
  resolveRuntimeHintValue runtimeHints ["workerUrl", "worker_url"]

def runtimeOverridesEnabled (env : Env) : Bool :=
  readStringEnv env "GATEWAY_TEMPLATE_ALLOW_RUNTIME_HINTS" == some (js "1")

/-- An override switch, which falls back to the general one. -/
def overrideEnabled (env : Env) (name : String) : Bool :=
  match readStringEnv env name with
  | some explicit => explicit == js "1"
  | none => runtimeOverridesEnabled env

def runtimeWritePidOverrideEnabled (env : Env) : Bool :=
  overrideEnabled env "GATEWAY_TEMPLATE_ALLOW_RUNTIME_WRITE_PID_OVERRIDE"

def runtimeWorkerUrlOverrideEnabled (env : Env) : Bool :=
  overrideEnabled env "GATEWAY_TEMPLATE_ALLOW_RUNTIME_WORKER_URL_OVERRIDE"

/-- `[A-Za-z0-9]`. -/
def isAlphanumeric (unit : CodeUnit) : Bool :=
  let code := unit.toNat
  (65 ≤ code && code ≤ 90) || (97 ≤ code && code ≤ 122) || (48 ≤ code && code ≤ 57)

/-- `/^[A-Za-z0-9_-]{low,high}$/`. -/
def isSafeId (low high : Nat) (text : JsString) : Bool :=
  text.all (fun unit => isAlphanumeric unit || unit == 95 || unit == 45) &&
    low ≤ text.length && text.length ≤ high

/-- `SAFE_TEMPLATE_VARIANT_RE`. -/
def isSafeVariant (text : JsString) : Bool :=
  text.head?.any isAlphanumeric && text.length ≤ 64 &&
    text.all fun unit => isAlphanumeric unit || [46, 95, 47, 45].contains unit

def isValidHttpUrl (platform : Platform) (value : JsString) : Bool :=
  (platform.urlProtocol value).any fun protocol => protocol == js "http:" || protocol == js "https:"

/-! ### Maps from sites -/

/-- A plain object filled entry by entry; an error is the end of a message. -/
def fillSiteMap (keyMessage : String) (read : Json → Except String Value) (map : Value) :
    Fields → Except String Value
  | [] => .ok map
  | (keyRaw, valueRaw) :: rest =>
      if trim keyRaw = [] then .error keyMessage
      else
        match read valueRaw with
        | .error message => .error message
        | .ok value => fillSiteMap keyMessage read (map.assign (trim keyRaw) value) rest

/-- The map of a variable; an error is the response that names the variable. -/
def parseSiteMap (platform : Platform) (error envName keyMessage : String)
    (read : Json → Except String Value) (raw : JsString) : Except Refusal Value :=
  let invalid (message : String) : Except Refusal Value :=
    refuse 500 error [(js "message", .str (js (envName ++ message)))]
  match platform.parseJson raw with
  | none => invalid " must be valid JSON"
  | some (.obj fields) =>
      match fillSiteMap keyMessage read Value.empty fields with
      | .error message => invalid message
      | .ok map => .ok map
  | some _ => invalid " must be an object"

def stringEntries : String := " keys and values must be non-empty strings"

def stringEntry (value : Json) : Except String Value :=
  match asNonEmptyString (some value) with
  | none => .error stringEntries
  | some text => .ok (.text text)

def parseStringMap (platform : Platform) (error envName : String) (raw : JsString) :
    Except Refusal Value :=
  parseSiteMap platform error envName stringEntries stringEntry raw

def siteDetail (siteId : JsString) : Fields := [(js "siteId", .str siteId)]

def productionLike (env : Env) : Bool :=
  let mode := toLowerCase (((readStringEnv env "GATEWAY_RUNTIME_MODE").or
    ((readStringEnv env "NODE_ENV").or (readStringEnv env "ENVIRONMENT"))).getD [])
  [js "production", js "staging", js "prod-like"].contains mode

/-- The signer of a site: what its map finds for the site, or a text. -/
def resolveSignerBaseUrl (platform : Platform) (env : Env) (siteId : JsString)
    (runtimeWorkerUrl : Option JsString) : Except Refusal Value :=
  match runtimeWorkerUrl with
  | some url => .ok (.text url)
  | none =>
      match readStringEnv env "GATEWAY_TEMPLATE_WORKER_URL_MAP" with
      | some raw =>
          match parseStringMap platform "worker_route_map_invalid" "GATEWAY_TEMPLATE_WORKER_URL_MAP"
              raw with
          | .error refusal => .error refusal
          | .ok map =>
              let mapped := readPlain map siteId
              if mapped.truthy then .ok mapped
              else refuse 503 "worker_target_not_configured" (siteDetail siteId)
      | none =>
          match (readStringEnv env "WORKER_API_URL").or (readStringEnv env "WORKER_SIGN_URL") with
          | some fallback => .ok (.text fallback)
          | none => refuse 503 "signer_not_configured" (siteDetail siteId)

/-- The token behind the map: required from the map in production. -/
def fallbackSignerToken (env : Env) (siteId : JsString) : Except Refusal Value :=
  let fallback := (readStringEnv env "WORKER_SIGN_TOKEN").or
    (if productionLike env then none else readStringEnv env "WORKER_AUTH_TOKEN")
  match fallback with
  | some token => .ok (.text token)
  | none => refuse 503 "signer_auth_not_configured" (siteDetail siteId)

def resolveSignerToken (platform : Platform) (env : Env) (siteId : JsString) :
    Except Refusal Value :=
  match readStringEnv env "GATEWAY_TEMPLATE_WORKER_TOKEN_MAP" with
  | none =>
      if productionLike env then refuse 503 "worker_token_map_required" (siteDetail siteId)
      else fallbackSignerToken env siteId
  | some raw =>
      match parseStringMap platform "worker_token_map_invalid" "GATEWAY_TEMPLATE_WORKER_TOKEN_MAP"
          raw with
      | .error refusal => .error refusal
      | .ok map =>
          let mapped := readPlain map siteId
          if mapped.truthy then .ok mapped
          else if productionLike env then
            refuse 503 "worker_token_not_configured" (siteDetail siteId)
          else fallbackSignerToken env siteId

/-- The reference the signer must answer with; an empty text expects nothing. -/
def resolveExpectedSignatureRef (platform : Platform) (env : Env) (siteId : JsString) :
    Except Refusal Value :=
  match readStringEnv env "GATEWAY_TEMPLATE_WORKER_SIGNATURE_REF_MAP" with
  | none =>
      if productionLike env then refuse 503 "worker_signature_ref_map_required" (siteDetail siteId)
      else .ok (.text [])
  | some raw =>
      match parseStringMap platform "worker_signature_ref_map_invalid"
          "GATEWAY_TEMPLATE_WORKER_SIGNATURE_REF_MAP" raw with
      | .error refusal => .error refusal
      | .ok map =>
          let expected := readPlain map siteId
          if expected.truthy then .ok expected
          else if productionLike env then
            refuse 503 "worker_signature_ref_not_configured" (siteDetail siteId)
          else .ok (.text [])

/-! ### Template variants -/

/-- `{ variant, templateTxId, manifestTxId }`. -/
def variantMetadata (variant templateTxId manifestTxId : JsString) : Value :=
  .object [(js "variant", .text variant), (js "templateTxId", .text templateTxId),
    (js "manifestTxId", .text manifestTxId)] (.prototype .object)

def variantEntry : Json → Except String Value
  | .obj fields =>
      match asNonEmptyString (Fields.get fields (js "variant")),
        asNonEmptyString (Fields.get fields (js "templateTxId")),
        asNonEmptyString (Fields.get fields (js "manifestTxId")) with
      | some variant, some templateTxId, some manifestTxId =>
          .ok (variantMetadata variant templateTxId manifestTxId)
      | _, _, _ =>
          .error " entries must include non-empty variant, templateTxId, and manifestTxId"
  | _ => .error " entries must be objects with variant, templateTxId, and manifestTxId"

def normalizeSha256 (value : JsString) : JsString :=
  let trimmed := toLowerCase (trim value)
  if startsWith trimmed (js "sha256-") then trimmed.drop 7
  else if startsWith trimmed (js "0x") then trimmed.drop 2
  else trimmed

/-- `/^[a-f0-9]{64}$/`. -/
def isSha256Hex (text : JsString) : Bool :=
  text.length == 64 &&
    text.all fun unit => isDigit unit || (97 ≤ unit.toNat && unit.toNat ≤ 102)

def invalidVariantHints {α : Type} (field : String) : Except Refusal α :=
  refuse 502 "invalid_runtime_template_variant_hints" [(js "field", .str (js field))]

/-- The variant the hints name; `none` when they name nothing. -/
def resolveTemplateVariantMetadataFromRuntimeHints
    (runtimeHints : Option RuntimeRoutingHints) : Except Refusal (Option Value) :=
  let variant := resolveRuntimeHintValue runtimeHints ["templateVariant", "template_variant"]
  let templateTxId := resolveRuntimeHintValue runtimeHints ["templateTxId", "template_tx_id"]
  let manifestTxId := resolveRuntimeHintValue runtimeHints ["manifestTxId", "manifest_tx_id"]
  match variant, templateTxId, manifestTxId with
  | none, none, none => .ok none
  | some variant, some templateTxId, some manifestTxId =>
      let sha := resolveRuntimeHintValue runtimeHints ["templateSha256", "template_sha256"]
      if !isSafeVariant variant then invalidVariantHints "templateVariant"
      else if !isSafeId 8 128 templateTxId then invalidVariantHints "templateTxId"
      else if !isSafeId 8 128 manifestTxId then invalidVariantHints "manifestTxId"
      else if sha.any fun value => !isSha256Hex (normalizeSha256 value) then
        invalidVariantHints "templateSha256"
      else .ok (some (variantMetadata variant templateTxId manifestTxId))
  | _, _, _ =>
      refuse 502 "invalid_runtime_template_variant_hints"
        [(js "required", .arr [.str (js "templateVariant"), .str (js "templateTxId"),
          .str (js "manifestTxId")])]

def resolveTemplateVariantMetadata (platform : Platform) (env : Env) (siteId : Option JsString)
    (runtimeHints : Option RuntimeRoutingHints) : Except Refusal (Option Value) :=
  match resolveTemplateVariantMetadataFromRuntimeHints runtimeHints with
  | .error refusal => .error refusal
  | .ok (some runtime) => .ok (some runtime)
  | .ok none =>
      match siteId, readStringEnv env "GATEWAY_TEMPLATE_VARIANT_MAP" with
      | some siteId, some raw =>
          match parseSiteMap platform "template_variant_map_invalid" "GATEWAY_TEMPLATE_VARIANT_MAP"
              " keys must be non-empty strings" variantEntry raw with
          | .error refusal => .error refusal
          | .ok map =>
              let mapped := readPlain map siteId
              .ok (if mapped.truthy then some mapped else none)
      | _, _ => .ok none

mutual

/-- What `JSON.stringify` prints for a property; `none` is left out. -/
def propertyJson : Value → Option Json
  | .undefined => none
  | .null => some .null
  | .number value => some (.num (.ofInt value))
  | .text content => some (.str content)
  | .array elements => some (.arr (elementsJson elements))
  | .function _ _ => none
  | .object own _ => some (.obj (ownJson own))
  | .prototype .object => some (.obj [])
  | .prototype .array => some (.arr [])
  | .prototype .string => some (.str [])
  | .prototype .number => some (.num (.ofInt 0))
  | .prototype .function => none

def elementsJson : List Value → List Json
  | [] => []
  | value :: rest => (propertyJson value).getD .null :: elementsJson rest

def ownJson : List (JsString × Value) → Fields
  | [] => []
  | (key, value) :: rest =>
      match propertyJson value with
      | none => ownJson rest
      | some json => (key, json) :: ownJson rest

end

/-- A payload object with its variant, as it is printed. -/
def injectTemplateVariant (payload : Option Json) (templateVariant : Option Value) : Option Json :=
  match templateVariant, payload with
  | some variant, some (.obj fields) =>
      match propertyJson variant with
      | some json => some (.obj (Fields.set fields (js "templateVariant") json))
      | none => some (.obj (fields.filter fun field => field.1 ≠ js "templateVariant"))
  | _, _ => payload

/-! ### Targets -/

def firstBaseUrl (env : Env) (target : String) (names : List String) : Except Refusal JsString :=
  match names.findSome? (readStringEnv env) with
  | some baseUrl => .ok baseUrl
  | none => refuse 503 "target_not_configured" [(js "target", .str (js target))]

def resolveBackendBaseUrl (env : Env) : BackendTarget → Except Refusal JsString
  | .ao => firstBaseUrl env "ao" ["AO_PUBLIC_API_URL", "AO_READ_URL"]
  | .write => firstBaseUrl env "write" ["WRITE_API_URL"]
  | .worker => firstBaseUrl env "worker" ["WORKER_API_URL"]

def getTemplateTargetAllowlist (env : Env) : Option (List JsString) :=
  (readStringEnv env "GATEWAY_TEMPLATE_TARGET_HOST_ALLOWLIST").map fun raw =>
    ((raw.splitOn 44).map fun value => toLowerCase (trim value)).filter (· ≠ [])

/-- The text of a base URL; anything but a text is not a URL. -/
def baseText : Value → Option JsString
  | .text content => some content
  | _ => none

def validateAllowlist (platform : Platform) (baseUrl : Value) (allowlist : Option (List JsString)) :
    Except Refusal Unit :=
  match allowlist with
  | none => .ok ()
  | some hosts =>
      match (baseText baseUrl).bind platform.urlHostname with
      | none =>
          refuse 403 "template_target_forbidden"
            (detailText "upstream target is invalid" ++
              ((propertyJson baseUrl).map fun target => (js "target", target)).toList)
      | some hostname =>
          if hosts.contains (toLowerCase hostname) then .ok ()
          else
            refuse 403 "template_target_forbidden"
              (detailText "upstream host is not in the allowlist" ++
                [(js "host", .str (toLowerCase hostname)), (js "allowlist", .arr (hosts.map .str))])

/-! ### Admission -/

/-- The clock and the random texts of a call; the trace id is the one given or
a random one. -/
structure Draws where
  traceId : JsString
  requestMs : Int
  requestHex : JsString
  envelopeMs : Int
  nonceHex : JsString

/-- A call that passed every check before its kind is looked at. -/
structure Admitted where
  policy : ResolvedTemplatePolicy
  requestId : Option JsString
  payload : Option Json
  baseUrl : JsString
  allowlist : Option (List JsString)
  runtimeWritePid : Option JsString
  runtimeWorkerUrl : Option JsString

def checkRuntimeHints (platform : Platform) (env : Env) (input : TemplateCallInput)
    (writePid workerUrl : Option JsString) (allowlist : Option (List JsString)) :
    Except Refusal Unit := do
  if let some pid := writePid then
    if !isSafeId 20 128 pid then
      refuse 502 "invalid_runtime_write_process_id" [(js "value", .str pid)]
  if let some url := workerUrl then
    if !isValidHttpUrl platform url then
      refuse 502 "invalid_runtime_worker_url" [(js "value", .str url)]
  if writePid.isSome && !runtimeWritePidOverrideEnabled env && !input.runtimeHintsTrusted then
    refuse 403 "runtime_write_process_id_override_disabled"
  if workerUrl.isSome && !runtimeWorkerUrlOverrideEnabled env && !input.runtimeHintsTrusted then
    refuse 403 "runtime_worker_url_override_disabled"
  if (writePid.isSome || workerUrl.isSome) && allowlist.isNone then
    refuse 503 "template_target_allowlist_required_for_runtime_overrides"
      (detailText "set GATEWAY_TEMPLATE_TARGET_HOST_ALLOWLIST before enabling runtime overrides")

def resolvePolicy (contract : TemplateContract) (action : JsString) :
    Except Refusal ResolvedTemplatePolicy :=
  match getResolvedPolicy contract action with
  | none => refuse 403 "action_not_allowed"
  | some resolved => .ok resolved

def checkPayload (env : Env) (policy : TemplateActionPolicy) (payload : Option Json) :
    Except Refusal Unit :=
  match policy.validate payload with
  | .error message => refuse 400 "invalid_payload" (detailText message)
  | .ok () =>
      let forbidden := SecretGuard.inspectTemplateSecretPayload env payload
      if forbidden ≠ [] then
        refuse 400 "payload_contains_forbidden_secret_fields"
          [(js "forbiddenFields", .arr (forbidden.map .str))]
      else .ok ()

def optionalText (value : Option JsString) : Json := value.elim .null .str

def admitCall (platform : Platform) (env : Env) (contract : TemplateContract)
    (input : TemplateCallInput) : Except Refusal Admitted := do
  let resolved ← resolvePolicy contract input.action
  let enforcedRole := if resolved.policy.kind = .write then some resolved.contract.requiredRole
    else input.role
  if resolved.policy.kind = .write &&
      readStringEnv env "GATEWAY_TEMPLATE_ALLOW_MUTATIONS" != some (js "1") then
    refuse 403 "write_actions_disabled"
  if !requireAllowedRole resolved.contract.requiredRole enforcedRole then
    refuse 403 "forbidden_role"
      [(js "requiredRole", .str resolved.contract.requiredRole),
        (js "providedRole", optionalText (enforcedRole.filter (trim · ≠ [])))]
  checkPayload env resolved.policy input.payload
  let requestId := nonEmpty input.requestId
  if resolved.contract.idempotency = .required && requestId.isNone then
    refuse 400 "missing_request_id" (detailText "x-request-id is required for this action")
  let variant ← resolveTemplateVariantMetadata platform env (resolveSiteId input) input.runtimeHints
  let payload := if input.action = js "public.site-by-host" then input.payload
    else injectTemplateVariant input.payload variant
  let baseUrl ← resolveBackendBaseUrl env resolved.policy.target
  let allowlist := getTemplateTargetAllowlist env
  validateAllowlist platform (.text baseUrl) allowlist
  let runtimeWritePid := resolveRuntimeWritePid input.runtimeHints
  let runtimeWorkerUrl := resolveRuntimeWorkerUrl input.runtimeHints
  checkRuntimeHints platform env input runtimeWritePid runtimeWorkerUrl allowlist
  return { policy := resolved, requestId, payload, baseUrl, allowlist, runtimeWritePid,
           runtimeWorkerUrl }

/-! ### Signing a write -/

def templateToWriteAction (action : JsString) : JsString :=
  if action = js "checkout.create-order" then js "CreateOrder"
  else if action = js "checkout.create-payment-intent" then js "CreatePaymentIntent"
  else action

/-- The properties of an object literal that are not `undefined`. -/
def definedFields (properties : List (JsString × Option Json)) : Fields :=
  properties.filterMap fun property => property.2.map fun value => (property.1, value)

def buildWriteSignEnvelope (input : TemplateCallInput) (siteId requestId role : JsString)
    (payload : Option Json) (draws : Draws) : Fields :=
  definedFields
    [(js "action", some (.str (templateToWriteAction input.action))),
      (js "requestId", some (.str requestId)),
      (js "actor", some (.str ((nonEmpty input.actor).getD (js "gateway-template")))),
      (js "tenant", some (.str siteId)),
      (js "role", some (.str role)),
      (js "siteId", some (.str siteId)),
      (js "timestamp", some (.num (.ofInt (draws.envelopeMs / 1000)))),
      (js "nonce", some (.str (js "gw-" ++ draws.nonceHex))),
      (js "payload", payload)]

/-- The request to the signer: its body is the printed envelope. -/
structure SigningRequest where
  url : JsString
  token : Value
  envelope : Fields

inductive SignerReply where
  | answered (status : Nat) (json : Option Json)
  | timedOut
  | unreachable

/-- `json?.key`. -/
def replyField (json : Option Json) (key : String) : Option Json :=
  (asRecord json).bind fun fields => fields.get (js key)

def getTemplateSignTimeoutMs (env : Env) : Nat :=
  readPositiveIntEnv env "GATEWAY_TEMPLATE_SIGN_TIMEOUT_MS" 5000

/-- The signature and its reference, or the refusal a reply amounts to. -/
def readSignerReply (env : Env) (reply : SignerReply) : Except Refusal (JsString × JsString) :=
  match reply with
  | .timedOut =>
      refuse 504 "worker_sign_timeout"
        [(js "timeoutMs", .num (.ofInt (getTemplateSignTimeoutMs env)))]
  | .unreachable => refuse 502 "worker_sign_unreachable"
  | .answered status json =>
      if status < 200 || 300 ≤ status then
        refuse (if 500 ≤ status then 502 else 401) "worker_sign_failed"
          [(js "upstreamStatus", .num (.ofInt status))]
      else
        match asNonEmptyString (replyField json "signature"),
          asNonEmptyString (replyField json "signatureRef") with
        | some signature, some signatureRef => .ok (signature, signatureRef)
        | _, _ => refuse 502 "worker_sign_invalid_response"

/-- What a write has settled before it is signed. -/
structure WritePlan where
  siteId : JsString
  requestId : JsString
  role : JsString
  expectedSignatureRef : Value
  request : SigningRequest

/-- The one site an explicit id and the payload name. -/
def resolveWriteSiteId (input : TemplateCallInput) (payload : Option Json) :
    Except Refusal JsString := do
  let explicitSiteId := nonEmpty input.siteId
  let payloadSiteId := resolvePayloadSiteId payload
  if explicitSiteId.isSome && payloadSiteId.isSome && explicitSiteId != payloadSiteId then
    refuse 400 "site_id_mismatch"
      (detailText "siteId and payload.siteId must match for write actions")
  match (explicitSiteId.or payloadSiteId).or (resolveSiteId input) with
  | none => refuse 400 "site_id_required" (detailText "payload.siteId is required for write actions")
  | some siteId => return siteId

def planWrite (platform : Platform) (env : Env) (input : TemplateCallInput) (admitted : Admitted)
    (draws : Draws) : Except Refusal WritePlan := do
  let siteId ← resolveWriteSiteId input admitted.payload
  let signerBase ← resolveSignerBaseUrl platform env siteId admitted.runtimeWorkerUrl
  validateAllowlist platform signerBase admitted.allowlist
  let token ← resolveSignerToken platform env siteId
  let expectedSignatureRef ← resolveExpectedSignatureRef platform env siteId
  let requestId := admitted.requestId.getD
    (js "req-" ++ (Number.ofInt draws.requestMs).toString ++ 45 :: draws.requestHex)
  let role := admitted.policy.contract.requiredRole
  let envelope := buildWriteSignEnvelope input siteId requestId role admitted.payload draws
  match (baseText signerBase).bind (platform.resolveUrl (js "/sign")) with
  | none => .error .thrown
  | some url => return { siteId, requestId, role, expectedSignatureRef, request := { url, token, envelope } }

/-- The reference differs from the expected one; a value that is not a text equals none. -/
def referenceMismatch (expected : Value) (signatureRef : JsString) : Bool :=
  expected.truthy && baseText expected != some signatureRef

def finishWrite (env : Env) (input : TemplateCallInput) (plan : WritePlan) (reply : SignerReply) :
    Except Refusal Fields := do
  let (signature, signatureRef) ← readSignerReply env reply
  if referenceMismatch plan.expectedSignatureRef signatureRef then
    refuse 502 "worker_sign_signature_ref_mismatch"
      ([(js "siteId", .str plan.siteId)] ++
        ((propertyJson plan.expectedSignatureRef).map fun expected =>
          (js "expectedSignatureRef", expected)).toList ++
        [(js "actualSignatureRef", .str signatureRef)])
  return ((((plan.request.envelope.set (js "signature") (.str signature)).set
    (js "signatureRef") (.str signatureRef)).set (js "siteId") (.str plan.siteId)).set
    (js "role") (.str plan.role)).set (js "templateAction") (.str input.action)

/-! ### The backend request -/

/-- The authorization header of a backend request. -/
inductive UpstreamAuth where
  | bearer (token : Value)
  | templateToken (token : Value)

/-- The request to the backend; its body is printed from the fields. -/
structure BackendRequest where
  url : JsString
  body : Fields
  templateAction : JsString
  traceId : JsString
  requestId : Option JsString
  siteId : Option JsString
  signature : Option JsString
  writePid : Option JsString
  authorization : Option UpstreamAuth

def buildSiteByHostUpstreamBody (payload : Option Json) (requestId : Option JsString)
    (traceId : JsString) : Option Fields := do
  let fields ← asRecord payload
  let host ← (asNonEmptyString (fields.get (js "host"))).or
    (asNonEmptyString (fields.get (js "Host")))
  let effectiveRequestId := ((asNonEmptyString (fields.get (js "requestId"))).or
    (asNonEmptyString (fields.get (js "Request-Id")))).or requestId
  let effectiveTraceId := ((asNonEmptyString (fields.get (js "traceId"))).or
    (asNonEmptyString (fields.get (js "Trace-Id")))).getD traceId
  return definedFields [(js "host", some (.str host)),
    (js "requestId", effectiveRequestId.map .str),
    (js "traceId", if effectiveTraceId = [] then none else some (.str effectiveTraceId))]

/-- The body of a call that is not signed. -/
def unsignedBody (input : TemplateCallInput) (admitted : Admitted) : Fields :=
  definedFields [(js "action", some (.str input.action)), (js "payload", admitted.payload),
    (js "requestId", admitted.requestId.map .str), (js "siteId", (nonEmpty input.siteId).map .str),
    (js "actor", input.actor.map .str), (js "role", input.role.map .str)]

def readBody (input : TemplateCallInput) (admitted : Admitted) (draws : Draws) : Fields :=
  if input.action = js "public.site-by-host" then
    (buildSiteByHostUpstreamBody admitted.payload admitted.requestId draws.traceId).getD
      (unsignedBody input admitted)
  else unsignedBody input admitted

def getTemplateMaxBodyBytes (env : Env) : Nat :=
  readPositiveIntEnv env "GATEWAY_TEMPLATE_MAX_BODY_BYTES" 32768

def hmacBody (platform : Platform) (env : Env) (body : JsString) : Option JsString :=
  (readStringEnv env "GATEWAY_TEMPLATE_HMAC_SECRET").map fun secret =>
    platform.hmacSha256 secret body

/-- The token for the backend; an empty text is no token. -/
def resolveTemplateUpstreamToken (platform : Platform) (env : Env) (siteId : Option JsString) :
    Except Refusal Value := do
  let fallback : Value := .text ((readStringEnv env "GATEWAY_TEMPLATE_UPSTREAM_TOKEN").getD [])
  match readStringEnv env "GATEWAY_TEMPLATE_UPSTREAM_TOKEN_MAP" with
  | none => return fallback
  | some raw =>
      let map ← parseStringMap platform "upstream_token_map_invalid"
        "GATEWAY_TEMPLATE_UPSTREAM_TOKEN_MAP" raw
      let mapped := siteId.elim .undefined (readPlain map)
      return if mapped.truthy then mapped else fallback

def upstreamAuthorization (platform : Platform) (env : Env) (siteId : Option JsString) :
    Except Refusal (Option UpstreamAuth) := do
  let mode := toLowerCase ((readStringEnv env "GATEWAY_TEMPLATE_UPSTREAM_AUTH_MODE").getD [])
  let token ← resolveTemplateUpstreamToken platform env siteId
  if mode = js "bearer" ∨ mode = js "x-template-token" then
    if !token.truthy then
      refuse 503 "template_upstream_auth_not_configured"
        (definedFields [(js "mode", some (.str mode)), (js "siteId", siteId.map .str)])
    else if mode = js "bearer" then return some (.bearer token)
    else return some (.templateToken token)
  else return none

def buildBackendRequest (platform : Platform) (env : Env) (input : TemplateCallInput)
    (admitted : Admitted) (draws : Draws) (requestId siteId : Option JsString) (body : Fields) :
    Except Refusal BackendRequest := do
  let url ← (platform.resolveUrl admitted.policy.policy.path admitted.baseUrl).elim
    (.error .thrown) .ok
  let text := (Json.obj body).stringify
  if getTemplateMaxBodyBytes env < utf8Length text then
    refuse 413 "template_body_too_large"
      (detailText "template call body exceeds the configured byte limit" ++
        [(js "maxBodyBytes", .num (.ofInt (getTemplateMaxBodyBytes env))),
          (js "actualBytes", .num (.ofInt (utf8Length text)))])
  let authorization ← upstreamAuthorization platform env siteId
  return {
    url
    body
    templateAction := input.action
    traceId := draws.traceId
    requestId
    siteId
    signature := hmacBody platform env text
    writePid := if admitted.policy.policy.kind = .write then admitted.runtimeWritePid else none
    authorization }

/-! ### The call -/

/-- The requests a call issues: the one to the signer, and the one to the
backend or what it ended with instead. -/
structure Proxied where
  signing : Option SigningRequest
  backend : Except Refusal BackendRequest

/-- A call up to its backend request, with the signer's reply to a request. -/
def proxyTemplateCall (platform : Platform) (env : Env) (contract : TemplateContract)
    (input : TemplateCallInput) (draws : Draws) (signer : SigningRequest → SignerReply) : Proxied :=
  match admitCall platform env contract input with
  | .error refusal => ⟨none, .error refusal⟩
  | .ok admitted =>
      match admitted.policy.policy.kind with
      | .read =>
          ⟨none, buildBackendRequest platform env input admitted draws admitted.requestId
            (nonEmpty input.siteId) (readBody input admitted draws)⟩
      | .write =>
          match planWrite platform env input admitted draws with
          | .error refusal => ⟨none, .error refusal⟩
          | .ok plan =>
              ⟨some plan.request, do
                let envelope ← finishWrite env input plan (signer plan.request)
                buildBackendRequest platform env input admitted draws (some plan.requestId)
                  (some plan.siteId) envelope⟩

/-! ### What an admitted call has -/

theorem nonEmpty_eq_some {value : Option JsString} {text : JsString} :
    nonEmpty value = some text ↔ ∃ raw, value = some raw ∧ trim raw = text ∧ text ≠ [] := by
  simp only [nonEmpty, Option.filter_eq_some_iff, Option.map_eq_some_iff, decide_eq_true_eq]
  constructor
  · rintro ⟨⟨raw, found, trimmed⟩, named⟩
    exact ⟨raw, found, trimmed, named⟩
  · rintro ⟨raw, found, trimmed, named⟩
    exact ⟨⟨raw, found, trimmed⟩, named⟩

/-- A refusal in front of a run lets it through exactly when its test fails. -/
theorem refusal_eq_ok {α : Type} {refused : Prop} [Decidable refused] {status : Nat}
    {error : String} {detail : Fields} {next : Except Refusal α} {value : α} :
    (if refused then (refuse status error detail : Except Refusal PUnit) >>= fun _ => next
      else next) = .ok value ↔ ¬refused ∧ next = .ok value :=
  error_guard_eq_ok

theorem refuse_ne_ok {α : Type} {status : Nat} {error : String} {detail : Fields}
    {value : α} : (refuse status error detail : Except Refusal α) ≠ .ok value := by
  simp [refuse]

/-- An object literal answers a name with its own property of that name. -/
theorem definedFields_get {properties : List (JsString × Option Json)}
    (distinct : (properties.map Prod.fst).Nodup) (key : JsString) :
    (definedFields properties).get key = (properties.lookup key).join := by
  induction properties with
  | nil => rfl
  | cons property rest inductionHypothesis =>
      obtain ⟨name, value⟩ := property
      obtain ⟨fresh, distinctRest⟩ := List.nodup_cons.mp distinct
      have later := inductionHypothesis distinctRest
      rw [List.lookup_cons]
      cases value with
      | some json =>
          show List.lookup key ((name, json) :: definedFields rest) = _
          rw [List.lookup_cons]
          split
          · rfl
          · exact later
      | none =>
          show (definedFields rest).get key = _
          rw [later]
          split
          next same =>
            have absent : rest.lookup key = none := by
              rw [List.lookup_eq_none_iff]
              intro other member
              rw [bne_iff_ne]
              intro named
              have listed : other.1 ∈ rest.map Prod.fst := List.mem_map_of_mem member
              rw [← named, eq_of_beq same] at listed
              exact fresh listed
            rw [absent]
            rfl
          next => rfl

/-- The variant of a template leaves the site of a payload alone. -/
theorem injectTemplateVariant_siteId (fields : Fields) (variant : Option Value) :
    ∃ injected : Fields, injectTemplateVariant (some (.obj fields)) variant = some (.obj injected) ∧
      injected.get (js "siteId") = fields.get (js "siteId") := by
  cases variant with
  | none => exact ⟨fields, rfl, rfl⟩
  | some metadata =>
      cases printed : propertyJson metadata with
      | none =>
          refine ⟨fields.filter fun field => field.1 ≠ js "templateVariant", ?_, ?_⟩
          · simp [injectTemplateVariant, printed]
          · have kept : js "siteId" ≠ js "templateVariant" := by decide
            exact Fields.get_filter fields _ fun _ => decide_eq_true kept
      | some json =>
          refine ⟨fields.set (js "templateVariant") json, ?_, ?_⟩
          · simp [injectTemplateVariant, printed]
          · exact Fields.get_set_other fields (by decide) json

/-- An admitted call has an object payload, and its site is the one that came in. -/
theorem admitCall_payload {platform : Platform} {env : Env} {contract : TemplateContract}
    {input : TemplateCallInput} {admitted : Admitted}
    (accepted : admitCall platform env contract input = .ok admitted) :
    ∃ fields forwarded : Fields, input.payload = some (.obj fields) ∧
      admitted.payload = some (.obj forwarded) ∧
      forwarded.get (js "siteId") = fields.get (js "siteId") := by
  simp only [admitCall, bind_eq_ok, pure_eq_ok, refusal_eq_ok] at accepted
  obtain ⟨resolved, policyOk, -, -, _, payloadOk, -, variant, -, baseUrl, -, _, -, _, -, rfl⟩ :=
    accepted
  have listed : resolved.policy ∈ templateActionPolicies := by
    unfold resolvePolicy at policyOk
    split at policyOk
    next => exact absurd policyOk refuse_ne_ok
    next found =>
      obtain rfl := Except.ok.inj policyOk
      exact List.mem_of_find?_eq_some (getResolvedPolicy_eq_some found).1
  have valid : resolved.policy.validate input.payload = .ok () := by
    unfold checkPayload at payloadOk
    split at payloadOk
    next => exact absurd payloadOk refuse_ne_ok
    next passed => exact passed
  obtain ⟨fields, record⟩ := validate_record listed valid
  dsimp only
  split
  next => exact ⟨fields, fields, record, record, rfl⟩
  next =>
    obtain ⟨injected, shape, kept⟩ := injectTemplateVariant_siteId fields variant
    exact ⟨fields, injected, record, by rw [record, shape], kept⟩

/-! ### What a planned write has -/

/-- The site of a write is a trimmed text, and the one its payload names, if any. -/
theorem resolveWriteSiteId_eq_ok {input : TemplateCallInput} {payload : Option Json}
    {siteId : JsString} (resolved : resolveWriteSiteId input payload = .ok siteId) :
    trim siteId = siteId ∧ siteId ≠ [] ∧
      ∀ named, resolvePayloadSiteId payload = some named → named = siteId := by
  have plain {value : Option JsString} (found : nonEmpty value = some siteId) :
      trim siteId = siteId ∧ siteId ≠ [] := by
    obtain ⟨raw, -, rfl, named⟩ := nonEmpty_eq_some.mp found
    exact ⟨trim_trim raw, named⟩
  have plainPayload {payload : Option Json} (found : resolvePayloadSiteId payload = some siteId) :
      trim siteId = siteId ∧ siteId ≠ [] := by
    obtain ⟨fields, -, text⟩ := Option.bind_eq_some_iff.mp found
    unfold asNonEmptyString at text
    split at text
    next => exact plain text
    next => exact absurd text (by simp)
  simp only [resolveWriteSiteId, refusal_eq_ok] at resolved
  obtain ⟨agreed, chosen⟩ := resolved
  cases explicit : nonEmpty input.siteId with
  | some siteId' =>
      simp only [explicit, Option.some_or, pure_eq_ok] at chosen
      obtain rfl := chosen
      refine ⟨(plain explicit).1, (plain explicit).2, ?_⟩
      intro named found
      simp only [explicit, found, Option.isSome_some, Bool.true_and, bne_iff_ne, ne_eq,
        Option.some.injEq, not_not] at agreed
      exact agreed.symm
  | none =>
      cases inPayload : resolvePayloadSiteId payload with
      | some named =>
          simp only [explicit, inPayload, Option.none_or, Option.some_or, pure_eq_ok] at chosen
          obtain rfl := chosen
          refine ⟨(plainPayload inPayload).1, (plainPayload inPayload).2, ?_⟩
          rintro other ⟨⟩
          rfl
      | none =>
          have absent (named : JsString) (found : (none : Option JsString) = some named) :
              named = siteId := absurd found (by simp)
          simp only [explicit, inPayload, Option.none_or, resolveSiteId] at chosen
          split at chosen
          next => exact absurd chosen refuse_ne_ok
          next found =>
            obtain rfl := pure_eq_ok.mp chosen
            exact ⟨(plainPayload found).1, (plainPayload found).2, absent⟩

theorem planWrite_eq_ok {platform : Platform} {env : Env} {input : TemplateCallInput}
    {admitted : Admitted} {draws : Draws} {plan : WritePlan}
    (planned : planWrite platform env input admitted draws = .ok plan) :
    resolveWriteSiteId input admitted.payload = .ok plan.siteId ∧
      plan.request.envelope = buildWriteSignEnvelope input plan.siteId plan.requestId plan.role
        admitted.payload draws := by
  simp only [planWrite, bind_eq_ok] at planned
  obtain ⟨siteId, resolved, signerBase, -, _, -, token, -, expected, -, requested⟩ := planned
  split at requested
  next => exact absurd requested (by simp)
  next url _ =>
    obtain rfl := pure_eq_ok.mp requested
    exact ⟨resolved, rfl⟩

/-- The envelope of a finished write: the signed one with the signature, and
the site and role it was signed for. -/
theorem finishWrite_eq_ok {env : Env} {input : TemplateCallInput} {plan : WritePlan}
    {reply : SignerReply} {envelope : Fields} (finished : finishWrite env input plan reply = .ok envelope) :
    ∃ signature signatureRef, readSignerReply env reply = .ok (signature, signatureRef) ∧
      envelope = ((((plan.request.envelope.set (js "signature") (.str signature)).set
        (js "signatureRef") (.str signatureRef)).set (js "siteId") (.str plan.siteId)).set
        (js "role") (.str plan.role)).set (js "templateAction") (.str input.action) := by
  simp only [finishWrite, bind_eq_ok, refusal_eq_ok, pure_eq_ok] at finished
  obtain ⟨⟨signature, signatureRef⟩, signed, -, rfl⟩ := finished
  exact ⟨signature, signatureRef, signed, rfl⟩

/-- What the envelope of a write with a payload record names. -/
theorem writeEnvelope_get (input : TemplateCallInput) (siteId requestId role : JsString)
    (payload : Fields) (draws : Draws) :
    let envelope := buildWriteSignEnvelope input siteId requestId role (some (.obj payload)) draws
    envelope.get (js "payload") = some (.obj payload) ∧
      envelope.get (js "siteId") = some (.str siteId) ∧
      envelope.get (js "tenant") = some (.str siteId) ∧
      envelope.get (js "role") = some (.str role) ∧ envelope.get (js "SiteId") = none ∧
      envelope.get (js "Site-Id") = none :=
  ⟨rfl, rfl, rfl, rfl, rfl, rfl⟩

/-- The forwarded envelope has the signed fields of the envelope it was made from. -/
theorem finished_get {envelope : Fields} {signature signatureRef siteId role action : JsString}
    (signedRole : envelope.get (js "role") = some (.str role)) {key : JsString}
    (other : key ∉ [js "signature", js "signatureRef", js "siteId", js "templateAction"]) :
    (((((envelope.set (js "signature") (.str signature)).set (js "signatureRef")
      (.str signatureRef)).set (js "siteId") (.str siteId)).set (js "role") (.str role)).set
      (js "templateAction") (.str action)).get key = envelope.get key := by
  simp only [List.mem_cons, List.not_mem_nil, or_false, not_or] at other
  obtain ⟨notSignature, notReference, notSite, notAction⟩ := other
  rw [Fields.get_set_other _ notAction]
  by_cases isRole : key = js "role"
  · rw [isRole, Fields.get_set_self, signedRole]
  · rw [Fields.get_set_other _ isRole, Fields.get_set_other _ notSite,
      Fields.get_set_other _ notReference, Fields.get_set_other _ notSignature]

/-! ### What a read is sent with -/

/-- The body of an unsigned call names the given site, no tenant, and carries
the admitted payload. -/
theorem unsignedBody_get (input : TemplateCallInput) (admitted : Admitted) :
    (unsignedBody input admitted).get (js "siteId") = (nonEmpty input.siteId).map .str ∧
      (unsignedBody input admitted).get (js "tenant") = none ∧
      (unsignedBody input admitted).get (js "payload") = admitted.payload := by
  have distinct : [js "action", js "payload", js "requestId", js "siteId", js "actor",
      js "role"].Nodup := by decide
  have get (key : JsString) := definedFields_get (show ([(js "action", some (.str input.action)),
    (js "payload", admitted.payload), (js "requestId", admitted.requestId.map .str),
    (js "siteId", (nonEmpty input.siteId).map .str), (js "actor", input.actor.map .str),
    (js "role", input.role.map .str)].map Prod.fst).Nodup from distinct) key
  exact ⟨get _, get _, get _⟩

/-- The body of a lookup by host has nothing but the host and the two ids. -/
theorem buildSiteByHostUpstreamBody_get {payload : Option Json} {requestId : Option JsString}
    {traceId : JsString} {body : Fields}
    (built : buildSiteByHostUpstreamBody payload requestId traceId = some body) {key : JsString}
    (other : key ∉ [js "host", js "requestId", js "traceId"]) : body.get key = none := by
  unfold buildSiteByHostUpstreamBody at built
  simp only [Option.bind_eq_bind, Option.bind_eq_some_iff, Option.pure_def,
    Option.some.injEq] at built
  obtain ⟨fields, -, host, -, rfl⟩ := built
  have distinct : [js "host", js "requestId", js "traceId"].Nodup := by decide
  simp only [List.mem_cons, List.not_mem_nil, or_false, not_or] at other
  obtain ⟨notHost, notRequest, notTrace⟩ := other
  rw [definedFields_get]
  · simp [List.lookup_cons, beq_eq_false_iff_ne.mpr notHost, beq_eq_false_iff_ne.mpr notRequest,
      beq_eq_false_iff_ne.mpr notTrace]
  · exact distinct

theorem buildBackendRequest_eq_ok {platform : Platform} {env : Env} {input : TemplateCallInput}
    {admitted : Admitted} {draws : Draws} {requestId siteId : Option JsString} {body : Fields}
    {backend : BackendRequest}
    (built : buildBackendRequest platform env input admitted draws requestId siteId body =
      .ok backend) : backend.body = body ∧ backend.siteId = siteId := by
  simp only [buildBackendRequest, bind_eq_ok, refusal_eq_ok, pure_eq_ok] at built
  obtain ⟨url, -, -, authorization, -, rfl⟩ := built
  exact ⟨rfl, rfl⟩

/-! ### What a call issues -/

/-- A signing request is the one of the planned write of an admitted call. -/
theorem proxyTemplateCall_signing {platform : Platform} {env : Env} {contract : TemplateContract}
    {input : TemplateCallInput} {draws : Draws} {signer : SigningRequest → SignerReply}
    {request : SigningRequest}
    (requested : (proxyTemplateCall platform env contract input draws signer).signing =
      some request) :
    ∃ admitted plan, admitCall platform env contract input = .ok admitted ∧
      planWrite platform env input admitted draws = .ok plan ∧ plan.request = request := by
  unfold proxyTemplateCall at requested
  split at requested
  next => exact absurd requested (by simp)
  next admitted accepted =>
    split at requested
    next => exact absurd requested (by simp)
    next =>
      split at requested
      next => exact absurd requested (by simp)
      next plan planned => exact ⟨admitted, plan, accepted, planned, Option.some.inj requested⟩

/-- A backend request is built for a read, or for a signed write. -/
theorem proxyTemplateCall_backend {platform : Platform} {env : Env} {contract : TemplateContract}
    {input : TemplateCallInput} {draws : Draws} {signer : SigningRequest → SignerReply}
    {backend : BackendRequest}
    (forwarded : (proxyTemplateCall platform env contract input draws signer).backend =
      .ok backend) :
    ∃ admitted, admitCall platform env contract input = .ok admitted ∧
      (buildBackendRequest platform env input admitted draws admitted.requestId
          (nonEmpty input.siteId) (readBody input admitted draws) = .ok backend ∨
        ∃ plan envelope, planWrite platform env input admitted draws = .ok plan ∧
          finishWrite env input plan (signer plan.request) = .ok envelope ∧
          buildBackendRequest platform env input admitted draws (some plan.requestId)
            (some plan.siteId) envelope = .ok backend) := by
  unfold proxyTemplateCall at forwarded
  split at forwarded
  next => exact absurd forwarded (by simp)
  next admitted accepted =>
    refine ⟨admitted, accepted, ?_⟩
    split at forwarded
    next => exact Or.inl forwarded
    next =>
      split at forwarded
      next => exact absurd forwarded (by simp)
      next plan planned =>
        obtain ⟨envelope, finished, built⟩ := bind_eq_ok.mp forwarded
        exact Or.inr ⟨plan, envelope, planned, finished, built⟩

end DarkmeshGateway.Gateway.TemplateApi
