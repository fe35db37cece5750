import DarkmeshGateway.Gateway.TemplateApi
import DarkmeshGateway.SecretsWorker.SignRoute

/-!
Contract: the gateway's envelope and the command the secrets worker signs.

Owns the exchange of a signing request between the two, and when the message of
the forwarded envelope is the signed one: the worker writes the site into the
payload it signs, the gateway forwards the payload as it came.

Does not own the verification behind the backend.
-/

namespace DarkmeshGateway.Gateway.TemplateSigning

open Foundation.Js
open Foundation.Outcome
open Gateway.Environment
open Gateway.TemplateActions
open Gateway.TemplateApi
open SecretsWorker.DetachedMessage
open SecretsWorker.Fields (Runtime topLevelSiteId canonicalFieldValue)
open SecretsWorker.SignRoute

/-! ### The exchange -/

/-- The worker's view of a signing request: its body is read back from the
printed envelope, under the guards and the clock of a call. -/
def signCallOf (call : SignCall) (request : SigningRequest) : SignCall :=
  { call with body := some (Json.obj request.envelope).reread }

/-- The worker as the signer of the gateway. -/
def workerReply (runtime : Runtime) (workerEnv : SecretsWorker.Fields.Env) (call : SignCall)
    (request : SigningRequest) : SignerReply :=
  match signRoute runtime workerEnv (signCallOf call request) with
  | .error exception =>
      .answered exception.status (some (.obj [(js "error", .str (js exception.message))]))
  | .ok response =>
      .answered 200 (some (.obj [(js "signature", .str response.signature),
        (js "signatureRef", .str response.signatureRef)]))

/-- A payload whose own `siteId` is a string without surrounding white space. -/
def PlainSiteId (payload : Option Json) : Prop :=
  ∃ (fields : Fields) (siteId : JsString), payload = some (.obj fields) ∧ fields.get (js "siteId") = some (.str siteId) ∧
    trim siteId = siteId ∧ siteId ≠ []

/-! ### The signed and the forwarded command -/

/-- Commands that agree on every name the message reads, payload names apart,
have the same fields up to the payload. -/
private theorem detachedFields_congr (left right : Fields)
    (same : ∀ key, key ∉ [js "payload", js "signature", js "signatureRef", js "siteId",
      js "templateAction"] → left.get key = right.get key) :
    detachedFields left = { detachedFields right with payload := (detachedFields left).payload } := by
  simp only [detachedFields, same (js "action") (by decide), same (js "Action") (by decide),
    same (js "tenant") (by decide), same (js "Tenant") (by decide),
    same (js "Tenant-Id") (by decide), same (js "actor") (by decide),
    same (js "Actor") (by decide), same (js "ts") (by decide), same (js "timestamp") (by decide),
    same (js "X-Timestamp") (by decide), same (js "nonce") (by decide),
    same (js "Nonce") (by decide), same (js "X-Nonce") (by decide), same (js "role") (by decide),
    same (js "Role") (by decide), same (js "Actor-Role") (by decide),
    same (js "requestId") (by decide), same (js "Request-Id") (by decide)]

private theorem reread_finite (fields : Fields) :
    (Json.obj (rereadFields fields)).AllFinite = true :=
  Json.allFinite_of_regular _ (Json.regular_reread (.obj fields))

/-- The site is the one the envelope names at its top level. -/
private theorem topLevelSiteId_envelope {body : Fields} {siteId : JsString}
    (named : body.get (js "siteId") = some (.str siteId)) (noAlias : body.get (js "SiteId") = none)
    (noDashed : body.get (js "Site-Id") = none) (trimmed : trim siteId = siteId)
    (nonempty : siteId ≠ []) : topLevelSiteId body = .ok siteId := by
  have single : [siteId].eraseDups = [siteId] := by simp [List.eraseDups_cons]
  simp [topLevelSiteId, canonicalFieldValue, named, noAlias, noDashed, trimmed, nonempty, single]

/-- A reply that carries a signature comes from an accepted call. -/
theorem workerReply_signed {env : Env} {runtime : Runtime} {workerEnv : SecretsWorker.Fields.Env}
    {call : SignCall} {request : SigningRequest} {signature signatureRef : JsString}
    (read : readSignerReply env (workerReply runtime workerEnv call request) =
      .ok (signature, signatureRef)) :
    ∃ signing, sign runtime workerEnv (signCallOf call request) = .ok signing := by
  cases signed : sign runtime workerEnv (signCallOf call request) with
  | ok signing => exact ⟨signing, rfl⟩
  | error exception =>
      have noSignature : asNonEmptyString (replyField
          (some (.obj [(js "error", .str (js exception.message))])) "signature") = none := by
        simp [replyField, asRecord, Fields.get, List.lookup_cons,
          (by decide : (js "signature" == js "error") = false), asNonEmptyString]
      simp only [workerReply, signRoute, signed, Except.map, readSignerReply, noSignature] at read
      split at read
      · exact absurd read refuse_ne_ok
      · exact absurd read refuse_ne_ok

/-- The forwarded envelope has the signed message exactly when its payload
already has the site the worker writes into it. -/
theorem signed_envelope_iff {input : TemplateCallInput}
    {siteId requestId role signature signatureRef action : JsString} {payload : Fields}
    {draws : Draws} {runtime : Runtime} {workerEnv : SecretsWorker.Fields.Env} {call : SignCall}
    {request : SigningRequest} {signing : Signing}
    (enveloped : request.envelope =
      buildWriteSignEnvelope input siteId requestId role (some (.obj payload)) draws)
    (trimmed : trim siteId = siteId) (nonempty : siteId ≠ [])
    (signed : sign runtime workerEnv (signCallOf call request) = .ok signing) :
    canonicalDetachedMessage (rereadFields (((((request.envelope.set (js "signature")
        (.str signature)).set (js "signatureRef") (.str signatureRef)).set (js "siteId")
        (.str siteId)).set (js "role") (.str role)).set (js "templateAction") (.str action))) =
        some signing.message ↔
      payload.get (js "siteId") = some (.str siteId) := by
  obtain ⟨inEnvelope, site, -, signedRole, noAlias, noDashed⟩ :=
    writeEnvelope_get input siteId requestId role payload draws
  rw [← enveloped] at inEnvelope site signedRole noAlias noDashed
  have read (key : JsString) : (rereadFields request.envelope).get key =
      (request.envelope.get key).map Json.reread := Fields.get_reread _ key
  obtain ⟨canonical, -, printed⟩ := sign_accepted signed
  have body : signing.body = rereadFields request.envelope := signBodyFields_obj (sign_body signed)
  rw [body] at canonical
  have named : topLevelSiteId (rereadFields request.envelope) = .ok siteId := by
    apply topLevelSiteId_envelope _ _ _ trimmed nonempty
    · rw [read, site]
      rfl
    · rw [read, noAlias]
      rfl
    · rw [read, noDashed]
      rfl
  have record : (rereadFields request.envelope).get (js "payload") =
      some (.obj (rereadFields payload)) := by
    rw [read, inEnvelope]
    rfl
  have commandPayload := canonicalizeSignBody_payload canonical record named nonempty
  have rewritten : (rereadFields payload).set (js "siteId") (.str siteId) =
      rereadFields (payload.set (js "siteId") (.str siteId)) :=
    (rereadFields_set payload (js "siteId") (.str siteId)).symm
  -- From here on the forwarded envelope is only read through its properties.
  generalize forwardedIs : ((((request.envelope.set (js "signature") (.str signature)).set
    (js "signatureRef") (.str signatureRef)).set (js "siteId") (.str siteId)).set (js "role")
    (.str role)).set (js "templateAction") (.str action) = forwarded
  have kept {key : JsString}
      (other : key ∉ [js "signature", js "signatureRef", js "siteId", js "templateAction"]) :
      (rereadFields forwarded).get key = (rereadFields request.envelope).get key := by
    rw [Fields.get_reread, ← forwardedIs, finished_get signedRole other, read]
  have forwardedPayload : (detachedFields (rereadFields forwarded)).payload =
      .obj (rereadFields payload) := by
    apply detachedFields_payload
    rw [kept (by decide), record]
  have signedPayload : (detachedFields signing.command).payload =
      .obj ((rereadFields payload).set (js "siteId") (.str siteId)) :=
    detachedFields_payload commandPayload
  have agree := detachedFields_congr (rereadFields forwarded) signing.command
    fun key other => by
      simp only [List.mem_cons, List.not_mem_nil, or_false, not_or] at other
      obtain ⟨notPayload, notSignature, notReference, notSite, notAction⟩ := other
      rw [kept (by simp [notSignature, notReference, notSite, notAction]),
        canonicalizeSignBody_get canonical notPayload notReference notSite]
  have signedFinite : (detachedFields signing.command).payload.AllFinite = true := by
    rw [signedPayload, rewritten]
    exact reread_finite _
  have forwardedFinite : (detachedFields (rereadFields forwarded)).payload.AllFinite = true := by
    rw [forwardedPayload]
    exact reread_finite payload
  rw [canonicalDetachedMessage_payload_iff agree signedFinite forwardedFinite printed,
    forwardedPayload, signedPayload, Json.same_set_iff, Fields.get_reread]
  simp only [Json.same_str_iff, exists_eq_right, Option.map_eq_some_iff, Json.reread_eq_str_iff]

/-- The message of a forwarded write is the one the worker signed exactly when
the payload of the call names its site in plain form. -/
theorem forwarded_message_iff {platform : Platform} {env : Env} {contract : TemplateContract}
    {input : TemplateCallInput} {draws : Draws} {runtime : Runtime}
    {workerEnv : SecretsWorker.Fields.Env} {call : SignCall} {request : SigningRequest}
    {backend : BackendRequest}
    (requested : (proxyTemplateCall platform env contract input draws
      (workerReply runtime workerEnv call)).signing = some request)
    (forwarded : (proxyTemplateCall platform env contract input draws
      (workerReply runtime workerEnv call)).backend = .ok backend) :
    ∃ signing, sign runtime workerEnv (signCallOf call request) = .ok signing ∧
      (canonicalDetachedMessage (rereadFields backend.body) = some signing.message ↔
        PlainSiteId input.payload) := by
  unfold proxyTemplateCall at requested forwarded
  split at requested
  next => exact absurd requested (by simp)
  next admitted accepted =>
    simp only [accepted] at forwarded
    split at requested
    next => exact absurd requested (by simp)
    next isWrite =>
      simp only [isWrite] at forwarded
      split at requested
      next => exact absurd requested (by simp)
      next plan planned =>
        obtain rfl : plan.request = request := Option.some.inj requested
        simp only [planned, bind_eq_ok] at forwarded
        obtain ⟨envelope, finished, built⟩ := forwarded
        obtain ⟨siteResolved, enveloped⟩ := planWrite_eq_ok planned
        obtain ⟨signature, signatureRef, replied, rfl⟩ := finishWrite_eq_ok finished
        obtain ⟨signing, signed⟩ := workerReply_signed replied
        refine ⟨signing, signed, ?_⟩
        rw [(buildBackendRequest_eq_ok built).1]
        obtain ⟨fields, payload, record, admittedPayload, sameSite⟩ := admitCall_payload accepted
        obtain ⟨trimmed, nonempty, namesSite⟩ := resolveWriteSiteId_eq_ok siteResolved
        rw [admittedPayload] at enveloped namesSite
        rw [signed_envelope_iff enveloped trimmed nonempty signed, sameSite]
        constructor
        · intro plain
          exact ⟨fields, plan.siteId, record, plain, trimmed, nonempty⟩
        · rintro ⟨others, siteId, sameRecord, plain, siteTrimmed, siteNonempty⟩
          obtain rfl : fields = others := by simpa [record] using sameRecord
          have named : resolvePayloadSiteId (some (.obj payload)) = some siteId := by
            simp [resolvePayloadSiteId, asRecord, sameSite, plain, asNonEmptyString, nonEmpty,
              siteTrimmed, siteNonempty]
          rw [plain, namesSite siteId named]

/-- A platform that resolves a path by appending it. -/
def plainPlatform : Platform where
  parseJson := fun _ => none
  urlHostname := fun _ => none
  urlProtocol := fun _ => none
  resolveUrl := fun path base => some (base ++ path)
  hmacSha256 := fun secret body => secret ++ body

def shopEnv : Env := fun name =>
  match name with
  | "GATEWAY_TEMPLATE_ALLOW_MUTATIONS" => some (js "1")
  | "WRITE_API_URL" => some (js "https://write.example")
  | "WORKER_API_URL" => some (js "https://worker.example")
  | "WORKER_SIGN_TOKEN" => some (js "token")
  | _ => none

def shopContract : TemplateContract :=
  some [{ name := js "checkout.create-order", path := js "/api/checkout/order",
          requiredRole := js "shop_admin", idempotency := .required }]

/-- An order of one item for a site. -/
def orderCall (siteId : String) : TemplateCallInput where
  action := js "checkout.create-order"
  payload := some (.obj [textField "siteId" siteId, (js "items", .arr [.num (.ofInt 1)])])
  requestId := some (js "req-1")

/-- The draws of a call at second 1000. -/
def shopDraws : Draws where
  traceId := js "trace-1"
  requestMs := 1000000
  requestHex := js "0f"
  envelopeMs := 1000000
  nonceHex := js "abcd"

/-- An order through the gateway and the worker. -/
def orderRun (siteId : String) : Proxied :=
  proxyTemplateCall plainPlatform shopEnv shopContract (orderCall siteId) shopDraws
    (workerReply plainRuntime localEnv (admittedCall []))

set_option maxRecDepth 20000 in
theorem forwarded_message_shop :
    ∃ request backend, (orderRun "site-1").signing = some request ∧
      (orderRun "site-1").backend = .ok backend ∧
      ∃ signing, sign plainRuntime localEnv (signCallOf (admittedCall []) request) = .ok signing ∧
        (canonicalDetachedMessage (rereadFields backend.body) = some signing.message ↔
          PlainSiteId (orderCall "site-1").payload) :=
  ⟨_, _, rfl, rfl, @forwarded_message_iff plainPlatform shopEnv shopContract (orderCall "site-1")
    shopDraws plainRuntime localEnv (admittedCall []) _ _ rfl rfl⟩

set_option maxRecDepth 20000 in
/-- The worker signs an order for `site-1`, the backend receives one whose
payload still names ` site-1 `. -/
theorem padded_site_message_differs :
    ¬∀ (platform : Platform) (env : Env) (contract : TemplateContract) (input : TemplateCallInput)
        (draws : Draws) (runtime : Runtime) (workerEnv : SecretsWorker.Fields.Env)
        (call : SignCall) (request : SigningRequest) (backend : BackendRequest)
        (signing : Signing),
      (proxyTemplateCall platform env contract input draws
        (workerReply runtime workerEnv call)).signing = some request →
      (proxyTemplateCall platform env contract input draws
        (workerReply runtime workerEnv call)).backend = .ok backend →
      sign runtime workerEnv (signCallOf call request) = .ok signing →
      canonicalDetachedMessage (rereadFields backend.body) = some signing.message := by
  intro claim
  have same := claim plainPlatform shopEnv shopContract (orderCall " site-1 ") shopDraws
    plainRuntime localEnv (admittedCall []) _ _ _ rfl rfl rfl
  exact absurd same (by decide +kernel)

end DarkmeshGateway.Gateway.TemplateSigning
