import DarkmeshGateway.SecretsWorker.SignRoute

/-!
Contract: the checkout endpoints `/api/checkout/order` and
`/api/checkout/payment-intent`.

Owns the canonical site of a write envelope, the command rebuilt from it, the
choice between its own signature and a fresh one, and when the signed view of
the envelope survives the rebuilding.

Does not own the transport of the command or the template token check: a call
carries the outcome of the latter.
-/

namespace DarkmeshGateway.SecretsWorker.WriteCommand

open Foundation.Js
open Foundation.Outcome
open Foundation.Delimited
open SecretsWorker.Fields
open SecretsWorker.SignPolicy
open SecretsWorker.DetachedMessage
open SecretsWorker.SignRoute

/-! ### The endpoints -/

inductive WriteRoute where
  | order
  | paymentIntent
deriving DecidableEq

def expectedWriteAction : WriteRoute → JsString
  | .order => js "CreateOrder"
  | .paymentIntent => js "CreatePaymentIntent"

/-- The template action that names the route. -/
def templateWriteAction : WriteRoute → JsString
  | .order => js "checkout.create-order"
  | .paymentIntent => js "checkout.create-payment-intent"

/-- One request: its parsed body, the headers read, the outcome of the token
check for a site, the clock as an ISO text and the random part of each fresh id. -/
structure WriteCall where
  body : Option Json
  bridgeSiteId : Option JsString
  requestIdHeader : Option JsString
  token : JsString → Except HttpException Unit
  nowIso : JsString
  random : String → JsString

def randomId (call : WriteCall) (idKind : String) : JsString :=
  js idKind ++ 45 :: call.random idKind

/-- `firstNonEmptyString(value, fallback)`. -/
def stringOr (value : Option Json) (fallback : JsString) : JsString :=
  firstNonEmptyString [value, some (.str fallback)]

/-- The site of an envelope: top level, payload and header must not disagree. -/
def envelopeSiteId (input : Fields) (header : Option JsString) : Except HttpException JsString := do
  let payload := (asRecord (input.get (js "payload"))).getD []
  let topLevel := firstNonEmptyString
    [input.get (js "siteId"), input.get (js "SiteId"), input.get (js "Site-Id")]
  let payloadLevel ← payloadSiteId (some payload)
  resolveCanonicalSiteId topLevel payloadLevel (trim (header.getD [])) true

/-- The canonical site and the input that carries it in both places. -/
def canonicalizeGatewayTemplateInput (input : Fields) (header : Option JsString) :
    Except HttpException (JsString × Fields) := do
  let siteId ← envelopeSiteId input header
  let payload := (asRecord (input.get (js "payload"))).getD []
  let normalizedPayload := payload.set (js "siteId") (.str siteId)
  return (siteId,
    (input.set (js "siteId") (.str siteId)).set (js "payload") (.obj normalizedPayload))

def validateWriteRouteAction (bodyAction : Option Json) (route : WriteRoute) :
    Except HttpException Unit :=
  let normalized := trimString bodyAction
  if normalized = [] ∨ normalized = expectedWriteAction route ∨
      normalized = templateWriteAction route then .ok ()
  else .error ⟨400, "action_route_mismatch"⟩

/-- An own property that is only written when its text is not empty. -/
def optionalField (name : String) (value : JsString) : Fields :=
  if value = [] then [] else [(js name, .str value)]

def buildWriteCommand (call : WriteCall) (input : Fields) (route : WriteRoute)
    (authenticatedSiteId : JsString) : Except HttpException Fields := do
  validateWriteRouteAction (input.get (js "action")) route
  let payload := (asRecord (input.get (js "payload"))).getD []
  let siteId ← envelopeSiteId input call.bridgeSiteId
  if siteId ≠ authenticatedSiteId then throw ⟨403, "site_scope_mismatch"⟩
  let payload := payload.set (js "siteId") (.str siteId)
  let requestId := firstNonEmptyString
    [input.get (js "requestId"), call.requestIdHeader.map .str,
      some (.str (randomId call "gw-write"))]
  let tenant := stringOr (input.get (js "tenant")) siteId
  if tenant = [] then throw ⟨400, "tenant_required"⟩
  if tenant ≠ siteId then throw ⟨403, "site_scope_mismatch"⟩
  return [(js "action", .str (expectedWriteAction route)),
    (js "requestId", .str requestId),
    (js "actor", .str (stringOr (input.get (js "actor")) (js "gateway-template"))),
    (js "role", .str (stringOr (input.get (js "role")) (js "admin"))),
    (js "tenant", .str tenant),
    (js "siteId", .str siteId),
    (js "timestamp", .str (stringOr (input.get (js "timestamp")) call.nowIso)),
    (js "nonce", .str (stringOr (input.get (js "nonce")) (randomId call "nonce"))),
    (js "payload", .obj payload)] ++
    optionalField "signature" (trimString (input.get (js "signature"))) ++
    optionalField "signatureRef" (trimString (input.get (js "signatureRef")))

def maybeSignWriteCommand (runtime : Runtime) (env : Env) (command : Fields) :
    Except HttpException Fields := do
  if trimString (command.get (js "signature")) ≠ [] ∧
      trimString (command.get (js "signatureRef")) ≠ [] then
    return command
  if !boolEnv env.gatewayWriteAutoSign true then throw ⟨401, "signature_required"⟩
  let signatureRef :=
    if cleanEnv env.workerSignatureRef = [] then js "worker-ed25519"
    else cleanEnv env.workerSignatureRef
  let signableCommand := command.set (js "signatureRef") (.str signatureRef)
  let signed ← signCommand runtime env signableCommand
  return signableCommand.set (js "signature") (.str signed.2)

/-- The command a checkout endpoint sends on for an envelope. -/
def checkoutWrite (runtime : Runtime) (env : Env) (call : WriteCall) (route : WriteRoute)
    (envelope : Fields) : Except HttpException Fields := do
  let (siteId, input) ← canonicalizeGatewayTemplateInput envelope call.bridgeSiteId
  call.token siteId
  let command ← buildWriteCommand call input route siteId
  maybeSignWriteCommand runtime env command

/-- The endpoint up to the transport. -/
def checkoutRoute (runtime : Runtime) (env : Env) (call : WriteCall) (route : WriteRoute) :
    Except HttpException Fields := do
  let envelope ← (call.body.bind ownProperties).elim (throw ⟨400, "invalid_body"⟩) pure
  checkoutWrite runtime env call route envelope

/-! ### The rebuilt command -/

/-- The signed parts of the command built for an envelope of a site. -/
def relayedParts (call : WriteCall) (route : WriteRoute) (site : JsString) (envelope : Fields) :
    DetachedParts where
  action := expectedWriteAction route
  tenant := site
  actor := stringOr (envelope.get (js "actor")) (js "gateway-template")
  timestamp := stringOr (envelope.get (js "timestamp")) call.nowIso
  nonce := stringOr (envelope.get (js "nonce")) (randomId call "nonce")
  role := stringOr (envelope.get (js "role")) (js "admin")
  payload := stableStringify
    (.obj (((asRecord (envelope.get (js "payload"))).getD []).set (js "siteId") (.str site)))
  requestId := firstNonEmptyString
    [envelope.get (js "requestId"), call.requestIdHeader.map .str,
      some (.str (randomId call "gw-write"))]

theorem envelopeSiteId_normalized {envelope input : Fields} {header : Option JsString}
    {site : JsString}
    (canonical : canonicalizeGatewayTemplateInput envelope header = .ok (site, input)) :
    envelopeSiteId envelope header = .ok site ∧
      input.get (js "payload") =
        some (.obj (((asRecord (envelope.get (js "payload"))).getD []).set
          (js "siteId") (.str site))) ∧
      ∀ key, key ≠ js "siteId" → key ≠ js "payload" → input.get key = envelope.get key := by
  simp only [canonicalizeGatewayTemplateInput, bind_eq_ok, pure_eq_ok, Prod.mk.injEq] at canonical
  obtain ⟨resolved, located, rfl, rfl⟩ := canonical
  refine ⟨located, by simp, fun key notSite notPayload => ?_⟩
  rw [Fields.get_set_other _ notPayload, Fields.get_set_other _ notSite]

/-- A string is what its only alias selects. -/
private theorem firstTruthy_str (text : JsString) (others : List (Option Json))
    (absent : ∀ other ∈ others, other = none) :
    firstTruthy (.str []) (some (.str text) :: others) = .str text := by
  by_cases empty : text = []
  · subst empty
    have skipped : firstTruthy (.str []) others = .str [] := by
      induction others with
      | nil => rfl
      | cons other rest inductionHypothesis =>
          obtain rfl : other = none := absent other (by simp)
          exact inductionHypothesis fun value member => absent value (by simp [member])
    simpa [firstTruthy, Json.truthy] using skipped
  · simp [firstTruthy, Json.truthy, empty]

/-- A command whose signed fields are strings is signed over those strings. -/
private theorem command_parts (action requestId actor role tenant siteId timestamp nonce signature
    signatureRef : JsString) (payload : Fields) :
    (detachedFields [(js "action", .str action), (js "requestId", .str requestId),
      (js "actor", .str actor), (js "role", .str role), (js "tenant", .str tenant),
      (js "siteId", .str siteId), (js "timestamp", .str timestamp), (js "nonce", .str nonce),
      (js "payload", .obj payload), (js "signature", .str signature),
      (js "signatureRef", .str signatureRef)]).parts =
      some ⟨action, tenant, actor, timestamp, nonce, role, stableStringify (.obj payload),
        requestId⟩ := by
  have one (text : JsString) : firstTruthy (.str []) [some (.str text), none] = .str text :=
    firstTruthy_str text [none] (by simp)
  have two (text : JsString) : firstTruthy (.str []) [some (.str text), none, none] = .str text :=
    firstTruthy_str text [none, none] (by simp)
  have selected : detachedFields [(js "action", .str action), (js "requestId", .str requestId),
      (js "actor", .str actor), (js "role", .str role), (js "tenant", .str tenant),
      (js "siteId", .str siteId), (js "timestamp", .str timestamp), (js "nonce", .str nonce),
      (js "payload", .obj payload), (js "signature", .str signature),
      (js "signatureRef", .str signatureRef)] =
      { action := firstTruthy (.str []) [some (.str action), none]
        tenant := firstTruthy (.str []) [some (.str tenant), none, none]
        actor := firstTruthy (.str []) [some (.str actor), none]
        timestamp := firstTruthy (.str []) [some (.str timestamp), none]
        nonce := firstTruthy (.str []) [some (.str nonce), none, none]
        role := firstTruthy (.str []) [some (.str role), none, none]
        payload := .obj payload
        requestId := firstTruthy (.str []) [some (.str requestId), none] } := rfl
  rw [selected]
  simp only [one, two]
  rfl

/-- The command of an envelope with its own signature: its parts, and that both
signature fields are kept. -/
private theorem buildWriteCommand_parts {call : WriteCall} {input command : Fields}
    {route : WriteRoute} {site : JsString}
    (built : buildWriteCommand call input route site = .ok command)
    (hasSignature : trimString (input.get (js "signature")) ≠ [])
    (hasReference : trimString (input.get (js "signatureRef")) ≠ []) :
    (detachedFields command).parts = some (relayedParts call route site input) ∧
      trimString (command.get (js "signature")) ≠ [] ∧
      trimString (command.get (js "signatureRef")) ≠ [] := by
  simp only [buildWriteCommand, bind_eq_ok, guard_eq_ok, pure_eq_ok] at built
  obtain ⟨_, -, siteId, -, sameSite, -, sameTenant, rfl⟩ := built
  rw [not_not] at sameSite sameTenant
  subst sameSite
  have trimmed (value : Option Json) : trim (trimString value) = trimString value := by
    unfold trimString
    split
    · exact trim_trim _
    · rfl
  simp only [optionalField, hasSignature, hasReference, if_false]
  refine ⟨?_, ?_, ?_⟩
  · rw [sameTenant]
    exact command_parts ..
  · exact fun blank => hasSignature ((trimmed _).symm.trans blank)
  · exact fun blank => hasReference ((trimmed _).symm.trans blank)

/-- A relayed envelope with its own signature keeps it, and its command is
signed over the relayed parts. -/
theorem checkoutWrite_parts {runtime : Runtime} {env : Env} {call : WriteCall}
    {route : WriteRoute} {envelope command : Fields} {site : JsString}
    (relayed : checkoutWrite runtime env call route envelope = .ok command)
    (hasSignature : trimString (envelope.get (js "signature")) ≠ [])
    (hasReference : trimString (envelope.get (js "signatureRef")) ≠ [])
    (located : envelopeSiteId envelope call.bridgeSiteId = .ok site) :
    (detachedFields command).parts = some (relayedParts call route site envelope) := by
  simp only [checkoutWrite, bind_eq_ok] at relayed
  obtain ⟨⟨resolved, input⟩, canonical, _, -, built, buildOk, signedOk⟩ := relayed
  obtain ⟨resolvedOk, payload, untouched⟩ := envelopeSiteId_normalized canonical
  obtain rfl : resolved = site := Except.ok.inj (resolvedOk.symm.trans located)
  have same (key : JsString) (notSite : key ≠ js "siteId") (notPayload : key ≠ js "payload") :
      input.get key = envelope.get key := untouched key notSite notPayload
  rw [← same (js "signature") (by decide) (by decide)] at hasSignature
  rw [← same (js "signatureRef") (by decide) (by decide)] at hasReference
  obtain ⟨parts, keptSignature, keptReference⟩ :=
    buildWriteCommand_parts buildOk hasSignature hasReference
  rw [maybeSignWriteCommand, if_pos ⟨keptSignature, keptReference⟩, pure_eq_ok] at signedOk
  rw [← signedOk, parts]
  simp only [relayedParts, payload, asRecord, Option.getD_some, Fields.set_set,
    same (js "actor") (by decide) (by decide),
    same (js "timestamp") (by decide) (by decide),
    same (js "nonce") (by decide) (by decide),
    same (js "role") (by decide) (by decide),
    same (js "requestId") (by decide) (by decide)]

/-! ### When the signature stays valid -/

/-- The signed view of an envelope is what the rebuilt command carries: each
selected value prints as the trimmed string, or default, the builder reads. -/
structure Relayable (call : WriteCall) (route : WriteRoute) (site : JsString)
    (envelope : Fields) : Prop where
  action : (detachedFields envelope).action.toText = some (expectedWriteAction route)
  tenant : (detachedFields envelope).tenant.toText = some site
  actor : (detachedFields envelope).actor.toText =
    some (stringOr (envelope.get (js "actor")) (js "gateway-template"))
  timestamp : (detachedFields envelope).timestamp.toText =
    some (stringOr (envelope.get (js "timestamp")) call.nowIso)
  nonce : (detachedFields envelope).nonce.toText =
    some (stringOr (envelope.get (js "nonce")) (randomId call "nonce"))
  role : (detachedFields envelope).role.toText =
    some (stringOr (envelope.get (js "role")) (js "admin"))
  payload : stableStringify (detachedFields envelope).payload = stableStringify
    (.obj (((asRecord (envelope.get (js "payload"))).getD []).set (js "siteId") (.str site)))
  requestId : (detachedFields envelope).requestId.toText = some (firstNonEmptyString
    [envelope.get (js "requestId"), call.requestIdHeader.map .str,
      some (.str (randomId call "gw-write"))])

private theorem relayable_iff {call : WriteCall} {route : WriteRoute} {site : JsString}
    {envelope : Fields} :
    Relayable call route site envelope ↔
      (detachedFields envelope).parts = some (relayedParts call route site envelope) := by
  constructor
  · intro relayable
    simp [DetachedFields.parts, relayedParts, relayable.action, relayable.tenant,
      relayable.actor, relayable.timestamp, relayable.nonce, relayable.role,
      relayable.payload, relayable.requestId]
  · intro printed
    obtain ⟨leading, payload, requestId⟩ := DetachedFields.parts_eq printed
    simp only [DetachedFields.leading, DetachedParts.leading, List.map_cons, List.map_nil,
      List.cons.injEq, and_true] at leading
    obtain ⟨action, tenant, actor, timestamp, nonce, role⟩ := leading
    exact ⟨action, tenant, actor, timestamp, nonce, role, payload.symm, requestId⟩

/-- Relaying an envelope keeps its own signature valid when the envelope is
relayable, and, separators in fields apart, only then. -/
theorem relayed_message_iff {runtime : Runtime} {env : Env} {call : WriteCall}
    {route : WriteRoute} {envelope command : Fields} {site : JsString}
    (relayed : checkoutWrite runtime env call route envelope = .ok command)
    (hasSignature : trimString (envelope.get (js "signature")) ≠ [])
    (hasReference : trimString (envelope.get (js "signatureRef")) ≠ [])
    (located : envelopeSiteId envelope call.bridgeSiteId = .ok site) :
    (Relayable call route site envelope →
      canonicalDetachedMessage command = canonicalDetachedMessage envelope) ∧
      ((relayedParts call route site envelope).SeparatorFree →
        (∀ parts, (detachedFields envelope).parts = some parts → parts.SeparatorFree) →
        canonicalDetachedMessage command = canonicalDetachedMessage envelope →
        Relayable call route site envelope) := by
  have printed := checkoutWrite_parts relayed hasSignature hasReference located
  rw [relayable_iff, canonicalDetachedMessage, canonicalDetachedMessage, printed]
  refine ⟨fun same => by rw [same], fun relayedFree receivedFree same => ?_⟩
  cases received : (detachedFields envelope).parts with
  | none => simp [received] at same
  | some parts =>
      simp only [received, Option.map_some, Option.some.injEq] at same
      rw [DetachedParts.join_injective relayedFree (receivedFree parts received) same]

/-- A request whose token is accepted, for an order of site `site-1`. -/
def orderCall : WriteCall where
  body := none
  bridgeSiteId := none
  requestIdHeader := none
  token := fun _ => .ok ()
  nowIso := js "1970-01-01T00:16:40Z"
  random := fun _ => js "1000000-5f"

/-- The envelope the gateway posts for an order, with a given timestamp. -/
def orderEnvelope (timestamp : Json) : Fields :=
  [textField "action" "CreateOrder", textField "requestId" "req-000001",
    textField "actor" "gateway-template", textField "tenant" "site-1", textField "role" "admin",
    textField "siteId" "site-1", (js "timestamp", timestamp), textField "nonce" "gw-0a0b",
    (js "payload", .obj [textField "siteId" "site-1"]), textField "signature" "c0ffee",
    textField "signatureRef" "worker-ed25519"]

set_option maxRecDepth 20000 in
theorem relayed_message_text_timestamp :
    ∃ command,
      checkoutWrite plainRuntime localEnv orderCall .order
        (orderEnvelope (.str (js "1000"))) = .ok command ∧
      (Relayable orderCall .order (js "site-1") (orderEnvelope (.str (js "1000"))) →
        canonicalDetachedMessage command =
          canonicalDetachedMessage (orderEnvelope (.str (js "1000")))) :=
  ⟨_, rfl, (@relayed_message_iff plainRuntime localEnv orderCall .order _ _ (js "site-1") rfl
    (by decide) (by decide) rfl).1⟩

set_option maxRecDepth 20000 in
/-- A numeric timestamp is replaced by the current time, so the signature of the
envelope does not cover the command that carries it. -/
theorem numeric_timestamp_not_relayed :
    ¬∀ (runtime : Runtime) (env : Env) (call : WriteCall) (route : WriteRoute)
        (envelope command : Fields),
      checkoutWrite runtime env call route envelope = .ok command →
      trimString (envelope.get (js "signature")) ≠ [] →
      trimString (envelope.get (js "signatureRef")) ≠ [] →
      canonicalDetachedMessage command = canonicalDetachedMessage envelope := by
  intro claim
  have same := claim plainRuntime localEnv orderCall .order
    (orderEnvelope (.num (Number.ofInt 1001))) _ rfl (by decide) (by decide)
  exact absurd same (by decide)

end DarkmeshGateway.SecretsWorker.WriteCommand
