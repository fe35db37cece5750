import DarkmeshGateway.SecretsWorker.DetachedMessage
import DarkmeshGateway.SecretsWorker.SignPolicy

/-!
Contract: `POST /sign`.

Owns the body checks of the route, the canonicalised command, its signature,
what one signed message says about two commands, and how the checked action
and role relate to the signed ones.

Does not own the token, rate limit and replay guards: a call carries their
outcomes.
-/

namespace DarkmeshGateway.SecretsWorker.SignRoute

open Foundation.Js
open Foundation.Outcome
open SecretsWorker.Fields
open SecretsWorker.SignPolicy
open SecretsWorker.DetachedMessage

/-! ### The route -/

/-- One request: the outcomes of its guards, the parsed body (`none` is invalid
JSON) and the clock in seconds. -/
structure SignCall where
  token : Except HttpException Unit
  rateLimit : Except HttpException Unit
  body : Option Json
  now : Int
  replay : JsString → Except HttpException Unit

def allowedKeys : List JsString :=
  [js "action", js "Action", js "tenant", js "Tenant", js "actor", js "Actor", js "timestamp",
    js "ts", js "nonce", js "Nonce", js "role", js "Role", js "Actor-Role", js "siteId",
    js "SiteId", js "Site-Id", js "signatureRef", js "SignatureRef", js "Signature-Ref",
    js "payload", js "Payload", js "requestId", js "Request-Id"]

/-- The own properties of a body that passes the key check. -/
def signBodyFields (body : Option Json) : Except HttpException Fields := do
  let body ← body.elim (throw ⟨400, "invalid_json"⟩) pure
  let fields ← (ownProperties body).elim (throw ⟨400, "invalid_body"⟩) pure
  if fields.any fun field => !allowedKeys.contains field.1 then throw ⟨400, "unknown_field"⟩
  return fields

def canonicalizeSignBody (body : Fields) (env : Env) : Except HttpException Fields := do
  let payload :=
    ((asRecord (body.get (js "payload"))).or (asRecord (body.get (js "Payload")))).getD []
  let topLevel ← topLevelSiteId body
  let inPayload ← payloadSiteId (some payload)
  let siteId ← resolveCanonicalSiteId topLevel inPayload [] false
  let signatureRef ← resolveCanonicalSignatureRef body env
  let normalizedPayload :=
    if siteId = [] then payload else payload.set (js "siteId") (.str siteId)
  let normalized :=
    (body.set (js "payload") (.obj normalizedPayload)).set (js "signatureRef") (.str signatureRef)
  return if siteId = [] then normalized else normalized.set (js "siteId") (.str siteId)

def parseUnixOrIsoTimestamp (runtime : Runtime) : Option Json → Option Int
  | some (.num (.finite value)) => some value.trunc
  | some (.str value) =>
      let trimmed := trim value
      if trimmed = [] then none
      else if trimmed.all isDigit then
        (parseInt10 trimmed).filter isFiniteInt
      else (runtime.parseDate trimmed).map fun parsedMs => parsedMs / 1000
  | _ => none

/-- `signBody.ts ?? signBody.timestamp`. -/
def signTimestamp (signBody : Fields) : Option Json :=
  match signBody.get (js "ts") with
  | none => signBody.get (js "timestamp")
  | some .null => signBody.get (js "timestamp")
  | some value => some value

def signNonce (signBody : Fields) : Except HttpException JsString :=
  match firstTruthy (.str []) [signBody.get (js "nonce"), signBody.get (js "Nonce")] with
  | .str nonce => if nonce = [] ∨ nonce.length > 128 then .error ⟨400, "missing_nonce"⟩ else .ok nonce
  | _ => .error ⟨400, "missing_nonce"⟩

/-- `SIGN_TS_WINDOW` in seconds. -/
def signWindow (env : Env) : Except HttpException Int :=
  match (parseInt10 (envOr env.signTsWindow "300")).filter isFiniteInt with
  | none => .error ⟨500, "invalid_sign_ts_window"⟩
  | some windowSec =>
      if windowSec ≤ 0 then .error ⟨500, "invalid_sign_ts_window"⟩ else .ok windowSec

/-- The timestamp parses, is not zero and lies within the window around now. -/
def timestampFresh (runtime : Runtime) (signBody : Fields) (now windowSec : Int) : Bool :=
  match parseUnixOrIsoTimestamp runtime (signTimestamp signBody) with
  | none => false
  | some tsNum => tsNum ≠ 0 ∧ (now - tsNum).natAbs ≤ windowSec

/-- `SIGN_MAX_BYTES` is set and the serialised body exceeds it. -/
def payloadTooLarge (env : Env) (signBody : Fields) : Bool :=
  match parseInt10 (envOr env.signMaxBytes "4096") with
  | none => false
  | some maxBytes => 0 < maxBytes ∧ maxBytes < utf8Length (Json.obj signBody).stringify

/-- The message of a command and its signature. -/
def signCommand (runtime : Runtime) (env : Env) (cmd : Fields) :
    Except HttpException (JsString × JsString) := do
  requireSecret env env.workerEd25519PrivHex "missing_secret:WORKER_ED25519_PRIV_HEX"
  let privHex := env.workerEd25519PrivHex.getD []
  if privHex = [] then throw ⟨500, "missing_secret:WORKER_ED25519_PRIV_HEX"⟩
  let message ← orTypeError (canonicalDetachedMessage cmd)
  hexDecodable privHex
  let signature ← orTypeError (runtime.ed25519Sign message privHex)
  return (message, signature)

/-- What an accepted call has computed. -/
structure Signing where
  body : Fields
  command : Fields
  context : SignContext
  message : JsString
  signature : JsString

/-- The route up to its response. -/
def sign (runtime : Runtime) (env : Env) (call : SignCall) : Except HttpException Signing := do
  call.token
  call.rateLimit
  let body ← signBodyFields call.body
  let signBody ← canonicalizeSignBody body env
  let context ← enforceSignPolicy runtime env signBody
  let nonce ← signNonce signBody
  let windowSec ← signWindow env
  if !timestampFresh runtime signBody call.now windowSec then throw ⟨400, "stale_timestamp"⟩
  call.replay nonce
  if payloadTooLarge env signBody then throw ⟨413, "payload_too_large"⟩
  let signed ← signCommand runtime env signBody
  return { body, command := signBody, context, message := signed.1, signature := signed.2 }

structure SignResponse where
  signature : JsString
  signatureRef : JsString
deriving DecidableEq

def signRoute (runtime : Runtime) (env : Env) (call : SignCall) :
    Except HttpException SignResponse :=
  (sign runtime env call).map fun signing =>
    { signature := signing.signature, signatureRef := signing.context.signatureRef }

/-! ### What an accepted call has done -/

private theorem signCommand_message {runtime : Runtime} {env : Env} {cmd : Fields}
    {signed : JsString × JsString} (accepted : signCommand runtime env cmd = .ok signed) :
    canonicalDetachedMessage cmd = some signed.1 := by
  simp only [signCommand, bind_eq_ok, guard_eq_ok, pure_eq_ok, orTypeError_eq_ok] at accepted
  obtain ⟨_, -, -, message, printed, _, -, _, -, rfl⟩ := accepted
  exact printed

/-- An accepted call signs the canonicalised body under the context of its policy check. -/
theorem sign_accepted {runtime : Runtime} {env : Env} {call : SignCall} {signing : Signing}
    (accepted : sign runtime env call = .ok signing) :
    canonicalizeSignBody signing.body env = .ok signing.command ∧
      enforceSignPolicy runtime env signing.command = .ok signing.context ∧
      canonicalDetachedMessage signing.command = some signing.message := by
  simp only [sign, bind_eq_ok, guard_eq_ok, pure_eq_ok] at accepted
  obtain ⟨_, -, _, -, body, -, command, canonical, context, enforced, _, -, _, -, -, _, -, -,
    signed, signedOk, rfl⟩ := accepted
  exact ⟨canonical, enforced, signCommand_message signedOk⟩

/-- Canonicalisation leaves every field but the payload, the signature
reference and the site alone. -/
theorem canonicalizeSignBody_get {body command : Fields} {env : Env}
    (canonical : canonicalizeSignBody body env = .ok command) {key : JsString}
    (notPayload : key ≠ js "payload") (notReference : key ≠ js "signatureRef")
    (notSite : key ≠ js "siteId") : command.get key = body.get key := by
  simp only [canonicalizeSignBody, bind_eq_ok, pure_eq_ok] at canonical
  obtain ⟨_, -, _, -, siteId, -, signatureRef, -, rfl⟩ := canonical
  split
  · rw [Fields.get_set_other _ notReference, Fields.get_set_other _ notPayload]
  · rw [Fields.get_set_other _ notSite, Fields.get_set_other _ notReference,
      Fields.get_set_other _ notPayload]

/-- The body of an accepted call is the one it was made with. -/
theorem sign_body {runtime : Runtime} {env : Env} {call : SignCall} {signing : Signing}
    (accepted : sign runtime env call = .ok signing) :
    signBodyFields call.body = .ok signing.body := by
  simp only [sign, bind_eq_ok, guard_eq_ok, pure_eq_ok] at accepted
  obtain ⟨_, -, _, -, body, read, command, -, context, -, _, -, _, -, -, _, -, -, signed, -, rfl⟩ :=
    accepted
  exact read

theorem signBodyFields_obj {fields read : Fields}
    (accepted : signBodyFields (some (.obj fields)) = .ok read) : read = fields := by
  simp only [signBodyFields, Option.elim_some, ownProperties, bind_eq_ok, guard_eq_ok,
    pure_eq_ok, Option.elim_some] at accepted
  obtain ⟨_, rfl, found, foundOk, -, rfl⟩ := accepted
  exact (Except.ok.inj foundOk).symm

theorem resolveCanonicalSiteId_topLevel {topLevel payload header siteId : JsString}
    {required : Bool} (nonempty : topLevel ≠ [])
    (resolved : resolveCanonicalSiteId topLevel payload header required = .ok siteId) :
    siteId = topLevel := by
  rw [resolveCanonicalSiteId, List.filter_cons_of_pos (by simpa using nonempty)] at resolved
  dsimp only at resolved
  split at resolved
  next => exact absurd resolved (by simp)
  next => exact (Except.ok.inj resolved).symm

/-- The payload of a canonicalised command is an object. -/
theorem canonicalizeSignBody_record {body command : Fields} {env : Env}
    (canonical : canonicalizeSignBody body env = .ok command) :
    ∃ payload, command.get (js "payload") = some (.obj payload) := by
  simp only [canonicalizeSignBody, bind_eq_ok, pure_eq_ok] at canonical
  obtain ⟨_, -, _, -, siteId, -, signatureRef, -, rfl⟩ := canonical
  split
  · rw [Fields.get_set_other _ (by decide), Fields.get_set_self]
    exact ⟨_, rfl⟩
  · rw [Fields.get_set_other _ (by decide), Fields.get_set_other _ (by decide),
      Fields.get_set_self]
    exact ⟨_, rfl⟩

/-- Canonicalisation writes the site the body names into the payload. -/
theorem canonicalizeSignBody_payload {body command payload : Fields} {env : Env}
    {siteId : JsString} (canonical : canonicalizeSignBody body env = .ok command)
    (record : body.get (js "payload") = some (.obj payload))
    (named : topLevelSiteId body = .ok siteId) (nonempty : siteId ≠ []) :
    command.get (js "payload") = some (.obj (payload.set (js "siteId") (.str siteId))) := by
  simp only [canonicalizeSignBody, bind_eq_ok, pure_eq_ok, record, asRecord, Option.some_or,
    Option.getD_some, named] at canonical
  obtain ⟨topLevel, sameSite, inPayload, -, canonicalSite, resolved, signatureRef, -, rfl⟩ :=
    canonical
  obtain rfl := Except.ok.inj sameSite
  obtain rfl := resolveCanonicalSiteId_topLevel nonempty resolved
  rw [if_neg nonempty, if_neg nonempty, Fields.get_set_other _ (by decide),
    Fields.get_set_other _ (by decide), Fields.get_set_self]

/-! ### One message, one command -/

private theorem message_parts {cmd : Fields} {message : JsString}
    (printed : canonicalDetachedMessage cmd = some message) :
    ∃ parts, (detachedFields cmd).parts = some parts ∧ message = parts.join := by
  simp only [canonicalDetachedMessage, Option.map_eq_some_iff] at printed
  obtain ⟨parts, partsEq, rfl⟩ := printed
  exact ⟨parts, partsEq, rfl⟩

/-- Two accepted commands with one signed message agree on every signed field
exactly when no field of theirs can be mistaken for another. -/
theorem same_message_same_command {runtime : Runtime} {leftEnv rightEnv : Env}
    {left right : SignCall} {leftSigning rightSigning : Signing}
    (leftAccepted : sign runtime leftEnv left = .ok leftSigning)
    (rightAccepted : sign runtime rightEnv right = .ok rightSigning)
    (same : leftSigning.message = rightSigning.message) :
    SameDetached (detachedFields leftSigning.command) (detachedFields rightSigning.command) ↔
      Unambiguous (detachedFields leftSigning.command) (detachedFields rightSigning.command) := by
  obtain ⟨leftParts, leftPrinted, leftMessage⟩ := message_parts (sign_accepted leftAccepted).2.2
  obtain ⟨rightParts, rightPrinted, rightMessage⟩ :=
    message_parts (sign_accepted rightAccepted).2.2
  rw [leftMessage, rightMessage] at same
  constructor
  · intro equal
    refine ⟨?_, Or.inl equal.payload, Or.inl equal.requestId⟩
    rw [equal.leading]
    exact List.forall₂_same.mpr fun _ _ => Or.inl rfl
  · intro unambiguous
    exact message_determines leftPrinted rightPrinted unambiguous same

/-- A local worker with a signing key and no policy. -/
def localEnv : Env where
  testInMemoryKv := some (.str (js "1"))
  workerEd25519PrivHex := some (js "1f1e")

/-- A platform that parses nothing and signs with the key followed by the message. -/
def plainRuntime : Runtime where
  parseJson := fun _ => none
  parseDate := fun _ => none
  ed25519Sign := fun message privHex => some (privHex ++ message)

/-- A request at second 1000 whose guards pass. -/
def admittedCall (body : Fields) : SignCall where
  token := .ok ()
  rateLimit := .ok ()
  body := some (.obj body)
  now := 1000
  replay := fun _ => .ok ()

def textField (name value : String) : JsString × Json := (js name, .str (js value))

/-- The commands of tenant `t|x`, actor `y` and of tenant `t`, actor `x|y`. -/
def wideTenantBody : Fields :=
  [textField "action" "CreateOrder", textField "tenant" "t|x", textField "actor" "y",
    textField "ts" "1001", textField "nonce" "n"]

def wideActorBody : Fields :=
  [textField "action" "CreateOrder", textField "tenant" "t", textField "actor" "x|y",
    textField "ts" "1001", textField "nonce" "n"]

set_option maxRecDepth 20000 in
theorem same_message_wide_tenant :
    ∃ leftSigning rightSigning,
      sign plainRuntime localEnv (admittedCall wideTenantBody) = .ok leftSigning ∧
      sign plainRuntime localEnv (admittedCall wideActorBody) = .ok rightSigning ∧
      (SameDetached (detachedFields leftSigning.command) (detachedFields rightSigning.command) ↔
        Unambiguous (detachedFields leftSigning.command)
          (detachedFields rightSigning.command)) :=
  ⟨_, _, rfl, rfl, @same_message_same_command plainRuntime localEnv localEnv
    (admittedCall wideTenantBody) (admittedCall wideActorBody) _ _ rfl rfl rfl⟩

set_option maxRecDepth 20000 in
/-- One signature authenticates a command of tenant `t|x` and one of tenant `t`. -/
theorem message_not_injective :
    ¬∀ (runtime : Runtime) (env : Env) (left right : SignCall)
        (leftSigning rightSigning : Signing),
      sign runtime env left = .ok leftSigning → sign runtime env right = .ok rightSigning →
      leftSigning.message = rightSigning.message →
      SameDetached (detachedFields leftSigning.command) (detachedFields rightSigning.command) := by
  intro claim
  have same := claim plainRuntime localEnv (admittedCall wideTenantBody)
    (admittedCall wideActorBody) _ _ rfl rfl rfl
  have tenants : Json.str (js "t|x") = .str (js "t") :=
    congrArg (fun values => values.getD 1 .null) same.leading
  exact absurd (Json.str.inj tenants) (by decide)

/-! ### The policy checks what is signed -/

/-- The condition under which both selection rules give one text: no alias is
truthy, the first truthy alias is a string without surrounding white space, or
it is another value whose text is the first non-blank string alias. -/
def FieldAgrees (aliases : List (Option Json)) : Prop :=
  match firstTruthyAlias aliases with
  | none => True
  | some (.str text) => trim text = text
  | some value => value.toText = some (firstNonEmptyString aliases)

private theorem trimString_falsy {value : Json} (falsy : value.truthy = false) :
    trimString (some value) = [] := by
  cases value with
  | str text =>
      obtain rfl : text = [] := by simpa [Json.truthy] using falsy
      rfl
  | _ => rfl

/-- Falsy aliases are skipped by the policy's selection too. -/
private theorem firstNonEmptyString_agrees (aliases : List (Option Json)) :
    (firstTruthyAlias aliases = none → firstNonEmptyString aliases = []) ∧
      ∀ text, firstTruthyAlias aliases = some (.str text) → trim text = text →
        firstNonEmptyString aliases = text := by
  induction aliases with
  | nil => simp [firstTruthyAlias, firstNonEmptyString]
  | cons head rest inductionHypothesis =>
      cases head with
      | none => simpa [firstTruthyAlias, firstNonEmptyString] using inductionHypothesis
      | some value =>
          by_cases truthy : value.truthy = true
          · refine ⟨by simp [firstTruthyAlias, truthy], fun text selected trimmed => ?_⟩
            obtain rfl : value = .str text := by simpa [firstTruthyAlias, truthy] using selected
            have nonempty : text ≠ [] := by simpa [Json.truthy] using truthy
            simp [firstNonEmptyString, trimmed, nonempty]
          · simp only [Bool.not_eq_true] at truthy
            simpa [firstTruthyAlias, firstNonEmptyString, truthy, trimString_falsy truthy]
              using inductionHypothesis

/-- The text of the first truthy alias is the policy's string exactly when the
selection rules agree. -/
private theorem text_eq_checked_iff {aliases : List (Option Json)} {text : JsString}
    (printed : (firstTruthy (.str []) aliases).toText = some text) :
    text = firstNonEmptyString aliases ↔ FieldAgrees aliases := by
  obtain ⟨skipped, selected⟩ := firstNonEmptyString_agrees aliases
  rw [firstTruthy_eq] at printed
  unfold FieldAgrees
  cases found : firstTruthyAlias aliases with
  | none =>
      obtain rfl : [] = text := by simpa [found, Json.toText] using printed
      simp [skipped found]
  | some value =>
      rw [found, Option.getD_some] at printed
      cases value with
      | str content =>
          obtain rfl : content = text := by simpa [Json.toText] using printed
          constructor
          · intro same
            simp only [same, trim_firstNonEmptyString]
          · intro trimmed
            exact (selected content found trimmed).symm
      | _ => simp [printed]

/-- The signed action and role are the checked ones exactly when the aliases
of both fields agree under the two selection rules. -/
theorem signed_fields_checked_iff {runtime : Runtime} {env : Env} {call : SignCall}
    {signing : Signing} (accepted : sign runtime env call = .ok signing) :
    ∃ parts, (detachedFields signing.command).parts = some parts ∧
      signing.message = parts.join ∧
      (parts.action = signing.context.action ∧ parts.role = signing.context.role ↔
        FieldAgrees [signing.body.get (js "action"), signing.body.get (js "Action")] ∧
          FieldAgrees [signing.body.get (js "role"), signing.body.get (js "Role"),
            signing.body.get (js "Actor-Role")]) := by
  obtain ⟨canonical, enforced, message⟩ := sign_accepted accepted
  obtain ⟨parts, printed, messageEq⟩ := message_parts message
  obtain ⟨actionChecked, roleChecked⟩ :=
    resolveSignRequestContext_fields (enforceSignPolicy_context enforced)
  have leading := (DetachedFields.parts_eq printed).1
  simp only [DetachedFields.leading, DetachedParts.leading, detachedFields, List.map_cons,
    List.cons.injEq] at leading
  obtain ⟨actionText, -, -, -, -, roleText, -⟩ := leading
  have untouched (key : JsString) (notPayload : key ≠ js "payload")
      (notReference : key ≠ js "signatureRef") (notSite : key ≠ js "siteId") :
      signing.command.get key = signing.body.get key :=
    canonicalizeSignBody_get canonical notPayload notReference notSite
  rw [untouched (js "action") (by decide) (by decide) (by decide),
    untouched (js "Action") (by decide) (by decide) (by decide)] at actionText actionChecked
  rw [untouched (js "role") (by decide) (by decide) (by decide),
    untouched (js "Role") (by decide) (by decide) (by decide),
    untouched (js "Actor-Role") (by decide) (by decide) (by decide)] at roleText roleChecked
  refine ⟨parts, printed, messageEq, ?_⟩
  rw [actionChecked, roleChecked, text_eq_checked_iff actionText, text_eq_checked_iff roleText]

/-- An action hidden from the policy in an array. -/
def arrayActionBody : Fields :=
  [(js "action", .arr [.str (js "RegisterSite")]), textField "ts" "1001", textField "nonce" "n"]

set_option maxRecDepth 20000 in
theorem signed_fields_checked_array_action :
    ∃ signing, sign plainRuntime localEnv (admittedCall arrayActionBody) = .ok signing ∧
      ∃ parts, (detachedFields signing.command).parts = some parts ∧
        signing.message = parts.join ∧
        (parts.action = signing.context.action ∧ parts.role = signing.context.role ↔
          FieldAgrees [signing.body.get (js "action"), signing.body.get (js "Action")] ∧
            FieldAgrees [signing.body.get (js "role"), signing.body.get (js "Role"),
              signing.body.get (js "Actor-Role")]) :=
  ⟨_, rfl, @signed_fields_checked_iff plainRuntime localEnv (admittedCall arrayActionBody) _ rfl⟩

set_option maxRecDepth 20000 in
/-- The control-plane action `RegisterSite` is signed although the policy saw no action. -/
theorem signed_action_not_checked :
    ¬∀ (runtime : Runtime) (env : Env) (call : SignCall) (signing : Signing),
      sign runtime env call = .ok signing →
      ∃ parts, (detachedFields signing.command).parts = some parts ∧
        signing.message = parts.join ∧
        parts.action = signing.context.action ∧ parts.role = signing.context.role := by
  intro claim
  obtain ⟨parts, printed, -, action, -⟩ :=
    claim plainRuntime localEnv (admittedCall arrayActionBody) _ rfl
  have signed : some parts.action = some (js "RegisterSite") :=
    (congrArg (Option.map DetachedParts.action) printed).symm
  have checked : js "RegisterSite" = [] := (Option.some.inj signed).symm.trans action
  exact absurd checked (by decide)

end DarkmeshGateway.SecretsWorker.SignRoute
