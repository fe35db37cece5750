import DarkmeshGateway.Gateway.IntegrityIncident
import DarkmeshGateway.Gateway.SiteLookup
import DarkmeshGateway.Gateway.TemplateApi

/-!
Contract: `POST /template/call` in front of the template API.

Owns the checks of a call, the site its host binds it to, what the site does to
the payload, and that every request issued for a bound call is for its site.

Does not own the rate limiter, the metrics and the backend's response.
-/

namespace DarkmeshGateway.Gateway.TemplateCall

open Foundation.Js
open Foundation.Outcome
open Gateway.Environment
open Gateway.IntegrityIncident (tokenEquals)
open Gateway.SiteLookup
open Gateway.SiteResolver
open Gateway.TemplateActions
open Gateway.TemplateApi (Draws Platform Proxied Refusal SignerReply SigningRequest
  TemplateCallInput baseText propertyJson proxyTemplateCall refusal_eq_ok refuse refuse_ne_ok)

/-! ### A call -/

/-- A request: its body and its template token header, trimmed, and whether the
rate limit turns it away. -/
structure TemplateCallRequest where
  isPost : Bool
  limited : Bool
  bodyText : JsString
  templateToken : JsString

def templateWriteActions : List JsString :=
  [js "checkout.create-order", js "checkout.create-payment-intent"]

/-- The properties of a body that is an object or an array. -/
def readCallBody (platform : Platform) (env : Env) (request : TemplateCallRequest) :
    Except Refusal Fields :=
  if !request.isPost then refuse 405 "method"
  else if request.limited then refuse 429 "Too Many Requests"
  else if readPositiveIntEnv env "GATEWAY_TEMPLATE_MAX_BODY_BYTES" 32768 <
      utf8Length request.bodyText then
    refuse 413 "payload_too_large" [(js "retryable", .bool false)]
  else if request.bodyText = [] then refuse 400 "invalid_json"
  else
    match (platform.parseJson request.bodyText).bind ownProperties with
    | none => refuse 400 "invalid_json"
    | some body => .ok body

/-- `String(body.action || '').trim()`. -/
def readCallAction (body : Fields) : Except Refusal JsString :=
  match ((body.get (js "action")).filter Json.truthy).elim (some []) Json.toText with
  | none => .error .thrown
  | some text => if trim text = [] then refuse 400 "action_required" else .ok (trim text)

/-- The site ids a body names at its top level and in its payload; an empty text
is no site id. -/
def bodySiteId (body : Fields) : JsString := trimString (body.get (js "siteId"))

def payloadSiteId (payload : Option Json) : JsString :=
  (payload.bind ownProperties).elim [] fun fields => trimString (fields.get (js "siteId"))

def checkCallToken (env : Env) (request : TemplateCallRequest) (writeAction : Bool) :
    Except Refusal Unit :=
  let requiredToken := readHandlerEnvString env "GATEWAY_TEMPLATE_TOKEN"
  let writeMutations :=
    writeAction && readHandlerStrictEnabledFlag env "GATEWAY_TEMPLATE_ALLOW_MUTATIONS"
  if writeMutations && requiredToken.isNone then refuse 500 "template_auth_not_configured"
  else if (requiredToken.isSome || writeMutations) &&
      !tokenEquals (requiredToken.getD []) request.templateToken then
    refuse 401 "unauthorized"
  else .ok ()

/-! ### The site of a call -/

def bodyFallbackAllowed (env : Env) (productionLikeMode : Bool) : Bool :=
  readHandlerStrictEnabledFlag env "GATEWAY_SITE_RESOLVE_ALLOW_BODY_FALLBACK" ||
    (!productionLikeMode && (readHandlerEnvString env "GATEWAY_SITE_ID_BY_HOST_MAP").isNone)

/-- The site of a call, when it has one: the site of its host, with which the
body must agree, or the one the body falls back to. -/
def effectiveSite (mapped : Option Value) (fallbackAllowed writeAction : Bool)
    (bodySite payloadSite : JsString) : Except Refusal (Option Value) :=
  let fallback := if bodySite ≠ [] then bodySite else payloadSite
  match mapped.filter Value.truthy with
  | some site =>
      if bodySite ≠ [] ∧ baseText site ≠ some bodySite then refuse 400 "site_id_host_mismatch"
      else if payloadSite ≠ [] ∧ baseText site ≠ some payloadSite then
        refuse 400 "site_id_host_mismatch"
      else .ok (some site)
  | none =>
      if writeAction && !fallbackAllowed then refuse 403 "site_not_bound_for_host"
      else if fallback ≠ [] ∧ fallbackAllowed = false then
        refuse 400 "site_id_without_host_binding"
      else .ok (if fallback = [] then none else some (.text fallback))

/-- `{ ...payload, siteId }` for a payload object without a site id, as it is
printed. -/
def bindPayload (payload : Option Json) (site : Option Value) : Option Json :=
  match site, payload with
  | some site, some (.obj fields) =>
      if payloadSiteId payload ≠ [] then payload
      else
        match propertyJson site with
        | some json => some (.obj (Fields.set fields (js "siteId") json))
        | none => some (.obj (List.filter (fun field => field.1 ≠ js "siteId") fields))
  | _, _ => payload

/-- `typeof body[key] === 'string' ? body[key] : undefined`. -/
def stringField (body : Fields) (key : String) : Option JsString :=
  match body.get (js key) with
  | some (.str text) => some text
  | _ => none

/-- The call that goes to the template API. -/
def readTemplateCall (platform : Platform) (env : Env) (lookup : JsString → AoLookupResult)
    (request : TemplateCallRequest) (paused : Bool) (requestHost : JsString)
    (productionLikeMode : Bool) : Except Refusal TemplateCallInput := do
  let body ← readCallBody platform env request
  let action ← readCallAction body
  let payload := body.get (js "payload")
  let writeAction := templateWriteActions.contains action
  checkCallToken env request writeAction
  if paused && writeAction then
    refuse 503 "policy_paused" [(js "reason", .str (js "integrity_policy_paused")),
      (js "paused", .bool true), (js "retryable", .bool false)]
  match resolveTemplateSiteIdFromHost platform.parseJson env lookup requestHost
      productionLikeMode with
  | .failed status error => refuse status error
  | .ok mapped runtimeHints =>
      let site ← effectiveSite mapped (bodyFallbackAllowed env productionLikeMode) writeAction
        (bodySiteId body) (payloadSiteId payload)
      return {
        action
        payload := bindPayload payload site
        requestId := stringField body "requestId"
        siteId := site.bind baseText
        runtimeHints
        runtimeHintsTrusted := runtimeHints.isSome
        actor := stringField body "actor"
        role := stringField body "role" }

/-- A call up to its backend request. -/
def handleTemplateCall (platform : Platform) (env : Env) (contract : TemplateContract)
    (lookup : JsString → AoLookupResult) (request : TemplateCallRequest) (paused : Bool)
    (requestHost : JsString) (productionLikeMode : Bool) (draws : Draws)
    (signer : SigningRequest → SignerReply) : Proxied :=
  match readTemplateCall platform env lookup request paused requestHost productionLikeMode with
  | .error refusal => ⟨none, .error refusal⟩
  | .ok input => proxyTemplateCall platform env contract input draws signer

/-! ### The site of a host -/

/-- A text found in a parsed host map is a site id. -/
theorem mappedSite_name {parseJson : JsString → Option Json} {raw : JsString} {map : Value}
    {host site : JsString} (parsed : parseHostMap parseJson raw = some map)
    (mapped : mappedSite map host = .text site) : SiteName site := by
  obtain ⟨own, rfl, named⟩ := parseHostMap_forall
    (fun entry => ∃ site, entry.2 = .text site ∧ SiteName site)
    (fun key value _ present => ⟨_, rfl, trimString_name present⟩) parsed
  have ofRead {key : JsString}
      (read : readPlain (.object own (.prototype .object)) key = .text site) : SiteName site := by
    obtain ⟨other, same, name⟩ := named _ (mem_of_lookup (readPlain_text read))
    rw [Value.text.inj same]
    exact name
  unfold mappedSite at mapped
  split at mapped
  · exact ofRead mapped
  · exact ofRead mapped

/-- A host that resolves to a text resolves to a site id. -/
theorem resolved_name {parseJson : JsString → Option Json} {env : Env} {state : ResolverState}
    (reachable : Reachable env state) {response : ResolverResponse} {startedAt endedAt : Int}
    {requestHost site : JsString} {productionLikeMode : Bool} {hints : Option RuntimeRoutingHints}
    (resolved : resolveTemplateSiteIdFromHost parseJson env
      (lookupSiteIdViaAo env state response startedAt endedAt) requestHost productionLikeMode =
        .ok (some (.text site)) hints) : SiteName site := by
  rcases resolve_site resolved with ⟨raw, map, parsed, mapped, -⟩ | ⟨text, same, found⟩
  · exact mappedSite_name parsed mapped
  · rw [Value.text.inj same]
    exact lookupSiteIdViaAo_name reachable.remembers response startedAt endedAt _ _ _ found

/-! ### Requests for one site -/

/-- Where a record has a site id or a tenant it is the site, and where it has a
payload the site id of the payload trims to the site. -/
structure CarriesSite (site : JsString) (fields : Fields) : Prop where
  siteId : ∀ value, fields.get (js "siteId") = some value → value = .str site
  tenant : ∀ value, fields.get (js "tenant") = some value → value = .str site
  payload : ∀ value, fields.get (js "payload") = some value →
    ∃ (payload : Fields) (text : JsString), value = .obj payload ∧
      payload.get (js "siteId") = some (.str text) ∧ trim text = site

/-- A call for a site, whose payload names the site when it is an object. -/
structure BoundInput (site : JsString) (input : TemplateCallInput) : Prop where
  name : SiteName site
  siteId : input.siteId = some site
  payload : ∀ fields, input.payload = some (.obj fields) →
    ∃ text, Fields.get fields (js "siteId") = some (.str text) ∧ trim text = site

theorem nonEmpty_site {site : JsString} (name : SiteName site) :
    TemplateApi.nonEmpty (some site) = some site :=
  TemplateApi.nonEmpty_eq_some.mpr ⟨site, rfl, name.trimmed, name.named⟩

/-- An admitted call for a site forwards a payload that names the site. -/
theorem admitted_payload_site {platform : Platform} {env : Env} {contract : TemplateContract}
    {input : TemplateCallInput} {admitted : TemplateApi.Admitted} {site : JsString}
    (bound : BoundInput site input)
    (accepted : TemplateApi.admitCall platform env contract input = .ok admitted) :
    ∃ (payload : Fields) (text : JsString), admitted.payload = some (.obj payload) ∧
      payload.get (js "siteId") = some (.str text) ∧ trim text = site := by
  obtain ⟨fields, forwarded, came, admittedPayload, same⟩ :=
    TemplateApi.admitCall_payload accepted
  obtain ⟨text, named, trimmed⟩ := bound.payload fields came
  exact ⟨forwarded, text, admittedPayload, same.trans named, trimmed⟩

/-- The body of a read: the host and the ids of a lookup by host, or the call
with its site. -/
theorem readBody_carries {platform : Platform} {env : Env} {contract : TemplateContract}
    {input : TemplateCallInput} {admitted : TemplateApi.Admitted} {site : JsString}
    (bound : BoundInput site input)
    (accepted : TemplateApi.admitCall platform env contract input = .ok admitted) (draws : Draws) :
    CarriesSite site (TemplateApi.readBody input admitted draws) := by
  have unsigned : CarriesSite site (TemplateApi.unsignedBody input admitted) := by
    obtain ⟨siteId, tenant, payload⟩ := TemplateApi.unsignedBody_get input admitted
    constructor
    · intro value found
      rw [siteId, bound.siteId, nonEmpty_site bound.name] at found
      exact (Option.some.inj found).symm
    · intro value found
      rw [tenant] at found
      exact absurd found (by simp)
    · intro value found
      rw [payload] at found
      obtain ⟨forwarded, text, admittedPayload, named⟩ := admitted_payload_site bound accepted
      rw [admittedPayload] at found
      exact ⟨forwarded, text, (Option.some.inj found).symm, named⟩
  unfold TemplateApi.readBody
  split
  · cases built : TemplateApi.buildSiteByHostUpstreamBody admitted.payload admitted.requestId
        draws.traceId with
    | none => exact unsigned
    | some body =>
        have absent {key : JsString} {value : Json}
            (other : key ∉ [js "host", js "requestId", js "traceId"])
            (found : body.get key = some value) : False := by
          rw [TemplateApi.buildSiteByHostUpstreamBody_get built other] at found
          exact absurd found (by simp)
        constructor
        · intro value found
          exact (absent (by decide) found).elim
        · intro value found
          exact (absent (by decide) found).elim
        · intro value found
          exact (absent (by decide) found).elim
  · exact unsigned

/-- The envelope of a write is for the site of its call. -/
theorem writeEnvelope_carries {platform : Platform} {env : Env} {contract : TemplateContract}
    {input : TemplateCallInput} {admitted : TemplateApi.Admitted} {draws : Draws}
    {plan : TemplateApi.WritePlan} {site : JsString} (bound : BoundInput site input)
    (accepted : TemplateApi.admitCall platform env contract input = .ok admitted)
    (planned : TemplateApi.planWrite platform env input admitted draws = .ok plan) :
    plan.siteId = site ∧ plan.request.envelope.get (js "siteId") = some (.str site) ∧
      plan.request.envelope.get (js "tenant") = some (.str site) ∧
      plan.request.envelope.get (js "role") = some (.str plan.role) ∧
      CarriesSite site plan.request.envelope := by
  obtain ⟨siteResolved, enveloped⟩ := TemplateApi.planWrite_eq_ok planned
  obtain ⟨payload, text, admittedPayload, named, trimmed⟩ := admitted_payload_site bound accepted
  obtain ⟨-, -, namesSite⟩ := TemplateApi.resolveWriteSiteId_eq_ok siteResolved
  have inPayload : TemplateApi.resolvePayloadSiteId admitted.payload = some site := by
    rw [admittedPayload]
    simp [TemplateApi.resolvePayloadSiteId, asRecord, named, TemplateApi.asNonEmptyString,
      TemplateApi.nonEmpty, trimmed, bound.name.named]
  have same : plan.siteId = site := (namesSite site inPayload).symm
  rw [enveloped, admittedPayload, same]
  obtain ⟨payloadGet, siteGet, tenantGet, roleGet, -⟩ :=
    TemplateApi.writeEnvelope_get input site plan.requestId plan.role payload draws
  refine ⟨rfl, siteGet, tenantGet, roleGet, ?_⟩
  constructor
  · intro value found
    rw [siteGet] at found
    exact (Option.some.inj found).symm
  · intro value found
    rw [tenantGet] at found
    exact (Option.some.inj found).symm
  · intro value found
    rw [payloadGet] at found
    exact ⟨payload, text, (Option.some.inj found).symm, named, trimmed⟩

/-- What a call for a site may issue. -/
structure Isolated (site : JsString) (proxied : Proxied) : Prop where
  signing : ∀ request, proxied.signing = some request →
    request.envelope.get (js "siteId") = some (.str site) ∧
      request.envelope.get (js "tenant") = some (.str site) ∧ CarriesSite site request.envelope
  backend : ∀ backend, proxied.backend = .ok backend →
    backend.siteId = some site ∧ CarriesSite site backend.body

/-- Every request issued for a call is for the site of the call. -/
theorem proxyTemplateCall_isolated (platform : Platform) (env : Env) (contract : TemplateContract)
    {input : TemplateCallInput} {site : JsString} (bound : BoundInput site input) (draws : Draws)
    (signer : SigningRequest → SignerReply) :
    Isolated site (proxyTemplateCall platform env contract input draws signer) := by
  constructor
  · intro request requested
    obtain ⟨admitted, plan, accepted, planned, rfl⟩ :=
      TemplateApi.proxyTemplateCall_signing requested
    obtain ⟨-, siteId, tenant, -, carries⟩ := writeEnvelope_carries bound accepted planned
    exact ⟨siteId, tenant, carries⟩
  · intro backend forwarded
    obtain ⟨admitted, accepted, read | ⟨plan, envelope, planned, finished, built⟩⟩ :=
      TemplateApi.proxyTemplateCall_backend forwarded
    · obtain ⟨body, siteId⟩ := TemplateApi.buildBackendRequest_eq_ok read
      rw [body, siteId, bound.siteId]
      exact ⟨nonEmpty_site bound.name, readBody_carries bound accepted draws⟩
    · obtain ⟨body, siteId⟩ := TemplateApi.buildBackendRequest_eq_ok built
      obtain ⟨same, -, -, signedRole, carries⟩ := writeEnvelope_carries bound accepted planned
      obtain ⟨signature, signatureRef, -, rfl⟩ := TemplateApi.finishWrite_eq_ok finished
      rw [body, siteId, same]
      refine ⟨rfl, ?_, ?_, ?_⟩
      · intro value found
        rw [Fields.get_set_other _ (by decide), Fields.get_set_other _ (by decide),
          Fields.get_set_self] at found
        exact (Option.some.inj found).symm
      · intro value found
        rw [TemplateApi.finished_get signedRole (by decide)] at found
        exact carries.tenant value found
      · intro value found
        rw [TemplateApi.finished_get signedRole (by decide)] at found
        exact carries.payload value found

/-! ### The checks of a call -/

/-- Under a site of the host the body names this site or none. -/
theorem effectiveSite_bound {site bodySite payloadSite : JsString}
    {fallbackAllowed writeAction : Bool} {chosen : Option Value} (name : SiteName site)
    (effective : effectiveSite (some (.text site)) fallbackAllowed writeAction bodySite
      payloadSite = .ok chosen) :
    chosen = some (.text site) ∧ (bodySite = [] ∨ bodySite = site) ∧
      (payloadSite = [] ∨ payloadSite = site) := by
  have truthy : (Value.text site).truthy = true := by simpa [Value.truthy] using name.named
  have agreed {named : JsString}
      (passed : ¬(named ≠ [] ∧ baseText (.text site) ≠ some named)) : named = [] ∨ named = site := by
    by_cases blank : named = []
    · exact Or.inl blank
    · right
      by_contra other
      apply passed
      exact ⟨blank, fun same => other (Option.some.inj same).symm⟩
  simp only [effectiveSite, Option.filter_some, truthy, if_true] at effective
  split at effective
  next => exact absurd effective refuse_ne_ok
  next bodyPassed =>
    split at effective
    next => exact absurd effective refuse_ne_ok
    next payloadPassed =>
      exact ⟨(Except.ok.inj effective).symm, agreed bodyPassed, agreed payloadPassed⟩

/-- A bound payload names the site: it came without a site id, or with this one. -/
theorem bindPayload_site {payload : Option Json} {site : JsString} {fields : Fields}
    (name : SiteName site) (agrees : payloadSiteId payload = [] ∨ payloadSiteId payload = site)
    (boundPayload : bindPayload payload (some (.text site)) = some (.obj fields)) :
    ∃ text, Fields.get fields (js "siteId") = some (.str text) ∧ trim text = site := by
  unfold bindPayload at boundPayload
  split at boundPayload
  next other came chosen =>
    obtain rfl : Value.text site = other := Option.some.inj chosen
    split at boundPayload
    next named =>
      obtain rfl : came = fields := Json.obj.inj (Option.some.inj boundPayload)
      have siteText : trimString (Fields.get came (js "siteId")) = site :=
        agrees.resolve_left named
      unfold trimString at siteText
      split at siteText
      next text found => exact ⟨text, found, siteText⟩
      next => exact absurd siteText.symm name.named
    next =>
      have rewritten : Fields.set came (js "siteId") (.str site) = fields :=
        Json.obj.inj (Option.some.inj boundPayload)
      refine ⟨site, ?_, name.trimmed⟩
      rw [← rewritten, Fields.get_set_self]
  next other =>
    exact absurd boundPayload (by
      intro same
      exact other _ _ rfl same)

/-- A body that is read is the parsed text of the request. -/
theorem readCallBody_eq_ok {platform : Platform} {env : Env} {request : TemplateCallRequest}
    {body : Fields} (read : readCallBody platform env request = .ok body) :
    (platform.parseJson request.bodyText).bind ownProperties = some body := by
  unfold readCallBody at read
  split at read
  · exact absurd read refuse_ne_ok
  · split at read
    · exact absurd read refuse_ne_ok
    · split at read
      · exact absurd read refuse_ne_ok
      · split at read
        · exact absurd read refuse_ne_ok
        · split at read
          next => exact absurd read refuse_ne_ok
          next parsed found => rw [found, Except.ok.inj read]

/-- A call that is read for a bound host is bound, and its body names no other site. -/
theorem readTemplateCall_bound {platform : Platform} {env : Env}
    {lookup : JsString → AoLookupResult} {request : TemplateCallRequest} {paused : Bool}
    {requestHost site : JsString} {productionLikeMode : Bool} {hints : Option RuntimeRoutingHints}
    {input : TemplateCallInput} (name : SiteName site)
    (resolved : resolveTemplateSiteIdFromHost platform.parseJson env lookup requestHost
      productionLikeMode = .ok (some (.text site)) hints)
    (read : readTemplateCall platform env lookup request paused requestHost productionLikeMode =
      .ok input) :
    BoundInput site input ∧ ∃ body, readCallBody platform env request = .ok body ∧
      (bodySiteId body = [] ∨ bodySiteId body = site) ∧
      (payloadSiteId (body.get (js "payload")) = [] ∨
        payloadSiteId (body.get (js "payload")) = site) := by
  unfold readTemplateCall at read
  simp only [resolved, bind_eq_ok, refusal_eq_ok, pure_eq_ok] at read
  obtain ⟨body, bodyRead, action, -, -, -, -, chosen, effective, rfl⟩ := read
  obtain ⟨rfl, bodyAgrees, payloadAgrees⟩ := effectiveSite_bound name effective
  refine ⟨⟨name, rfl, ?_⟩, body, bodyRead, bodyAgrees, payloadAgrees⟩
  intro fields boundPayload
  exact bindPayload_site name payloadAgrees boundPayload

/-! ### Site isolation -/

/-- A body names another site, at its top level or in its payload. -/
def NamesOther (site : JsString) (body : Fields) : Prop :=
  (bodySiteId body ≠ [] ∧ bodySiteId body ≠ site) ∨
    (payloadSiteId (body.get (js "payload")) ≠ [] ∧
      payloadSiteId (body.get (js "payload")) ≠ site)

/-- A call whose host resolves to a site is for this site in every request it
issues, and one whose body names another site issues none. -/
theorem template_call_isolated {platform : Platform} {env : Env} {contract : TemplateContract}
    {state : ResolverState} (reachable : Reachable env state) {response : ResolverResponse}
    {startedAt endedAt : Int} {request : TemplateCallRequest} {paused : Bool}
    {requestHost site : JsString} {productionLikeMode : Bool} {draws : Draws}
    {signer : SigningRequest → SignerReply} {hints : Option RuntimeRoutingHints}
    (resolved : resolveTemplateSiteIdFromHost platform.parseJson env
      (lookupSiteIdViaAo env state response startedAt endedAt) requestHost productionLikeMode =
        .ok (some (.text site)) hints) :
    let proxied := handleTemplateCall platform env contract
      (lookupSiteIdViaAo env state response startedAt endedAt) request paused requestHost
      productionLikeMode draws signer
    Isolated site proxied ∧
      ∀ body, (platform.parseJson request.bodyText).bind ownProperties = some body →
        NamesOther site body →
        proxied.signing = none ∧ ∃ refusal, proxied.backend = .error refusal := by
  intro proxied
  have name : SiteName site := resolved_name reachable resolved
  cases read : readTemplateCall platform env (lookupSiteIdViaAo env state response startedAt endedAt)
      request paused requestHost productionLikeMode with
  | error refusal =>
      have refused : proxied = ⟨none, .error refusal⟩ := by
        simp only [proxied, handleTemplateCall, read]
      rw [refused]
      exact ⟨⟨by simp, by simp⟩, fun _ _ _ => ⟨rfl, refusal, rfl⟩⟩
  | ok input =>
      have issued : proxied = proxyTemplateCall platform env contract input draws signer := by
        simp only [proxied, handleTemplateCall, read]
      obtain ⟨bound, own, bodyRead, bodyAgrees, payloadAgrees⟩ :=
        readTemplateCall_bound name resolved read
      rw [issued]
      refine ⟨proxyTemplateCall_isolated platform env contract bound draws signer, ?_⟩
      intro body parsed namesOther
      have same : own = body := by
        have readBack := readCallBody_eq_ok bodyRead
        rw [parsed] at readBack
        exact (Option.some.inj readBack).symm
      rw [same] at bodyAgrees payloadAgrees
      rcases namesOther with ⟨named, other⟩ | ⟨named, other⟩
      · exact absurd (bodyAgrees.resolve_left named) other
      · exact absurd (payloadAgrees.resolve_left named) other

/-- A platform that reads two texts: a host map and an order. -/
def samplePlatform : Platform where
  parseJson := fun text =>
    if text = js "hosts" then some (.obj [(js "shop.example", .str (js "site-1"))])
    else if text = js "order" then
      some (.obj [(js "action", .str (js "checkout.create-order")),
        (js "payload", .obj [(js "items", .arr [.num (.ofInt 1)])]),
        (js "requestId", .str (js "req-1"))])
    else none
  urlHostname := fun _ => none
  urlProtocol := fun _ => none
  resolveUrl := fun path base => some (base ++ path)
  hmacSha256 := fun secret body => secret ++ body

def sampleEnv : Env := fun name =>
  match name with
  | "GATEWAY_SITE_ID_BY_HOST_MAP" => some (js "hosts")
  | "GATEWAY_TEMPLATE_ALLOW_MUTATIONS" => some (js "1")
  | "GATEWAY_TEMPLATE_TOKEN" => some (js "token")
  | "WRITE_API_URL" => some (js "https://write.example")
  | "WORKER_API_URL" => some (js "https://worker.example")
  | "WORKER_SIGN_TOKEN" => some (js "token")
  | _ => none

def sampleContract : TemplateContract :=
  some [{ name := js "checkout.create-order", path := js "/api/checkout/order",
          requiredRole := js "shop_admin", idempotency := .required }]

/-- An order that names no site, sent to the host of one. -/
def orderRun : Proxied :=
  handleTemplateCall samplePlatform sampleEnv sampleContract
    (lookupSiteIdViaAo sampleEnv .initial .failed 0 0)
    ⟨true, false, js "order", js "token"⟩ false (js "Shop.example:443") false
    ⟨js "trace-1", 1000000, js "0f", 1000000, js "abcd"⟩
    fun _ => .answered 200 (some (.obj [(js "signature", .str (js "s")),
      (js "signatureRef", .str (js "r"))]))

set_option maxRecDepth 20000 in
theorem template_call_isolated_order :
    (∃ request backend, orderRun.signing = some request ∧ orderRun.backend = .ok backend) ∧
      Isolated (js "site-1") orderRun :=
  ⟨⟨_, _, rfl, rfl⟩, (@template_call_isolated samplePlatform sampleEnv sampleContract .initial ⟨[], rfl⟩
    .failed 0 0 _ _ (js "Shop.example:443") (js "site-1") _ _ _ none rfl).1⟩

end DarkmeshGateway.Gateway.TemplateCall
