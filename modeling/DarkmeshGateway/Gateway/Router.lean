import DarkmeshGateway.Gateway.FrontController
import DarkmeshGateway.Gateway.IntegrityPolicy
import DarkmeshGateway.Gateway.IntegrityRecords
import DarkmeshGateway.Gateway.RateLimit
import DarkmeshGateway.Gateway.TemplateCall
import DarkmeshGateway.Gateway.VerifiedCache
import DarkmeshGateway.Gateway.WebhookForward

/-!
Contract: the request handler of the gateway over the memory its routes share.

Owns the routing of a request by its path, the routes that no other module has,
the outgoing calls of every route, and the machine in which requests interleave
with policy refreshes.

Does not own response headers, metrics and trace ids, nor the checks of
webhook signatures: what the outside answers is given with the request.
-/

namespace DarkmeshGateway.Gateway.Router

open Foundation
open Foundation.Js
open Foundation.Machine
open Gateway.Cache (CacheState)
open Gateway.Environment
open Gateway.IntegrityIncident (IntegrityPolicyState IntegrityRole tokenEquals)
open Gateway.IntegrityRecords (IntegritySnapshot)
open Gateway.SiteResolver (AoLookupResult HostSiteResolution RuntimeRoutingHints
  resolveTemplateSiteIdFromHost)
open Gateway.TemplateActions (IdempotencyMode TemplateContract TemplateActionPolicy
  getTemplateContractAction templateActionPolicies)
open Gateway.TemplateApi (BackendRequest Draws Proxied SignerReply SigningRequest)
open Gateway.VerifiedCache (Response errorResponse policyPausedResponse readBearerToken respond)
open Gateway.WebhookForward (FetchOutcome Stores Verification WebhookProvider)

/-! ### Requests -/

/-- A request behind the parsing of its URL. A header is read by its name in
lower case; one that occurs several times is read as one value. -/
structure HttpRequest where
  method : JsString
  pathname : JsString
  host : JsString
  searchParams : List (JsString × JsString)
  headers : JsString → Option JsString
  body : List UInt8

/-- `Request.text()`, `Buffer.from(text, 'base64').toString('utf8')` and the hashes, beside
what the routes take from the platform. -/
structure Platform where
  env : Env
  contract : TemplateContract
  template : TemplateApi.Platform
  frontController : FrontController.Platform
  decodeText : List UInt8 → JsString
  decodeBase64 : JsString → JsString
  bytesSha256Hex : List UInt8 → JsString
  textSha256Hex : JsString → JsString
  metricsText : JsString

/-- The policy a request is handled under. -/
structure IntegrityContext where
  state : IntegrityPolicyState
  snapshot : Option IntegritySnapshot

/-- The clock while a request is handled: at its rate check, in the cache
routes, and in the replay check of a webhook. -/
structure Moment where
  limitedAt : Int
  cache : VerifiedCache.Times
  checkedAt : Int
  seenAt : Int
  resolvedAt : Int
  timestamp : JsString

/-- What the outside answers while a request is handled. -/
structure Outside where
  verification : Verification
  notify : FetchOutcome
  forget : FetchOutcome
  lookup : JsString → AoLookupResult
  fetch : JsString → FrontController.FetchResult
  draws : Draws
  signer : SigningRequest → SignerReply

/-- What leaves the gateway, apart from what only reads (documents, sites and integrity
snapshots) and the notification of an incident. -/
inductive OutgoingCall where
  | forget (url : JsString) (subject key : Option Json) (removed : Nat)
  | workerNotify (provider : Option JsString) (body : JsString)
  | sign (request : SigningRequest)
  | backend (request : BackendRequest)

/-- `buildTemplateConfigPayload`, per action. -/
structure ContractAction where
  policy : TemplateActionPolicy
  requiredRole : Option JsString
  idempotency : Option IdempotencyMode

structure TemplateConfig where
  integrityPaused : Bool
  templateTokenRequired : Bool
  writeMutationsEnabled : Bool
  maxTemplateBodyBytes : Nat
  readConfigured : Bool
  writeConfigured : Bool
  signerConfigured : Bool
  signerMapConfigured : Bool
  signerTokenMapConfigured : Bool
  variantMapConfigured : Bool
  upstreamAuthMode : JsString
  upstreamTokenConfigured : Bool
  upstreamTokenMapConfigured : Bool
  contractActions : List ContractAction
  timestamp : JsString

inductive Reply where
  | response (response : Response)
  | metrics (text : JsString)
  | health (timestamp : JsString)
  | state (context : IntegrityContext)
  | config (config : TemplateConfig)
  | page (response : FrontController.Response)
  | template (proxied : Proxied)
  | exception

/-- How a request ends, and the calls made for it. -/
structure Outcome where
  reply : Reply
  calls : List OutgoingCall

def Outcome.text (content : String) (status : Nat) : Outcome :=
  ⟨.response (respond content status), []⟩

def jsonErrorResponse (status : Nat) (error : String) : Outcome :=
  ⟨.response (errorResponse error status), []⟩

def plainErrorResponse (status : Nat) (message : String) : Outcome := .text message status

def pausedOutcome : Outcome := ⟨.response policyPausedResponse, []⟩

/-- The memory that requests share, apart from the policy. -/
structure Memory where
  cache : CacheState
  buckets : RateLimit.Buckets
  stores : Stores
  pages : FrontController.PageCache

def Memory.empty : Memory := ⟨.empty, .empty, ⟨ReplayStore.empty, .empty⟩, .empty⟩

/-! ### Reading a request -/

def HttpRequest.header (request : HttpRequest) (name : String) : JsString :=
  (request.headers (js name)).getD []

def requestIp (request : HttpRequest) : JsString :=
  if request.header "cf-connecting-ip" = [] then js "unknown"
  else request.header "cf-connecting-ip"

def readHeaderToken (request : HttpRequest) (name : String) : JsString :=
  trim (request.header name)

def checkToken (request : HttpRequest) (expectedToken : JsString) (headerName : String) : Bool :=
  tokenEquals expectedToken (readBearerToken (request.header "authorization")) ||
    tokenEquals expectedToken (readHeaderToken request headerName)

def cacheMethod (method : JsString) : VerifiedCache.Method :=
  if method = js "PUT" then .put
  else if method = js "GET" then .get
  else if method = js "POST" then .post
  else .other

def cacheRequest (request : HttpRequest) : VerifiedCache.CacheRequest where
  method := cacheMethod request.method
  pathname := request.pathname
  subject := request.headers (js "x-subject")
  integrityRoot := request.headers (js "x-integrity-root")
  integrityHash := request.headers (js "x-integrity-hash")
  authorization := request.headers (js "authorization")
  forgetToken := request.headers (js "x-forget-token")
  body := request.body

def incidentRefHeader (env : Env) : JsString :=
  trim ((readHandlerEnvString env "GATEWAY_INTEGRITY_INCIDENT_REF_HEADER").getD
    (js "x-signature-ref"))

def incidentRequest (platform : Platform) (request : HttpRequest) :
    IntegrityIncident.IncidentRequest where
  isPost := request.method = js "POST"
  bodyText := platform.decodeText request.body
  bearerToken := readBearerToken (request.header "authorization")
  incidentToken := readHeaderToken request "x-incident-token"
  signatureRefHeader :=
    trim ((request.headers (toLowerCase (incidentRefHeader platform.env))).getD [])

def templateRequest (platform : Platform) (request : HttpRequest) (limited : Bool) :
    TemplateCall.TemplateCallRequest where
  isPost := request.method = js "POST"
  limited
  bodyText := platform.decodeText request.body
  templateToken := readHeaderToken request "x-template-token"

def delivery (platform : Platform) (request : HttpRequest) (provider : WebhookProvider)
    (paused limited : Bool) (verification : Verification) : WebhookForward.Delivery where
  provider
  body := platform.decodeText request.body
  transmissionId := request.headers (js "paypal-transmission-id")
  gopayEventId := request.headers (js "x-gopay-event-id")
  paused
  limited
  verification

/-! ### The policy -/

def authorityRef (snapshot : IntegritySnapshot) : IntegrityRole → JsString
  | .root => snapshot.authority.root
  | .upgrade => snapshot.authority.upgrade
  | .emergency => snapshot.authority.emergency
  | .reporter => snapshot.authority.reporter

/-- What the policy and the incidents read of a snapshot. -/
def policySnapshot (snapshot : IntegritySnapshot) : IntegrityIncident.IntegritySnapshot where
  policyPaused := snapshot.policy.paused
  authority role := some (authorityRef snapshot role)

/-- What the cache routes read of a snapshot. -/
def cacheSnapshot (snapshot : IntegritySnapshot) : VerifiedCache.IntegritySnapshot where
  activeRoot := snapshot.policy.activeRoot
  paused := snapshot.policy.paused
  releaseRoot := snapshot.release.root
  pendingUpgradeRoot := snapshot.policy.pendingUpgrade.map (·.root)
  compatibilityRoot := snapshot.policy.compatibilityState.map (·.root)

def cacheContext (context : IntegrityContext) : VerifiedCache.IntegrityContext where
  paused := context.state.paused
  snapshot := context.snapshot.map cacheSnapshot

def cachePlatform (platform : Platform) : VerifiedCache.Platform where
  env := platform.env
  parseJson body := platform.template.parseJson (platform.decodeText body)
  sha256Hex := platform.bytesSha256Hex

def webhookPlatform (platform : Platform) : WebhookForward.Platform where
  parseJson := platform.template.parseJson
  sha256Hex := platform.textSha256Hex

/-! ### The rate limit -/

/-- `rateCheck`: the buckets after the call, and whether it is within the limit. -/
def rateCheck (platform : Platform) (memory : Memory) (moment : Moment) (key : JsString) :
    Memory × Bool :=
  let checked := RateLimit.check (RateLimit.loadConfig platform.env) memory.buckets
    moment.limitedAt key
  ({ memory with buckets := checked.1 }, checked.2)

def tooManyRequests : Outcome := .text "Too Many Requests" 429

/-! ### The internal plane -/

def isInboxEnabled (env : Env) : Bool :=
  !isProductionLikeMode env ||
    readHandlerStrictEnabledFlag env "GATEWAY_INTERNAL_PLANE_ALLOW_MUTATIONS" ||
    readHandlerStrictEnabledFlag env "GATEWAY_INTERNAL_PLANE_ALLOW_INBOX"

def cacheAnswer : VerifiedCache.Answer → Reply
  | .response response => .response response
  | .exception => .exception

/-- `forwardForgetEvent`: whether the forget arrived, and the call that was made. -/
def forwardForgetEvent (env : Env) (subject key : Option Json) (removed : Nat)
    (outcome : FetchOutcome) : Bool × List OutgoingCall :=
  match readHandlerEnvString env "GATEWAY_FORGET_FORWARD_URL" with
  | none => (false, [])
  | some url =>
      (match outcome with
        | .responded ok => ok
        | .aborted => false
        | .failed => false,
        [.forget url subject key removed])

/-- A property of a body, when it is truthy. -/
def truthyProperty (body : Json) (name : String) : Option Json :=
  match body with
  | .obj fields => (Fields.get fields (js name)).filter Json.truthy
  | _ => none

/-- The forget route; a forget that was carried out is forwarded. -/
def serveForget (platform : Platform) (memory : Memory) (context : IntegrityContext)
    (request : HttpRequest) (outside : Outside) : Memory × Outcome :=
  let body := ((cachePlatform platform).parseJson request.body).getD (.obj [])
  let removed := (VerifiedCache.forget memory.cache (VerifiedCache.namedProperty body "subject")
    (VerifiedCache.namedProperty body "key")).1
  let forwarded := forwardForgetEvent platform.env (truthyProperty body "subject")
    (truthyProperty body "key") removed outside.forget
  let handled := VerifiedCache.handleForget (cachePlatform platform) (cacheContext context)
    memory.cache (cacheRequest request) forwarded.1
  let carriedOut := handled.1 = .response (VerifiedCache.forgetResponse removed forwarded.1)
  ({ memory with cache := handled.2 },
    ⟨cacheAnswer handled.1, if carriedOut then forwarded.2 else []⟩)

def serveEntry (platform : Platform) (memory : Memory) (context : IntegrityContext)
    (request : HttpRequest) (moment : Moment) (key : JsString) : Memory × Outcome :=
  let handled := VerifiedCache.serve (cachePlatform platform) (cacheContext context) memory.cache
    (cacheRequest request) moment.cache false (.entry key)
  ({ memory with cache := handled.2 }, ⟨cacheAnswer handled.1, []⟩)

def handleInbox (platform : Platform) (memory : Memory) (request : HttpRequest)
    (moment : Moment) : Memory × Outcome :=
  let checked := rateCheck platform memory moment (js "inbox:" ++ requestIp request)
  (checked.1, if checked.2 then .text "ok" 200 else tooManyRequests)

def serveInbox (platform : Platform) (memory : Memory) (context : IntegrityContext)
    (request : HttpRequest) (moment : Moment) : Memory × Outcome :=
  if !isInboxEnabled platform.env then (memory, plainErrorResponse 404 "not found")
  else if context.state.paused then (memory, pausedOutcome)
  else handleInbox platform memory request moment

/-! ### Templates -/

/-- The calls of a template call. -/
def proxiedCalls (proxied : Proxied) : List OutgoingCall :=
  (proxied.signing.map OutgoingCall.sign).toList ++
    match proxied.backend with
    | .ok request => [.backend request]
    | .error _ => []

def handleTemplateCall (platform : Platform) (memory : Memory) (context : IntegrityContext)
    (request : HttpRequest) (moment : Moment) (outside : Outside) : Memory × Outcome :=
  let checked :=
    if request.method = js "POST" then
      rateCheck platform memory moment (js "template:" ++ requestIp request)
    else (memory, true)
  let proxied := TemplateCall.handleTemplateCall platform.template platform.env platform.contract
    outside.lookup (templateRequest platform request (!checked.2)) context.state.paused request.host
    (isProductionLikeMode platform.env) outside.draws outside.signer
  (checked.1, ⟨.template proxied, proxiedCalls proxied⟩)

def serveTemplateCall (platform : Platform) (memory : Memory) (context : IntegrityContext)
    (request : HttpRequest) (moment : Moment) (outside : Outside) : Memory × Outcome :=
  if request.searchParams ≠ [] then (memory, jsonErrorResponse 400 "query_not_allowed")
  else handleTemplateCall platform memory context request moment outside

def isConfigured (env : Env) (names : List String) : Bool :=
  names.any fun name => (readHandlerEnvString env name).isSome

def contractActionOf (contract : TemplateContract) (policy : TemplateActionPolicy) :
    ContractAction :=
  let action := getTemplateContractAction contract policy.action
  ⟨policy, (action.map (·.requiredRole)).filter (· ≠ []), action.map (·.idempotency)⟩

def buildTemplateConfigPayload (platform : Platform) (paused : Bool) (timestamp : JsString) :
    TemplateConfig :=
  let env := platform.env
  { integrityPaused := paused
    templateTokenRequired := isConfigured env ["GATEWAY_TEMPLATE_TOKEN"]
    writeMutationsEnabled := readHandlerStrictEnabledFlag env "GATEWAY_TEMPLATE_ALLOW_MUTATIONS"
    maxTemplateBodyBytes := readPositiveIntEnv env "GATEWAY_TEMPLATE_MAX_BODY_BYTES" 32768
    readConfigured := isConfigured env ["AO_PUBLIC_API_URL", "AO_READ_URL"]
    writeConfigured := isConfigured env ["WRITE_API_URL"]
    signerConfigured := isConfigured env ["WORKER_API_URL", "WORKER_SIGN_URL"]
    signerMapConfigured := isConfigured env ["GATEWAY_TEMPLATE_WORKER_URL_MAP"]
    signerTokenMapConfigured := isConfigured env ["GATEWAY_TEMPLATE_WORKER_TOKEN_MAP"]
    variantMapConfigured := isConfigured env ["GATEWAY_TEMPLATE_VARIANT_MAP"]
    upstreamAuthMode :=
      (readHandlerEnvString env "GATEWAY_TEMPLATE_UPSTREAM_AUTH_MODE").getD (js "none")
    upstreamTokenConfigured := isConfigured env ["GATEWAY_TEMPLATE_UPSTREAM_TOKEN"]
    upstreamTokenMapConfigured := isConfigured env ["GATEWAY_TEMPLATE_UPSTREAM_TOKEN_MAP"]
    contractActions := templateActionPolicies.map (contractActionOf platform.contract)
    timestamp }

def handleTemplateConfig (platform : Platform) (context : IntegrityContext)
    (request : HttpRequest) (moment : Moment) : Outcome :=
  if request.searchParams ≠ [] then jsonErrorResponse 400 "query_not_allowed"
  else if request.method ≠ js "GET" then .text "method" 405
  else ⟨.config (buildTemplateConfigPayload platform context.state.paused moment.timestamp), []⟩

/-! ### The front controller -/

def showPage (platform : Platform) (memory : Memory) (request : HttpRequest) (moment : Moment)
    (outside : Outside) : Memory × Outcome :=
  match resolveTemplateSiteIdFromHost platform.template.parseJson platform.env outside.lookup
      request.host (isProductionLikeMode platform.env) with
  | .failed status error => (memory, jsonErrorResponse status error)
  | .ok _ runtimeHints =>
      let shown := FrontController.handleFrontControllerRequest platform.frontController
        platform.env memory.pages
        { method := request.method
          host := request.host
          refresh := request.searchParams.lookup (js "refresh") = some (js "1")
          runtimeHints
          now := moment.resolvedAt
          fetch := outside.fetch }
      ({ memory with pages := shown.2 }, ⟨.page shown.1, []⟩)

def serveFrontController (platform : Platform) (memory : Memory) (request : HttpRequest)
    (moment : Moment) (outside : Outside) : Memory × Outcome :=
  let onlyRefresh := request.searchParams.all fun parameter => parameter.1 = js "refresh"
  if 1 < request.searchParams.length ∨ onlyRefresh = false then
    (memory, jsonErrorResponse 400 "query_not_allowed")
  else showPage platform memory request moment outside

/-! ### State and metrics -/

def handleIntegrityState (platform : Platform) (context : IntegrityContext)
    (request : HttpRequest) : Outcome :=
  if request.method ≠ js "GET" then .text "method" 405
  else if (readHandlerEnvString platform.env "GATEWAY_INTEGRITY_STATE_TOKEN").any fun token =>
      !checkToken request token "x-integrity-token" then jsonErrorResponse 401 "unauthorized"
  else ⟨.state context, []⟩

/-- `basicCredentialsMatch`. The colon is looked for in the decoded text. -/
def basicCredentialsMatch (platform : Platform) (expectedUser expectedPass presented : JsString) :
    Bool :=
  match presented.drop 5 with
  | space :: _ =>
      if toLowerCase (presented.take 5) = js "basic" ∧ isWhitespace space then
        let decoded := platform.decodeBase64 ((presented.drop 5).dropWhile isWhitespace)
        let user := decoded.takeWhile (· ≠ 58)
        user ≠ [] && user.length < decoded.length && tokenEquals expectedUser user &&
          tokenEquals expectedPass (decoded.drop (user.length + 1))
      else false
  | [] => false

def metricsAuthorized (platform : Platform) (request : HttpRequest) : Bool :=
  let read := fun name => (readHandlerEnvString platform.env name).getD []
  let authorization := request.header "authorization"
  let bearerToken := read "METRICS_BEARER_TOKEN"
  let basicUser := read "METRICS_BASIC_USER"
  let basicPass := read "METRICS_BASIC_PASS"
  (bearerToken ≠ [] && (tokenEquals bearerToken (readBearerToken authorization) ||
      tokenEquals bearerToken (readHeaderToken request "x-metrics-token"))) ||
    (basicUser ≠ [] && basicPass ≠ [] &&
      basicCredentialsMatch platform basicUser basicPass authorization)

def serveMetrics (platform : Platform) (request : HttpRequest) : Outcome :=
  let needBasic := isConfigured platform.env ["METRICS_BASIC_USER"] &&
    isConfigured platform.env ["METRICS_BASIC_PASS"]
  let needBearer := isConfigured platform.env ["METRICS_BEARER_TOKEN"]
  let mustGuard := readHandlerEnvString platform.env "GATEWAY_REQUIRE_METRICS_AUTH" ≠ some (js "0")
  if !needBasic && !needBearer && mustGuard then .text "metrics_auth_not_configured" 500
  else if (needBasic || needBearer || mustGuard) && !metricsAuthorized platform request then
    .text "unauthorized" 401
  else ⟨.metrics platform.metricsText, []⟩

/-! ### Webhooks -/

def providerName : WebhookProvider → JsString
  | .stripe => js "stripe"
  | .paypal => js "paypal"
  | .gopay => js "gopay"

def notifyResponse : FetchOutcome → Outcome
  | .responded true => .text "forwarded" 200
  | .responded false => .text "notify_failed" 502
  | .aborted => .text "notify_timeout" 504
  | .failed => .text "notify_failed" 502

def forwardWorkerNotifyBody (platform : Platform) (body : JsString) (provider : Option JsString)
    (outside : Outside) : Outcome :=
  match WebhookForward.workerNotifyToken platform.env with
  | none => .text "worker_notify_auth_not_configured" 500
  | some _ => { notifyResponse outside.notify with calls := [.workerNotify provider body] }

/-- A delivery behind the replay check. -/
def maybeForwardWebhookWrite (platform : Platform) (delivery : WebhookForward.Delivery)
    (outside : Outside) : Outcome :=
  if WebhookForward.isWebhookWriteForwardEnabled platform.env then
    forwardWorkerNotifyBody platform delivery.body (some (providerName delivery.provider)) outside
  else .text "ok" 200

def webhookOutcome (response : WebhookForward.Response) : Outcome :=
  .text response.body response.status

def acceptDelivery (platform : Platform) (memory : Memory) (delivery : WebhookForward.Delivery)
    (moment : Moment) (outside : Outside) : Memory × Outcome :=
  match WebhookForward.passChecks platform.env delivery with
  | .error response => (memory, webhookOutcome response)
  | .ok _ =>
      let checked := WebhookForward.checkReplay (webhookPlatform platform) platform.env
        memory.stores moment.checkedAt moment.seenAt delivery
      ({ memory with stores := checked.1 },
        checked.2.elim (maybeForwardWebhookWrite platform delivery outside) webhookOutcome)

/-- A webhook route. A paused gateway does not count the request. -/
def serveWebhook (platform : Platform) (memory : Memory) (context : IntegrityContext)
    (request : HttpRequest) (moment : Moment) (outside : Outside) (provider : WebhookProvider) :
    Memory × Outcome :=
  if context.state.paused then (memory, pausedOutcome)
  else
    let checked := rateCheck platform memory moment
      (js "webhook:" ++ providerName provider ++ 58 :: requestIp request)
    acceptDelivery platform checked.1
      (delivery platform request provider false (!checked.2) outside.verification) moment outside

/-- The provider a demo forward names: in its query, its header or its body. -/
def demoProvider (platform : Platform) (request : HttpRequest) (body : JsString) :
    Option JsString :=
  let named := ((request.searchParams.lookup (js "provider")).filter (· ≠ [])).or
    ((request.headers (js "x-provider")).filter (· ≠ []))
  match named with
  | some name => some (toLowerCase name)
  | none =>
      match platform.template.parseJson body with
      | some (.obj fields) =>
          (((Fields.get fields (js "provider")).filter Json.truthy).bind Json.toText).map toLowerCase
      | _ => none

def demoForward (platform : Platform) (memory : Memory) (request : HttpRequest) (moment : Moment)
    (outside : Outside) : Memory × Outcome :=
  let checked := rateCheck platform memory moment (js "demo-forward:" ++ requestIp request)
  let body := platform.decodeText request.body
  (checked.1,
    if !checked.2 then tooManyRequests
    else if 262144 < utf8Length body then plainErrorResponse 413 "payload too large"
    else forwardWorkerNotifyBody platform body (demoProvider platform request body) outside)

def serveDemoForward (platform : Platform) (memory : Memory) (context : IntegrityContext)
    (request : HttpRequest) (moment : Moment) (outside : Outside) : Memory × Outcome :=
  if context.state.paused then (memory, pausedOutcome)
  else if !readHandlerStrictEnabledFlag platform.env "GATEWAY_DEMO_FORWARD_ENABLED" then
    (memory, .text "not found" 404)
  else
    match readHandlerEnvString platform.env "GATEWAY_DEMO_FORWARD_TOKEN" with
    | none => (memory, .text "demo_forward_auth_not_configured" 500)
    | some token =>
        if !checkToken request token "x-demo-forward-token" then (memory, .text "unauthorized" 401)
        else demoForward platform memory request moment outside

/-! ### Routing -/

inductive Route where
  | health
  | state
  | incident
  | forget
  | entry (key : JsString)
  | inbox
  | templateCall
  | templateConfig
  | frontController
  | metrics
  | webhook (provider : WebhookProvider)
  | demoForward
  | root
  | unknown
deriving DecidableEq

/-- The paths that are matched as a whole, in the order of the handler. -/
def exactRoutes : List (JsString × Route) :=
  [(js "/inbox", .inbox), (js "/template/call", .templateCall),
    (js "/template/config", .templateConfig), (js "/front-controller", .frontController),
    (js "/front-controller/search", .frontController), (js "/metrics", .metrics),
    (js "/webhook/stripe", .webhook .stripe), (js "/webhook/paypal", .webhook .paypal),
    (js "/webhook/gopay", .webhook .gopay), (js "/webhook/demo-forward", .demoForward),
    (js "/", .root)]

def routeOf (pathname : JsString) : Route :=
  if pathname = js "/health" ∨ pathname = js "/healthz" then .health
  else if pathname = js "/integrity/state" then .state
  else if pathname = js "/integrity/incident" then .incident
  else if startsWith pathname (js "/cache/forget") then .forget
  else if startsWith pathname (js "/cache/") then .entry (pathname.drop 7)
  else (exactRoutes.lookup pathname).getD .unknown

/-- The periodic sweep, on a path that no route before it takes. -/
def sweepCache (memory : Memory) (moment : Moment) : Memory :=
  { memory with cache := Cache.sweep memory.cache moment.cache.sweptAt }

/-- A request to a route behind the policy, but not the one of the incidents. -/
def serve (platform : Platform) (memory : Memory) (context : IntegrityContext)
    (request : HttpRequest) (moment : Moment) (outside : Outside) : Memory × Outcome :=
  match routeOf request.pathname with
  | .health => (memory, ⟨.exception, []⟩)
  | .state => (memory, handleIntegrityState platform context request)
  | .incident => (memory, ⟨.exception, []⟩)
  | .forget => serveForget platform memory context request outside
  | .entry key => serveEntry platform memory context request moment key
  | .inbox => serveInbox platform memory context request moment
  | .templateCall => serveTemplateCall platform memory context request moment outside
  | .templateConfig => (memory, handleTemplateConfig platform context request moment)
  | .frontController => serveFrontController platform memory request moment outside
  | .metrics => (memory, serveMetrics platform request)
  | .webhook provider => serveWebhook platform memory context request moment outside provider
  | .demoForward => serveDemoForward platform memory context request moment outside
  | .root =>
      let memory := sweepCache memory moment
      if FrontController.isFrontControllerEnabled platform.env then
        showPage platform memory request moment outside
      else (memory, .text "Gateway skeleton" 200)
  | .unknown => (sweepCache memory moment, plainErrorResponse 404 "not found")

/-! ### What a request does to the cache -/

/-- The cache route that a route of the handler is. -/
def Route.cache : Route → Option VerifiedCache.Route
  | .forget => some .forget
  | .entry key => some (.entry key)
  | _ => none

/-- The cache stays, is swept, or moves as one of its own routes moves it. -/
inductive CacheMove (platform : Platform) (context : IntegrityContext) (request : HttpRequest)
    (before : CacheState) : CacheState → Prop where
  | same : CacheMove platform context request before before
  | swept (now : Int) : CacheMove platform context request before (Cache.sweep before now)
  | routed (route : VerifiedCache.Route) (times : VerifiedCache.Times) (forwarded : Bool)
      (asked : (routeOf request.pathname).cache = some route) :
      CacheMove platform context request before
        (VerifiedCache.serve (cachePlatform platform) (cacheContext context) before
          (cacheRequest request) times forwarded route).2

theorem showPage_cache (platform : Platform) (memory : Memory) (request : HttpRequest)
    (moment : Moment) (outside : Outside) :
    (showPage platform memory request moment outside).1.cache = memory.cache := by
  unfold showPage
  split <;> rfl

theorem acceptDelivery_cache (platform : Platform) (memory : Memory)
    (delivery : WebhookForward.Delivery) (moment : Moment) (outside : Outside) :
    (acceptDelivery platform memory delivery moment outside).1.cache = memory.cache := by
  unfold acceptDelivery
  split <;> rfl

theorem serveWebhook_cache (platform : Platform) (memory : Memory) (context : IntegrityContext)
    (request : HttpRequest) (moment : Moment) (outside : Outside) (provider : WebhookProvider) :
    (serveWebhook platform memory context request moment outside provider).1.cache =
      memory.cache := by
  unfold serveWebhook
  split
  next => rfl
  next => exact acceptDelivery_cache ..

theorem serveDemoForward_cache (platform : Platform) (memory : Memory)
    (context : IntegrityContext) (request : HttpRequest) (moment : Moment) (outside : Outside) :
    (serveDemoForward platform memory context request moment outside).1.cache = memory.cache := by
  unfold serveDemoForward
  split
  next => rfl
  next =>
    split
    next => rfl
    next =>
      split
      next => rfl
      next => split <;> rfl

theorem serveTemplateCall_cache (platform : Platform) (memory : Memory)
    (context : IntegrityContext) (request : HttpRequest) (moment : Moment) (outside : Outside) :
    (serveTemplateCall platform memory context request moment outside).1.cache =
      memory.cache := by
  unfold serveTemplateCall
  split
  next => rfl
  next =>
    unfold handleTemplateCall
    dsimp only
    split <;> rfl

theorem serveFrontController_cache (platform : Platform) (memory : Memory)
    (request : HttpRequest) (moment : Moment) (outside : Outside) :
    (serveFrontController platform memory request moment outside).1.cache = memory.cache := by
  unfold serveFrontController
  dsimp only
  split
  next => rfl
  next => exact showPage_cache ..

theorem serveInbox_cache (platform : Platform) (memory : Memory) (context : IntegrityContext)
    (request : HttpRequest) (moment : Moment) :
    (serveInbox platform memory context request moment).1.cache = memory.cache := by
  unfold serveInbox
  split
  next => rfl
  next => split <;> rfl

/-- What a request can do to the cache. -/
theorem serve_cache (platform : Platform) (memory : Memory) (context : IntegrityContext)
    (request : HttpRequest) (moment : Moment) (outside : Outside) :
    CacheMove platform context request memory.cache
      (serve platform memory context request moment outside).1.cache := by
  unfold serve
  cases routed : routeOf request.pathname with
  | health => exact .same
  | state => exact .same
  | incident => exact .same
  | forget => exact .routed .forget moment.cache _ (by rw [routed]; rfl)
  | entry key => exact .routed (.entry key) moment.cache false (by rw [routed]; rfl)
  | inbox =>
      simp only [serveInbox_cache]
      exact .same
  | templateCall =>
      simp only [serveTemplateCall_cache]
      exact .same
  | templateConfig => exact .same
  | frontController =>
      simp only [serveFrontController_cache]
      exact .same
  | metrics => exact .same
  | webhook provider =>
      simp only [serveWebhook_cache]
      exact .same
  | demoForward =>
      simp only [serveDemoForward_cache]
      exact .same
  | root =>
      dsimp only
      split
      next =>
        rw [showPage_cache]
        exact .swept moment.cache.sweptAt
      next => exact .swept moment.cache.sweptAt
  | unknown => exact .swept moment.cache.sweptAt

/-! ### The machine -/

/-- What a refresh of the policy found. -/
inductive Refresh where
  | fetched (snapshot : IntegritySnapshot)
  | failed (checkpoint : Option IntegritySnapshot)

def Refresh.result : Refresh → IntegrityPolicy.RefreshResult
  | .fetched snapshot => .fetched (policySnapshot snapshot)
  | .failed checkpoint => .failed (checkpoint.map policySnapshot)

def Refresh.snapshot : Refresh → Option IntegritySnapshot
  | .fetched snapshot => some snapshot
  | .failed checkpoint => checkpoint

/-- The policy with the snapshot of its cell, the snapshot each request is
handled under, the memory, and how the requests ended. -/
structure System where
  policy : IntegrityPolicy.System
  snapshot : Option IntegritySnapshot
  snapshots : Nat → Option IntegritySnapshot
  memory : Memory
  outcomes : Nat → Option Outcome

def initial : System := ⟨IntegrityPolicy.initial, none, fun _ => none, .empty, fun _ => none⟩

/-- The start of a request, the end of its refresh, its route, and the end of
the notification of an incident. -/
inductive Event where
  | start (id : Nat) (now : Int)
  | refreshDone (id : Nat) (now : Int) (refresh : Refresh)
  | serve (id : Nat) (now : Int) (request : HttpRequest) (moment : Moment) (outside : Outside)
  | notifyDone (id : Nat) (now : Int) (ok : Bool)

def deployment (platform : Platform) : IntegrityPolicy.Deployment :=
  ⟨platform.env, platform.template.parseJson⟩

/-- The policy a request is handled under, once it is resolved. -/
def contextOf (system : System) (id : Nat) : Option IntegrityContext :=
  match system.policy.requests id with
  | some (.resolved context) => some ⟨context.state, system.snapshots id⟩
  | _ => none

/-- A request ends at a time. -/
def System.finish (system : System) (id : Nat) (now : Int) (effect : Memory × Outcome) : System :=
  { system with
    policy := { system.policy with clock := now }
    memory := effect.1
    outcomes := Function.update system.outcomes id (some effect.2) }

/-- The health route is answered in front of the policy. -/
def healthEffect (memory : Memory) (moment : Moment) : Memory × Outcome :=
  (memory, ⟨.health moment.timestamp, []⟩)

/-- A request is routed once, and not before its policy is resolved. -/
def step (platform : Platform) (system : System) : Event → Option System
  | .start id now =>
      (IntegrityPolicy.step (deployment platform) system.policy (.start id now)).map fun policy =>
        { system with
          policy
          snapshots := Function.update system.snapshots id system.snapshot }
  | .refreshDone id now refresh =>
      (IntegrityPolicy.step (deployment platform) system.policy
        (.refreshDone id now refresh.result)).map fun policy =>
          { system with
            policy
            snapshot := refresh.snapshot
            snapshots := Function.update system.snapshots id refresh.snapshot }
  | .serve id now request moment outside =>
      if (system.outcomes id).isSome then none
      else if routeOf request.pathname = .incident then
        (IntegrityPolicy.step (deployment platform) system.policy
          (.incident id now (incidentRequest platform request))).map fun policy =>
            { system with policy }
      else if now < system.policy.clock then none
      else if routeOf request.pathname = .health then
        some (system.finish id now (healthEffect system.memory moment))
      else
        (contextOf system id).map fun context =>
          system.finish id now (serve platform system.memory context request moment outside)
  | .notifyDone id now ok =>
      (IntegrityPolicy.step (deployment platform) system.policy (.notifyDone id now ok)).map
        fun policy => { system with policy }

/-- How a request ends that is not an incident. -/
inductive Answers (platform : Platform) (system : System) (id : Nat) (request : HttpRequest)
    (moment : Moment) (outside : Outside) : Memory × Outcome → Prop where
  | health (asked : routeOf request.pathname = .health) :
      Answers platform system id request moment outside (healthEffect system.memory moment)
  | route (context : IntegrityContext) (resolved : contextOf system id = some context)
      (behind : routeOf request.pathname ≠ .health) :
      Answers platform system id request moment outside
        (serve platform system.memory context request moment outside)

/-- A request that is served is an incident, which moves the policy only, or it
ends without moving more than the clock of the policy. -/
theorem step_serve {platform : Platform} {system next : System} {id : Nat} {now : Int}
    {request : HttpRequest} {moment : Moment} {outside : Outside}
    (stepped : step platform system (.serve id now request moment outside) = some next) :
    routeOf request.pathname = .incident ∧ (∃ policy,
        IntegrityPolicy.step (deployment platform) system.policy
          (.incident id now (incidentRequest platform request)) = some policy ∧
            next = { system with policy }) ∨
    routeOf request.pathname ≠ .incident ∧ system.outcomes id = none ∧
      system.policy.clock ≤ now ∧ ∃ effect,
        Answers platform system id request moment outside effect ∧
          next = system.finish id now effect := by
  simp only [step] at stepped
  split at stepped
  next => cases stepped
  next unanswered =>
    split at stepped
    next isIncident =>
      obtain ⟨policy, moved, rfl⟩ := Option.map_eq_some_iff.mp stepped
      exact Or.inl ⟨isIncident, policy, moved, rfl⟩
    next notIncident =>
      split at stepped
      next => cases stepped
      next late =>
        refine Or.inr ⟨notIncident, by simpa using unanswered, not_lt.mp late, ?_⟩
        split at stepped
        next asked => exact ⟨_, .health asked, (Option.some.inj stepped).symm⟩
        next behind =>
          obtain ⟨context, resolved, rfl⟩ := Option.map_eq_some_iff.mp stepped
          exact ⟨_, .route context resolved behind, rfl⟩

/-! ### A gateway that nothing answers -/

/-- A platform that reads a body as ASCII text and whose hashes are the texts themselves. -/
def quietPlatform (env : Env) (parseJson : JsString → Option Json) : Platform where
  env
  contract := none
  template :=
    { parseJson
      urlHostname := some
      urlProtocol := some
      resolveUrl := fun _ _ => none
      hmacSha256 := fun _ text => text }
  frontController := { parseJson, sha256Hex := id }
  decodeText body := body.map (·.toUInt16)
  decodeBase64 := id
  bytesSha256Hex body := body.map (·.toUInt16)
  textSha256Hex := id
  metricsText := []

def openSnapshot : IntegritySnapshot where
  release := ⟨js "gateway", js "1", js "root", js "uri", js "meta", js "now", none⟩
  policy := ⟨js "root", js "hash", false, .ofInt 60, none, none⟩
  authority := ⟨js "root", js "upgrade", js "emergency", js "reporter", []⟩
  audit := ⟨.ofInt 1, .ofInt 2, js "merkle", js "meta", js "reporter", js "now"⟩

/-- No webhook is genuine, and no request to the outside is answered. -/
def silence : Outside where
  verification := .invalid
  notify := .failed
  forget := .failed
  lookup _ := .notFound
  fetch _ := .failed "unreachable"
  draws := ⟨[], 0, [], 0, []⟩
  signer _ := .unreachable

def quietServe (id : Nat) (now : Int) (request : HttpRequest) : Event :=
  .serve id now request ⟨now, ⟨now, now, now⟩, now, now, now, js "now"⟩ silence

end DarkmeshGateway.Gateway.Router
