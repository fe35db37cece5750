import DarkmeshGateway.Foundation.Js.Object
import DarkmeshGateway.Foundation.Stateful
import DarkmeshGateway.SecretsWorker.WriteCommand

/-!
Contract: the template token of a site, and the read endpoints
`/api/public/resolve-route` and `/api/public/page`.

Owns the token check, the messages a read sends to the registry and to the
site's process, and the journal of what a request sends for which site.

Does not own the AO client, how a reply is normalised, and the process id a
registry reply names. An entry of the journal stands for every attempt at it,
since the attempts send the same message.
-/

namespace DarkmeshGateway.SecretsWorker.ReadAction

open Foundation
open Foundation.Js
open Foundation.Stateful
open SecretsWorker.Fields
open SecretsWorker.WriteCommand

/-- The bindings the bridge reads besides those of the signing routes. -/
structure BridgeEnv extends Env where
  gatewayTemplateTokenMap : Option JsString := none
  gatewayTemplateToken : Option JsString := none
  gatewayTemplateTokenOptional : Option JsString := none
  aoSiteProcessId : Option JsString := none
  aoRegistryProcessId : Option JsString := none
  writeProcessId : Option JsString := none

/-- One request: its parsed body, the headers read, the clock as an ISO text and
the random part of each fresh id. -/
structure BridgeCall where
  body : Option Json
  bridgeSiteId : Option JsString := none
  requestId : Option JsString := none
  traceId : Option JsString := none
  authorization : Option JsString := none
  templateToken : Option JsString := none
  apiToken : Option JsString := none
  nowIso : JsString := []
  random : String → JsString := fun _ => []

/-! ### The template token -/

/-- The map, filled entry by entry; `none` is a rejected entry. -/
def fillTokenMap (map : Value) : Fields → Option Value
  | [] => some map
  | (keyRaw, tokenRaw) :: rest =>
      let key := trim keyRaw
      let token := trimString (some tokenRaw)
      if key = [] ∨ token = [] then none else fillTokenMap (map.assign key (.text token)) rest

def parseTokenMap (runtime : Runtime) (raw : JsString) : Option Value :=
  (asRecord (runtime.parseJson raw)).bind (fillTokenMap Value.empty)

/-- The token of a site: what the map finds for it, or the common one. -/
def expectedTemplateToken (runtime : Runtime) (env : BridgeEnv) (siteId : JsString) :
    Except HttpException Value :=
  let common : Value := .text (cleanEnv env.gatewayTemplateToken)
  let mapRaw := cleanEnv env.gatewayTemplateTokenMap
  if mapRaw = [] then .ok common
  else
    match parseTokenMap runtime mapRaw with
    | none => .error ⟨500, "invalid_template_token_map"⟩
    | some map =>
        let mapped := (map.read siteId).getD .undefined
        if siteId ≠ [] ∧ mapped.truthy then .ok mapped else .ok common

def presentedTemplateToken (call : BridgeCall) : JsString :=
  let auth := cleanEnv call.authorization
  let bearer := if startsWith (toLowerCase auth) (js "bearer ") then trim (auth.drop 7) else []
  firstNonEmptyString [call.templateToken.map .str, call.apiToken.map .str, some (.str bearer)]

def requireTemplateApiToken (runtime : Runtime) (env : BridgeEnv) (call : BridgeCall)
    (siteId : JsString) : Except HttpException Unit :=
  match expectedTemplateToken runtime env siteId with
  | .error exception => .error exception
  | .ok expected =>
      if !expected.truthy then
        if boolEnv env.gatewayTemplateTokenOptional false then .ok ()
        else .error ⟨500, "missing_template_token"⟩
      else
        match expected with
        | .text token =>
            if presentedTemplateToken call = token then .ok () else .error ⟨401, "unauthorized"⟩
        | _ => .error ⟨401, "unauthorized"⟩

/-! ### Messages -/

inductive ReadKind where
  | resolveRoute
  | getPage
deriving DecidableEq

def readAction : ReadKind → JsString
  | .resolveRoute => js "ResolveRoute"
  | .getPage => js "GetPage"

/-- A name and a value. -/
abbrev Tag := JsString × JsString

/-- A message to a process; its data is printed from the fields. -/
structure AoMessage where
  process : JsString
  tags : List Tag
  data : Fields

def normalizePath (pathValue : Option Json) : JsString :=
  let path := trimString pathValue
  if path = [] then js "/" else if startsWith path (js "/") then path else 47 :: path

/-- A tag or a field that is left out when its text is empty. -/
def presentText (name : String) (value : JsString) : List (JsString × JsString) :=
  if value = [] then [] else [(js name, value)]

/-- The tags and fields an action adds to its message. -/
def readParameters (kind : ReadKind) (payload : Fields) : List (JsString × JsString) :=
  let locale := presentText "Locale" (trimString (payload.get (js "locale")))
  match kind with
  | .resolveRoute => (js "Path", normalizePath (payload.get (js "path"))) :: locale
  | .getPage =>
      presentText "Page-Id" (trimString (payload.get (js "pageId"))) ++
        presentText "Slug"
          (firstNonEmptyString [payload.get (js "slug"), payload.get (js "path")]) ++
        locale ++ presentText "Version" (trimString (payload.get (js "version")))

/-- The tags every message to a process ends its head with. -/
def transportTags : List Tag :=
  [(js "signing-format", js "ans104"), (js "accept-bundle", js "true"),
    (js "require-codec", js "application/json"), (js "Type", js "Message"),
    (js "Variant", js "ao.TN.1"), (js "Data-Protocol", js "ao"),
    (js "Content-Type", js "application/json"), (js "Input-Encoding", js "JSON-1"),
    (js "Output-Encoding", js "JSON-1")]

def buildReadTags (kind : ReadKind) (requestId siteId sitePid : JsString) (payload : Fields)
    (traceId : JsString) : List Tag :=
  [(js "Action", readAction kind), (js "Request-Id", requestId), (js "Site-Id", siteId),
    (js "Reply-To", sitePid)] ++ transportTags ++ readParameters kind payload ++
    presentText "Trace-Id" traceId

def buildReadData (kind : ReadKind) (requestId siteId : JsString) (payload : Fields) : Fields :=
  [(js "Action", .str (readAction kind)), (js "Request-Id", .str requestId),
    (js "Site-Id", .str siteId)] ++
    (readParameters kind payload).map fun parameter => (parameter.1, .str parameter.2)

def buildSiteRuntimeLookupTags (requestId registryPid siteId traceId : JsString) : List Tag :=
  [(js "Action", js "GetSiteRuntime"), (js "Request-Id", requestId),
    (js "Reply-To", registryPid), (js "Site-Id", siteId)] ++ transportTags ++
    presentText "Trace-Id" traceId

def buildSiteRuntimeLookupData (requestId siteId : JsString) : Fields :=
  [(js "Action", .str (js "GetSiteRuntime")), (js "Request-Id", .str requestId),
    (js "Site-Id", .str siteId)]

/-! ### The journal of a request -/

inductive BridgeEvent where
  | tokenAccepted (siteId : JsString)
  | read (message : AoMessage)
  | pushed (process : JsString) (command : Fields)

abbrev Bridge := Stateful (List BridgeEvent) HttpException

/-- The replies a request meets: the process id the registry names, `none` for a
lookup that throws, and the reply of the site's process. -/
structure Replies where
  registry : AoMessage → Option JsString
  site : AoMessage → Except HttpException Json

/-- Check the token for a site. -/
def acceptToken (runtime : Runtime) (env : BridgeEnv) (call : BridgeCall) (siteId : JsString) :
    Bridge Unit := do
  lift (requireTemplateApiToken runtime env call siteId)
  record (.tokenAccepted siteId)

/-- How each endpoint starts: the site and the canonical input of its body, whose
token is checked before the endpoint goes on. -/
def authenticated {α : Type} (runtime : Runtime) (env : BridgeEnv) (call : BridgeCall)
    (next : JsString → Fields → Bridge α) : Bridge α := do
  let body ← lift ((call.body.bind ownProperties).elim (.error ⟨400, "invalid_body"⟩) .ok)
  let canonical ← lift (canonicalizeGatewayTemplateInput body call.bridgeSiteId)
  acceptToken runtime env call canonical.1
  next canonical.1 canonical.2

/-! ### Reads -/

/-- `[A-Za-z0-9._-]`. -/
def isTraceUnit (unit : CodeUnit) : Bool :=
  let code := unit.toNat
  (65 ≤ code && code ≤ 90) || (97 ≤ code && code ≤ 122) || (48 ≤ code && code ≤ 57) ||
    code == 45 || code == 46 || code == 95

def resolveTraceId (value : JsString) : JsString :=
  let normalized := trim value
  if normalized.all isTraceUnit ∧ 8 ≤ normalized.length ∧ normalized.length ≤ 128 then normalized
  else []

def freshId (call : BridgeCall) (idKind : String) : JsString := js idKind ++ 45 :: call.random idKind

/-- The process of a site: the configured one, or the one the registry names. -/
def resolveReadSitePid (env : BridgeEnv) (call : BridgeCall) (replies : Replies)
    (siteId traceId : JsString) : Bridge JsString := do
  let configured := cleanEnv env.aoSiteProcessId
  if configured ≠ [] then pure configured
  else
    let registryPid := cleanEnv env.aoRegistryProcessId
    if registryPid = [] ∨ siteId = [] then fail ⟨500, "missing_ao_site_process_id"⟩
    else
      let requestId := freshId call "gw-site-runtime"
      let message : AoMessage := ⟨registryPid,
        buildSiteRuntimeLookupTags requestId registryPid siteId traceId,
        buildSiteRuntimeLookupData requestId siteId⟩
      record (.read message)
      let found := (replies.registry message).getD []
      if found = [] then fail ⟨500, "missing_ao_site_process_id"⟩ else pure found

/-- The site of a read input: its top level and its payload must not disagree. -/
def readSiteId (input : Fields) : Except HttpException JsString := envelopeSiteId input none

def executeReadAction (env : BridgeEnv) (call : BridgeCall) (replies : Replies) (kind : ReadKind)
    (input : Fields) (authenticatedSiteId : JsString) : Bridge Json := do
  let siteId ← lift (readSiteId input)
  if authenticatedSiteId ≠ [] ∧ siteId ≠ authenticatedSiteId then fail ⟨403, "site_scope_mismatch"⟩
  else
    let payload := ((asRecord (input.get (js "payload"))).getD []).set (js "siteId") (.str siteId)
    let requestId := firstNonEmptyString [input.get (js "requestId"), call.requestId.map .str,
      some (.str (freshId call "gw-read"))]
    let traceId := resolveTraceId
      (firstNonEmptyString [call.traceId.map .str, input.get (js "traceId")])
    let sitePid ← resolveReadSitePid env call replies siteId traceId
    let message : AoMessage := ⟨sitePid,
      buildReadTags kind requestId siteId sitePid payload traceId,
      buildReadData kind requestId siteId payload⟩
    record (.read message)
    lift (replies.site message)

/-- A read endpoint up to the reply it answers with. -/
def readRoute (runtime : Runtime) (env : BridgeEnv) (call : BridgeCall) (replies : Replies)
    (kind : ReadKind) : Bridge Json :=
  authenticated runtime env call fun siteId input =>
    executeReadAction env call replies kind input siteId

end DarkmeshGateway.SecretsWorker.ReadAction
