import DarkmeshGateway.Foundation.OrderedMap
import DarkmeshGateway.Gateway.TemplateApi

/-!
Contract: the front controller, which serves a template page for a host.

Owns the four sources of a template record and their order, the parsing of
their records, the page cache by host, and a request from its checks to its
answer.

Does not own the site resolution behind the runtime hints, nor the fetches: a
request is given what its fetches answer.
-/

namespace DarkmeshGateway.Gateway.FrontController

open Foundation
open Foundation.Js
open Gateway.Environment
open Gateway.SiteResolver (RuntimeRoutingHints normalizeHost readPlain)
open Gateway.TemplateApi (asNonEmptyString isSafeId resolveRuntimeHintValue)

/-! ### Records -/

inductive TemplateSource where
  | runtime
  | index
  | hostMap
  | default
deriving DecidableEq, Repr

/-- `txId` is `undefined` when a host names something that the template map
inherits. -/
structure TemplateIndexRecord where
  txId : Option JsString
  templateSha256 : Option JsString
  manifestTxId : Option JsString
  source : TemplateSource
deriving DecidableEq

structure CachedTemplate where
  txId : Option JsString
  templateSha256 : JsString
  html : JsString
  contentType : JsString
  expiresAt : Int
deriving DecidableEq

/-- `JSON.parse` (`none` is a `SyntaxError`) and the hex SHA-256 of a text. -/
structure Platform where
  parseJson : JsString → Option Json
  sha256Hex : JsString → JsString

/-! ### Settings -/

def readFrontControllerCacheTtlMs (env : Env) : Nat :=
  readPositiveIntEnv env "GATEWAY_FRONT_CONTROLLER_CACHE_TTL_MS" 60000

/-- `configured.replace(/\/+$/, '')`. -/
def readArGatewayBaseUrl (env : Env) : JsString :=
  match readHandlerEnvString env "GATEWAY_FRONT_CONTROLLER_AR_GATEWAY_URL" with
  | none => js "https://arweave.net"
  | some configured => configured.rdropWhile (· == 47)

def isTruthy (raw : Option JsString) : Bool :=
  [js "1", js "true", js "yes", js "on"].contains (toLowerCase (trim (raw.getD [])))

def readRequireHash (env : Env) : Bool :=
  isTruthy (readHandlerEnvString env "GATEWAY_FRONT_CONTROLLER_REQUIRE_HASH")

def readLockedReleaseMode (env : Env) : Bool :=
  isTruthy (readHandlerEnvString env "GATEWAY_FRONT_CONTROLLER_LOCKED_RELEASE")

def readTemplateMap (env : Env) : Option JsString :=
  readHandlerEnvString env "GATEWAY_FRONT_CONTROLLER_TEMPLATE_MAP"

def readIndexUrl (env : Env) : Option JsString :=
  readHandlerEnvString env "GATEWAY_FRONT_CONTROLLER_INDEX_URL"

def readTemplateTxId (env : Env) : Option JsString :=
  readHandlerEnvString env "GATEWAY_FRONT_CONTROLLER_TEMPLATE_TXID"

/-! ### Tokens -/

def parseTxId (value : Option Json) : Option JsString :=
  (asNonEmptyString value).filter (isSafeId 8 128 ·)

def isHexDigit (unit : CodeUnit) : Bool :=
  isDigit unit || (65 ≤ unit.toNat && unit.toNat ≤ 70) || (97 ≤ unit.toNat && unit.toNat ≤ 102)

/-- The text without a start that its lower-case form has. -/
def withoutStart (text start : JsString) : JsString :=
  if startsWith (toLowerCase text) start then text.drop start.length else text

/-- The digest a text spells: 64 hex digits, behind `sha256-` and `0x`. -/
def parseDigest (raw : JsString) : Option JsString :=
  let normalized := withoutStart (withoutStart raw (js "sha256-")) (js "0x")
  if normalized.length = 64 ∧ normalized.all isHexDigit then some (toLowerCase normalized)
  else none

def parseSha256 (value : Option Json) : Option JsString := (asNonEmptyString value).bind parseDigest

/-- `GATEWAY_FRONT_CONTROLLER_TEMPLATE_SHA256`, as it is set. -/
def readFallbackPin (env : Env) : Option JsString :=
  readHandlerEnvString env "GATEWAY_FRONT_CONTROLLER_TEMPLATE_SHA256"

def readFallbackExpectedHash (env : Env) : Option JsString :=
  parseSha256 ((readFallbackPin env).map .str)

/-! ### Runtime hints -/

/-- The record the hints name; `none` when they name nothing. -/
def resolveTemplateRecordFromRuntimeHints (runtimeHints : Option RuntimeRoutingHints) :
    Except String (Option TemplateIndexRecord) :=
  let txIdRaw := resolveRuntimeHintValue runtimeHints ["templateTxId", "template_tx_id"]
  let shaRaw := resolveRuntimeHintValue runtimeHints ["templateSha256", "template_sha256"]
  let manifestRaw := resolveRuntimeHintValue runtimeHints ["manifestTxId", "manifest_tx_id"]
  match txIdRaw with
  | none =>
      if shaRaw = none ∧ manifestRaw = none then .ok none
      else .error "front_controller_runtime_template_txid_missing"
  | some raw =>
      match parseTxId (some (.str raw)) with
      | none => .error "front_controller_runtime_template_txid_invalid"
      | some txId =>
          let templateSha256 := parseSha256 (shaRaw.map .str)
          let manifestTxId := parseTxId (manifestRaw.map .str)
          if shaRaw ≠ none ∧ templateSha256 = none then
            .error "front_controller_runtime_template_sha256_invalid"
          else if manifestRaw ≠ none ∧ manifestTxId = none then
            .error "front_controller_runtime_manifest_txid_invalid"
          else .ok (some ⟨some txId, templateSha256, manifestTxId, .runtime⟩)

/-! ### Entries -/

/-- `entry?.[name]`, for a name that no value inherits. -/
def property (entry : Json) (name : String) : Option Json :=
  match entry with
  | .obj fields => Fields.get fields (js name)
  | _ => none

/-- What an entry of a template map or an index names. -/
structure TemplateEntry where
  txId : JsString
  templateSha256 : Option JsString
  manifestTxId : Option JsString
deriving DecidableEq

/-- The pins an entry can carry, first choice first. -/
def pinNames : List String := ["templateSha256", "sha256", "hash"]

/-- An entry is a transaction id or an object with one. -/
def parseEntry (value : Json) : Option TemplateEntry :=
  let txId := ((parseTxId (some value)).or (parseTxId (property value "templateTxId"))).or
    (parseTxId (property value "txId"))
  txId.map fun txId =>
    { txId
      templateSha256 := pinNames.findSome? fun name => parseSha256 (property value name)
      manifestTxId := parseTxId (property value "manifestTxId") }

/-- An entry as it is kept in the template map. -/
def entryValue (entry : TemplateEntry) : Value :=
  .object ([(js "txId", .text entry.txId)] ++
    (entry.templateSha256.toList.map fun sha => (js "templateSha256", .text sha)) ++
    entry.manifestTxId.toList.map fun manifest => (js "manifestTxId", .text manifest))
    (.prototype .object)

/-- The map, filled entry by entry; `none` is an invalid map. -/
def fillTemplateMap (map : Value) : Fields → Option Value
  | [] => some map
  | (keyRaw, valueRaw) :: rest =>
      let key := normalizeHost keyRaw
      if key = [] then none
      else match parseEntry valueRaw with
        | none => none
        | some entry => fillTemplateMap (map.assign key (entryValue entry)) rest

def parseTemplateMap (platform : Platform) (raw : JsString) : Option Value :=
  (asRecord (platform.parseJson raw)).bind (fillTemplateMap Value.empty)

/-- A text property. -/
def textProperty (object : Value) (name : String) : Option JsString :=
  match readPlain object (js name) with
  | .text text => some text
  | _ => none

/-- `map[host] || map['*']`. -/
def mappedTemplate (map : Value) (host : JsString) : Value :=
  if (readPlain map host).truthy then readPlain map host else readPlain map (js "*")

def mappedRecord (mapped : Value) : TemplateIndexRecord where
  txId := textProperty mapped "txId"
  templateSha256 := (textProperty mapped "templateSha256").filter (· ≠ [])
  manifestTxId := (textProperty mapped "manifestTxId").filter (· ≠ [])
  source := .hostMap

/-! ### The index -/

def indexRecord (entry : TemplateEntry) : TemplateIndexRecord :=
  ⟨some entry.txId, entry.templateSha256, entry.manifestTxId, .index⟩

/-- `candidate[host] ?? candidate['*']`; a value that the candidate inherits is
no entry, but it hides the one under `*`. -/
def candidateEntry (candidate : Fields) (host : JsString) : Option Json :=
  match candidate.get host with
  | some .null => candidate.get (js "*")
  | some entry => some entry
  | none =>
      if host = js "constructor" ∨ host = js "__proto__" then none else candidate.get (js "*")

/-- The entry of the first host map of the index that has a usable one. -/
def fromIndexHostMap (payload : Fields) (host : JsString) : Option Json :=
  ["hosts", "byHost", "sites", "map"].findSome? fun name =>
    (asRecord (payload.get (js name))).bind fun candidate =>
      (candidateEntry candidate host).filter fun entry => (parseEntry entry).isSome

/-- The entry of the index that decides for the host. -/
def indexEntry (payload : Fields) (host : JsString) : Option Json :=
  let usable (entry : Option Json) : Option Json :=
    entry.filter fun value => (parseEntry value).isSome
  (((fromIndexHostMap payload host).or (usable (some (.obj payload)))).or
    (usable (payload.get (js "latest")))).or (usable (payload.get (js "default")))

def resolveTemplateFromIndexPayload (payload : Option Json) (host : JsString) :
    Option TemplateIndexRecord :=
  (asRecord payload).bind fun fields =>
    ((indexEntry fields host).bind parseEntry).map indexRecord

/-! ### Resolution -/

/-- What a fetch answers; reading the body can fail too. -/
inductive FetchResult where
  | failed (message : String)
  | response (status : Nat) (contentType : Option JsString)
      (body : Except String JsString)

/-- `response.ok`. -/
def isOk (status : Nat) : Bool := 200 ≤ status && status ≤ 299

/-- The record of the index, if it has one for the host. -/
def resolveFromIndex (platform : Platform) (host : JsString) :
    FetchResult → Except String (Option TemplateIndexRecord)
  | .failed message => .error message
  | .response status _ body =>
      if !isOk status then .error ("front_controller_index_http_" ++ toString status)
      else .ok (resolveTemplateFromIndexPayload (body.toOption.bind platform.parseJson) host)

def resolveFallback (env : Env) : Option TemplateIndexRecord :=
  (parseTxId ((readTemplateTxId env).map .str)).map fun txId =>
    ⟨some txId, readFallbackExpectedHash env, none, .default⟩

/-- The record of the template map, if there is a map with one for the host. -/
def resolveFromMap (platform : Platform) (env : Env) (host : JsString) :
    Except String (Option TemplateIndexRecord) :=
  match readTemplateMap env with
  | none => .ok none
  | some raw =>
      match parseTemplateMap platform raw with
      | none => .error "front_controller_template_map_invalid"
      | some map =>
          let mapped := mappedTemplate map host
          .ok (if mapped.truthy then some (mappedRecord mapped) else none)

/-- Hints before map before index before fallback. -/
def resolveTemplateRecord (platform : Platform) (env : Env) (fetch : JsString → FetchResult)
    (host : JsString) (runtimeHints : Option RuntimeRoutingHints) :
    Except String (Option TemplateIndexRecord) := do
  match ← resolveTemplateRecordFromRuntimeHints runtimeHints with
  | some record => return some record
  | none =>
      match ← resolveFromMap platform env host with
      | some record => return some record
      | none =>
          match readIndexUrl env with
          | none => return resolveFallback env
          | some url =>
              match ← resolveFromIndex platform host (fetch url) with
              | some record => return some record
              | none => return resolveFallback env

/-! ### Checks -/

def validateFrontControllerRuntimeConfig (env : Env) : Option String :=
  if !readLockedReleaseMode env then none
  else if readIndexUrl env ≠ none then some "front_controller_locked_release_index_url_forbidden"
  else if readTemplateMap env = none ∧ parseTxId ((readTemplateTxId env).map .str) = none then
    some "front_controller_locked_release_pinned_source_required"
  else none

def isFrontControllerEnabled (env : Env) : Bool :=
  match readHandlerEnvString env "GATEWAY_FRONT_CONTROLLER_ENABLED" with
  | some explicit => isTruthy (some explicit)
  | none =>
      (readTemplateTxId env).isSome || (readTemplateMap env).isSome || (readIndexUrl env).isSome

/-! ### Requests -/

inductive CacheStatus where
  | hit
  | miss
  | stale
deriving DecidableEq, Repr

/-- A page; `source` is `none` when it comes from the cache without a resolution. -/
structure Page where
  html : JsString
  contentType : JsString
  txId : Option JsString
  templateSha256 : JsString
  cache : CacheStatus
  source : Option TemplateSource
deriving DecidableEq

inductive Response where
  | page (page : Page)
  | text (status : Nat) (body : String)
  | failure (status : Nat) (error : String) (detail : Option String)
deriving DecidableEq

/-- A request, the time it arrives at, and what its fetches answer. -/
structure Request where
  method : JsString
  host : JsString
  refresh : Bool
  runtimeHints : Option RuntimeRoutingHints
  now : Int
  fetch : JsString → FetchResult

abbrev PageCache := OrderedMap JsString CachedTemplate

/-- The content type with which a page is served. -/
def htmlContentType (contentType : JsString) : JsString :=
  if contentType = [] then js "text/html; charset=utf-8" else contentType

def cachedPage (cached : CachedTemplate) (cache : CacheStatus) (source : Option TemplateSource) :
    Response :=
  .page ⟨cached.html, htmlContentType cached.contentType, cached.txId, cached.templateSha256,
    cache, source⟩

/-- A stale page if there is one, else the failure. -/
def staleOr (cached : Option CachedTemplate) (failure : Response) : Response :=
  match cached with
  | some cached => cachedPage cached .stale none
  | none => failure

/-- The page a template fetch gives, checked against the record. -/
def acceptTemplate (platform : Platform) (requireHash : Bool) (resolved : TemplateIndexRecord)
    (expiresAt : Int) : FetchResult → Except String CachedTemplate
  | .failed message => .error message
  | .response status contentType body =>
      if !isOk status then .error ("front_controller_template_http_" ++ toString status)
      else match body with
        | .error message => .error message
        | .ok html =>
            let actualSha256 := platform.sha256Hex html
            if trim html = [] then .error "front_controller_template_empty"
            else if resolved.templateSha256.any (· ≠ actualSha256) then
              .error "front_controller_template_hash_mismatch"
            else if requireHash ∧ resolved.templateSha256 = none then
              .error "front_controller_template_hash_required"
            else
              .ok
                { txId := resolved.txId
                  templateSha256 := actualSha256
                  html
                  contentType := htmlContentType (contentType.getD [])
                  expiresAt }

/-- `${base}/${txId}`. -/
def templateUrl (env : Env) (txId : Option JsString) : JsString :=
  readArGatewayBaseUrl env ++ 47 :: txId.getD (js "undefined")

/-- A request behind a successful resolution. -/
def serveResolved (platform : Platform) (env : Env) (pages : PageCache) (request : Request)
    (resolved : TemplateIndexRecord) : Response × PageCache :=
  let host := normalizeHost request.host
  let cached := pages.find host
  let expiresAt := request.now + readFrontControllerCacheTtlMs env
  match cached.filter fun cached => cached.txId = resolved.txId && !request.refresh with
  | some same =>
      let extended := { same with expiresAt }
      (cachedPage extended .hit (some resolved.source), pages.set host extended)
  | none =>
      let fetched := request.fetch (templateUrl env resolved.txId)
      match acceptTemplate platform (readRequireHash env) resolved expiresAt fetched with
      | .error detail =>
          (staleOr cached (.failure 502 "front_controller_template_unavailable" (some detail)),
            pages)
      | .ok template =>
          (cachedPage template .miss (some resolved.source), pages.set host template)

/-- A request that the cache does not answer. -/
def serveUncached (platform : Platform) (env : Env) (pages : PageCache) (request : Request) :
    Response × PageCache :=
  let host := normalizeHost request.host
  let cached := pages.find host
  match resolveTemplateRecord platform env request.fetch host request.runtimeHints with
  | .error detail =>
      (staleOr cached (.failure 502 "front_controller_index_unavailable" (some detail)), pages)
  | .ok none => (staleOr cached (.failure 503 "front_controller_template_txid_missing" none), pages)
  | .ok (some resolved) => serveResolved platform env pages request resolved

/-- The page the cache answers with. -/
def freshPage (pages : PageCache) (request : Request) : Option CachedTemplate :=
  (pages.find (normalizeHost request.host)).filter fun cached =>
    !request.refresh && request.now < cached.expiresAt

def handleFrontControllerRequest (platform : Platform) (env : Env) (pages : PageCache)
    (request : Request) : Response × PageCache :=
  if request.method ≠ js "GET" ∧ request.method ≠ js "HEAD" then (.text 405 "method", pages)
  else if !isFrontControllerEnabled env then
    (.failure 503 "front_controller_not_configured" none, pages)
  else
    match validateFrontControllerRuntimeConfig env with
    | some error => (.failure 503 error none, pages)
    | none =>
        match freshPage pages request with
        | some cached => (cachedPage cached .hit none, pages)
        | none => serveUncached platform env pages request

end DarkmeshGateway.Gateway.FrontController
