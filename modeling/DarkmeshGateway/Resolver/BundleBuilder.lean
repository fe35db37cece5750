import DarkmeshGateway.Foundation.Js.Object
import DarkmeshGateway.Foundation.Js.Stringify
import DarkmeshGateway.Foundation.Js.Url
import DarkmeshGateway.Foundation.OrderedMap

/-!
Contract: the policy bundle builder.

Owns how an entry of `hosts` is read, the tables of a bundle, the conflict
check on sites and the document that is written.

Does not own the command line beyond the checks on its options, and the files
it reads and writes.
-/

namespace DarkmeshGateway.Resolver.BundleBuilder

open Foundation
open Foundation.Js

/-- The text of a thrown `Error`. -/
abbrev Message := JsString

def validPolicyModes : List JsString := [js "off", js "observe", js "soft", js "enforce"]

def validProofStates : List JsString :=
  [js "valid", js "expired", js "missing", js "unchecked"]

def validRouteMethods : List JsString :=
  [js "GET", js "HEAD", js "POST", js "PUT", js "PATCH", js "DELETE", js "OPTIONS"]

/-- The options as the command line has checked them. -/
structure Options where
  mode : JsString
  failOpen : Bool
  snapshotId : JsString
  defaultProofState : JsString
  cachePositiveSec : Int
  cacheNegativeSec : Int
  cacheSwrSec : Int
  cacheHardMaxStaleSec : Int
  validMode : mode ∈ validPolicyModes
  validProof : defaultProofState ∈ validProofStates
  positiveRange : 1 ≤ cachePositiveSec ∧ cachePositiveSec ≤ 86400
  negativeRange : 1 ≤ cacheNegativeSec ∧ cacheNegativeSec ≤ 86400
  swrRange : 0 ≤ cacheSwrSec ∧ cacheSwrSec ≤ 86400
  hardMaxStaleRange : 0 ≤ cacheHardMaxStaleSec ∧ cacheHardMaxStaleSec ≤ 172800

/-- The options of a command line that sets none. -/
def defaultOptions : Options where
  mode := js "off"
  failOpen := true
  snapshotId := []
  defaultProofState := js "unchecked"
  cachePositiveSec := 300
  cacheNegativeSec := 60
  cacheSwrSec := 900
  cacheHardMaxStaleSec := 3600
  validMode := by decide
  validProof := by decide
  positiveRange := by decide
  negativeRange := by decide
  swrRange := by decide
  hardMaxStaleRange := by decide

/-- The host parser of `URL`, a date as `toISOString` prints it (`none` is
`NaN`), and the clock at each entry and at the end. -/
structure Environment where
  parseHost : Url.Kind → JsString → Option JsString
  parseDate : JsString → Option JsString
  entryTime : Nat → JsString
  bundleTime : JsString

/-! ### Fields -/

def invalid {α : Type} (field : JsString) (reason : String) : Except Message α :=
  .error (js "Invalid " ++ field ++ js ": " ++ js reason)

/-- `value == null` is `none`. -/
def given : Option Json → Option Json
  | some .null => none
  | value => value

/-- `object[first] ?? object[second]` -/
def eitherGiven (fields : Fields) (first second : String) : Option Json :=
  (given (fields.get (js first))).or (given (fields.get (js second)))

/-- `[a-z0-9-]` -/
def isLabelUnit (unit : CodeUnit) : Bool :=
  (97 ≤ unit.toNat && unit.toNat ≤ 122) || isDigit unit || unit == 45

def checkLabel (field label : JsString) : Except Message Unit :=
  if label = [] ∨ 63 < label.length then invalid field "bad label length"
  else if label.all isLabelUnit = false ∨ label.head? = some 45 ∨ label.getLast? = some 45 then
    invalid field "bad label characters"
  else .ok ()

/-- `new URL("http://" + host).hostname`, lower case. -/
def parsedHost (environment : Environment) (field host : JsString) : Except Message JsString :=
  match Url.urlHostname environment.parseHost (js "http://" ++ host) with
  | some name => .ok (toLowerCase name)
  | none => invalid field "not parseable hostname"

def canonicalHost (environment : Environment) (raw : Option Json) (field : JsString) :
    Except Message JsString :=
  match raw with
  | some (.str text) => do
      let host := toLowerCase (trim text)
      if host = [] then invalid field "empty"
      if includes host (js "://") ∨ includes host (js "/") ∨ includes host (js "?") ∨
          includes host (js "#") then
        invalid field "must be hostname only"
      let bare := host.rdropWhile (· = 46)
      if bare = [] then invalid field "empty after trim"
      let parsed ← parsedHost environment field bare
      if ¬includes parsed (js ".") then invalid field "FQDN required"
      if 253 < parsed.length then invalid field "too long"
      (parsed.splitOn 46).forM (checkLabel field)
      return parsed
  | _ => invalid field "must be string"

def readOptionalString (value : Option Json) (field : JsString) (maxLen : Nat) :
    Except Message (Option JsString) :=
  match given value with
  | none => .ok none
  | some (.str text) =>
      if trim text = [] then invalid field "empty"
      else if maxLen < (trim text).length then invalid field "too long"
      else .ok (some (trim text))
  | some _ => invalid field "must be string when provided"

def readRequiredString (value : Option Json) (field : JsString) (maxLen : Nat) :
    Except Message JsString := do
  match ← readOptionalString value field maxLen with
  | some text => return text
  | none => throw (js "Missing " ++ field)

/-- `[A-Za-z0-9_-]` -/
def isProcessUnit (unit : CodeUnit) : Bool :=
  Url.isLetter unit || isDigit unit || unit == 95 || unit == 45

def readOptionalProcessLike (value : Option Json) (field : JsString) :
    Except Message (Option JsString) := do
  match ← readOptionalString value field 128 with
  | none => return none
  | some text =>
      if text.length < 20 ∨ 128 < text.length ∨ text.all isProcessUnit = false then
        invalid field "expected AO id format"
      else return some text

def readRoutePrefix (value : Option Json) (field : JsString) :
    Except Message (Option JsString) := do
  match ← readOptionalString value field 1024 with
  | none => return none
  | some text =>
      if text.head? = some 47 then return some text else invalid field "must start with /"

def normalizeIsoOrUndefined (environment : Environment) (value : Option Json) (field : JsString) :
    Except Message (Option JsString) :=
  match given value with
  | none => .ok none
  | some (.str text) =>
      if trim text = [] then .ok none
      else
        match environment.parseDate (trim text) with
        | some date => .ok (some date)
        | none => invalid field "not parseable ISO date"
  | some _ => invalid field "must be ISO string"

/-- The methods of a rule, each once, behind those already read. -/
def normalizeMethodList (field : JsString) : List Json → List JsString →
    Except Message (List JsString)
  | [], out => .ok out
  | .str raw :: rest, out =>
      let method := toUpperCase (trim raw)
      if method ∈ validRouteMethods then
        normalizeMethodList field rest (if method ∈ out then out else out ++ [method])
      else .error (js "Invalid " ++ field ++ js ": unsupported method " ++ raw)
  | _ :: _, _ => invalid field "method must be string"

def normalizeMethods (rawMethods : Option Json) (field : JsString) :
    Except Message (Option (List JsString)) :=
  match given rawMethods with
  | none => .ok none
  | some (.arr methods) => do
      let out ← normalizeMethodList field methods []
      return if out = [] then none else some out
  | some _ => invalid field "must be array"

/-! ### Routes and proofs -/

structure RouteRule where
  pathPrefix : JsString
  methods : Option (List JsString)
  actionHint : Option JsString
deriving DecidableEq

/-- A route with a default hint or a rule. -/
structure Route where
  defaultActionHint : Option JsString
  rules : List RouteRule
deriving DecidableEq

/-- `name (host)` -/
def hostField (name : JsString) (host : JsString) : JsString := name ++ js " (" ++ host ++ js ")"

/-- `route.rules[index]` -/
def ruleName (index : Nat) : JsString := js "route.rules[" ++ decimalDigits index ++ js "]"

def normalizeRule (host : JsString) (index : Nat) : Json → Except Message RouteRule
  | .obj rule => do
      let read ← readRoutePrefix (eitherGiven rule "pathPrefix" "path")
        (hostField (ruleName index ++ js ".pathPrefix") host)
      let pathPrefix ← read.elim
        (throw (js "Missing " ++ ruleName index ++ js ".pathPrefix for " ++ host)) pure
      let actionHint ← readOptionalString (Fields.get rule (js "actionHint"))
        (hostField (ruleName index ++ js ".actionHint") host) 128
      let methods ← normalizeMethods (Fields.get rule (js "methods"))
        (hostField (ruleName index ++ js ".methods") host)
      return ⟨pathPrefix, methods, actionHint⟩
  | _ => .error (js "Invalid " ++ ruleName index ++ js " for " ++ host ++ js ": must be object")

def normalizeRules (host : JsString) : Nat → List Json → Except Message (List RouteRule)
  | _, [] => .ok []
  | index, raw :: rest => do
      let first ← normalizeRule host index raw
      let others ← normalizeRules host (index + 1) rest
      return first :: others

def normalizeRouteRules (rawRules : Option Json) (host : JsString) :
    Except Message (List RouteRule) :=
  match given rawRules with
  | none => .ok []
  | some (.arr rules) => normalizeRules host 0 rules
  | some _ => .error (js "Invalid route.rules for " ++ host ++ js ": must be array")

def normalizeRoute (rawRoute : Option Json) (host : JsString) : Except Message (Option Route) :=
  match given rawRoute with
  | none => .ok none
  | some (.obj route) => do
      let defaultActionHint ← readOptionalString (Fields.get route (js "defaultActionHint"))
        (hostField (js "route.defaultActionHint") host) 128
      let rules ← normalizeRouteRules (Fields.get route (js "rules")) host
      return if defaultActionHint = none ∧ rules = [] then none
        else some ⟨defaultActionHint, rules⟩
  | some _ => .error (js "Invalid route for " ++ host ++ js ": must be object")

structure Proof where
  state : JsString
  checkedAt : JsString
  validUntil : Option JsString
  source : JsString
  challengeRef : Option JsString
deriving DecidableEq

def normalizeProof (environment : Environment) (options : Options) (index : Nat)
    (rawProof : Option Json) (host : JsString) : Except Message Proof :=
  match given rawProof with
  | none => .ok { state := options.defaultProofState, checkedAt := environment.entryTime index,
                  validUntil := none, source := js "bundle-generator", challengeRef := none }
  | some (.obj proof) => do
      let read ← readOptionalString (Fields.get proof (js "state"))
        (hostField (js "proof.state") host) 32
      let stateRaw := read.getD options.defaultProofState
      let state := toLowerCase stateRaw
      if state ∉ validProofStates then
        throw (js "Invalid " ++ hostField (js "proof.state") host ++ js ": " ++ stateRaw)
      let checkedAt ← normalizeIsoOrUndefined environment
        (eitherGiven proof "checkedAt" "dnsProofCheckedAt")
        (hostField (js "proof.checkedAt") host)
      let validUntil ← normalizeIsoOrUndefined environment
        (eitherGiven proof "validUntil" "dnsProofValidUntil")
        (hostField (js "proof.validUntil") host)
      let source ← readOptionalString (Fields.get proof (js "source"))
        (hostField (js "proof.source") host) 128
      let challengeRef ← readOptionalString (Fields.get proof (js "challengeRef"))
        (hostField (js "proof.challengeRef") host) 256
      return { state, checkedAt := checkedAt.getD (environment.entryTime index), validUntil,
               source := source.getD (js "bundle-generator"), challengeRef }
  | some _ => .error (js "Invalid proof for " ++ host ++ js ": must be object")

/-! ### Entries -/

/-- What a site and its hosts share. -/
structure SiteRuntime where
  processId : Option JsString
  moduleId : Option JsString
  scheduler : Option JsString
  routePrefix : Option JsString
  status : Option JsString
deriving DecidableEq

structure HostPolicy where
  siteId : JsString
  runtime : SiteRuntime
deriving DecidableEq

structure HostEntry where
  host : JsString
  policy : HostPolicy
deriving DecidableEq

/-- `hosts[index].name` -/
def entryField (index : Nat) (name : String) : JsString :=
  js "hosts[" ++ decimalDigits index ++ js "]." ++ js name

def readEntry (environment : Environment) (index : Nat) (entry : Fields) :
    Except Message HostEntry := do
  let host ← canonicalHost environment (entry.get (js "host")) (entryField index "host")
  let siteId ← readRequiredString (entry.get (js "siteId")) (entryField index "siteId") 128
  let processId ← readOptionalProcessLike (entry.get (js "processId"))
    (entryField index "processId")
  let moduleId ← readOptionalProcessLike (entry.get (js "moduleId")) (entryField index "moduleId")
  let scheduler ← readOptionalProcessLike (entry.get (js "scheduler"))
    (entryField index "scheduler")
  let routePrefix ← readRoutePrefix (entry.get (js "routePrefix"))
    (entryField index "routePrefix")
  let status ← readOptionalString (entry.get (js "status")) (entryField index "status") 64
  return ⟨host, siteId, processId, moduleId, scheduler, routePrefix, status⟩

/-! ### Tables -/

/-- A property that is left out when it has no value. -/
def optionalField (name : String) (value : Option JsString) : Fields :=
  (value.map fun text => (js name, .str text)).toList

def SiteRuntime.fields (runtime : SiteRuntime) : Fields :=
  optionalField "processId" runtime.processId ++ optionalField "moduleId" runtime.moduleId ++
    optionalField "scheduler" runtime.scheduler ++ optionalField "routePrefix" runtime.routePrefix ++
    optionalField "status" runtime.status

abbrev Table (α : Type) := OrderedMap JsString α

structure Tables where
  hostPolicies : Table HostPolicy
  sitePolicies : Table SiteRuntime
  dnsProofState : Table Proof
  routePolicies : Table Route

def Tables.empty : Tables := ⟨.empty, .empty, .empty, .empty⟩

/-- The text of what `sitePolicies` inherits under a name from `Object.prototype`:
functions have none, `__proto__` is the prototype. -/
def inheritedSite (siteId : JsString) : Option (Option JsString) :=
  match Value.empty.read siteId with
  | none => none
  | some .undefined => none
  | some (.prototype _) => some (some (js "\x7b\x7d"))
  | some _ => some none

def SiteRuntime.text (runtime : SiteRuntime) : JsString := (Json.obj runtime.fields).stringify

/-- `JSON.stringify(sitePolicies[siteId])`, `none` where nothing is held. -/
def heldSite (sites : Table SiteRuntime) (siteId : JsString) : Option (Option JsString) :=
  match sites.find siteId with
  | some site => some (some site.text)
  | none => inheritedSite siteId

def conflict (siteId : JsString) : Message :=
  js "Conflicting site policy for siteId=" ++ siteId ++
    js ". Use a single canonical runtime tuple (process/module/scheduler/routePrefix)."

/-- A held site has to agree with the entry and stays; a new one is the entry's. -/
def addSite (sites : Table SiteRuntime) (siteId : JsString) (runtime : SiteRuntime) :
    Except Message (Table SiteRuntime) :=
  match heldSite sites siteId with
  | none => .ok (sites.set siteId runtime)
  | some held =>
      if held = some runtime.text then .ok sites else .error (conflict siteId)

def Tables.addRoute (tables : Tables) (host : JsString) : Option Route → Table Route
  | none => tables.routePolicies
  | some route => tables.routePolicies.set host route

def addEntry (environment : Environment) (options : Options) (tables : Tables) (index : Nat) :
    Json → Except Message Tables
  | .obj fields => do
      let entry ← readEntry environment index fields
      let sitePolicies ← addSite tables.sitePolicies entry.policy.siteId entry.policy.runtime
      let proof ← normalizeProof environment options index (Fields.get fields (js "proof"))
        entry.host
      let route ← normalizeRoute (Fields.get fields (js "route")) entry.host
      return { hostPolicies := tables.hostPolicies.set entry.host entry.policy
               sitePolicies
               dnsProofState := tables.dnsProofState.set entry.host proof
               routePolicies := tables.addRoute entry.host route }
  | _ => .error (js "hosts[" ++ decimalDigits index ++ js "] must be object")

def addEntries (environment : Environment) (options : Options) : Nat → List Json → Tables →
    Except Message Tables
  | _, [], tables => .ok tables
  | index, raw :: rest, tables => do
      let next ← addEntry environment options tables index raw
      addEntries environment options (index + 1) rest next

/-! ### Bundles -/

structure Bundle where
  snapshotId : JsString
  generatedAt : JsString
  options : Options
  tables : Tables

/-- `replace(/\.\d{3}/, '')` -/
def dropMillis : JsString → JsString
  | 46 :: first :: second :: third :: rest =>
      if isDigit first && isDigit second && isDigit third then rest
      else 46 :: dropMillis (first :: second :: third :: rest)
  | unit :: rest => unit :: dropMillis rest
  | [] => []

def defaultSnapshotId (generatedAt : JsString) : JsString :=
  js "dm-resolver-" ++ dropMillis (generatedAt.filter fun unit => !(unit == 45 || unit == 58))

/-- The entries of the input: a non-empty array under `hosts`. -/
def inputHosts : Json → Except Message (List Json)
  | .obj input =>
      match Fields.get input (js "hosts") with
      | some (.arr (first :: rest)) => .ok (first :: rest)
      | _ => .error (js "Input must contain non-empty hosts[]")
  | _ => .error (js "Input root must be object")

def buildBundle (environment : Environment) (input : Json) (options : Options) :
    Except Message Bundle := do
  let hosts ← inputHosts input
  let tables ← addEntries environment options 0 hosts .empty
  let generatedAt := environment.bundleTime
  let snapshotId := if options.snapshotId = [] then defaultSnapshotId generatedAt
    else options.snapshotId
  return ⟨snapshotId, generatedAt, options, tables⟩

/-! ### Documents -/

def HostPolicy.fields (policy : HostPolicy) : Fields :=
  (js "siteId", .str policy.siteId) :: policy.runtime.fields

def Proof.fields (proof : Proof) : Fields :=
  [(js "state", .str proof.state), (js "checkedAt", .str proof.checkedAt)] ++
    optionalField "validUntil" proof.validUntil ++ [(js "source", .str proof.source)] ++
    optionalField "challengeRef" proof.challengeRef

def methodsFields (methods : Option (List JsString)) : Fields :=
  (methods.map fun names => (js "methods", Json.arr (names.map Json.str))).toList

def RouteRule.fields (rule : RouteRule) : Fields :=
  (js "pathPrefix", .str rule.pathPrefix) ::
    (methodsFields rule.methods ++ optionalField "actionHint" rule.actionHint)

def rulesFields (rules : List RouteRule) : Fields :=
  if rules = [] then [] else [(js "rules", .arr (rules.map fun rule => .obj rule.fields))]

def Route.fields (route : Route) : Fields :=
  optionalField "defaultActionHint" route.defaultActionHint ++ rulesFields route.rules

/-- A table as a property of the bundle. -/
def tableField {α : Type} (name : String) (fields : α → Fields) (table : Table α) :
    JsString × Json :=
  (js name, .obj (table.entries.map fun entry => (entry.1, .obj (fields entry.2))))

def hintFields (options : Options) : Fields :=
  [(js "positiveTtlSec", .num (.ofInt options.cachePositiveSec)),
    (js "negativeTtlSec", .num (.ofInt options.cacheNegativeSec)),
    (js "staleWhileRevalidateSec", .num (.ofInt options.cacheSwrSec)),
    (js "hardMaxStaleSec", .num (.ofInt options.cacheHardMaxStaleSec))]

def routesFields (routes : Table Route) : Fields :=
  if routes.entries = [] then [] else [tableField "routePolicies" Route.fields routes]

/-- The document of a bundle. Its readers see properties in any order. -/
def Bundle.fields (bundle : Bundle) : Fields :=
  [(js "schemaVersion", .str (js "1.0")), (js "snapshotId", .str bundle.snapshotId),
    (js "version", .str (js "dm-resolver-bundle/1")),
    (js "generatedAt", .str bundle.generatedAt), (js "policyMode", .str bundle.options.mode),
    (js "failOpen", .bool bundle.options.failOpen),
    tableField "hostPolicies" HostPolicy.fields bundle.tables.hostPolicies,
    tableField "sitePolicies" SiteRuntime.fields bundle.tables.sitePolicies,
    tableField "dnsProofState" Proof.fields bundle.tables.dnsProofState] ++
    routesFields bundle.tables.routePolicies ++
    [(js "cacheHints", .obj (hintFields bundle.options))]

end DarkmeshGateway.Resolver.BundleBuilder
