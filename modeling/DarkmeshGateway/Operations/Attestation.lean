import DarkmeshGateway.Foundation.Js.Kept

/-!
Contract: the integrity attestation, from the states of the gateways to the
verdict of the validator.

Owns the command line, the requests, the comparison of the answers, the written
artifact, its digest and every reason the validator gives.

Does not own URLs, dates, hashing and the network, which are parameters, the
usage text, and a file system that refuses to write.
-/

namespace DarkmeshGateway.Operations.Attestation

open Foundation.Js

structure ParsedUrl where
  href : JsString
  protocol : JsString
  host : JsString
  hostname : JsString

/-- What the scripts take from their runtime: the number of a numeral, `new URL`
(`none` throws), `Date.parse` (`none` is `NaN`) with `toISOString`, the message of
the `SyntaxError` for a text, and the two digests in hexadecimal. -/
structure Platform where
  readNumeral : JsString → Option Number
  parseUrl : JsString → Option ParsedUrl
  parseDate : JsString → Option Int
  toISOString : Int → JsString
  syntaxMessage : JsString → JsString
  sha256Hex : JsString → JsString
  hmacHex : JsString → JsString → JsString

/-! ### Canonical text -/

mutual

/-- The copy with sorted keys. A property named `__proto__` would set the
prototype of the copy, so it is not among its properties. -/
def canonicalize : Json → Json
  | .arr elements => .arr (canonicalizeElements elements)
  | .obj fields => .obj (orderKeys (sortByKey (canonicalizeFields fields)))
  | .null => .null
  | .bool value => .bool value
  | .num value => .num value
  | .str value => .str value

def canonicalizeElements : List Json → List Json
  | [] => []
  | value :: rest => canonicalize value :: canonicalizeElements rest

def canonicalizeFields : Fields → Fields
  | [] => []
  | (key, value) :: rest =>
      if key = js "__proto__" then canonicalizeFields rest
      else (key, canonicalize value) :: canonicalizeFields rest

end

def canonicalJson (value : Json) : JsString := (canonicalize value).stringify

/-! ### Comparison of the snapshots -/

structure GatewayResult where
  label : JsString
  url : JsString
  snapshot : Json

/-- An entry of `values`. -/
structure FieldValue where
  gateway : JsString
  url : JsString
  found : Bool
  value : Json

inductive FieldStatus where
  | consensus
  | mismatch
  | invalid
deriving DecidableEq

structure ComparedField where
  field : String
  status : FieldStatus
  values : List FieldValue

structure Comparison where
  comparedFields : List ComparedField
  mismatchCount : Nat
  invalidFieldCount : Nat

/-- `COMPARED_FIELDS`. No step of a path is a name that objects or arrays inherit. -/
def comparedFields : List (String × List String) :=
  [("policy.paused", ["policy", "paused"]),
    ("policy.activeRoot", ["policy", "activeRoot"]),
    ("policy.activePolicyHash", ["policy", "activePolicyHash"]),
    ("release.version", ["release", "version"]),
    ("release.root", ["release", "root"]),
    ("audit.seqTo", ["audit", "seqTo"])]

def deepEqual (left right : Json) : Bool := canonicalJson left = canonicalJson right

def getField (current : Json) : List String → Option Json
  | [] => some current
  | key :: rest =>
      match current with
      | .obj fields => (Fields.get fields (js key)).bind fun value => getField value rest
      | _ => none

def fieldValue (path : List String) (result : GatewayResult) : FieldValue :=
  { gateway := result.label
    url := result.url
    found := (getField result.snapshot path).isSome
    value := (getField result.snapshot path).getD .null }

/-- Every value is deeply equal to the first. -/
def agree : List FieldValue → Bool
  | [] => true
  | first :: rest => (first :: rest).all fun entry => deepEqual entry.value first.value

def compareField (results : List GatewayResult) (field : String × List String) : ComparedField :=
  let values := results.map (fieldValue field.2)
  { field := field.1
    status :=
      if values.any fun entry => !entry.found then .invalid
      else if agree values then .consensus
      else .mismatch
    values }

/-- One turn of the loop over the fields. -/
def Comparison.push (comparison : Comparison) (entry : ComparedField) : Comparison :=
  { comparedFields := comparison.comparedFields ++ [entry]
    mismatchCount := comparison.mismatchCount + if entry.status = .mismatch then 1 else 0
    invalidFieldCount := comparison.invalidFieldCount + if entry.status = .invalid then 1 else 0 }

def extractComparedFields (results : List GatewayResult) : Comparison :=
  comparedFields.foldl (fun comparison field => comparison.push (compareField results field))
    { comparedFields := [], mismatchCount := 0, invalidFieldCount := 0 }

/-! ### The artifact -/

def FieldStatus.text : FieldStatus → JsString
  | .consensus => js "consensus"
  | .mismatch => js "mismatch"
  | .invalid => js "invalid"

def GatewayResult.toJson (result : GatewayResult) : Json :=
  .obj [(js "label", .str result.label), (js "url", .str result.url),
    (js "snapshot", result.snapshot)]

def FieldValue.toJson (entry : FieldValue) : Json :=
  .obj [(js "gateway", .str entry.gateway), (js "url", .str entry.url),
    (js "found", .bool entry.found), (js "value", entry.value)]

def ComparedField.toJson (entry : ComparedField) : Json :=
  .obj [(js "field", .str (js entry.field)), (js "status", .str entry.status.text),
    (js "values", .arr (entry.values.map FieldValue.toJson))]

def artifactType : JsString := js "gateway-integrity-attestation"

def scriptVersionTag : JsString := js "integrity-attestation-v1"

def count (value : Nat) : Json := .num (.ofInt value)

def buildCanonicalSegment (results : List GatewayResult) (comparison : Comparison)
    (generatedAt : JsString) : Fields :=
  [(js "artifactType", .str artifactType),
    (js "scriptVersionTag", .str scriptVersionTag),
    (js "generatedAt", .str generatedAt),
    (js "gateways", .arr (results.map GatewayResult.toJson)),
    (js "comparedFields", .arr (comparison.comparedFields.map ComparedField.toJson)),
    (js "summary", .obj [(js "mismatchCount", count comparison.mismatchCount),
      (js "invalidFieldCount", count comparison.invalidFieldCount),
      (js "gatewayCount", count results.length)])]

def createDeterministicDigest (platform : Platform) (canonicalText : JsString) : JsString :=
  js "sha256:" ++ platform.sha256Hex canonicalText

def buildAttestationArtifact (platform : Platform) (results : List GatewayResult)
    (generatedAt hmacEnvName hmacSecret : JsString) : Fields :=
  let segment := buildCanonicalSegment results (extractComparedFields results) generatedAt
  let canonicalText := canonicalJson (.obj segment)
  segment ++ (js "digest", .str (createDeterministicDigest platform canonicalText)) ::
    if trim hmacEnvName ≠ [] ∧ trim hmacSecret ≠ [] then
      [(js "hmacEnv", .str hmacEnvName),
        (js "hmacSha256", .str (js "sha256:" ++ platform.hmacHex hmacSecret canonicalText))]
    else []

/-! ### The generator -/

structure Args where
  urls : List JsString
  tokens : List JsString
  out : JsString
  hmacEnv : JsString
  allowAnon : Bool

/-- A process that ends before it writes, with what it prints. -/
structure Exit where
  code : Nat
  message : JsString

def die {α : Type} (message : JsString) : Except Exit α := .error { code := 64, message }

/-- The flags that take a value. -/
def Args.give (args : Args) (flag value : JsString) : Option Args :=
  if flag = js "--url" then some { args with urls := args.urls ++ [value] }
  else if flag = js "--token" then some { args with tokens := args.tokens ++ [value] }
  else if flag = js "--out" then some { args with out := value }
  else if flag = js "--hmac-env" then some { args with hmacEnv := value }
  else none

/-- The loop over the command line. -/
def readArgs : List JsString → Args → Except Exit Args
  | [], args => .ok args
  | arg :: rest, args =>
      if arg = js "--help" ∨ arg = js "-h" then .error { code := 0, message := js "Usage:" }
      else if arg = js "--allow-anon" then readArgs rest { args with allowAnon := true }
      else if (args.give arg []).isNone then
        if startsWith arg (js "--") then die (js "unknown option: " ++ arg)
        else die (js "unexpected positional argument: " ++ arg)
      else
        match rest with
        | [] => die (js "missing value for " ++ arg)
        | next :: others =>
            if startsWith next (js "--") then die (js "missing value for " ++ arg)
            else readArgs others ((args.give arg next).getD args)

def isHttpProtocol (protocol : JsString) : Bool := protocol == js "http:" || protocol == js "https:"

def validateUrl (platform : Platform) (value : JsString) : Except Exit JsString :=
  match platform.parseUrl value with
  | none => die (js "invalid url: " ++ value)
  | some parsed =>
      if isHttpProtocol parsed.protocol then .ok parsed.href
      else die (js "unsupported url protocol: " ++ value)

def parseArgs (platform : Platform) (argv : List JsString) : Except Exit Args := do
  let args ← readArgs argv
    { urls := [], tokens := [], out := [], hmacEnv := [], allowAnon := false }
  if args.urls.length < 2 then die (js "at least two --url values are required")
  else
    let _ ← args.urls.mapM (validateUrl platform)
    if trim args.out = [] then die (js "--out must not be blank")
    else if args.tokens.any fun token => trim token = [] then
      die (js "--token values must not be blank")
    else if 0 < args.tokens.length ∧ args.tokens.length ≠ 1 ∧
        args.tokens.length ≠ args.urls.length then
      die (js "pass either one --token for all URLs or one --token per URL")
    else if args.hmacEnv ≠ [] ∧ trim args.hmacEnv = [] then die (js "--hmac-env must not be blank")
    else .ok args

/-- `process.env[name] || ''`. -/
abbrev Environment := JsString → JsString

def resolveToken (environment : Environment) (args : Args) (index : Nat) : Except Exit JsString :=
  if args.tokens.length = args.urls.length then .ok (args.tokens.getD index [])
  else if args.tokens.length = 1 then .ok (args.tokens.getD 0 [])
  else if args.allowAnon then .ok []
  else if trim (environment (js "GATEWAY_INTEGRITY_STATE_TOKEN")) = [] then
    die (js "missing token: set GATEWAY_INTEGRITY_STATE_TOKEN or pass --token")
  else .ok (environment (js "GATEWAY_INTEGRITY_STATE_TOKEN"))

/-- What `fetch` of `/integrity/state` gives with its text: a failure with its
message, or an answer. -/
inductive Fetched where
  | failed (message : JsString)
  | answered (ok : Bool) (status : Nat) (statusText body : JsString)

/-- What each request of a run is answered: the one for the gateway at an index, with
its URL and its `authorization` header if it has one. -/
abbrev Network := Nat → JsString → Option JsString → Fetched

def previewText (text : JsString) : JsString :=
  if 280 < text.length then text.take 280 ++ js "…" else text

def notAnObject : JsString := js "response was not a JSON object"

def fetchState (platform : Platform) (network : Network) (index : Nat) (url token : JsString) :
    Except JsString Json :=
  match network index url (if trim token = [] then none else some (js "Bearer " ++ token)) with
  | .failed message => .error message
  | .answered false status statusText body =>
      .error (js "HTTP " ++ decimalDigits status ++ js " " ++
        (if statusText = [] then js "response" else statusText) ++ js ": " ++ previewText body)
  | .answered true _ _ body =>
      if body = [] then .error notAnObject
      else
        match parse platform.readNumeral body with
        | none => .error (js "invalid JSON response: " ++ platform.syntaxMessage body)
        | some (.obj fields) => .ok (.obj fields)
        | some (.arr elements) => .ok (.arr elements)
        | some _ => .error notAnObject

def formatGatewayLabel (platform : Platform) (url : JsString) (index : Nat) :
    Except JsString JsString :=
  match platform.parseUrl url with
  | none => .error (js "Invalid URL")
  | some parsed =>
      let host :=
        if parsed.host ≠ [] then parsed.host
        else if parsed.hostname ≠ [] then parsed.hostname
        else js "gateway"
      .ok (35 :: (decimalDigits (index + 1) ++ 32 :: host))

/-- The states of the gateways from an index on. -/
def collectStates (platform : Platform) (environment : Environment) (network : Network)
    (args : Args) : Nat → List JsString → Except Exit (List GatewayResult)
  | _, [] => .ok []
  | index, raw :: rest => do
      let url ← validateUrl platform raw
      let token ← resolveToken environment args index
      let answer : Except JsString GatewayResult := do
        let snapshot ← fetchState platform network index url token
        let label ← formatGatewayLabel platform url index
        return { label, url, snapshot }
      match answer with
      | .error message =>
          .error { code := 2, message := js "request failure for " ++ url ++ js ": " ++ message }
      | .ok result => do
          let results ← collectStates platform environment network args (index + 1) rest
          return result :: results

/-- A finished run: what it fetched, the file it wrote and its exit code. -/
structure Generated where
  results : List GatewayResult
  out : JsString
  text : JsString
  code : Nat

/-- The file behind `writeFile` as `utf8`. -/
def writtenText (artifact : Fields) : JsString := toWellFormed ((Json.obj artifact).stringify ++ [10])

def exitCode (comparison : Comparison) : Nat :=
  if 0 < comparison.invalidFieldCount then 2 else if 0 < comparison.mismatchCount then 3 else 0

/-- `main` of the generator at a time. -/
def generateAttestation (platform : Platform) (environment : Environment) (network : Network)
    (now : Int) (argv : List JsString) : Except Exit Generated := do
  let args ← parseArgs platform argv
  let results ← collectStates platform environment network args 0 args.urls
  let hmacSecret := if args.hmacEnv = [] then [] else environment args.hmacEnv
  let artifact := buildAttestationArtifact platform results (platform.toISOString now)
    args.hmacEnv hmacSecret
  return {
    results
    out := args.out
    text := writtenText artifact
    code := exitCode (extractComparedFields results) }

/-! ### The validator -/

/-- Why an artifact is turned away; `raised` is the `TypeError` of a conversion. -/
inductive Fault where
  | invalid (reason : JsString)
  | raised
deriving DecidableEq

def require (condition : Bool) (reason : JsString) : Except Fault Unit :=
  if condition then .ok () else .error (.invalid reason)

def isObject : Option Json → Bool
  | some (.obj _) => true
  | _ => false

def isNonEmptyString : Option Json → Bool
  | some (.str text) => trim text ≠ []
  | _ => false

def isHttpUrl (platform : Platform) : Option Json → Bool
  | some (.str text) =>
      trim text ≠ [] && (platform.parseUrl text).any fun parsed => isHttpProtocol parsed.protocol
  | _ => false

/-- A time value that prints as the text. -/
def isIsoDateTime (platform : Platform) : Option Json → Bool
  | some (.str text) =>
      trim text ≠ [] && (platform.parseDate text).any fun time => platform.toISOString time == text
  | _ => false

def isText (expected : JsString) : Option Json → Bool
  | some (.str text) => text == expected
  | _ => false

def isBoolean : Option Json → Bool
  | some (.bool _) => true
  | _ => false

/-- `/^sha256:[0-9a-f]{64}$/`. -/
def isDigest (text : JsString) : Bool :=
  startsWith text (js "sha256:") && (text.drop 7).length == 64 &&
    (text.drop 7).all fun unit => isDigit unit || (97 ≤ unit.toNat && unit.toNat ≤ 102)

/-- The fields of an object, and none of anything else. -/
def fieldsOf : Option Json → Fields
  | some (.obj fields) => fields
  | _ => []

/-- The elements of an array, and none of anything else. -/
def elementsOf : Option Json → List Json
  | some (.arr elements) => elements
  | _ => []

/-- The number as an integer, where `Number.isInteger` finds one. -/
def integerOf : Option Json → Option Int
  | some (.num (.finite decimal)) => if decimal.isInteger then some decimal.trunc else none
  | _ => none

/-- `prefix[index]`. -/
def indexed (name : JsString) (index : Nat) : JsString :=
  name ++ 91 :: (decimalDigits index ++ [93])

def validateGateway (platform : Platform) (index : Nat) (gateway : Json) : Except Fault Unit := do
  let place := indexed (js "gateways") index
  let fields := fieldsOf (some gateway)
  require (isObject (some gateway)) (place ++ js " must be an object")
  require (isNonEmptyString (Fields.get fields (js "label")))
    (place ++ js ".label must be a non-empty string")
  require (isHttpUrl platform (Fields.get fields (js "url")))
    (place ++ js ".url must be an http(s) URL")
  require (isObject (Fields.get fields (js "snapshot"))) (place ++ js ".snapshot must be an object")

def validateGateways (platform : Platform) : Nat → List Json → Except Fault Unit
  | _, [] => .ok ()
  | index, gateway :: rest => do
      validateGateway platform index gateway
      validateGateways platform (index + 1) rest

def validateValue (platform : Platform) (place : JsString) (value : Json) : Except Fault Unit := do
  let fields := fieldsOf (some value)
  require (isObject (some value)) (place ++ js " must be an object")
  require (isNonEmptyString (Fields.get fields (js "gateway")))
    (place ++ js ".gateway must be a non-empty string")
  require (isHttpUrl platform (Fields.get fields (js "url")))
    (place ++ js ".url must be an http(s) URL")
  require (isBoolean (Fields.get fields (js "found"))) (place ++ js ".found must be a boolean")
  require (Fields.get fields (js "value")).isSome (place ++ js ".value must be present")

def validateValues (platform : Platform) (place : JsString) : Nat → List Json → Except Fault Unit
  | _, [] => .ok ()
  | index, value :: rest => do
      validateValue platform (indexed (place ++ js ".values") index) value
      validateValues platform place (index + 1) rest

def statusOf (entry : Json) : Option Json := Fields.get (fieldsOf (some entry)) (js "status")

def validateComparedField (platform : Platform) (index : Nat) (entry : Json) :
    Except Fault Unit := do
  let place := indexed (js "comparedFields") index
  let fields := fieldsOf (some entry)
  let values := elementsOf (Fields.get fields (js "values"))
  require (isObject (some entry)) (place ++ js " must be an object")
  require (isNonEmptyString (Fields.get fields (js "field")))
    (place ++ js ".field must be a non-empty string")
  require ([js "consensus", js "mismatch", js "invalid"].any fun status =>
      isText status (statusOf entry))
    (place ++ js ".status must be consensus, mismatch, or invalid")
  require (!values.isEmpty) (place ++ js ".values must be a non-empty array")
  validateValues platform place 0 values

/-- The loop over the compared fields with its two counters. -/
def validateComparedFields (platform : Platform) :
    Nat → Nat → Nat → List Json → Except Fault (Nat × Nat)
  | _, mismatchCount, invalidFieldCount, [] => .ok (mismatchCount, invalidFieldCount)
  | index, mismatchCount, invalidFieldCount, entry :: rest => do
      validateComparedField platform index entry
      validateComparedFields platform (index + 1)
        (mismatchCount + if isText (js "mismatch") (statusOf entry) then 1 else 0)
        (invalidFieldCount + if isText (js "invalid") (statusOf entry) then 1 else 0) rest

def validateSummary (summary : Option Json) (gateways mismatchCount invalidFieldCount : Nat) :
    Except Fault Unit := do
  let counted (name : String) : Option Int := integerOf (Fields.get (fieldsOf summary) (js name))
  require (isObject summary) (js "summary must be an object")
  require ((counted "mismatchCount").any (0 ≤ ·))
    (js "summary.mismatchCount must be a non-negative integer")
  require ((counted "invalidFieldCount").any (0 ≤ ·))
    (js "summary.invalidFieldCount must be a non-negative integer")
  require ((counted "gatewayCount").any (2 ≤ ·))
    (js "summary.gatewayCount must be an integer greater than or equal to 2")
  require (counted "gatewayCount" == some (gateways : Int))
    (js "summary.gatewayCount must match gateways length")
  require (counted "mismatchCount" == some (mismatchCount : Int))
    (js "summary.mismatchCount must match comparedFields status counts")
  require (counted "invalidFieldCount" == some (invalidFieldCount : Int))
    (js "summary.invalidFieldCount must match comparedFields status counts")

/-- The fields the digest is taken of; what is missing is not a property of it. -/
def attestedSegment (artifact : Fields) : Fields :=
  ["artifactType", "scriptVersionTag", "generatedAt", "gateways", "comparedFields",
    "summary"].filterMap fun name => (Fields.get artifact (js name)).map fun value => (js name, value)

def expectedAttestationDigest (platform : Platform) (artifact : Fields) : JsString :=
  js "sha256:" ++ platform.sha256Hex (canonicalJson (.obj (attestedSegment artifact)))

/-- The checks in front of the digest. -/
def validateSegment (platform : Platform) (artifact : Fields) : Except Fault Unit := do
  require (isText (js "gateway-integrity-attestation") (Fields.get artifact (js "artifactType")))
    (js "artifactType must be gateway-integrity-attestation")
  require (isText (js "integrity-attestation-v1") (Fields.get artifact (js "scriptVersionTag")))
    (js "scriptVersionTag must be integrity-attestation-v1")
  require (isIsoDateTime platform (Fields.get artifact (js "generatedAt")))
    (js "generatedAt must be an ISO-8601 timestamp")
  let gateways := elementsOf (Fields.get artifact (js "gateways"))
  require (2 ≤ gateways.length) (js "gateways must be an array with at least two entries")
  validateGateways platform 0 gateways
  let compared := elementsOf (Fields.get artifact (js "comparedFields"))
  require (!compared.isEmpty) (js "comparedFields must be a non-empty array")
  let counts ← validateComparedFields platform 0 0 0 compared
  validateSummary (Fields.get artifact (js "summary")) gateways.length counts.1 counts.2

/-- `artifact.hmacSha256 || ''` in front of the pattern, which converts it. -/
def hmacText (value : Option Json) : Except Fault JsString :=
  match value with
  | none => .ok []
  | some value =>
      if value.truthy then
        match value.toText with
        | none => .error .raised
        | some text => .ok text
      else .ok []

/-- The checks of the signature fields, where the artifact has one. -/
def validateHmac (artifact : Fields) : Except Fault Unit :=
  if (Fields.get artifact (js "hmacEnv")).isSome ∨ (Fields.get artifact (js "hmacSha256")).isSome
  then do
    require (isNonEmptyString (Fields.get artifact (js "hmacEnv")))
      (js "hmacEnv must be a non-empty string when hmacSha256 is present")
    let text ← hmacText (Fields.get artifact (js "hmacSha256"))
    require (isDigest text) (js "hmacSha256 must be a sha256 hex digest when present")
  else .ok ()

def validateDigest (platform : Platform) (artifact : Fields) : Except Fault Unit := do
  require (isNonEmptyString (Fields.get artifact (js "digest")) &&
      match Fields.get artifact (js "digest") with
      | some (.str text) => isDigest text
      | _ => false)
    (js "digest must be a sha256 hex digest")
  require (isText (expectedAttestationDigest platform artifact) (Fields.get artifact (js "digest")))
    (js "digest mismatch")

def validateArtifact (platform : Platform) : Json → Except Fault Unit
  | .obj artifact => do
      validateSegment platform artifact
      validateDigest platform artifact
      validateHmac artifact
  | _ => .error (.invalid (js "attestation must be a JSON object"))

/-- `main` of the validator on a file. -/
def validateAttestation (platform : Platform) (text : JsString) : Except Fault Unit :=
  match parse platform.readNumeral text with
  | none => .error (.invalid (js "malformed JSON (" ++ platform.syntaxMessage text ++ js ")"))
  | some artifact => validateArtifact platform artifact

end DarkmeshGateway.Operations.Attestation
