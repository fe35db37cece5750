import DarkmeshGateway.Foundation.Js.Base64
import DarkmeshGateway.SecretsWorker.InboxRetention
import DarkmeshGateway.SecretsWorker.RouteAssertionVerify

/-!
Contract: `POST /route/assert`.

Owns the token of the route, its own host names and field parsers, the allowed
hosts, the lifetime of an assertion, the optional fields from the environment,
the signing key and the signed response.

Does not own the verification of an assertion.
-/

namespace DarkmeshGateway.SecretsWorker.RouteAssertion

open Foundation.Js
open Foundation.Outcome
open SecretsWorker.Fields (HttpException internalError)
open SecretsWorker.InboxRetention (UnixTime bodyFields)
open SecretsWorker.RouteAssertionVerify (Platform AssertionRecord cleanEnv orVariable isHostLabel
  routeAssertVersion)

/-- What the platform computes besides: the bytes of an Ed25519 signature of a
text under a private key. -/
structure IssuePlatform extends Platform where
  ed25519Sign : List Nat → JsString → List Nat

/-- The bindings of the worker with those of the issuing route. -/
structure IssueEnv extends verifyEnv : RouteAssertionVerify.Env where
  routeAssertToken : Option JsString := none
  hbAllowedHosts : Option JsString := none
  aoHbUrl : Option JsString := none
  routeAssertTtlSec : Option JsString := none
  routeAssertSiteProcess : Option JsString := none
  aoSiteProcessId : Option JsString := none
  routeAssertWriteProcess : Option JsString := none
  writeProcessId : Option JsString := none
  routeAssertEntryPath : Option JsString := none

/-- One call: its `authorization` header, empty when it is absent, the parsed
body (`none` is invalid JSON) and the clock. -/
structure AssertCall where
  authorization : JsString
  body : Option Json
  now : UnixTime

def invalid (fieldName : String) : HttpException := ⟨400, "invalid_" ++ fieldName⟩

def missing (fieldName : String) : HttpException := ⟨400, "missing_" ++ fieldName⟩

/-! ### Environment -/

def parseAllowlistCsv (value : Option JsString) : List JsString :=
  ((((value.getD []).splitOn 44).map fun item => toLowerCase (trim item)).filter (· ≠ [])).eraseDups

def resolveAllowedHbHosts (platform : Platform) (env : IssueEnv) : List JsString :=
  let fromExplicit := parseAllowlistCsv env.hbAllowedHosts
  if fromExplicit ≠ [] then fromExplicit
  else
    let hbUrl := cleanEnv env.aoHbUrl
    let host := if hbUrl = [] then [] else toLowerCase ((platform.urlHostname hbUrl).getD [])
    if host ≠ [] then [host] else [js "hyperbeam.darkmesh.fun"]

/-- `ROUTE_ASSERT_TTL_SEC`, from ten seconds to five minutes. -/
def routeAssertTtl (env : IssueEnv) : Int :=
  let configured := cleanEnv env.routeAssertTtlSec
  match (parseInt10 (if configured = [] then js "120" else configured)).filter isFiniteInt with
  | none => 120
  | some seconds => if seconds ≤ 0 then 120 else min 300 (max 10 seconds)

def optionalValue (value : Option JsString) : Option JsString :=
  if cleanEnv value = [] then none else some (cleanEnv value)

/-- The text behind `Bearer` and white space. -/
def readBearerToken (authorization : JsString) : JsString :=
  match authorization.drop 6 with
  | space :: _ =>
      if toLowerCase (authorization.take 6) = js "bearer" ∧ isWhitespace space then
        trim (authorization.drop 6)
      else []
  | [] => []

def requireRouteAssertToken (env : IssueEnv) (call : AssertCall) : Except HttpException Unit :=
  let expected := cleanEnv env.routeAssertToken
  let actual := readBearerToken call.authorization
  if expected = [] then .error (⟨500, "missing_route_assert_token"⟩)
  else if actual = [] ∨ actual ≠ expected then .error ⟨401, "unauthorized"⟩
  else .ok ()

/-! ### Fields -/

def normalizeDomainLike (platform : Platform) (value : JsString) (fieldName : String) :
    Except HttpException JsString := do
  let lowered := toLowerCase (trim value)
  if lowered = [] then throw (missing fieldName)
  if includes lowered (js "://") then throw (invalid fieldName)
  let normalized := lowered.rdropWhile (· == 46)
  if normalized = [] then throw (invalid fieldName)
  if 253 < normalized.length || normalized.contains 47 then throw (invalid fieldName)
  let parsed ← (platform.urlHostname (js "http://" ++ normalized)).elim
    (throw (invalid fieldName)) pure
  let parsedHost := toLowerCase parsed
  if !parsedHost.contains 46 then throw (invalid fieldName)
  if !(parsedHost.splitOn 46).all isHostLabel then throw (invalid fieldName)
  return parsedHost

def readRequiredString (value : Option Json) (fieldName : String) : Except HttpException JsString :=
  match value with
  | some (.str text) => if trim text = [] then .error (missing fieldName) else .ok (trim text)
  | _ => .error (missing fieldName)

/-- The number a challenge expiry stands for; a text is parsed as an integer. -/
def challengeNumber : Option Json → Except HttpException Number
  | some (.num value) => .ok value
  | some (.str text) => .ok (Double.ofParsed (parseInt10 (trim text))).toNumber
  | _ => .error (missing "challengeExp")

def parseChallengeExp (value : Option Json) : Except HttpException Number := do
  let numeric ← challengeNumber value
  if !numeric.isFinite || !(Double.finite 0).lt numeric.toDouble then throw (invalid "challengeExp")
  return numeric.trunc

def isAlphanumeric (unit : CodeUnit) : Bool :=
  (65 ≤ unit.toNat && unit.toNat ≤ 90) || (97 ≤ unit.toNat && unit.toNat ≤ 122) || isDigit unit

/-- `/^[A-Za-z0-9_-]{32,128}$/`. -/
def isCfgTx (text : JsString) : Bool :=
  32 ≤ text.length && text.length ≤ 128 &&
    text.all fun unit => isAlphanumeric unit || unit == 95 || unit == 45

/-- `/^[A-Za-z0-9._:-]{8,256}$/`. -/
def isChallengeNonce (text : JsString) : Bool :=
  8 ≤ text.length && text.length ≤ 256 &&
    text.all fun unit => isAlphanumeric unit || unit == 46 || unit == 95 || unit == 58 || unit == 45

def stableStringify (value : Json) : JsString := DetachedMessage.stableStringify value

/-- The bytes of a private key of 64 hexadecimal digits. -/
def parsePrivateKeyHex (value : JsString) : Except HttpException (List Nat) :=
  if value.length = 64 ∧ value.all (fun unit => (digitIn 16 unit).isSome) then
    .ok (hexBuffer value)
  else .error ⟨500, "invalid_route_assert_signing_key"⟩

/-! ### The route -/

/-- The signed response; its `sigAlg` is always `ed25519`. -/
structure Issued where
  assertion : AssertionRecord
  signature : JsString
  signatureRef : JsString

/-- `Math.min` of a challenge expiry and an integer. -/
def earlier (challengeExp : Number) (limit : Int) : Number :=
  if challengeExp.toDouble.lt (.finite limit) then challengeExp else .ofInt limit

/-- The checked fields of a request. -/
structure AssertInput where
  domain : JsString
  cfgTx : JsString
  hbHost : JsString
  challengeNonce : JsString
  challengeExp : Number

def parseAssertInput (platform : Platform) (env : IssueEnv) (body : Fields) :
    Except HttpException AssertInput := do
  let domainText ← readRequiredString (body.get (js "domain")) "domain"
  let domain ← normalizeDomainLike platform domainText "domain"
  let cfgTx ← readRequiredString (body.get (js "cfgTx")) "cfgTx"
  if !isCfgTx cfgTx then throw (invalid "cfgTx")
  let hbHostText ← readRequiredString (body.get (js "hbHost")) "hbHost"
  let hbHost ← normalizeDomainLike platform hbHostText "hbHost"
  if !(resolveAllowedHbHosts platform env).contains hbHost then
    throw ⟨403, "hb_host_not_allowlisted"⟩
  let challengeNonce ← readRequiredString (body.get (js "challengeNonce")) "challengeNonce"
  if !isChallengeNonce challengeNonce then throw (invalid "challengeNonce")
  let challengeExp ← parseChallengeExp (body.get (js "challengeExp"))
  return { domain, cfgTx, hbHost, challengeNonce, challengeExp }

/-- The assertion about checked fields. -/
def makeAssertion (env : IssueEnv) (input : AssertInput) (now : Int) (exp : Number) :
    AssertionRecord where
  v := routeAssertVersion
  iat := .ofInt now
  exp := exp
  challengeNonce := input.challengeNonce
  challengeExp := input.challengeExp
  domain := input.domain
  cfgTx := input.cfgTx
  hbHost := input.hbHost
  siteProcess := optionalValue (orVariable env.routeAssertSiteProcess env.aoSiteProcessId)
  writeProcess := optionalValue (orVariable env.routeAssertWriteProcess env.writeProcessId)
  entryPath := some ((optionalValue env.routeAssertEntryPath).getD (js "/"))

def signingKeyHex (env : IssueEnv) : JsString :=
  cleanEnv (orVariable env.routeAssertSigningKeyHex env.workerEd25519PrivHex)

def signatureRef (env : IssueEnv) : JsString :=
  let configured := cleanEnv (orVariable env.routeAssertSignatureRef env.workerSignatureRef)
  if configured = [] then js "worker-ed25519" else configured

def handleRouteAssert (platform : IssuePlatform) (env : IssueEnv) (call : AssertCall) :
    Except HttpException Issued := do
  requireRouteAssertToken env call
  let parsed ← call.body.elim (throw ⟨400, "invalid_json"⟩) pure
  let body ← bodyFields parsed
  let input ← parseAssertInput platform.toPlatform env body
  let now := call.now.seconds
  if !(Double.finite now).lt input.challengeExp.toDouble then throw ⟨400, "challenge_expired"⟩
  let exp := earlier input.challengeExp (now + routeAssertTtl env)
  if !(Double.finite now).lt exp.toDouble then throw ⟨400, "invalid_assertion_ttl"⟩
  let assertion := makeAssertion env input now exp
  let privateKeyHex := signingKeyHex env
  if privateKeyHex = [] then throw ⟨500, "missing_route_assert_signing_key"⟩
  let privateKey ← parsePrivateKeyHex privateKeyHex
  let signingPayload := stableStringify (.obj assertion.fields)
  return { assertion
           signature := bytesHex (platform.ed25519Sign privateKey signingPayload)
           signatureRef := signatureRef env }

end DarkmeshGateway.SecretsWorker.RouteAssertion
