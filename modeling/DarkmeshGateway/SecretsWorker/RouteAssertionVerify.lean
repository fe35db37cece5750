import DarkmeshGateway.Foundation.Js.Base64
import DarkmeshGateway.Foundation.Outcome
import DarkmeshGateway.SecretsWorker.DetachedMessage
import DarkmeshGateway.SecretsWorker.Fields

/-!
Contract: `POST /route/assert/verify`.

Owns the host names of assertions, the parsed assertion and its canonical text,
its validity window, the verification key, the route, and which assertions it
can accept.

Does not own the replay store: a call carries the outcome of its claim.
-/

namespace DarkmeshGateway.SecretsWorker.RouteAssertionVerify

open Foundation.Js
open Foundation.Outcome
open SecretsWorker.DetachedMessage
open SecretsWorker.Fields (HttpException internalError)

/-- What the platform computes: the host name of `new URL(text)` (`none` is a
`TypeError`), the Ed25519 public key of a private key, Ed25519 verification of a
text by its UTF-8 bytes, and the hexadecimal SHA-256 of a text. -/
structure Platform where
  urlHostname : JsString → Option JsString
  ed25519PublicKey : List Nat → List Nat
  ed25519Verify : List Nat → JsString → List Nat → Bool
  sha256 : JsString → JsString

/-- The bindings of the worker with those of the assertion routes. -/
structure Env extends SecretsWorker.Fields.Env where
  routeAssertVerifyPubHex : Option JsString := none
  routeAssertSigningKeyHex : Option JsString := none
  routeAssertSignatureRef : Option JsString := none
  routeAssertVerifySkewSec : Option JsString := none

def routeAssertVersion : JsString := js "dm-route-assert/1"

def defaultVerifySkewSec : Int := 30

/-! ### Environment -/

def cleanEnv (value : Option JsString) : JsString := trim (value.getD [])

/-- `first || second` of two variables. -/
def orVariable (first second : Option JsString) : Option JsString :=
  (first.filter (· ≠ [])).or second

/-- The bytes of a hexadecimal text of the expected length. -/
def readHex (bytesHex : JsString) (expectedBytes : Nat) (errorCode : String) :
    Except String (List Nat) :=
  if bytesHex.length = expectedBytes * 2 ∧ bytesHex.all (fun unit => (digitIn 16 unit).isSome) then
    .ok (hexBuffer bytesHex)
  else .error errorCode

def resolveVerifyPublicKey (platform : Platform) (env : Env) : Except String (List Nat) := do
  let pubHex := cleanEnv env.routeAssertVerifyPubHex
  if pubHex ≠ [] then readHex pubHex 32 "invalid_verify_pubkey"
  else
    let privateKeyHex := cleanEnv (orVariable env.routeAssertSigningKeyHex env.workerEd25519PrivHex)
    if privateKeyHex = [] then throw "missing_verify_key"
    let privateKey ← readHex privateKeyHex 32 "invalid_verify_privkey"
    return platform.ed25519PublicKey privateKey

/-- `ROUTE_ASSERT_VERIFY_SKEW_SEC`, a non-negative number of seconds. -/
def allowedSkew (env : Env) : Int :=
  let configured := cleanEnv env.routeAssertVerifySkewSec
  match (parseInt10 (if configured = [] then js "30" else configured)).filter isFiniteInt with
  | none => defaultVerifySkewSec
  | some skew => if 0 ≤ skew then skew else defaultVerifySkewSec

/-! ### Host names -/

/-- `/^[a-z0-9-]+$/` without a hyphen at either end, of at most 63 units. -/
def isHostLabel (label : JsString) : Bool :=
  label ≠ [] && label.length ≤ 63 &&
    label.all (fun unit => (97 ≤ unit.toNat && unit.toNat ≤ 122) || isDigit unit || unit == 45) &&
    label.head? != some 45 && label.getLast? != some 45

def normalizeDomainLike (platform : Platform) (value : JsString) (fieldName : String) :
    Except String JsString := do
  let invalid := "invalid_" ++ fieldName
  let lowered := toLowerCase (trim value)
  if lowered = [] || includes lowered (js "://") then throw invalid
  let normalized := lowered.rdropWhile (· == 46)
  if normalized = [] || 253 < normalized.length || normalized.contains 47 then throw invalid
  let parsed ← (platform.urlHostname (js "http://" ++ normalized)).elim (throw invalid) pure
  let parsedHost := toLowerCase parsed
  if !parsedHost.contains 46 then throw invalid
  if !(parsedHost.splitOn 46).all isHostLabel then throw invalid
  return parsedHost

/-! ### Assertions -/

structure AssertionRecord where
  v : JsString
  iat : Number
  exp : Number
  challengeNonce : JsString
  challengeExp : Number
  domain : JsString
  cfgTx : JsString
  hbHost : JsString
  siteProcess : Option JsString
  writeProcess : Option JsString
  entryPath : Option JsString

/-- The properties of an assertion; an unset optional one is missing. -/
def AssertionRecord.fields (assertion : AssertionRecord) : Fields :=
  [(js "v", .str assertion.v), (js "iat", .num assertion.iat), (js "exp", .num assertion.exp),
    (js "challengeNonce", .str assertion.challengeNonce),
    (js "challengeExp", .num assertion.challengeExp), (js "domain", .str assertion.domain),
    (js "cfgTx", .str assertion.cfgTx), (js "hbHost", .str assertion.hbHost)] ++
    (assertion.siteProcess.map fun text => (js "siteProcess", .str text)).toList ++
    (assertion.writeProcess.map fun text => (js "writeProcess", .str text)).toList ++
    (assertion.entryPath.map fun text => (js "entryPath", .str text)).toList

/-- The text an assertion is signed over. -/
def AssertionRecord.text (assertion : AssertionRecord) : JsString :=
  stableStringify (.obj assertion.fields)

def requireString (assertion : Fields) (key : String) : Except String JsString :=
  match assertion.get (js key) with
  | some (.str value) => if trim value = [] then .error "bad_shape" else .ok (trim value)
  | _ => .error "bad_shape"

def requireNumber (assertion : Fields) (key : String) : Except String Number :=
  match assertion.get (js key) with
  | some (.num value) => if value.isFinite then .ok value.trunc else .error "bad_shape"
  | _ => .error "bad_shape"

/-- An optional string that is not empty. -/
def optionalString (assertion : Fields) (key : String) : Option JsString :=
  match assertion.get (js key) with
  | some (.str value) => if value = [] then none else some value
  | _ => none

def parseVerifyInput (platform : Platform) (raw : Fields) : Except String AssertionRecord := do
  let assertion ← (asRecord (raw.get (js "assertion"))).elim (throw "bad_shape") pure
  let v ← requireString assertion "v"
  let iat ← requireNumber assertion "iat"
  let exp ← requireNumber assertion "exp"
  let challengeNonce ← requireString assertion "challengeNonce"
  let challengeExp ← requireNumber assertion "challengeExp"
  let domainRaw ← requireString assertion "domain"
  let domain ← normalizeDomainLike platform domainRaw "domain"
  let cfgTx ← requireString assertion "cfgTx"
  let hbHostRaw ← requireString assertion "hbHost"
  let hbHost ← normalizeDomainLike platform hbHostRaw "hbHost"
  return { v, iat, exp, challengeNonce, challengeExp, domain, cfgTx, hbHost
           siteProcess := optionalString assertion "siteProcess"
           writeProcess := optionalString assertion "writeProcess"
           entryPath := optionalString assertion "entryPath" }

/-- What is wrong with the window of an assertion at `now` in seconds. -/
def verifyWindow (assertion : AssertionRecord) (env : Env) (now : Int) : Option String :=
  let iat := assertion.iat.toDouble
  let exp := assertion.exp.toDouble
  if assertion.v ≠ routeAssertVersion then some "bad_shape"
  else if !iat.lt exp then some "bad_shape"
  else if assertion.challengeExp.toDouble.lt exp then some "bad_shape"
  else if !(Double.finite now).lt exp then some "expired_assertion"
  else if ((Double.finite now).add (.finite (allowedSkew env))).lt iat then
    some "assertion_not_yet_valid"
  else none

/-! ### The route -/

/-- How a verification ends without success: an error response, or an
exception out of the handler. -/
inductive VerifyFailure where
  | failed (status : Nat) (error : String)
  | thrown (exception : HttpException)
deriving DecidableEq

def fail {α : Type} (status : Nat) (error : String) : Except VerifyFailure α :=
  .error (.failed status error)

/-- The properties of a parsed body; reading one of `null` is a `TypeError`. -/
def verifyBody : Option Json → Except VerifyFailure Fields
  | none => fail 400 "bad_shape"
  | some .null => .error (.thrown internalError)
  | some (.obj fields) => .ok fields
  | some _ => .ok []

/-- A trimmed string property, empty when it is no string. -/
def stringField (body : Fields) (key : String) : JsString :=
  match body.get (js key) with
  | some (.str value) => trim value
  | _ => []

def checkWindow (assertion : AssertionRecord) (env : Env) (now : Int) : Except VerifyFailure Unit :=
  match verifyWindow assertion env now with
  | some error => fail 409 error
  | none => .ok ()

/-- An expectation of the request, checked when it is not blank. -/
def checkExpected (platform : Platform) (body : Fields) (key : String) (actual : JsString)
    (mismatch : String) : Except VerifyFailure Unit :=
  if stringField body key = [] then .ok ()
  else
    match normalizeDomainLike platform (stringField body key) key with
    | .error _ => fail 400 "bad_shape"
    | .ok expected => if actual = expected then .ok () else fail 409 mismatch

def checkSignature (platform : Platform) (env : Env) (signature canonicalPayload : JsString) :
    Except VerifyFailure Unit := do
  let verifyKey ← (resolveVerifyPublicKey platform env).mapError (.failed 500)
  let signatureBytes ← (readHex signature 64 "invalid_sig").mapError (.failed 401)
  if !platform.ed25519Verify signatureBytes canonicalPayload verifyKey then fail 401 "invalid_sig"

/-- The claim of an assertion in the replay store: whether it was replayed. -/
abbrev ReplayClaim := AssertionRecord → Except String Bool

/-- The hash of the verified assertion. -/
def handleRouteAssertVerify (platform : Platform) (env : Env) (body : Option Json)
    (replay : ReplayClaim) (now : Int) : Except VerifyFailure JsString := do
  let fields ← verifyBody body
  let signature := stringField fields "signature"
  let sigAlg := toLowerCase (stringField fields "sigAlg")
  let signatureRef := stringField fields "signatureRef"
  if signature = [] ∨ sigAlg = [] ∨ signatureRef = [] then fail 400 "bad_shape"
  if sigAlg ≠ js "ed25519" then fail 400 "unsupported_sigalg"
  let expectedSigRef := cleanEnv (orVariable env.routeAssertSignatureRef env.workerSignatureRef)
  if expectedSigRef ≠ [] ∧ signatureRef ≠ expectedSigRef then fail 409 "signature_ref_mismatch"
  let assertion ← (parseVerifyInput platform fields).mapError (.failed 400)
  checkWindow assertion env now
  checkExpected platform fields "expectedDomain" assertion.domain "domain_mismatch"
  checkExpected platform fields "expectedHbHost" assertion.hbHost "hbhost_mismatch"
  checkSignature platform env signature assertion.text
  let replayed ← (replay assertion).mapError (.failed 500)
  if replayed then fail 409 "replay_detected"
  return platform.sha256 assertion.text

theorem checkWindow_eq_ok {assertion : AssertionRecord} {env : Env} {now : Int} :
    checkWindow assertion env now = .ok () ↔ verifyWindow assertion env now = none := by
  unfold checkWindow
  cases verifyWindow assertion env now with
  | none => simp
  | some error => simp [fail]

theorem checkSignature_eq_ok {platform : Platform} {env : Env}
    {signature payload : JsString} :
    checkSignature platform env signature payload = .ok () ↔
      ∃ key, resolveVerifyPublicKey platform env = .ok key ∧
        ∃ bytes, readHex signature 64 "invalid_sig" = .ok bytes ∧
          platform.ed25519Verify bytes payload key = true := by
  simp only [checkSignature, bind_eq_ok, mapError_eq_ok]
  constructor
  · rintro ⟨key, resolved, bytes, read, verified⟩
    refine ⟨key, resolved, bytes, read, ?_⟩
    split at verified
    next => exact absurd verified (by simp [fail])
    next valid => simpa using valid
  · rintro ⟨key, resolved, bytes, read, verified⟩
    exact ⟨key, resolved, bytes, read, by simp [verified, pure, Except.pure]⟩

/-! ### Assertions the route can accept -/

/-- A trimmed text that is not empty. -/
def Trimmed (text : JsString) : Prop := trim text = text ∧ text ≠ []

/-- A finite number without a fraction. -/
def Whole (value : Number) : Prop := value.isFinite = true ∧ value.trunc = value

/-- A host name as the parser leaves it. -/
def NormalHost (platform : Platform) (host : JsString) : Prop :=
  ∃ raw fieldName, normalizeDomainLike platform raw fieldName = .ok host

/-- An assertion as the parser makes them, inside its window at `now`. -/
structure AssertionRecord.Live (platform : Platform) (env : Env) (now : Int)
    (assertion : AssertionRecord) : Prop where
  iat : Whole assertion.iat
  exp : Whole assertion.exp
  challengeExp : Whole assertion.challengeExp
  v : Trimmed assertion.v
  challengeNonce : Trimmed assertion.challengeNonce
  cfgTx : Trimmed assertion.cfgTx
  domain : NormalHost platform assertion.domain
  hbHost : NormalHost platform assertion.hbHost
  optional : ∀ text ∈ [assertion.siteProcess, assertion.writeProcess, assertion.entryPath],
    text ≠ some []
  window : verifyWindow assertion env now = none

private theorem requireString_eq_ok {assertion : Fields} {key : String} {text : JsString} :
    requireString assertion key = .ok text ↔
      ∃ raw, assertion.get (js key) = some (.str raw) ∧ trim raw = text ∧ text ≠ [] := by
  unfold requireString
  cases found : assertion.get (js key) with
  | none => simp
  | some value =>
      cases value with
      | str raw =>
          dsimp only
          split
          next blank =>
            simp only [reduceCtorEq, Option.some.injEq, Json.str.injEq, false_iff]
            rintro ⟨other, rfl, rfl, named⟩
            exact named blank
          next named =>
            constructor
            · intro same
              obtain rfl := Except.ok.inj same
              exact ⟨raw, rfl, rfl, named⟩
            · rintro ⟨other, ⟨⟩, rfl, -⟩
              rfl
      | _ => simp

private theorem requireNumber_eq_ok {assertion : Fields} {key : String} {number : Number} :
    requireNumber assertion key = .ok number ↔
      ∃ raw, assertion.get (js key) = some (.num raw) ∧ raw.isFinite = true ∧
        raw.trunc = number := by
  unfold requireNumber
  cases found : assertion.get (js key) with
  | none => simp
  | some value =>
      cases value with
      | num raw =>
          dsimp only
          split
          next finite => simp [finite]
          next infinite => simp [infinite]
      | _ => simp

private theorem trimmed_of_required {assertion : Fields} {key : String} {text : JsString}
    (required : requireString assertion key = .ok text) : Trimmed text := by
  obtain ⟨raw, -, rfl, named⟩ := requireString_eq_ok.mp required
  exact ⟨trim_trim raw, named⟩

private theorem whole_of_required {assertion : Fields} {key : String} {number : Number}
    (required : requireNumber assertion key = .ok number) : Whole number := by
  obtain ⟨raw, -, finite, rfl⟩ := requireNumber_eq_ok.mp required
  refine ⟨?_, Number.trunc_trunc raw⟩
  cases raw with
  | finite decimal => exact Number.isFinite_trunc decimal
  | _ => simp [Number.isFinite] at finite

private theorem optionalString_ne_empty (assertion : Fields) (key : String) :
    optionalString assertion key ≠ some [] := by
  unfold optionalString
  split
  next text _ =>
    split
    next => simp
    next named => simpa using named
  next => simp

/-- A parsed assertion inside its window is live. -/
theorem parseVerifyInput_live {platform : Platform} {env : Env} {now : Int} {raw : Fields}
    {assertion : AssertionRecord} (parsed : parseVerifyInput platform raw = .ok assertion)
    (window : verifyWindow assertion env now = none) : assertion.Live platform env now := by
  simp only [parseVerifyInput, bind_eq_ok, pure_eq_ok] at parsed
  obtain ⟨fields, -, v, vOk, iat, iatOk, exp, expOk, challengeNonce, nonceOk, challengeExp,
    challengeOk, _, -, domain, domainOk, cfgTx, cfgTxOk, _, -, hbHost, hbHostOk, rfl⟩ := parsed
  refine
    { iat := whole_of_required iatOk
      exp := whole_of_required expOk
      challengeExp := whole_of_required challengeOk
      v := trimmed_of_required vOk
      challengeNonce := trimmed_of_required nonceOk
      cfgTx := trimmed_of_required cfgTxOk
      domain := ⟨_, _, domainOk⟩
      hbHost := ⟨_, _, hbHostOk⟩
      optional := ?_
      window }
  intro text member
  simp only [List.mem_cons, List.not_mem_nil, or_false] at member
  rcases member with rfl | rfl | rfl
  all_goals exact optionalString_ne_empty _ _

/-- Normalisation trims first, and only the error names the field. -/
private theorem normalizeDomainLike_source {platform : Platform} {raw host : JsString}
    {fieldName : String} (normal : normalizeDomainLike platform raw fieldName = .ok host)
    (other : String) :
    trim raw ≠ [] ∧ normalizeDomainLike platform (trim raw) other = .ok host := by
  simp only [normalizeDomainLike, bind_eq_ok, guard_eq_ok, pure_eq_ok] at normal ⊢
  obtain ⟨named, bounded, parsed, found, dotted, labels, same⟩ := normal
  constructor
  · intro blank
    exact named (by simp [blank, toLowerCase])
  · refine ⟨by simpa using named, by simpa using bounded, parsed, ?_, dotted, labels, same⟩
    rw [trim_trim]
    cases hostname : platform.urlHostname
        (js "http://" ++ (toLowerCase (trim raw)).rdropWhile (· == 46)) with
    | none => simp [hostname, throw_ne_ok] at found
    | some answer => simpa [hostname] using found

/-- An assertion whose texts are trimmed and named, whose numbers are whole and
whose optional texts are not empty: the parser changes its hosts alone. -/
structure AssertionRecord.Shaped (assertion : AssertionRecord) : Prop where
  iat : Whole assertion.iat
  exp : Whole assertion.exp
  challengeExp : Whole assertion.challengeExp
  v : Trimmed assertion.v
  challengeNonce : Trimmed assertion.challengeNonce
  cfgTx : Trimmed assertion.cfgTx
  domain : Trimmed assertion.domain
  hbHost : Trimmed assertion.hbHost
  optional : ∀ text ∈ [assertion.siteProcess, assertion.writeProcess, assertion.entryPath],
    text ≠ some []

private theorem fields_optional (assertion : AssertionRecord) :
    assertion.fields.get (js "siteProcess") = assertion.siteProcess.map .str ∧
      assertion.fields.get (js "writeProcess") = assertion.writeProcess.map .str ∧
      assertion.fields.get (js "entryPath") = assertion.entryPath.map .str := by
  obtain ⟨_, _, _, _, _, _, _, _, siteProcess, writeProcess, entryPath⟩ := assertion
  cases siteProcess <;> cases writeProcess <;> cases entryPath <;> exact ⟨rfl, rfl, rfl⟩

private theorem requireString_trimmed {source : Fields} {key : String} {text : JsString}
    (trimmed : Trimmed text) (found : source.get (js key) = some (.str text)) :
    requireString source key = .ok text :=
  requireString_eq_ok.mpr ⟨text, found, trimmed⟩

private theorem requireNumber_whole {source : Fields} {key : String} {number : Number}
    (whole : Whole number) (found : source.get (js key) = some (.num number)) :
    requireNumber source key = .ok number :=
  requireNumber_eq_ok.mpr ⟨number, found, whole⟩

private theorem optionalString_named {source : Fields} {key : String} {text : Option JsString}
    (nonempty : text ≠ some []) (found : source.get (js key) = text.map .str) :
    optionalString source key = text := by
  unfold optionalString
  cases text with
  | none => simp [found]
  | some content =>
      have named : content ≠ [] := fun blank => nonempty (by rw [blank])
      simp [found, named]

/-- The parser of a shaped assertion normalises its hosts. -/
theorem parseVerifyInput_fields (platform : Platform) {raw : Fields} {source : AssertionRecord}
    (shaped : source.Shaped) (held : raw.get (js "assertion") = some (.obj source.fields)) :
    parseVerifyInput platform raw = do
      let domain ← normalizeDomainLike platform source.domain "domain"
      let hbHost ← normalizeDomainLike platform source.hbHost "hbHost"
      return { source with domain, hbHost } := by
  have v : requireString source.fields "v" = _ := requireString_trimmed shaped.v rfl
  have iat : requireNumber source.fields "iat" = _ := requireNumber_whole shaped.iat rfl
  have exp : requireNumber source.fields "exp" = _ := requireNumber_whole shaped.exp rfl
  have nonce : requireString source.fields "challengeNonce" = _ :=
    requireString_trimmed shaped.challengeNonce rfl
  have challenge : requireNumber source.fields "challengeExp" = _ :=
    requireNumber_whole shaped.challengeExp rfl
  have domain : requireString source.fields "domain" = _ := requireString_trimmed shaped.domain rfl
  have cfgTx : requireString source.fields "cfgTx" = _ := requireString_trimmed shaped.cfgTx rfl
  have hbHost : requireString source.fields "hbHost" = _ := requireString_trimmed shaped.hbHost rfl
  obtain ⟨siteFound, writeFound, entryFound⟩ := fields_optional source
  have site := optionalString_named (shaped.optional _ (by simp)) siteFound
  have write := optionalString_named (shaped.optional _ (by simp)) writeFound
  have entry := optionalString_named (shaped.optional _ (by simp)) entryFound
  unfold parseVerifyInput
  rw [held]
  simp only [asRecord, Option.elim_some, pure_bind, v, iat, exp, nonce, challenge, domain, cfgTx,
    hbHost, site, write, entry]
  rfl

/-- Every live assertion is what the parser makes of some assertion. -/
theorem exists_parseVerifyInput {platform : Platform} {env : Env} {now : Int}
    {assertion : AssertionRecord} (live : assertion.Live platform env now) :
    ∃ source : Fields, ∀ raw : Fields, raw.get (js "assertion") = some (.obj source) →
      parseVerifyInput platform raw = .ok assertion := by
  obtain ⟨domainRaw, domainField, domainOk⟩ := live.domain
  obtain ⟨hbHostRaw, hbHostField, hbHostOk⟩ := live.hbHost
  obtain ⟨domainNamed, domainNormal⟩ := normalizeDomainLike_source domainOk "domain"
  obtain ⟨hbHostNamed, hbHostNormal⟩ := normalizeDomainLike_source hbHostOk "hbHost"
  let source := { assertion with domain := trim domainRaw, hbHost := trim hbHostRaw }
  have shaped : source.Shaped :=
    { live with
      domain := ⟨trim_trim domainRaw, domainNamed⟩
      hbHost := ⟨trim_trim hbHostRaw, hbHostNamed⟩ }
  refine ⟨source.fields, fun raw held => ?_⟩
  rw [parseVerifyInput_fields platform shaped held, domainNormal, hbHostNormal]
  rfl

end DarkmeshGateway.SecretsWorker.RouteAssertionVerify
