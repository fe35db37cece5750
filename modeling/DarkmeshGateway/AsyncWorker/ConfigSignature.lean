import DarkmeshGateway.AsyncWorker.DnsTxt
import DarkmeshGateway.Foundation.Js.Base64
import DarkmeshGateway.Foundation.Js.Double
import DarkmeshGateway.Foundation.Js.Stringify

/-!
Contract: the owner's signature on a site config.

Owns the signed payload and the fields it determines, the decoding of keys and
signatures, the validity window and the verification.

Does not own the two signature schemes, which the platform computes.
-/

namespace DarkmeshGateway.AsyncWorker.ConfigSignature

open Foundation.Js
open Foundation.Outcome
open AsyncWorker.DnsTxt (ValidationError)

/-- What the platform computes for the worker: the two signature checks on a
payload text, signature bytes and key bytes (a key that does not import
verifies nothing), the host name of a URL, and SHA-256 of a text in
hexadecimal. -/
structure Platform where
  verifyEd25519 : JsString → List UInt8 → List UInt8 → Bool
  verifyRsaPssSha256 : JsString → List UInt8 → List UInt8 → Bool
  urlHostname : JsString → Option JsString
  sha256Hex : JsString → JsString

inductive SigAlg where
  | ed25519
  | rsaPssSha256
deriving DecidableEq

def SigAlg.name : SigAlg → JsString
  | .ed25519 => js "ed25519"
  | .rsaPssSha256 => js "rsa-pss-sha256"

/-- A validated config. -/
structure DmConfigV1 where
  domain : JsString
  siteProcess : JsString
  writeProcess : JsString
  entryPath : JsString
  validFrom : Number
  validTo : Number
  sigAlg : SigAlg
  sig : JsString
  nonce : JsString
  owner : JsString
  kid : Option JsString
deriving DecidableEq

/-! ### Decoding -/

/-- `[A-Za-z0-9+/_=-]`. -/
def isBase64Unit (unit : CodeUnit) : Bool :=
  DnsTxt.isIdUnit unit || unit == 43 || unit == 47 || unit == 61

def base64UrlToBytes (input : JsString) : Option (List UInt8) :=
  if input = [] ∨ !input.all isBase64Unit then none
  else
    let normalized := input.map fun unit => if unit = 45 then 43 else if unit = 95 then 47 else unit
    let remainder := if normalized.length % 4 = 0 then 4 else normalized.length % 4
    let paddingLength := (4 - remainder) % 4
    atob (normalized ++ List.replicate paddingLength 61)

/-! ### The signed payload -/

def buildDm1SignaturePayload (config : DmConfigV1) : Except ValidationError JsString :=
  if config.domain = [] ∨ config.owner = [] ∨ config.nonce = [] then
    .error ⟨"sig_invalid_payload",
      js "domain, owner and nonce are required in signature payload.", none⟩
  else
    .ok (js "\x7b\"domain\":" ++ quote config.domain ++ js ",\"nonce\":" ++ quote config.nonce ++
      js ",\"owner\":" ++ quote config.owner ++ js ",\"sigAlg\":" ++ quote config.sigAlg.name ++
      js ",\"v\":\"dm1\",\"validFrom\":" ++ config.validFrom.toString ++ js ",\"validTo\":" ++
      config.validTo.toString ++ js "\x7d")

/-- The object whose text the payload is. -/
def signedFields (config : DmConfigV1) : Fields :=
  [(js "domain", .str config.domain), (js "nonce", .str config.nonce),
    (js "owner", .str config.owner), (js "sigAlg", .str config.sigAlg.name),
    (js "v", .str (js "dm1")), (js "validFrom", .num config.validFrom),
    (js "validTo", .num config.validTo)]

theorem buildDm1SignaturePayload_eq {config : DmConfigV1} {payload : JsString}
    (fromFinite : config.validFrom.isFinite = true) (toFinite : config.validTo.isFinite = true)
    (built : buildDm1SignaturePayload config = .ok payload) :
    payload = (Json.obj (signedFields config)).stringify := by
  unfold buildDm1SignaturePayload at built
  split at built
  next => exact absurd built (by simp)
  next =>
    obtain rfl := Except.ok.inj built
    simp only [signedFields, Json.stringify, stringifyFields, fromFinite, toFinite, if_true,
      List.append_assoc, List.cons_append]
    rfl

/-- A number above zero without a fractional part. -/
def PositiveInteger (value : Number) : Prop :=
  ∃ decimal, value = .finite decimal ∧ decimal.negative = false ∧ 0 < decimal.coefficient ∧
    0 ≤ decimal.exponent

theorem PositiveInteger.isFinite {value : Number} (positive : PositiveInteger value) :
    value.isFinite = true := by
  obtain ⟨decimal, rfl, -⟩ := positive
  rfl

theorem PositiveInteger.regular {value : Number} (positive : PositiveInteger value) :
    (Json.num value).Regular = true := by
  obtain ⟨decimal, rfl, -, nonzero, -⟩ := positive
  have kept : decimal.dropZeroSign = decimal := by
    rw [Decimal.dropZeroSign, if_neg (by omega)]
  simpa [Json.Regular] using kept

private theorem signedFields_regular {config : DmConfigV1}
    (positiveFrom : PositiveInteger config.validFrom) (positiveTo : PositiveInteger config.validTo) :
    (Json.obj (signedFields config)).Regular = true := by
  have text (content : JsString) : (Json.str content).Regular = true := rfl
  change fieldsRegular (signedFields config) = true
  simp only [signedFields, fieldsRegular, text, positiveFrom.regular, positiveTo.regular,
    Bool.and_self]

/-- Configs with one payload agree on every signed field. -/
theorem signedFields_unique {left right : DmConfigV1} {payload : JsString}
    (leftFrom : PositiveInteger left.validFrom) (leftTo : PositiveInteger left.validTo)
    (rightFrom : PositiveInteger right.validFrom) (rightTo : PositiveInteger right.validTo)
    (leftBuilt : buildDm1SignaturePayload left = .ok payload)
    (rightBuilt : buildDm1SignaturePayload right = .ok payload) :
    signedFields left = signedFields right := by
  have leftText := buildDm1SignaturePayload_eq leftFrom.isFinite leftTo.isFinite leftBuilt
  have rightText := buildDm1SignaturePayload_eq rightFrom.isFinite rightTo.isFinite rightBuilt
  have leftRegular := signedFields_regular leftFrom leftTo
  have rightRegular := signedFields_regular rightFrom rightTo
  have stops : Stops [] := by simp [Stops]
  have texts : (Json.obj (signedFields left)).stringify ++ [] =
      (Json.obj (signedFields right)).stringify ++ [] := by rw [← leftText, ← rightText]
  exact Json.obj.inj (Json.stringify_unique _ _ _ _ leftRegular rightRegular stops stops texts).1

/-! ### Verification -/

/-- The key text given with the call; `none` is a missing or undecodable key. -/
def resolvePublicKey (publicKey : JsString) : Option (List UInt8) :=
  if publicKey = [] then none else base64UrlToBytes publicKey

/-- The signature check of an algorithm. -/
def verifier (platform : Platform) : SigAlg → JsString → List UInt8 → List UInt8 → Bool
  | .ed25519 => platform.verifyEd25519
  | .rsaPssSha256 => platform.verifyRsaPssSha256

def verifyDmConfigSignature (platform : Platform) (config : DmConfigV1) (publicKey : JsString)
    (now : Int) : Except ValidationError JsString := do
  if (Double.finite now).lt config.validFrom.toDouble then
    throw ⟨"sig_window_not_started", js "Config is not yet valid.", some (js "validFrom")⟩
  if config.validTo.toDouble.lt (Double.finite now) then
    throw ⟨"sig_window_expired", js "Config validity window has expired.", some (js "validTo")⟩
  let payload ← buildDm1SignaturePayload config
  let publicKeyBytes ← (resolvePublicKey publicKey).elim
    (throw ⟨"sig_invalid_public_key",
      js "Public key is invalid, empty, or missing in config/options.", some (js "publicKey")⟩) pure
  let signatureBytes ← (base64UrlToBytes config.sig).elim
    (throw ⟨"sig_invalid_signature_encoding",
      js "Signature must be a base64/base64url-encoded string.", some (js "sig")⟩) pure
  if !verifier platform config.sigAlg payload signatureBytes publicKeyBytes then
    throw ⟨"sig_verification_failed", js "Signature verification failed.", some (js "sig")⟩
  return payload

/-- The signature over the payload verifies under a key text. -/
def Verified (platform : Platform) (config : DmConfigV1) (publicKey payload : JsString) : Prop :=
  ∃ keyBytes signatureBytes, resolvePublicKey publicKey = some keyBytes ∧
    base64UrlToBytes config.sig = some signatureBytes ∧
    verifier platform config.sigAlg payload signatureBytes keyBytes = true

/-- The clock is inside the validity window: neither before its start nor after its end. -/
def InWindow (config : DmConfigV1) (now : Int) : Prop :=
  (Double.finite now).lt config.validFrom.toDouble = false ∧
    config.validTo.toDouble.lt (Double.finite now) = false

private theorem elim_eq_ok {α : Type} {value : Option α} {failure : ValidationError} {result : α} :
    value.elim (throw failure : Except ValidationError α) pure = .ok result ↔
      value = some result := by
  cases value with
  | none => simp [throw_ne_ok]
  | some found => simp [pure_eq_ok]

theorem verifyDmConfigSignature_eq_ok {platform : Platform} {config : DmConfigV1}
    {publicKey payload : JsString} {now : Int} :
    verifyDmConfigSignature platform config publicKey now = .ok payload ↔
      InWindow config now ∧ buildDm1SignaturePayload config = .ok payload ∧
        Verified platform config publicKey payload := by
  simp only [verifyDmConfigSignature, bind_eq_ok, guard_eq_ok, pure_eq_ok, elim_eq_ok]
  constructor
  · rintro ⟨started, notExpired, built, buildOk, keyBytes, key, signatureBytes, signature, verified,
      rfl⟩
    exact ⟨⟨by simpa using started, by simpa using notExpired⟩, buildOk, keyBytes, signatureBytes,
      key, signature, by simpa using verified⟩
  · rintro ⟨⟨started, notExpired⟩, buildOk, keyBytes, signatureBytes, key, signature, verified⟩
    exact ⟨by simpa using started, by simpa using notExpired, payload, buildOk, keyBytes, key,
      signatureBytes, signature, by simpa using verified, rfl⟩

end DarkmeshGateway.AsyncWorker.ConfigSignature
