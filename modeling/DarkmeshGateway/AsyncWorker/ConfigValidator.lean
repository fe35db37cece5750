import DarkmeshGateway.AsyncWorker.ConfigSignature

/-!
Contract: the shape of a site config.

Owns domain canonicalisation, the field checks of a config object in their
order, the exact description of what they accept, and the check of the key id
against the TXT record.

Does not own the signature.
-/

namespace DarkmeshGateway.AsyncWorker.ConfigValidator

open Foundation.Js
open Foundation.Outcome
open AsyncWorker.DnsTxt
open AsyncWorker.ConfigSignature

/-! ### Fields -/

def configError {α : Type} (code message field : String) : Except ValidationError α :=
  .error ⟨code, js message, some (js field)⟩

def readRequiredString (object : Fields) (field : String) : Except ValidationError JsString :=
  match object.get (js field) with
  | some (.str value) =>
      if trim value = [] then
        configError "config_missing_field" ("Missing or invalid string field: " ++ field ++ ".") field
      else .ok (trim value)
  | _ =>
      configError "config_missing_field" ("Missing or invalid string field: " ++ field ++ ".") field

def readRequiredInteger (object : Fields) (field : String) : Except ValidationError Number :=
  match object.get (js field) with
  | some (.num (.finite decimal)) =>
      if !decimal.isInteger then
        configError "config_invalid_field" ("Field " ++ field ++ " must be an integer.") field
      else if decimal.negative ∨ decimal.coefficient = 0 then
        configError "config_invalid_field" ("Field " ++ field ++ " must be greater than zero.") field
      else .ok (.finite decimal)
  | _ => configError "config_invalid_field" ("Field " ++ field ++ " must be an integer.") field

/-! ### Domains -/

/-- `[a-z0-9-]`. -/
def isLabelUnit (unit : CodeUnit) : Bool :=
  let code := unit.toNat
  (97 ≤ code && code ≤ 122) || (48 ≤ code && code ≤ 57) || code == 45

def checkLabels : List JsString → Except ValidationError Unit
  | [] => .ok ()
  | label :: labels =>
      if label = [] ∨ label.length > 63 then
        configError "domain_invalid" "Domain label length is invalid." "domain"
      else if !label.all isLabelUnit ∨ label.head? = some 45 ∨ label.getLast? = some 45 then
        configError "domain_invalid" "Domain contains invalid characters." "domain"
      else checkLabels labels

def maxDomainLength : Nat := 253

def canonicalizeDomain (platform : Platform) (input : JsString) :
    Except ValidationError JsString := do
  let trimmed := toLowerCase (trim input)
  if trimmed = [] then configError "domain_invalid" "Domain cannot be empty." "domain"
  if includes trimmed (js "://") || includes trimmed (js "/") || includes trimmed (js "?") ||
      includes trimmed (js "#") then
    configError "domain_invalid" "Domain must be a host only, without scheme or path." "domain"
  let withoutTrailingDot := trimmed.rdropWhile (· == 46)
  if withoutTrailingDot = [] then configError "domain_invalid" "Domain cannot be only dots." "domain"
  let canonicalHost ← ((platform.urlHostname (js "http://" ++ withoutTrailingDot)).map toLowerCase).elim
    (configError "domain_invalid" "Domain is not parseable as a valid hostname." "domain") pure
  if canonicalHost = [] ∨ canonicalHost.length > maxDomainLength ∨ 46 ∉ canonicalHost then
    configError "domain_invalid" "Domain must be a valid FQDN." "domain"
  checkLabels (canonicalHost.splitOn 46)
  return canonicalHost

/-! ### Configs -/

/-- `PROCESS_ID_RE`. -/
def isProcessId (text : JsString) : Bool := idOfLength 20 128 text

/-- `SIG_RE`. -/
def isSigText (text : JsString) : Bool :=
  text.all isBase64Unit && 32 ≤ text.length && text.length ≤ 8192

def readProcess (object : Fields) (field : String) : Except ValidationError JsString := do
  let value ← readRequiredString object field
  if !isProcessId value then
    configError "config_invalid_field" (field ++ " format is invalid.") field
  return value

def readSigAlg (object : Fields) : Except ValidationError SigAlg := do
  let value ← readRequiredString object "sigAlg"
  if value = js "ed25519" then return .ed25519
  if value = js "rsa-pss-sha256" then return .rsaPssSha256
  configError "config_invalid_field" "sigAlg must be ed25519 or rsa-pss-sha256." "sigAlg"

/-- The optional key id: absent, or a string that is not blank. -/
def readKid (object : Fields) : Except ValidationError (Option JsString) :=
  match object.get (js "kid") with
  | none => .ok none
  | some (.str value) =>
      if trim value = [] then
        configError "config_invalid_field" "kid must be a non-empty string when provided." "kid"
      else .ok (some (trim value))
  | some _ =>
      configError "config_invalid_field" "kid must be a non-empty string when provided." "kid"

def readVersion (object : Fields) : Except ValidationError Unit := do
  let version ← readRequiredString object "v"
  if version ≠ js "dm1" then configError "config_invalid_field" "Config v must be dm1." "v"

def readDomain (platform : Platform) (object : Fields) : Except ValidationError JsString := do
  let domainField ← readRequiredString object "domain"
  canonicalizeDomain platform domainField

def readEntryPath (object : Fields) : Except ValidationError JsString := do
  let entryPath ← readRequiredString object "entryPath"
  if !startsWith entryPath (js "/") then
    configError "config_invalid_field" "entryPath must start with \"/\"." "entryPath"
  return entryPath

def readSig (object : Fields) : Except ValidationError JsString := do
  let sig ← readRequiredString object "sig"
  if !isSigText sig then
    configError "config_invalid_field" "sig must be a base64/base64url-like string." "sig"
  return sig

def validateDmConfigObject (platform : Platform) (object : Fields) :
    Except ValidationError DmConfigV1 := do
  readVersion object
  let domain ← readDomain platform object
  let siteProcess ← readProcess object "siteProcess"
  let writeProcess ← readProcess object "writeProcess"
  let entryPath ← readEntryPath object
  let validFrom ← readRequiredInteger object "validFrom"
  let validTo ← readRequiredInteger object "validTo"
  if !validFrom.toDouble.lt validTo.toDouble then
    configError "config_invalid_time_window" "validTo must be greater than validFrom." "validTo"
  let sigAlg ← readSigAlg object
  let sig ← readSig object
  let owner ← readRequiredString object "owner"
  let nonce ← readRequiredString object "nonce"
  let kid ← readKid object
  return { domain, siteProcess, writeProcess, entryPath, validFrom, validTo, sigAlg, sig, owner,
           nonce, kid }

def validateDmConfigJson (platform : Platform) (input : Json) : Except ValidationError DmConfigV1 :=
  match input with
  | .obj object => validateDmConfigObject platform object
  | _ => configError "config_invalid_type" "Config payload must be a JSON object." "config"

def validateConfigKidAgainstTxt (config : DmConfigV1) (txtEnvelope : DmTxtEnvelope) :
    Except ValidationError DmConfigV1 :=
  let candidate := config.kid.getD config.owner
  if candidate ≠ [] ∧ candidate ≠ txtEnvelope.kid then
    configError "config_kid_mismatch" "Config kid/owner does not match TXT kid." "kid"
  else .ok config

def validateAndVerifyDmConfig (platform : Platform) (input : Json) (publicKey : JsString)
    (now : Int) : Except ValidationError DmConfigV1 := do
  let config ← validateDmConfigJson platform input
  let _ ← verifyDmConfigSignature platform config publicKey now
  return config

/-! ### What is accepted -/

/-- The object holds the string under the field, up to trimming. -/
def HoldsString (object : Fields) (field : String) (value : JsString) : Prop :=
  ∃ raw, object.get (js field) = some (.str raw) ∧ trim raw = value ∧ value ≠ []

private theorem configError_ne_ok {α : Type} {code message field : String} {result : α} :
    (configError code message field : Except ValidationError α) ≠ .ok result := by
  simp [configError]

theorem readRequiredString_eq_ok {object : Fields} {field : String} {value : JsString} :
    readRequiredString object field = .ok value ↔ HoldsString object field value := by
  unfold readRequiredString HoldsString
  split
  next raw found =>
    simp only [found, Option.some.injEq, Json.str.injEq, exists_eq_left']
    split
    next blank => simp [configError, blank]
    next named =>
      constructor
      · intro same
        obtain rfl := Except.ok.inj same
        exact ⟨rfl, named⟩
      · rintro ⟨rfl, -⟩
        rfl
  next other =>
    refine iff_of_false configError_ne_ok ?_
    rintro ⟨raw, found, -⟩
    exact other raw found

/-- What the field checks establish about an object and the config read from it. -/
structure Accepts (platform : Platform) (object : Fields) (config : DmConfigV1) : Prop where
  version : HoldsString object "v" (js "dm1")
  domain : readDomain platform object = .ok config.domain
  siteProcess : HoldsString object "siteProcess" config.siteProcess
  siteProcessId : isProcessId config.siteProcess = true
  writeProcess : HoldsString object "writeProcess" config.writeProcess
  writeProcessId : isProcessId config.writeProcess = true
  entryPath : HoldsString object "entryPath" config.entryPath
  entryPathSlash : startsWith config.entryPath (js "/") = true
  validFrom : readRequiredInteger object "validFrom" = .ok config.validFrom
  validTo : readRequiredInteger object "validTo" = .ok config.validTo
  window : config.validFrom.toDouble.lt config.validTo.toDouble = true
  sigAlg : readSigAlg object = .ok config.sigAlg
  sig : readSig object = .ok config.sig
  owner : HoldsString object "owner" config.owner
  nonce : HoldsString object "nonce" config.nonce
  kid : readKid object = .ok config.kid

private theorem check_eq_ok {α : Type} {refused : Prop} [Decidable refused]
    {code message field : String} {next : Except ValidationError α} {result : α} :
    (if refused then (configError code message field : Except ValidationError PUnit) >>= fun _ => next
      else next) = .ok result ↔ ¬refused ∧ next = .ok result := by
  by_cases holds : refused <;> simp [holds, configError, bind, Except.bind]

theorem readVersion_eq_ok {object : Fields} :
    readVersion object = .ok () ↔ HoldsString object "v" (js "dm1") := by
  simp only [readVersion, bind_eq_ok, readRequiredString_eq_ok]
  constructor
  · rintro ⟨version, holds, checked⟩
    split at checked
    next => exact absurd checked configError_ne_ok
    next same =>
      obtain rfl : version = js "dm1" := not_not.mp same
      exact holds
  · intro holds
    exact ⟨js "dm1", holds, rfl⟩

theorem readProcess_eq_ok {object : Fields} {field : String} {value : JsString} :
    readProcess object field = .ok value ↔
      HoldsString object field value ∧ isProcessId value = true := by
  simp only [readProcess, bind_eq_ok, readRequiredString_eq_ok, check_eq_ok, pure_eq_ok]
  constructor
  · rintro ⟨read, holds, wellFormed, rfl⟩
    exact ⟨holds, by simpa using wellFormed⟩
  · rintro ⟨holds, wellFormed⟩
    exact ⟨value, holds, by simpa using wellFormed, rfl⟩

theorem readEntryPath_eq_ok {object : Fields} {value : JsString} :
    readEntryPath object = .ok value ↔
      HoldsString object "entryPath" value ∧ startsWith value (js "/") = true := by
  simp only [readEntryPath, bind_eq_ok, readRequiredString_eq_ok, check_eq_ok, pure_eq_ok]
  constructor
  · rintro ⟨read, holds, rooted, rfl⟩
    exact ⟨holds, by simpa using rooted⟩
  · rintro ⟨holds, rooted⟩
    exact ⟨value, holds, by simpa using rooted, rfl⟩

/-- The validator accepts exactly the objects whose fields read as the config. -/
theorem validateDmConfigJson_eq_ok {platform : Platform} {input : Json} {config : DmConfigV1} :
    validateDmConfigJson platform input = .ok config ↔
      ∃ object, input = .obj object ∧ Accepts platform object config := by
  constructor
  · intro accepted
    unfold validateDmConfigJson at accepted
    split at accepted
    next object =>
      refine ⟨object, rfl, ?_⟩
      simp only [validateDmConfigObject, bind_eq_ok, check_eq_ok, pure_eq_ok,
        readRequiredString_eq_ok, readProcess_eq_ok, readEntryPath_eq_ok] at accepted
      obtain ⟨_, version, domain, domainOk, siteProcess, ⟨site, siteId⟩, writeProcess,
        ⟨write, writeId⟩, entryPath, ⟨entry, entrySlash⟩, validFrom, fromOk, validTo, toOk,
        window, sigAlg, algOk, sig, sigOk, owner, ownerOk, nonce, nonceOk, kid, kidOk, rfl⟩ := accepted
      exact ⟨readVersion_eq_ok.mp version, domainOk, site, siteId, write, writeId, entry, entrySlash,
        fromOk, toOk, by simpa using window, algOk, sigOk, ownerOk, nonceOk, kidOk⟩
    next => exact absurd accepted configError_ne_ok
  · rintro ⟨object, rfl, accepts⟩
    have window : ¬(!config.validFrom.toDouble.lt config.validTo.toDouble) = true := by
      simp [accepts.window]
    simp only [validateDmConfigJson, validateDmConfigObject, bind_eq_ok, check_eq_ok, pure_eq_ok,
      readRequiredString_eq_ok, readProcess_eq_ok, readEntryPath_eq_ok]
    exact ⟨(), readVersion_eq_ok.mpr accepts.version, config.domain, accepts.domain,
      config.siteProcess, ⟨accepts.siteProcess, accepts.siteProcessId⟩, config.writeProcess,
      ⟨accepts.writeProcess, accepts.writeProcessId⟩, config.entryPath,
      ⟨accepts.entryPath, accepts.entryPathSlash⟩, config.validFrom, accepts.validFrom,
      config.validTo, accepts.validTo, window, config.sigAlg, accepts.sigAlg, config.sig,
      accepts.sig, config.owner, accepts.owner, config.nonce, accepts.nonce, config.kid,
      accepts.kid, rfl⟩

theorem readRequiredInteger_positive {object : Fields} {field : String} {value : Number}
    (accepted : readRequiredInteger object field = .ok value) : PositiveInteger value := by
  unfold readRequiredInteger at accepted
  split at accepted
  next decimal _ =>
    split at accepted
    next => exact absurd accepted configError_ne_ok
    next whole =>
      split at accepted
      next => exact absurd accepted configError_ne_ok
      next positive =>
        obtain rfl := Except.ok.inj accepted
        have integral : 0 ≤ decimal.exponent := by simpa [Decimal.isInteger] using whole
        rw [not_or] at positive
        exact ⟨decimal, rfl, by simpa using positive.1, by omega, integral⟩
  next => exact absurd accepted configError_ne_ok

/-- A canonical domain is not empty. -/
theorem canonicalizeDomain_ne_nil {platform : Platform} {input domain : JsString}
    (accepted : canonicalizeDomain platform input = .ok domain) : domain ≠ [] := by
  simp only [canonicalizeDomain, bind_eq_ok, check_eq_ok, pure_eq_ok] at accepted
  obtain ⟨-, -, -, host, -, valid, _, -, rfl⟩ := accepted
  exact fun empty => valid (Or.inl empty)

theorem Accepts.domain_ne_nil {platform : Platform} {object : Fields} {config : DmConfigV1}
    (accepts : Accepts platform object config) : config.domain ≠ [] := by
  obtain ⟨domainField, -, canonical⟩ := bind_eq_ok.mp accepts.domain
  exact canonicalizeDomain_ne_nil canonical

/-- The key check passes exactly when the key id, or the owner when there is
none, is the one of the record. -/
theorem validateConfigKidAgainstTxt_eq_ok {config result : DmConfigV1} {envelope : DmTxtEnvelope}
    (ownerNamed : config.owner ≠ []) (kidNamed : ∀ kid, config.kid = some kid → kid ≠ []) :
    validateConfigKidAgainstTxt config envelope = .ok result ↔
      config.kid.getD config.owner = envelope.kid ∧ config = result := by
  have candidate : config.kid.getD config.owner ≠ [] := by
    cases present : config.kid with
    | none => exact ownerNamed
    | some kid => exact kidNamed kid present
  unfold validateConfigKidAgainstTxt
  dsimp only
  split
  next refused =>
    refine iff_of_false configError_ne_ok ?_
    rintro ⟨same, -⟩
    exact refused.2 same
  next passed =>
    have same : config.kid.getD config.owner = envelope.kid := by
      by_contra different
      exact passed ⟨candidate, different⟩
    constructor
    · intro ok
      exact ⟨same, Except.ok.inj ok⟩
    · rintro ⟨-, rfl⟩
      rfl

theorem readKid_ne_nil {object : Fields} {kid : JsString}
    (accepted : readKid object = .ok (some kid)) : kid ≠ [] := by
  unfold readKid at accepted
  split at accepted
  next => simp at accepted
  next value _ =>
    split at accepted
    next => exact absurd accepted configError_ne_ok
    next named =>
      obtain rfl : trim value = kid := Option.some.inj (Except.ok.inj accepted)
      exact named
  next => exact absurd accepted configError_ne_ok

theorem validateAndVerifyDmConfig_eq_ok {platform : Platform} {input : Json}
    {publicKey : JsString} {now : Int} {config : DmConfigV1} :
    validateAndVerifyDmConfig platform input publicKey now = .ok config ↔
      validateDmConfigJson platform input = .ok config ∧ ∃ payload,
        verifyDmConfigSignature platform config publicKey now = .ok payload := by
  simp only [validateAndVerifyDmConfig, bind_eq_ok, pure_eq_ok]
  constructor
  · rintro ⟨validated, accepted, payload, verified, rfl⟩
    exact ⟨accepted, payload, verified⟩
  · rintro ⟨accepted, payload, verified⟩
    exact ⟨config, accepted, payload, verified, rfl⟩

end DarkmeshGateway.AsyncWorker.ConfigValidator
