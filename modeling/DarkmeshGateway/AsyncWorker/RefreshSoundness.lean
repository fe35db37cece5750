import DarkmeshGateway.AsyncWorker.Refresh

/-!
Contract: what a valid entry of the domain map rests on in strict mode.

Owns the inversion of the strict identity checks and the soundness of a
persisted entry, from the TXT record and the signed config to the routing.

Does not own lenient mode, which persists unverified configs.
-/

namespace DarkmeshGateway.AsyncWorker.RefreshSoundness

open Foundation.Js
open Foundation.Outcome
open AsyncWorker.DnsTxt
open AsyncWorker.ConfigSignature
open AsyncWorker.ConfigValidator
open AsyncWorker.DomainMap
open AsyncWorker.DomainState
open AsyncWorker.Refresh

/-! ### Strict checks -/

/-- In strict mode an identified config was validated, verified and matched with the record. -/
theorem configIdentity_strict {platform : Platform} {env : Env} {configRaw : Json}
    {envelope : DmTxtEnvelope} {nowSec : Int} {identity : ConfigIdentity}
    (strict : isSignatureStrictMode env = true)
    (identified : configIdentity platform env configRaw envelope nowSec = .ok identity) :
    ∃ config, validateAndVerifyDmConfig platform configRaw envelope.kid nowSec = .ok config ∧
      (∃ matched, validateConfigKidAgainstTxt config envelope = .ok matched) ∧
      identity = ⟨some config.domain, config.owner⟩ := by
  unfold configIdentity at identified
  split at identified
  next => simp [strict, validationFailure] at identified
  next config verified =>
    split at identified
    next => simp [strict, validationFailure] at identified
    next matched kidOk => exact ⟨config, verified, ⟨matched, kidOk⟩, (Except.ok.inj identified).symm⟩

theorem checkIdentity_named {configDomain owner domain : JsString} {envelope : DmTxtEnvelope}
    (domainNamed : configDomain ≠ []) (ownerNamed : owner ≠ [])
    (checked : checkIdentity ⟨some configDomain, owner⟩ domain envelope = .ok ()) :
    configDomain = domain ∧ owner = envelope.kid := by
  simp only [checkIdentity, refusal_eq_ok, Option.any_some, decide_eq_true_eq] at checked
  obtain ⟨sameDomain, ownerChecked⟩ := checked
  refine ⟨not_not.mp fun different => sameDomain ⟨domainNamed, different⟩, not_not.mp ?_⟩
  intro different
  rw [if_pos ⟨ownerNamed, different⟩] at ownerChecked
  exact refuse_ne_ok ownerChecked

/-! ### Soundness -/

/-- The lifetime of an entry: the TTL of the record in milliseconds, between
thirty seconds and a day. -/
def lifetimeMs (ttlSec : Int) : Int := max 30000 (min (ttlSec * 1000) 86400000)

/-- An entry rests on a config that its owner signed for the domain, under the
key of the TXT record, and routes by that config. -/
structure RestsOn (platform : Platform) (domain : JsString) (envelope : DmTxtEnvelope)
    (configRaw : Json) (config : DmConfigV1) (payload : JsString) (nowSec nowMs : Int)
    (entry : DomainMapEntry) : Prop where
  validated : validateDmConfigJson platform configRaw = .ok config
  signed : buildDm1SignaturePayload config = .ok payload
  verified : Verified platform config envelope.kid payload
  inWindow : InWindow config nowSec
  domain : config.domain = domain
  owner : config.owner = envelope.kid
  kid : ∀ kid, config.kid = some kid → kid = envelope.kid
  cfgTx : entry.cfgTx = some envelope.cfg
  resolvedTarget : entry.resolvedTarget = some (config.siteProcess ++ config.entryPath)
  lifetime : entry.expiresAt = some (.ofInt (nowMs + lifetimeMs envelope.ttl))

/-- What a strict refresh establishes about the config it read. -/
theorem refreshed_verifiedConfig {platform : Platform} {env : Env} {input : DomainRefreshRequest}
    {answers : Answers} {domain txtPayload : JsString} {envelope : DmTxtEnvelope}
    {configRaw : Json} {identity : ConfigIdentity} {result : RefreshResult}
    (strict : isSignatureStrictMode env = true)
    (steps : Refreshed platform env input answers domain txtPayload envelope configRaw identity
      result) :
    ∃ object config payload, configRaw = .obj object ∧ Accepts platform object config ∧
      buildDm1SignaturePayload config = .ok payload ∧ Verified platform config envelope.kid payload ∧
      InWindow config answers.nowSec ∧ config.domain = domain ∧ config.owner = envelope.kid ∧
      ∀ kid, config.kid = some kid → kid = envelope.kid := by
  obtain ⟨config, validVerified, ⟨matched, kidOk⟩, rfl⟩ :=
    configIdentity_strict strict steps.identified
  obtain ⟨validated, payload, verifiedOk⟩ := validateAndVerifyDmConfig_eq_ok.mp validVerified
  obtain ⟨inWindow, signed, verified⟩ := verifyDmConfigSignature_eq_ok.mp verifiedOk
  obtain ⟨object, rfl, accepts⟩ := validateDmConfigJson_eq_ok.mp validated
  have ownerNamed : config.owner ≠ [] := by
    obtain ⟨_, -, -, named⟩ := accepts.owner
    exact named
  have kidNamed (kid : JsString) (present : config.kid = some kid) : kid ≠ [] := by
    have read : readKid object = .ok (some kid) := by rw [accepts.kid, present]
    exact readKid_ne_nil read
  obtain ⟨sameDomain, sameOwner⟩ :=
    checkIdentity_named accepts.domain_ne_nil ownerNamed steps.checked
  obtain ⟨candidate, -⟩ := (validateConfigKidAgainstTxt_eq_ok ownerNamed kidNamed).mp kidOk
  refine ⟨object, config, payload, rfl, accepts, signed, verified, inWindow, sameDomain, sameOwner,
    ?_⟩
  intro kid present
  rwa [present, Option.getD_some] at candidate

/-- In strict mode every valid entry a refresh persists rests on a config that
the holder of the record's key signed for the requested domain. -/
theorem strict_refresh_sound {platform : Platform} {env : Env} {input : DomainRefreshRequest}
    {answers : Answers} {store : Store} {persistence : PersistenceAnswers} {put : Put}
    (strict : isSignatureStrictMode env = true)
    (persisted : put ∈
      (runDomainRefreshTracked platform env input answers store persistence).puts)
    (valid : put.entry.status = .valid) :
    ∃ domain txtPayload envelope configRaw config payload,
      normalizeDomain (some (.str input.domain)) = .ok domain ∧
      txtPayloadOf input domain answers = .ok txtPayload ∧
      parseAndValidateDmTxtEnvelope txtPayload = .ok envelope ∧
      configRawOf input envelope.cfg answers = .ok configRaw ∧
      RestsOn platform domain envelope configRaw config payload answers.nowSec
        persistence.successNowMs put.entry := by
  obtain ⟨domain, result, starting, normal, refreshed, written⟩ :=
    runDomainRefreshTracked_valid persisted valid
  obtain ⟨again, txtPayload, envelope, configRaw, identity, steps⟩ :=
    runDomainRefresh_steps refreshed
  -- The request is normalised twice, the second time without effect.
  have sameDomain : again = domain := by
    have twice := (normalizeDomain_normal normal).symm.trans steps.normalised
    exact (Except.ok.inj twice).symm
  subst sameDomain
  obtain ⟨object, config, payload, rfl, accepts, signed, verified, inWindow, ofDomain, owner, kid⟩ :=
    refreshed_verifiedConfig strict steps
  refine ⟨again, txtPayload, envelope, .obj object, config, payload, normal, steps.txtRead,
    steps.parsed, steps.configRead, ?_⟩
  have target : result.resolvedTarget = config.siteProcess ++ config.entryPath := by
    rw [steps.resolvedTarget]
    exact congrArg Routing.resolvedTarget (routingOf_accepted accepts envelope.cfg)
  refine ⟨validateDmConfigJson_eq_ok.mpr ⟨object, rfl, accepts⟩, signed, verified, inWindow,
    ofDomain, owner, kid, ?_, ?_, ?_⟩
  · rw [written]
    exact congrArg some steps.cfgTx
  · rw [written]
    exact congrArg some target
  · have ttl : (successOutcome result persistence.successNowMs).ttlMs = envelope.ttl * 1000 :=
      congrArg (· * 1000) steps.ttlSec
    rw [written]
    simp only [succeed, clampTtl, ttl, lifetimeMs, domainStateOptionsFromEnv]

/-! ### A refresh in strict mode -/

def alphaKid : JsString := List.replicate 43 65

def alphaCfg : JsString := List.replicate 43 66

def alphaTxt : JsString := js "v=dm1;cfg=" ++ alphaCfg ++ js ";kid=" ++ alphaKid ++ js ";ttl=600"

def alphaProcess : JsString := List.replicate 43 67

def alphaSig : JsString := List.replicate 86 83

def alphaConfig : Fields :=
  [(js "v", .str (js "dm1")), (js "domain", .str (js "Shop.example")),
    (js "siteProcess", .str alphaProcess), (js "writeProcess", .str alphaProcess),
    (js "entryPath", .str (js "/shop")), (js "validFrom", .num (.ofInt 1700000000)),
    (js "validTo", .num (.ofInt 1800000000)), (js "sigAlg", .str (js "ed25519")),
    (js "sig", .str alphaSig), (js "owner", .str alphaKid), (js "nonce", .str (js "n-1"))]

/-- A platform on which the key signed exactly the payload of the config. -/
def alphaPlatform : Platform where
  verifyEd25519 payload signature key :=
    payload = js "\x7b\"domain\":\"shop.example\",\"nonce\":\"n-1\",\"owner\":\"" ++ alphaKid ++
      js "\",\"sigAlg\":\"ed25519\",\"v\":\"dm1\",\"validFrom\":1700000000,\"validTo\":1800000000\x7d" ∧
    some signature = base64UrlToBytes alphaSig ∧ some key = base64UrlToBytes alphaKid
  verifyRsaPssSha256 _ _ _ := false
  urlHostname url := if startsWith url (js "http://") then some (url.drop 7) else none
  sha256Hex _ := js "00"

def alphaEnv : Env where
  refreshSignatureStrict := some (js "1")
  domainMapKv := true

def alphaAnswers : Answers where
  txt _ := .ok alphaTxt
  config _ := .ok alphaConfig
  nowSec := 1750000000
  probe _ := .ok ⟨.skipped, none, none⟩
  exchange _ _ _ := none

def alphaRun : Tracked :=
  runDomainRefreshTracked alphaPlatform alphaEnv { domain := js "shop.example" } alphaAnswers
    Store.empty { successNowMs := 1750000000000, failureNowMs := 1750000000000 }

private theorem alphaRun_valid : ∃ put ∈ alphaRun.puts, put.entry.status = .valid := by
  decide +kernel

theorem strict_refresh_sound_alpha :
    ∃ put ∈ alphaRun.puts, put.entry.status = .valid ∧
      ∃ domain txtPayload envelope configRaw config payload,
        normalizeDomain (some (.str (js "shop.example"))) = .ok domain ∧
        txtPayloadOf { domain := js "shop.example" } domain alphaAnswers = .ok txtPayload ∧
        parseAndValidateDmTxtEnvelope txtPayload = .ok envelope ∧
        configRawOf { domain := js "shop.example" } envelope.cfg alphaAnswers = .ok configRaw ∧
        RestsOn alphaPlatform domain envelope configRaw config payload 1750000000 1750000000000
          put.entry := by
  obtain ⟨put, member, valid⟩ := alphaRun_valid
  exact ⟨put, member, valid, strict_refresh_sound (by decide) member valid⟩

end DarkmeshGateway.AsyncWorker.RefreshSoundness
