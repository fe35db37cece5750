import DarkmeshGateway.AsyncWorker.RefreshSoundness

/-!
Contract: what the signature on a site config binds.

Owns the comparison of two configs signed over one payload, and the rerouting
of a signed config: the payload leaves out the processes and the entry path.

Does not own the unforgeability of the signature.
-/

namespace DarkmeshGateway.AsyncWorker.ConfigBinding

open Foundation.Js
open Foundation.Outcome
open AsyncWorker.DnsTxt
open AsyncWorker.ConfigSignature
open AsyncWorker.ConfigValidator
open AsyncWorker.Refresh
open AsyncWorker.RefreshSoundness

/-- A config object the validator accepts, whose signature over a payload
verifies under a key at some time. -/
structure Signed (platform : Platform) (key payload : JsString) (object : Fields)
    (config : DmConfigV1) : Prop where
  validated : validateDmConfigJson platform (.obj object) = .ok config
  verified : ∃ now, verifyDmConfigSignature platform config key now = .ok payload

/-- Two configs agree on everything a signature is to bind. -/
structure SameBinding (leftObject rightObject : Fields) (left right : DmConfigV1) : Prop where
  domain : left.domain = right.domain
  owner : left.owner = right.owner
  nonce : left.nonce = right.nonce
  validFrom : left.validFrom = right.validFrom
  validTo : left.validTo = right.validTo
  siteProcess : left.siteProcess = right.siteProcess
  writeProcess : left.writeProcess = right.writeProcess
  entryPath : left.entryPath = right.entryPath
  routing : ∀ cfg, routingOf leftObject cfg = routingOf rightObject cfg

theorem Signed.accepts {platform : Platform} {key payload : JsString} {object : Fields}
    {config : DmConfigV1} (signed : Signed platform key payload object config) :
    Accepts platform object config := by
  obtain ⟨found, same, accepts⟩ := validateDmConfigJson_eq_ok.mp signed.validated
  obtain rfl := Json.obj.inj same
  exact accepts

theorem Signed.payload_eq {platform : Platform} {key payload : JsString} {object : Fields}
    {config : DmConfigV1} (signed : Signed platform key payload object config) :
    buildDm1SignaturePayload config = .ok payload := by
  obtain ⟨now, verified⟩ := signed.verified
  obtain ⟨-, built, -⟩ := verifyDmConfigSignature_eq_ok.mp verified
  exact built

/-! ### Rerouting -/

/-- The object with its routing fields replaced. -/
def reroute (object : Fields) (siteProcess writeProcess entryPath : JsString) : Fields :=
  ((object.set (js "siteProcess") (.str siteProcess)).set (js "writeProcess")
    (.str writeProcess)).set (js "entryPath") (.str entryPath)

private theorem reroute_other (object : Fields) (siteProcess writeProcess entryPath : JsString)
    {field : JsString} (notSite : field ≠ js "siteProcess") (notWrite : field ≠ js "writeProcess")
    (notPath : field ≠ js "entryPath") :
    (reroute object siteProcess writeProcess entryPath).get field = object.get field := by
  rw [reroute, Fields.get_set_other _ notPath, Fields.get_set_other _ notWrite,
    Fields.get_set_other _ notSite]

private theorem idOfLength_visible {low high : Nat} {text : JsString}
    (wellFormed : idOfLength low high text = true) : trim text = text := by
  have visible (unit : CodeUnit) (member : unit ∈ text) : isWhitespace unit = false := by
    simp only [idOfLength, Bool.and_eq_true, List.all_eq_true] at wellFormed
    have listed := wellFormed.1.1 unit member
    simp only [isIdUnit, Bool.or_eq_true, Bool.and_eq_true, decide_eq_true_eq, beq_iff_eq] at listed
    simp only [isWhitespace, Bool.or_eq_false_iff, Bool.and_eq_false_iff, decide_eq_false_iff_not,
      beq_eq_false_iff_ne]
    omega
  rw [trim_eq_self_iff]
  exact ⟨fun head member => visible head (List.mem_of_mem_head? member),
    fun last member => visible last (List.mem_of_mem_getLast? member)⟩

/-- The config read from a rerouted object. -/
def rerouteConfig (config : DmConfigV1) (siteProcess writeProcess entryPath : JsString) :
    DmConfigV1 :=
  { config with siteProcess, writeProcess, entryPath }

/-- Fields that name two processes and a rooted path. -/
structure RoutingFields (siteProcess writeProcess entryPath : JsString) : Prop where
  siteId : isProcessId siteProcess = true
  writeId : isProcessId writeProcess = true
  rooted : startsWith entryPath (js "/") = true
  trimmed : trim entryPath = entryPath

private theorem process_named {text : JsString} (wellFormed : isProcessId text = true) :
    trim text = text ∧ text ≠ [] := by
  refine ⟨idOfLength_visible wellFormed, ?_⟩
  rintro rfl
  exact absurd wellFormed (by decide)

theorem RoutingFields.holds {siteProcess writeProcess entryPath : JsString}
    (fields : RoutingFields siteProcess writeProcess entryPath) (object : Fields) :
    let rerouted := reroute object siteProcess writeProcess entryPath
    HoldsString rerouted "siteProcess" siteProcess ∧
      HoldsString rerouted "writeProcess" writeProcess ∧
      HoldsString rerouted "entryPath" entryPath := by
  have rootNamed : entryPath ≠ [] := by
    rintro rfl
    exact absurd fields.rooted (by decide)
  refine ⟨⟨siteProcess, ?_, process_named fields.siteId⟩,
    ⟨writeProcess, ?_, process_named fields.writeId⟩, ⟨entryPath, ?_, fields.trimmed, rootNamed⟩⟩
  · rw [reroute, Fields.get_set_other _ (by decide), Fields.get_set_other _ (by decide),
      Fields.get_set_self]
  · rw [reroute, Fields.get_set_other _ (by decide), Fields.get_set_self]
  · rw [reroute, Fields.get_set_self]

/-- The validator accepts a rerouted object: the checks of its other fields are
those of the object it was made from. -/
theorem accepts_rerouted {platform : Platform} {object : Fields} {config : DmConfigV1}
    (accepts : Accepts platform object config) {siteProcess writeProcess entryPath : JsString}
    (fields : RoutingFields siteProcess writeProcess entryPath) :
    Accepts platform (reroute object siteProcess writeProcess entryPath)
      (rerouteConfig config siteProcess writeProcess entryPath) := by
  have kept (field : String)
      (other : js field ∉ [js "siteProcess", js "writeProcess", js "entryPath"]) :
      (reroute object siteProcess writeProcess entryPath).get (js field) =
        object.get (js field) := by
    simp only [List.mem_cons, List.not_mem_nil, or_false, not_or] at other
    exact reroute_other object siteProcess writeProcess entryPath other.1 other.2.1 other.2.2
  obtain ⟨site, write, path⟩ := fields.holds object
  exact {
    version := by
      rw [HoldsString, kept "v" (by decide)]
      exact accepts.version
    domain := by
      rw [readDomain, readRequiredString, kept "domain" (by decide)]
      exact accepts.domain
    siteProcess := site
    siteProcessId := fields.siteId
    writeProcess := write
    writeProcessId := fields.writeId
    entryPath := path
    entryPathSlash := fields.rooted
    validFrom := by
      rw [readRequiredInteger, kept "validFrom" (by decide)]
      exact accepts.validFrom
    validTo := by
      rw [readRequiredInteger, kept "validTo" (by decide)]
      exact accepts.validTo
    window := accepts.window
    sigAlg := by
      rw [readSigAlg, readRequiredString, kept "sigAlg" (by decide)]
      exact accepts.sigAlg
    sig := by
      rw [readSig, readRequiredString, kept "sig" (by decide)]
      exact accepts.sig
    owner := by
      rw [HoldsString, kept "owner" (by decide)]
      exact accepts.owner
    nonce := by
      rw [HoldsString, kept "nonce" (by decide)]
      exact accepts.nonce
    kid := by
      rw [readKid, kept "kid" (by decide)]
      exact accepts.kid }

/-- The signature of an object verifies for every rerouting of it. -/
theorem Signed.rerouted {platform : Platform} {key payload : JsString} {object : Fields}
    {config : DmConfigV1} (signed : Signed platform key payload object config)
    {siteProcess writeProcess entryPath : JsString}
    (fields : RoutingFields siteProcess writeProcess entryPath) :
    Signed platform key payload (reroute object siteProcess writeProcess entryPath)
      (rerouteConfig config siteProcess writeProcess entryPath) where
  validated := validateDmConfigJson_eq_ok.mpr ⟨_, rfl, accepts_rerouted signed.accepts fields⟩
  -- Neither the payload nor the check of the signature reads a replaced field.
  verified := signed.verified

/-! ### What is bound -/

/-- The payload determines the domain, the owner, the nonce and the window. -/
theorem signed_fields_agree {platform : Platform} {key payload : JsString}
    {leftObject rightObject : Fields} {left right : DmConfigV1}
    (leftSigned : Signed platform key payload leftObject left)
    (rightSigned : Signed platform key payload rightObject right) :
    left.domain = right.domain ∧ left.owner = right.owner ∧ left.nonce = right.nonce ∧
      left.validFrom = right.validFrom ∧ left.validTo = right.validTo := by
  have same := signedFields_unique (readRequiredInteger_positive leftSigned.accepts.validFrom)
    (readRequiredInteger_positive leftSigned.accepts.validTo)
    (readRequiredInteger_positive rightSigned.accepts.validFrom)
    (readRequiredInteger_positive rightSigned.accepts.validTo) leftSigned.payload_eq
    rightSigned.payload_eq
  simp only [signedFields, List.cons.injEq, Prod.mk.injEq, Json.str.injEq, Json.num.injEq,
    true_and, and_true] at same
  obtain ⟨domain, nonce, owner, -, validFrom, validTo⟩ := same
  exact ⟨domain, owner, nonce, validFrom, validTo⟩

/-- Two configs signed over one payload agree on everything a signature is to
bind exactly when they carry the same processes and entry path, and a signed
config can be given any of these. -/
theorem config_binding_iff {platform : Platform} {key payload : JsString} {leftObject : Fields}
    {left : DmConfigV1} (leftSigned : Signed platform key payload leftObject left) :
    (∀ rightObject right, Signed platform key payload rightObject right →
      (SameBinding leftObject rightObject left right ↔
        left.siteProcess = right.siteProcess ∧ left.writeProcess = right.writeProcess ∧
          left.entryPath = right.entryPath)) ∧
      ∀ siteProcess writeProcess entryPath, RoutingFields siteProcess writeProcess entryPath →
        ∃ rightObject right, Signed platform key payload rightObject right ∧
          ∀ cfg, routingOf rightObject cfg = ⟨siteProcess ++ entryPath, some writeProcess⟩ := by
  constructor
  · intro rightObject right rightSigned
    obtain ⟨domain, owner, nonce, validFrom, validTo⟩ :=
      signed_fields_agree leftSigned rightSigned
    constructor
    · intro same
      exact ⟨same.siteProcess, same.writeProcess, same.entryPath⟩
    · rintro ⟨siteProcess, writeProcess, entryPath⟩
      refine ⟨domain, owner, nonce, validFrom, validTo, siteProcess, writeProcess, entryPath, ?_⟩
      intro cfg
      rw [routingOf_accepted leftSigned.accepts, routingOf_accepted rightSigned.accepts,
        siteProcess, writeProcess, entryPath]
  · intro siteProcess writeProcess entryPath fields
    have rerouted := leftSigned.rerouted fields
    exact ⟨_, _, rerouted, routingOf_accepted rerouted.accepts⟩

/-- The config read from the sample object. -/
def alphaDmConfig : DmConfigV1 where
  domain := js "shop.example"
  siteProcess := alphaProcess
  writeProcess := alphaProcess
  entryPath := js "/shop"
  validFrom := .ofInt 1700000000
  validTo := .ofInt 1800000000
  sigAlg := .ed25519
  sig := alphaSig
  nonce := js "n-1"
  owner := alphaKid
  kid := none

def alphaPayload : JsString :=
  js "\x7b\"domain\":\"shop.example\",\"nonce\":\"n-1\",\"owner\":\"" ++ alphaKid ++
    js "\",\"sigAlg\":\"ed25519\",\"v\":\"dm1\",\"validFrom\":1700000000,\"validTo\":1800000000\x7d"

private theorem alphaSigned :
    Signed alphaPlatform alphaKid alphaPayload alphaConfig alphaDmConfig where
  validated := by decide +kernel
  verified := ⟨1750000000, by decide +kernel⟩

theorem config_binding_alpha :
    (∀ rightObject right, Signed alphaPlatform alphaKid alphaPayload rightObject right →
      (SameBinding alphaConfig rightObject alphaDmConfig right ↔
        alphaDmConfig.siteProcess = right.siteProcess ∧
          alphaDmConfig.writeProcess = right.writeProcess ∧
          alphaDmConfig.entryPath = right.entryPath)) ∧
      ∀ siteProcess writeProcess entryPath, RoutingFields siteProcess writeProcess entryPath →
        ∃ rightObject right, Signed alphaPlatform alphaKid alphaPayload rightObject right ∧
          ∀ cfg, routingOf rightObject cfg = ⟨siteProcess ++ entryPath, some writeProcess⟩ :=
  config_binding_iff alphaSigned

/-- The sample config and the same config with another site process are signed alike. -/
theorem config_not_bound :
    ¬∀ payload leftObject left rightObject right,
      Signed alphaPlatform alphaKid payload leftObject left →
      Signed alphaPlatform alphaKid payload rightObject right →
      SameBinding leftObject rightObject left right := by
  intro bound
  have fields : RoutingFields (List.replicate 43 68) alphaProcess (js "/shop") := by
    refine ⟨?_, ?_, ?_, ?_⟩ <;> decide +kernel
  have same := bound _ _ _ _ _ alphaSigned (alphaSigned.rerouted fields)
  exact absurd same.siteProcess (by decide +kernel)

end DarkmeshGateway.AsyncWorker.ConfigBinding
