import DarkmeshGateway.Operations.AttestationRoundTrip

/-!
Contract: what the digest of an accepted attestation binds.

Owns the checks of the validator as checks of the attested part of an artifact,
and the changes under an unchanged digest that leave the artifact accepted.

Does not own collisions of the digest, which are excluded, and the key behind
the signature fields, which the validator does not know.
-/

namespace DarkmeshGateway.Operations.Attestation

open Foundation.Js
open Foundation.Outcome

variable {platform : Platform}

/-! ### Values -/

theorem attested_arr (elements : List Json) :
    attested (.arr elements) = .arr (elements.map attested) := by
  have each : rereadElements (canonicalizeElements elements) = elements.map attested := by
    induction elements with
    | nil => rfl
    | cons value rest inductionHypothesis =>
        rw [canonicalizeElements, rereadElements, inductionHypothesis, List.map_cons, attested]
  rw [attested, canonicalize, Json.reread, each]

/-- A check that turns numbers away and looks into no array or object. -/
theorem check_attested (check : Option Json → Bool)
    (numbers : ∀ number, check (some (.num number)) = check (some .null))
    (arrays : ∀ elements others, check (some (.arr elements)) = check (some (.arr others)))
    (objects : ∀ fields others, check (some (.obj fields)) = check (some (.obj others)))
    (value : Option Json) : check (value.map attested) = check value := by
  cases value with
  | none => rfl
  | some json =>
      cases json with
      | num number =>
          cases number with
          | finite decimal => exact (numbers _).trans (numbers _).symm
          | _ => exact (numbers _).symm
      | arr elements =>
          rw [Option.map_some, attested_arr]
          exact arrays _ _
      | obj fields => exact objects _ _
      | _ => rfl

theorem isText_attested (expected : JsString) (value : Option Json) :
    isText expected (value.map attested) = isText expected value :=
  check_attested (isText expected) (fun _ => rfl) (fun _ _ => rfl) (fun _ _ => rfl) value

theorem isNonEmptyString_attested (value : Option Json) :
    isNonEmptyString (value.map attested) = isNonEmptyString value :=
  check_attested isNonEmptyString (fun _ => rfl) (fun _ _ => rfl) (fun _ _ => rfl) value

theorem isHttpUrl_attested (value : Option Json) :
    isHttpUrl platform (value.map attested) = isHttpUrl platform value :=
  check_attested (isHttpUrl platform) (fun _ => rfl) (fun _ _ => rfl) (fun _ _ => rfl) value

theorem isIsoDateTime_attested (value : Option Json) :
    isIsoDateTime platform (value.map attested) = isIsoDateTime platform value :=
  check_attested (isIsoDateTime platform) (fun _ => rfl) (fun _ _ => rfl) (fun _ _ => rfl) value

theorem isBoolean_attested (value : Option Json) :
    isBoolean (value.map attested) = isBoolean value :=
  check_attested isBoolean (fun _ => rfl) (fun _ _ => rfl) (fun _ _ => rfl) value

theorem isObject_attested (value : Option Json) :
    isObject (value.map attested) = isObject value :=
  check_attested isObject (fun _ => rfl) (fun _ _ => rfl) (fun _ _ => rfl) value

theorem elementsOf_attested (value : Option Json) :
    elementsOf (value.map attested) = (elementsOf value).map attested := by
  cases value with
  | none => rfl
  | some json =>
      cases json with
      | num number => cases number <;> rfl
      | arr elements =>
          rw [Option.map_some, attested_arr]
          rfl
      | _ => rfl

/-- The sign of zero does not show in an integer. -/
theorem integerOf_attested (value : Option Json) :
    integerOf (value.map attested) = integerOf value := by
  cases value with
  | none => rfl
  | some json =>
      cases json with
      | num number =>
          cases number with
          | finite decimal =>
              show integerOf (some (.num (.finite decimal.dropZeroSign))) = _
              by_cases zero : decimal.coefficient = 0
              · have whole : decimal.exponent = 0 := by
                  have reduced := decimal.reduced
                  omega
                simp [integerOf, Decimal.dropZeroSign, Decimal.isInteger, Decimal.trunc, zero, whole]
              · simp [Decimal.dropZeroSign, zero]
          | _ => rfl
      | _ => rfl

/-- A property of the attested part is the attested part of the property. -/
theorem get_fieldsOf_attested {value : Json} (distinct : value.Distinct = true) {key : JsString}
    (visible : key ≠ js "__proto__") :
    Fields.get (fieldsOf (some (attested value))) key =
      (Fields.get (fieldsOf (some value)) key).map attested := by
  cases value with
  | num number => cases number <;> rfl
  | obj fields =>
      exact get_attested ((distinct_obj_iff fields).mp distinct).1 visible
  | _ => rfl

/-! ### Distinct parts -/

theorem distinct_of_mem_elements {elements : List Json}
    (distinct : elementsDistinct elements = true) :
    ∀ element ∈ elements, element.Distinct = true := by
  induction elements with
  | nil => exact fun _ member => absurd member List.not_mem_nil
  | cons value rest inductionHypothesis =>
      simp only [elementsDistinct, Bool.and_eq_true] at distinct
      exact List.forall_mem_cons.mpr ⟨distinct.1, inductionHypothesis distinct.2⟩

theorem distinct_elementsOf {value : Option Json}
    (distinct : ∀ json ∈ value, json.Distinct = true) :
    ∀ element ∈ elementsOf value, element.Distinct = true := by
  unfold elementsOf
  split
  next elements => exact distinct_of_mem_elements (distinct _ rfl)
  next => exact fun _ member => absurd member List.not_mem_nil

theorem distinct_get_fieldsOf {value : Json} (distinct : value.Distinct = true) (key : JsString) :
    ∀ json ∈ Fields.get (fieldsOf (some value)) key, json.Distinct = true := by
  intro json found
  cases value with
  | obj fields =>
      exact ((distinct_obj_iff fields).mp distinct).2 _ (Fields.mem_of_get found)
  | _ => cases found

/-! ### Checks -/

theorem validateGateway_attested {gateway : Json} (distinct : gateway.Distinct = true)
    (index : Nat) :
    validateGateway platform index (attested gateway) = validateGateway platform index gateway := by
  have label := get_fieldsOf_attested distinct (by decide : js "label" ≠ js "__proto__")
  have url := get_fieldsOf_attested distinct (by decide : js "url" ≠ js "__proto__")
  have snapshot := get_fieldsOf_attested distinct (by decide : js "snapshot" ≠ js "__proto__")
  have object := isObject_attested (some gateway)
  rw [Option.map_some] at object
  simp only [validateGateway, label, url, snapshot, object, isNonEmptyString_attested,
    isHttpUrl_attested, isObject_attested]

theorem validateGateways_attested {gateways : List Json}
    (distinct : ∀ gateway ∈ gateways, gateway.Distinct = true) (index : Nat) :
    validateGateways platform index (gateways.map attested) =
      validateGateways platform index gateways := by
  induction gateways generalizing index with
  | nil => rfl
  | cons gateway rest inductionHypothesis =>
      obtain ⟨first, others⟩ := List.forall_mem_cons.mp distinct
      rw [List.map_cons, validateGateways, validateGateways, validateGateway_attested first,
        inductionHypothesis others]

theorem validateValue_attested {value : Json} (distinct : value.Distinct = true)
    (place : JsString) :
    validateValue platform place (attested value) = validateValue platform place value := by
  have gateway := get_fieldsOf_attested distinct (by decide : js "gateway" ≠ js "__proto__")
  have url := get_fieldsOf_attested distinct (by decide : js "url" ≠ js "__proto__")
  have found := get_fieldsOf_attested distinct (by decide : js "found" ≠ js "__proto__")
  have present := get_fieldsOf_attested distinct (by decide : js "value" ≠ js "__proto__")
  have object := isObject_attested (some value)
  rw [Option.map_some] at object
  simp only [validateValue, gateway, url, found, present, object, isNonEmptyString_attested,
    isHttpUrl_attested, isBoolean_attested, Option.isSome_map]

theorem validateValues_attested {values : List Json}
    (distinct : ∀ value ∈ values, value.Distinct = true) (place : JsString) (index : Nat) :
    validateValues platform place index (values.map attested) =
      validateValues platform place index values := by
  induction values generalizing index with
  | nil => rfl
  | cons value rest inductionHypothesis =>
      obtain ⟨first, others⟩ := List.forall_mem_cons.mp distinct
      rw [List.map_cons, validateValues, validateValues, validateValue_attested first,
        inductionHypothesis others]

theorem isText_statusOf_attested {entry : Json} (distinct : entry.Distinct = true)
    (expected : JsString) :
    isText expected (statusOf (attested entry)) = isText expected (statusOf entry) := by
  rw [statusOf, get_fieldsOf_attested distinct (by decide : js "status" ≠ js "__proto__"),
    isText_attested, statusOf]

theorem validateComparedField_attested {entry : Json} (distinct : entry.Distinct = true)
    (index : Nat) :
    validateComparedField platform index (attested entry) =
      validateComparedField platform index entry := by
  have field := get_fieldsOf_attested distinct (by decide : js "field" ≠ js "__proto__")
  have values := get_fieldsOf_attested distinct (by decide : js "values" ≠ js "__proto__")
  have inner := distinct_elementsOf (distinct_get_fieldsOf distinct (js "values"))
  have object := isObject_attested (some entry)
  rw [Option.map_some] at object
  simp only [validateComparedField, field, values, object, isNonEmptyString_attested,
    isText_statusOf_attested distinct, elementsOf_attested, List.isEmpty_map,
    validateValues_attested inner]

theorem validateComparedFields_attested {compared : List Json}
    (distinct : ∀ entry ∈ compared, entry.Distinct = true)
    (index mismatchCount invalidFieldCount : Nat) :
    validateComparedFields platform index mismatchCount invalidFieldCount (compared.map attested) =
      validateComparedFields platform index mismatchCount invalidFieldCount compared := by
  induction compared generalizing index mismatchCount invalidFieldCount with
  | nil => rfl
  | cons entry rest inductionHypothesis =>
      obtain ⟨first, others⟩ := List.forall_mem_cons.mp distinct
      rw [List.map_cons, validateComparedFields, validateComparedFields,
        validateComparedField_attested first, isText_statusOf_attested first,
        isText_statusOf_attested first, inductionHypothesis others]

theorem validateSummary_attested {summary : Option Json}
    (distinct : ∀ json ∈ summary, json.Distinct = true)
    (gateways mismatchCount invalidFieldCount : Nat) :
    validateSummary (summary.map attested) gateways mismatchCount invalidFieldCount =
      validateSummary summary gateways mismatchCount invalidFieldCount := by
  cases summary with
  | none => rfl
  | some json =>
      have own := distinct json rfl
      have mismatch :=
        get_fieldsOf_attested own (by decide : js "mismatchCount" ≠ js "__proto__")
      have invalid :=
        get_fieldsOf_attested own (by decide : js "invalidFieldCount" ≠ js "__proto__")
      have total := get_fieldsOf_attested own (by decide : js "gatewayCount" ≠ js "__proto__")
      have object := isObject_attested (some json)
      rw [Option.map_some] at object ⊢
      simp only [validateSummary, mismatch, invalid, total, object, integerOf_attested]

/-! ### The segment -/

/-- The properties of an object under some names. -/
def pick (names : List String) (artifact : Fields) : Fields :=
  names.filterMap fun name => (Fields.get artifact (js name)).map fun value => (js name, value)

def segmentNames : List String :=
  ["artifactType", "scriptVersionTag", "generatedAt", "gateways", "comparedFields", "summary"]

theorem attestedSegment_eq (artifact : Fields) :
    attestedSegment artifact = pick segmentNames artifact := rfl

theorem mem_pick {names : List String} {artifact : Fields} {field : JsString × Json}
    (member : field ∈ pick names artifact) :
    field.1 ∈ names.map js ∧ Fields.get artifact field.1 = some field.2 := by
  obtain ⟨name, listed, picked⟩ := List.mem_filterMap.mp member
  obtain ⟨value, found, rfl⟩ := Option.map_eq_some_iff.mp picked
  exact ⟨List.mem_map_of_mem listed, found⟩

/-- A listed name finds what the object has under it. -/
theorem get_pick {names : List String} (artifact : Fields) {name : String} (listed : name ∈ names) :
    Fields.get (pick names artifact) (js name) = Fields.get artifact (js name) := by
  cases found : Fields.get (pick names artifact) (js name) with
  | some value => exact (mem_pick (Fields.mem_of_get found)).2.symm
  | none =>
      cases present : Fields.get artifact (js name) with
      | none => rfl
      | some value =>
          have member : (js name, value) ∈ pick names artifact :=
            List.mem_filterMap.mpr ⟨name, listed, by rw [present]; rfl⟩
          have missing := List.lookup_eq_none_iff.mp found _ member
          simp at missing

theorem keys_pick_sublist (names : List String) (artifact : Fields) :
    ((pick names artifact).map Prod.fst).Sublist (names.map js) := by
  induction names with
  | nil => exact List.Sublist.refl _
  | cons name rest inductionHypothesis =>
      unfold pick at inductionHypothesis ⊢
      rw [List.filterMap_cons]
      cases Fields.get artifact (js name) with
      | none => exact inductionHypothesis.cons (js name)
      | some value => exact inductionHypothesis.cons_cons (js name)

/-- The segment of a parsed artifact has distinct keys at every depth. -/
theorem distinct_segment {artifact : Fields} (distinct : (Json.obj artifact).Distinct = true) :
    (Json.obj (attestedSegment artifact)).Distinct = true := by
  rw [attestedSegment_eq, distinct_obj_iff]
  constructor
  · exact (keys_pick_sublist segmentNames artifact).nodup (by decide)
  · intro field member
    have found := (mem_pick member).2
    exact ((distinct_obj_iff artifact).mp distinct).2 _ (Fields.mem_of_get found)

/-- The checks in front of the digest are checks of the attested part of the segment. -/
theorem validateSegment_attested {artifact : Fields}
    (distinct : (Json.obj artifact).Distinct = true) :
    validateSegment platform
        (fieldsOf (some (attested (.obj (attestedSegment artifact))))) =
      validateSegment platform artifact := by
  have look (name : String) (listed : name ∈ segmentNames) :
      Fields.get (fieldsOf (some (attested (.obj (attestedSegment artifact))))) (js name) =
        (Fields.get artifact (js name)).map attested := by
    have visible : ∀ name ∈ segmentNames, js name ≠ js "__proto__" := by decide
    rw [get_fieldsOf_attested (distinct_segment distinct) (visible name listed)]
    exact congrArg (Option.map attested) (get_pick artifact listed)
  have inner (name : String) : ∀ json ∈ Fields.get artifact (js name), json.Distinct = true :=
    @distinct_get_fieldsOf (.obj artifact) distinct (js name)
  have gateways := distinct_elementsOf (inner "gateways")
  have compared := distinct_elementsOf (inner "comparedFields")
  simp only [validateSegment, look "artifactType" (by decide),
    look "scriptVersionTag" (by decide), look "generatedAt" (by decide),
    look "gateways" (by decide), look "comparedFields" (by decide), look "summary" (by decide),
    isText_attested, isIsoDateTime_attested, elementsOf_attested, List.length_map,
    List.isEmpty_map, validateGateways_attested gateways, validateComparedFields_attested compared,
    validateSummary_attested (inner "summary")]

/-! ### Changed artifacts -/

/-- The digest of an accepted artifact is the one of its canonical text. -/
theorem digest_of_accepted {artifact : Fields}
    (accepted : validateDigest platform artifact = .ok ()) :
    Fields.get artifact (js "digest") =
      some (.str (expectedAttestationDigest platform artifact)) := by
  rw [validateDigest, then_eq_ok, require_eq_ok, require_eq_ok] at accepted
  have matching := accepted.2
  unfold isText at matching
  split at matching
  next text found =>
    rw [beq_iff_eq] at matching
    rw [found, matching]
  next => cases matching

/-- An artifact that keeps the digest and the signature fields of an accepted one is
accepted exactly when its attested part is the same, whatever else was changed. -/
theorem changed_attestation_accepted_iff {text changedText : JsString} {artifact changed : Fields}
    (read : parse platform.readNumeral text = some (.obj artifact))
    (changedRead : parse platform.readNumeral changedText = some (.obj changed))
    (accepted : validateAttestation platform text = .ok ())
    (sameDigest : Fields.get changed (js "digest") = Fields.get artifact (js "digest"))
    (sameKey : Fields.get changed (js "hmacEnv") = Fields.get artifact (js "hmacEnv"))
    (sameSignature : Fields.get changed (js "hmacSha256") = Fields.get artifact (js "hmacSha256"))
    (collisionFree : platform.sha256Hex (canonicalJson (.obj (attestedSegment changed))) =
        platform.sha256Hex (canonicalJson (.obj (attestedSegment artifact))) →
      canonicalJson (.obj (attestedSegment changed)) =
        canonicalJson (.obj (attestedSegment artifact))) :
    validateAttestation platform changedText = .ok () ↔
      attested (.obj (attestedSegment changed)) = attested (.obj (attestedSegment artifact)) := by
  have distinct := parse_distinct read
  have changedDistinct := parse_distinct changedRead
  simp only [validateAttestation, read, validateArtifact, then_eq_ok] at accepted
  obtain ⟨segmentAccepted, digestAccepted, signatureAccepted⟩ := accepted
  simp only [validateAttestation, changedRead, validateArtifact, then_eq_ok]
  constructor
  · rintro ⟨-, changedDigest, -⟩
    have held := digest_of_accepted digestAccepted
    rw [← sameDigest, digest_of_accepted changedDigest] at held
    have texts : expectedAttestationDigest platform changed =
        expectedAttestationDigest platform artifact := by simpa using held
    exact canonicalJson_eq_iff.mp (collisionFree (List.append_cancel_left texts))
  · intro parts
    have texts := canonicalJson_eq_iff.mpr parts
    refine ⟨?_, ?_, ?_⟩
    · rw [← validateSegment_attested changedDistinct, parts, validateSegment_attested distinct]
      exact segmentAccepted
    · rw [← digestAccepted, validateDigest, validateDigest, sameDigest, expectedAttestationDigest,
        expectedAttestationDigest, texts]
    · rw [← signatureAccepted, validateHmac, validateHmac, sameKey, sameSignature]

section Sample

variable {results : List GatewayResult} {digest : JsString}

/-- The digest that the generator writes. -/
noncomputable def sampleDigest (results : List GatewayResult) : JsString :=
  createDeterministicDigest samplePlatform (canonicalJson (.obj (buildCanonicalSegment results
    (extractComparedFields results) epoch)))

/-- An unsigned artifact with a remark in front. -/
def remarked (results : List GatewayResult) (generatedAt digest : JsString) : Fields :=
  (js "remark", .null) :: artifactOf results generatedAt digest []

theorem parse_remarked (lawful : platform.Lawful)
    (sound : ∀ result ∈ results, SoundResult platform result) (few : results.length ≤ 2 ^ 53)
    (generatedAt : JsString) :
    parse platform.readNumeral (Json.obj (remarked results generatedAt digest)).stringify =
      some (.obj (receivedFields (remarked results generatedAt digest))) := by
  have blank : ∀ unit ∈ ([] : JsString), isJsonSpace unit = true := by simp
  have printable : Printable platform.readNumeral (.obj (remarked results generatedAt digest)) := by
    apply printable_obj
    · show [js "remark", js "artifactType", js "scriptVersionTag", js "generatedAt", js "gateways",
        js "comparedFields", js "summary", js "digest"].Nodup
      decide
    · refine List.forall_mem_cons.mpr ⟨printable_null, fun field member => ?_⟩
      rcases List.mem_append.mp member with attested | last
      · exact segment_printable lawful sound few generatedAt field attested
      · obtain rfl := List.mem_singleton.mp last
        exact (kept_str _).printable
  have named : ∀ key ∈ (remarked results generatedAt digest).map Prod.fst, keyIndex key = none := by
    show ∀ key ∈ [js "remark", js "artifactType", js "scriptVersionTag", js "generatedAt",
      js "gateways", js "comparedFields", js "summary", js "digest"], keyIndex key = none
    decide
  have read := printable.parse blank
  rw [List.append_nil, received_obj named] at read
  exact read

theorem remarked_attestation_accepted : ∃ text changedText artifact changed,
    parse samplePlatform.readNumeral text = some (.obj artifact) ∧
      parse samplePlatform.readNumeral changedText = some (.obj changed) ∧
      Fields.get artifact (js "remark") = none ∧
      Fields.get changed (js "remark") = some .null ∧
      validateAttestation samplePlatform changedText = .ok () := by
  obtain ⟨results, collected, objects⟩ := collectStates_sample
  obtain ⟨length, sound⟩ := collectStates_sound samplePlatform_lawful collected
  have several : 2 ≤ results.length := by
    rw [length]
    decide
  have few : results.length ≤ 2 ^ 53 := by
    rw [length]
    decide
  have epochPrinted : samplePlatform.parseDate (samplePlatform.toISOString 0) = some 0 := rfl
  have dated : isIsoDateTime samplePlatform (some (.str epoch)) = true :=
    isIsoDateTime_now samplePlatform_lawful epochPrinted
  have read : parse samplePlatform.readNumeral
      (writtenText (artifactOf results epoch (sampleDigest results) [])) =
        some (.obj (receivedFields (artifactOf results epoch (sampleDigest results) []))) :=
    parse_writtenText samplePlatform_lawful sound few .unsigned
  have changedRead : parse samplePlatform.readNumeral
      (Json.obj (remarked results epoch (sampleDigest results))).stringify =
        some (.obj (receivedFields (remarked results epoch (sampleDigest results)))) :=
    parse_remarked samplePlatform_lawful sound few epoch
  have accepted : validateAttestation samplePlatform
      (writtenText (artifactOf results epoch (sampleDigest results) [])) = .ok () := by
    rw [validateAttestation, read]
    simp only [validateArtifact]
    rw [then_eq_ok, then_eq_ok, validateSegment_eq_ok, acceptedSegment_iff sound several dated]
    exact ⟨objects, validateDigest_artifact samplePlatform_lawful sound few,
      validateHmac_artifact samplePlatform_lawful .unsigned⟩
  exact ⟨_, _, _, _, read, changedRead, rfl, rfl, (changed_attestation_accepted_iff read changedRead
    accepted rfl rfl rfl fun _ => rfl).mpr rfl⟩

end Sample

end DarkmeshGateway.Operations.Attestation
