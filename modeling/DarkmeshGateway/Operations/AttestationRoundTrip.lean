import DarkmeshGateway.Foundation.Outcome
import DarkmeshGateway.Foundation.Js.Segment
import DarkmeshGateway.Operations.CanonicalCopy

/-!
Contract: the file the generator writes, in front of the validator.

Owns what an accepted artifact is, the artifact as it is read from its file, and
the condition under which the validator accepts what the generator wrote.

Does not own artifacts that somebody else has written or changed.
-/

namespace DarkmeshGateway.Operations.Attestation

open Foundation.Js
open Foundation.Outcome

variable {platform : Platform}

/-! ### Accepted artifacts -/

@[simp] theorem require_eq_ok {condition : Bool} {reason : JsString} :
    require condition reason = .ok () ↔ condition = true := by
  cases condition <;> simp [require]

/-- What the validator asks of an entry of `gateways`. -/
structure AcceptedGateway (platform : Platform) (gateway : Json) : Prop where
  object : isObject (some gateway) = true
  label : isNonEmptyString (Fields.get (fieldsOf (some gateway)) (js "label")) = true
  url : isHttpUrl platform (Fields.get (fieldsOf (some gateway)) (js "url")) = true
  snapshot : isObject (Fields.get (fieldsOf (some gateway)) (js "snapshot")) = true

/-- What it asks of an entry of `values`. -/
structure AcceptedValue (platform : Platform) (value : Json) : Prop where
  object : isObject (some value) = true
  gateway : isNonEmptyString (Fields.get (fieldsOf (some value)) (js "gateway")) = true
  url : isHttpUrl platform (Fields.get (fieldsOf (some value)) (js "url")) = true
  found : isBoolean (Fields.get (fieldsOf (some value)) (js "found")) = true
  value : (Fields.get (fieldsOf (some value)) (js "value")).isSome = true

def valuesOf (entry : Json) : List Json :=
  elementsOf (Fields.get (fieldsOf (some entry)) (js "values"))

/-- What it asks of an entry of `comparedFields`. -/
structure AcceptedField (platform : Platform) (entry : Json) : Prop where
  object : isObject (some entry) = true
  field : isNonEmptyString (Fields.get (fieldsOf (some entry)) (js "field")) = true
  status : ([js "consensus", js "mismatch", js "invalid"].any fun status =>
    isText status (statusOf entry)) = true
  present : (valuesOf entry).isEmpty = false
  values : ∀ value ∈ valuesOf entry, AcceptedValue platform value

theorem validateGateway_eq_ok {index : Nat} {gateway : Json} :
    validateGateway platform index gateway = .ok () ↔ AcceptedGateway platform gateway := by
  simp only [validateGateway, then_eq_ok, require_eq_ok]
  constructor
  · rintro ⟨object, label, url, snapshot⟩
    exact ⟨object, label, url, snapshot⟩
  · rintro ⟨object, label, url, snapshot⟩
    exact ⟨object, label, url, snapshot⟩

theorem validateGateways_eq_ok {index : Nat} {gateways : List Json} :
    validateGateways platform index gateways = .ok () ↔
      ∀ gateway ∈ gateways, AcceptedGateway platform gateway := by
  induction gateways generalizing index with
  | nil => simp [validateGateways]
  | cons gateway rest inductionHypothesis =>
      rw [validateGateways, then_eq_ok, validateGateway_eq_ok, inductionHypothesis,
        List.forall_mem_cons]

theorem validateValue_eq_ok {place : JsString} {value : Json} :
    validateValue platform place value = .ok () ↔ AcceptedValue platform value := by
  simp only [validateValue, then_eq_ok, require_eq_ok]
  constructor
  · rintro ⟨object, gateway, url, found, present⟩
    exact ⟨object, gateway, url, found, present⟩
  · rintro ⟨object, gateway, url, found, present⟩
    exact ⟨object, gateway, url, found, present⟩

theorem validateValues_eq_ok {place : JsString} {index : Nat} {values : List Json} :
    validateValues platform place index values = .ok () ↔
      ∀ value ∈ values, AcceptedValue platform value := by
  induction values generalizing index with
  | nil => simp [validateValues]
  | cons value rest inductionHypothesis =>
      rw [validateValues, then_eq_ok, validateValue_eq_ok, inductionHypothesis,
        List.forall_mem_cons]

theorem validateComparedField_eq_ok {index : Nat} {entry : Json} :
    validateComparedField platform index entry = .ok () ↔ AcceptedField platform entry := by
  simp only [validateComparedField, then_eq_ok, require_eq_ok, validateValues_eq_ok,
    Bool.not_eq_true']
  constructor
  · rintro ⟨object, field, status, present, values⟩
    exact ⟨object, field, status, present, values⟩
  · rintro ⟨object, field, status, present, values⟩
    exact ⟨object, field, status, present, values⟩

/-- The number of the entries with a status. -/
def statusCount (status : String) (compared : List Json) : Nat :=
  compared.countP fun entry => isText (js status) (statusOf entry)

/-- The counters end at the number of entries of either status. -/
theorem validateComparedFields_eq_ok {index mismatchCount invalidFieldCount : Nat}
    {compared : List Json} {counts : Nat × Nat} :
    validateComparedFields platform index mismatchCount invalidFieldCount compared = .ok counts ↔
      (∀ entry ∈ compared, AcceptedField platform entry) ∧
        counts = (mismatchCount + statusCount "mismatch" compared,
          invalidFieldCount + statusCount "invalid" compared) := by
  induction compared generalizing index mismatchCount invalidFieldCount with
  | nil =>
      simp only [validateComparedFields, Except.ok.injEq, List.not_mem_nil, statusCount]
      constructor
      · rintro rfl
        exact ⟨fun _ member => member.elim, rfl⟩
      · rintro ⟨-, rfl⟩
        rfl
  | cons entry rest inductionHypothesis =>
      rw [validateComparedFields, then_eq_ok, validateComparedField_eq_ok, inductionHypothesis,
        List.forall_mem_cons, and_assoc]
      simp only [statusCount, List.countP_cons, Nat.add_assoc, Nat.add_comm]

/-- What the validator asks of the summary, given what it counted. -/
structure AcceptedSummary (summary : Option Json) (gateways mismatches invalids : Nat) :
    Prop where
  object : isObject summary = true
  gatewayCount : integerOf (Fields.get (fieldsOf summary) (js "gatewayCount")) =
    some (gateways : Int)
  mismatchCount : integerOf (Fields.get (fieldsOf summary) (js "mismatchCount")) =
    some (mismatches : Int)
  invalidFieldCount : integerOf (Fields.get (fieldsOf summary) (js "invalidFieldCount")) =
    some (invalids : Int)

/-- The three ranges follow from the three counts. -/
theorem validateSummary_eq_ok {summary : Option Json} {gateways mismatches invalids : Nat}
    (several : 2 ≤ gateways) :
    validateSummary summary gateways mismatches invalids = .ok () ↔
      AcceptedSummary summary gateways mismatches invalids := by
  simp only [validateSummary, then_eq_ok, require_eq_ok, beq_iff_eq]
  constructor
  · rintro ⟨object, -, -, -, gatewayCount, mismatchCount, invalidFieldCount⟩
    exact ⟨object, gatewayCount, mismatchCount, invalidFieldCount⟩
  · rintro ⟨object, gatewayCount, mismatchCount, invalidFieldCount⟩
    refine ⟨object, ?_, ?_, ?_, gatewayCount, mismatchCount, invalidFieldCount⟩
    · simp [mismatchCount]
    · simp [invalidFieldCount]
    · simp [gatewayCount, several]

/-- What the validator asks of an artifact in front of its digest. -/
structure AcceptedSegment (platform : Platform) (artifact : Fields) : Prop where
  artifactType : isText (js "gateway-integrity-attestation")
    (Fields.get artifact (js "artifactType")) = true
  scriptVersionTag : isText (js "integrity-attestation-v1")
    (Fields.get artifact (js "scriptVersionTag")) = true
  generatedAt : isIsoDateTime platform (Fields.get artifact (js "generatedAt")) = true
  several : 2 ≤ (elementsOf (Fields.get artifact (js "gateways"))).length
  gateways : ∀ gateway ∈ elementsOf (Fields.get artifact (js "gateways")),
    AcceptedGateway platform gateway
  compared : (elementsOf (Fields.get artifact (js "comparedFields"))).isEmpty = false
  comparedFields : ∀ entry ∈ elementsOf (Fields.get artifact (js "comparedFields")),
    AcceptedField platform entry
  summary : AcceptedSummary (Fields.get artifact (js "summary"))
    (elementsOf (Fields.get artifact (js "gateways"))).length
    (statusCount "mismatch" (elementsOf (Fields.get artifact (js "comparedFields"))))
    (statusCount "invalid" (elementsOf (Fields.get artifact (js "comparedFields"))))

theorem validateSegment_eq_ok {artifact : Fields} :
    validateSegment platform artifact = .ok () ↔ AcceptedSegment platform artifact := by
  simp only [validateSegment, then_eq_ok, require_eq_ok, validateGateways_eq_ok,
    decide_eq_true_eq, Bool.not_eq_true']
  simp only [bind_eq_ok, validateComparedFields_eq_ok, Nat.zero_add]
  constructor
  · rintro ⟨artifactType, scriptVersionTag, generatedAt, several, gateways, compared, counts,
      ⟨comparedFields, rfl⟩, summary⟩
    exact ⟨artifactType, scriptVersionTag, generatedAt, several, gateways, compared,
      comparedFields, (validateSummary_eq_ok several).mp summary⟩
  · rintro ⟨artifactType, scriptVersionTag, generatedAt, several, gateways, compared,
      comparedFields, summary⟩
    exact ⟨artifactType, scriptVersionTag, generatedAt, several, gateways, compared, _,
      ⟨comparedFields, rfl⟩, (validateSummary_eq_ok several).mpr summary⟩

/-! ### The runtime -/

/-- Sixty-four digits of lowercase hexadecimal. -/
def IsHex (text : JsString) : Prop :=
  text.length = 64 ∧
    (text.all fun unit => isDigit unit || (97 ≤ unit.toNat && unit.toNat ≤ 102)) = true

/-- What the scripts rely on: an HTTP URL is printed in a form that parses to it, every URL
in one that starts with its protocol, blank text is no date, and digests are printed in
hexadecimal. -/
structure Platform.Lawful (platform : Platform) : Prop where
  integers : ReadsIntegers platform.readNumeral
  reprints : Reprints platform.readNumeral
  reparsed : ∀ {text parsed}, platform.parseUrl text = some parsed →
    isHttpProtocol parsed.protocol = true → platform.parseUrl parsed.href = some parsed
  schemed : ∀ {text parsed}, platform.parseUrl text = some parsed → parsed.protocol <+: parsed.href
  undated : ∀ {text}, trim text = [] → platform.parseDate text = none
  hashed : ∀ text, IsHex (platform.sha256Hex text)
  signed : ∀ key text, IsHex (platform.hmacHex key text)

theorem isDigest_of_isHex {text : JsString} (hex : IsHex text) :
    isDigest (js "sha256:" ++ text) = true := by
  have rest : (js "sha256:" ++ text).drop 7 = text := rfl
  have start : startsWith (js "sha256:" ++ text) (js "sha256:") = true :=
    List.isPrefixOf_iff_prefix.mpr (List.prefix_append _ _)
  rw [isDigest, rest, start, hex.1, hex.2]
  rfl

theorem trim_ne_nil_of_mem {text : JsString} {unit : CodeUnit} (member : unit ∈ text)
    (visible : isWhitespace unit = false) : trim text ≠ [] := by
  intro empty
  have blank := (trim_eq_nil_iff text).mp empty unit member
  rw [visible] at blank
  cases blank

/-- The printed form of an HTTP URL is an HTTP URL. -/
theorem isHttpUrl_href (lawful : platform.Lawful) {text : JsString} {parsed : ParsedUrl}
    (found : platform.parseUrl text = some parsed)
    (http : isHttpProtocol parsed.protocol = true) :
    isHttpUrl platform (some (.str parsed.href)) = true := by
  have inProtocol : (104 : CodeUnit) ∈ parsed.protocol := by
    simp only [isHttpProtocol, Bool.or_eq_true, beq_iff_eq] at http
    rcases http with same | same
    · rw [same]; decide
    · rw [same]; decide
  have visible : trim parsed.href ≠ [] :=
    trim_ne_nil_of_mem ((lawful.schemed found).subset inProtocol) (by decide)
  simp [isHttpUrl, visible, lawful.reparsed found http, http]

/-- A time that is read from its printed form is a timestamp. -/
theorem isIsoDateTime_now (lawful : platform.Lawful) {now : Int}
    (dated : platform.parseDate (platform.toISOString now) = some now) :
    isIsoDateTime platform (some (.str (platform.toISOString now))) = true := by
  have visible : trim (platform.toISOString now) ≠ [] := by
    intro blank
    have nothing := lawful.undated blank
    rw [dated] at nothing
    cases nothing
  simp [isIsoDateTime, visible, dated]

/-! ### What was fetched -/

/-- The checks behind the command line change nothing of it, and it names two gateways
at least. -/
theorem readArgs_of_parseArgs {argv : List JsString} {args : Args}
    (parsed : parseArgs platform argv = .ok args) :
    readArgs argv { urls := [], tokens := [], out := [], hmacEnv := [], allowAnon := false } =
        .ok args ∧ 2 ≤ args.urls.length := by
  unfold parseArgs at parsed
  obtain ⟨given, read, parsed⟩ := bind_eq_ok.mp parsed
  split at parsed
  next => cases parsed
  next several =>
    obtain ⟨urls, -, parsed⟩ := bind_eq_ok.mp parsed
    have same : given = args := by
      split at parsed
      next => cases parsed
      next =>
        split at parsed
        next => cases parsed
        next =>
          split at parsed
          next => cases parsed
          next =>
            split at parsed
            next => cases parsed
            next => exact Except.ok.inj parsed
    rw [← same]
    exact ⟨read, Nat.le_of_not_lt several⟩

/-- A flag adds one URL at most. -/
theorem length_urls_give (args : Args) (flag value : JsString) :
    ((args.give flag value).getD args).urls.length ≤ args.urls.length + 1 := by
  unfold Args.give
  split_ifs <;> simp

theorem length_urls_readArgs {argv : List JsString} {args read : Args}
    (parsed : readArgs argv args = .ok read) :
    read.urls.length ≤ args.urls.length + argv.length := by
  fun_induction readArgs argv args with
  | case1 args =>
      obtain rfl := Except.ok.inj parsed
      exact Nat.le_refl _
  | case3 rest args notHelp inductionHypothesis =>
      have later := inductionHypothesis parsed
      rw [List.length_cons]
      exact later.trans (Nat.add_le_add_left (Nat.le_succ _) _)
  | case8 arg args notHelp notAnonymous taken next others value inductionHypothesis =>
      have later := inductionHypothesis parsed
      have added := length_urls_give args arg next
      rw [List.length_cons, List.length_cons]
      omega
  | _ => cases parsed

/-- What the generator knows of an answer when it builds the artifact. -/
structure SoundResult (platform : Platform) (result : GatewayResult) : Prop where
  label : trim result.label ≠ []
  url : isHttpUrl platform (some (.str result.url)) = true
  snapshot : Printable platform.readNumeral result.snapshot

theorem validateUrl_eq_ok {value url : JsString} (valid : validateUrl platform value = .ok url) :
    ∃ parsed, platform.parseUrl value = some parsed ∧ isHttpProtocol parsed.protocol = true ∧
      url = parsed.href := by
  unfold validateUrl at valid
  split at valid
  next => cases valid
  next parsed found =>
    split at valid
    next http => exact ⟨parsed, found, http, (Except.ok.inj valid).symm⟩
    next => cases valid

theorem fetchState_printable (lawful : platform.Lawful) {network : Network} {index : Nat}
    {url token : JsString} {snapshot : Json}
    (fetched : fetchState platform network index url token = .ok snapshot) :
    Printable platform.readNumeral snapshot := by
  unfold fetchState at fetched
  split at fetched
  next => cases fetched
  next => cases fetched
  next =>
    split at fetched
    next => cases fetched
    next =>
      split at fetched
      next => cases fetched
      next fields parsed =>
        obtain rfl := Except.ok.inj fetched
        exact printable_of_parse lawful.reprints parsed
      next elements parsed =>
        obtain rfl := Except.ok.inj fetched
        exact printable_of_parse lawful.reprints parsed
      next => cases fetched

theorem formatGatewayLabel_visible {url label : JsString} {index : Nat}
    (labelled : formatGatewayLabel platform url index = .ok label) : trim label ≠ [] := by
  unfold formatGatewayLabel at labelled
  split at labelled
  next => cases labelled
  next =>
    obtain rfl := Except.ok.inj labelled
    exact trim_ne_nil_of_mem List.mem_cons_self (by decide)

/-- Every URL is answered by a sound result, in order. -/
theorem collectStates_sound (lawful : platform.Lawful) {environment : Environment}
    {network : Network} {args : Args} {index : Nat} {urls : List JsString}
    {results : List GatewayResult}
    (collected : collectStates platform environment network args index urls = .ok results) :
    results.length = urls.length ∧ ∀ result ∈ results, SoundResult platform result := by
  induction urls generalizing index results with
  | nil =>
      obtain rfl := Except.ok.inj collected
      exact ⟨rfl, fun _ member => absurd member List.not_mem_nil⟩
  | cons raw rest inductionHypothesis =>
      simp only [collectStates] at collected
      obtain ⟨url, validated, collected⟩ := bind_eq_ok.mp collected
      obtain ⟨token, -, collected⟩ := bind_eq_ok.mp collected
      split at collected
      next => cases collected
      next result answered =>
        obtain ⟨others, later, same⟩ := bind_eq_ok.mp collected
        obtain rfl := pure_eq_ok.mp same
        obtain ⟨snapshot, fetched, answered⟩ := bind_eq_ok.mp answered
        obtain ⟨label, labelled, answered⟩ := bind_eq_ok.mp answered
        obtain rfl := pure_eq_ok.mp answered
        obtain ⟨parsed, found, http, rfl⟩ := validateUrl_eq_ok validated
        obtain ⟨length, sound⟩ := inductionHypothesis later
        refine ⟨by rw [List.length_cons, List.length_cons, length], ?_⟩
        refine List.forall_mem_cons.mpr ⟨?_, sound⟩
        exact ⟨formatGatewayLabel_visible labelled, isHttpUrl_href lawful found http,
          fetchState_printable lawful fetched⟩

/-! ### The comparison -/

theorem foldl_push (results : List GatewayResult) (fields : List (String × List String))
    (comparison : Comparison) :
    fields.foldl (fun comparison field => comparison.push (compareField results field)) comparison =
      { comparedFields := comparison.comparedFields ++ fields.map (compareField results)
        mismatchCount := comparison.mismatchCount +
          (fields.map (compareField results)).countP fun entry => entry.status = .mismatch
        invalidFieldCount := comparison.invalidFieldCount +
          (fields.map (compareField results)).countP fun entry => entry.status = .invalid } := by
  induction fields generalizing comparison with
  | nil => simp
  | cons field rest inductionHypothesis =>
      rw [List.foldl_cons, inductionHypothesis]
      simp [Comparison.push, List.countP_cons, Nat.add_assoc, Nat.add_comm]

/-- The counters of the comparison count its entries. -/
theorem extractComparedFields_eq (results : List GatewayResult) :
    extractComparedFields results =
      { comparedFields := comparedFields.map (compareField results)
        mismatchCount := (comparedFields.map (compareField results)).countP fun entry =>
          entry.status = .mismatch
        invalidFieldCount := (comparedFields.map (compareField results)).countP fun entry =>
          entry.status = .invalid } := by
  rw [extractComparedFields, foldl_push]
  simp

theorem getField_printable {readNumeral : JsString → Option Number} {path : List String}
    {snapshot value : Json} (printable : Printable readNumeral snapshot)
    (found : getField snapshot path = some value) : Printable readNumeral value := by
  induction path generalizing snapshot with
  | nil =>
      obtain rfl := Option.some.inj found
      exact printable
  | cons key rest inductionHypothesis =>
      unfold getField at found
      split at found
      next fields =>
        obtain ⟨inner, present, further⟩ := Option.bind_eq_some_iff.mp found
        exact inductionHypothesis (printable.get present) further
      next => cases found

/-! ### Printing the artifact -/

section Printing

variable {results : List GatewayResult}

theorem result_printable {result : GatewayResult} (sound : SoundResult platform result) :
    Printable platform.readNumeral result.toJson := by
  apply printable_obj
  · show [js "label", js "url", js "snapshot"].Nodup
    decide
  · simp only [List.forall_mem_cons]
    exact ⟨(kept_str _).printable, (kept_str _).printable, sound.snapshot, by simp⟩

theorem value_printable {result : GatewayResult} (sound : SoundResult platform result)
    (path : List String) : Printable platform.readNumeral (fieldValue path result).toJson := by
  have value : Printable platform.readNumeral (fieldValue path result).value := by
    cases found : getField result.snapshot path with
    | none => simpa [fieldValue, found] using printable_null
    | some value => simpa [fieldValue, found] using getField_printable sound.snapshot found
  apply printable_obj
  · show [js "gateway", js "url", js "found", js "value"].Nodup
    decide
  · simp only [List.forall_mem_cons]
    exact ⟨(kept_str _).printable, (kept_str _).printable, (kept_bool _).printable, value, by simp⟩

theorem field_printable (sound : ∀ result ∈ results, SoundResult platform result)
    (field : String × List String) :
    Printable platform.readNumeral (compareField results field).toJson := by
  apply printable_obj
  · show [js "field", js "status", js "values"].Nodup
    decide
  · simp only [List.forall_mem_cons]
    refine ⟨(kept_str _).printable, (kept_str _).printable, ?_, by simp⟩
    apply printable_arr
    intro element member
    obtain ⟨entry, listed, rfl⟩ := List.mem_map.mp member
    obtain ⟨result, asked, rfl⟩ := List.mem_map.mp listed
    exact value_printable (sound result asked) field.2

theorem segment_printable (lawful : platform.Lawful)
    (sound : ∀ result ∈ results, SoundResult platform result) (few : results.length ≤ 2 ^ 53)
    (generatedAt : JsString) :
    ∀ field ∈ buildCanonicalSegment results (extractComparedFields results) generatedAt,
      Printable platform.readNumeral field.2 := by
  have counted {value : Nat} (small : value ≤ 2 ^ 53) :
      Printable platform.readNumeral (count value) := by
    have exact : |(value : Int)| ≤ 2 ^ 53 := by
      rw [Nat.abs_cast]
      exact_mod_cast small
    exact (kept_ofInt lawful.integers exact).printable
  have ofFields (status : FieldStatus) :
      (comparedFields.map (compareField results)).countP (fun entry => entry.status = status) ≤
        2 ^ 53 :=
    List.countP_le_length.trans (by rw [List.length_map]; decide)
  simp only [buildCanonicalSegment, extractComparedFields_eq, List.forall_mem_cons]
  refine ⟨(kept_str _).printable, (kept_str _).printable, (kept_str _).printable, ?_, ?_, ?_,
    by simp⟩
  · apply printable_arr
    intro element member
    obtain ⟨result, asked, rfl⟩ := List.mem_map.mp member
    exact result_printable (sound result asked)
  · apply printable_arr
    intro element member
    obtain ⟨entry, listed, rfl⟩ := List.mem_map.mp member
    obtain ⟨field, -, rfl⟩ := List.mem_map.mp listed
    exact field_printable sound field
  · apply printable_obj
    · show [js "mismatchCount", js "invalidFieldCount", js "gatewayCount"].Nodup
      decide
    · simp only [List.forall_mem_cons]
      exact ⟨counted (ofFields _), counted (ofFields _), counted few, by simp⟩

end Printing

/-! ### The artifact as it is read -/

/-- The signature fields, which are there for a signing key only. -/
inductive SignatureFields (platform : Platform) : Fields → Prop where
  | unsigned : SignatureFields platform []
  | signed (name key text : JsString) (visible : trim name ≠ []) :
      SignatureFields platform [(js "hmacEnv", .str name),
        (js "hmacSha256", .str (js "sha256:" ++ platform.hmacHex key text))]

/-- An artifact in front of its file. -/
def artifactOf (results : List GatewayResult) (generatedAt digest : JsString)
    (signature : Fields) : Fields :=
  buildCanonicalSegment results (extractComparedFields results) generatedAt ++
    (js "digest", .str digest) :: signature

theorem buildAttestationArtifact_eq (results : List GatewayResult)
    (generatedAt hmacEnvName hmacSecret : JsString) :
    ∃ signature, SignatureFields platform signature ∧
      buildAttestationArtifact platform results generatedAt hmacEnvName hmacSecret =
        artifactOf results generatedAt (createDeterministicDigest platform (canonicalJson (.obj
          (buildCanonicalSegment results (extractComparedFields results) generatedAt))))
            signature := by
  unfold buildAttestationArtifact
  simp only
  split
  next signs => exact ⟨_, .signed hmacEnvName hmacSecret _ signs.1, rfl⟩
  next => exact ⟨_, .unsigned, rfl⟩

/-- The fields of an artifact as the validator finds them in the file. -/
def receivedFields (fields : Fields) : Fields := fields.map fun field => (field.1, field.2.received)

section Reading

variable {results : List GatewayResult} {generatedAt digest : JsString} {signature : Fields}

theorem artifact_printable (lawful : platform.Lawful)
    (sound : ∀ result ∈ results, SoundResult platform result) (few : results.length ≤ 2 ^ 53)
    (shape : SignatureFields platform signature) :
    Printable platform.readNumeral (.obj (artifactOf results generatedAt digest signature)) := by
  apply printable_obj
  · cases shape with
    | unsigned =>
        show [js "artifactType", js "scriptVersionTag", js "generatedAt", js "gateways",
          js "comparedFields", js "summary", js "digest"].Nodup
        decide
    | signed name key text visible =>
        show [js "artifactType", js "scriptVersionTag", js "generatedAt", js "gateways",
          js "comparedFields", js "summary", js "digest", js "hmacEnv", js "hmacSha256"].Nodup
        decide
  · intro field member
    rcases List.mem_append.mp member with attested | behind
    · exact segment_printable lawful sound few generatedAt field attested
    · rcases List.mem_cons.mp behind with rfl | signing
      · exact (kept_str _).printable
      · cases shape with
        | unsigned => cases signing
        | signed name key text visible =>
            rcases List.mem_cons.mp signing with rfl | last
            · exact (kept_str _).printable
            · obtain rfl := List.mem_singleton.mp last
              exact (kept_str _).printable

theorem received_artifact (shape : SignatureFields platform signature) :
    (Json.obj (artifactOf results generatedAt digest signature)).received =
      .obj (receivedFields (artifactOf results generatedAt digest signature)) := by
  apply received_obj
  cases shape with
  | unsigned =>
      show ∀ key ∈ [js "artifactType", js "scriptVersionTag", js "generatedAt", js "gateways",
        js "comparedFields", js "summary", js "digest"], keyIndex key = none
      decide
  | signed name key text visible =>
      show ∀ key ∈ [js "artifactType", js "scriptVersionTag", js "generatedAt", js "gateways",
        js "comparedFields", js "summary", js "digest", js "hmacEnv", js "hmacSha256"],
          keyIndex key = none
      decide

/-- The text of the file is read as the artifact. -/
theorem parse_writtenText (lawful : platform.Lawful)
    (sound : ∀ result ∈ results, SoundResult platform result) (few : results.length ≤ 2 ^ 53)
    (shape : SignatureFields platform signature) :
    parse platform.readNumeral (writtenText (artifactOf results generatedAt digest signature)) =
      some (.obj (receivedFields (artifactOf results generatedAt digest signature))) := by
  have ending : toWellFormed [10] = [10] := by decide
  have blank : ∀ unit ∈ ([10] : JsString), isJsonSpace unit = true :=
    List.forall_mem_singleton.mpr rfl
  rw [writtenText, Json.toWellFormed_stringify, ending,
    (artifact_printable lawful sound few shape).parse blank, received_artifact shape]

theorem received_result (result : GatewayResult) :
    result.toJson.received = .obj [(js "label", .str result.label), (js "url", .str result.url),
      (js "snapshot", result.snapshot.received)] := by
  have named : ∀ key ∈ [js "label", js "url", js "snapshot"], keyIndex key = none := by decide
  exact received_obj named

theorem received_value (entry : FieldValue) :
    entry.toJson.received = .obj [(js "gateway", .str entry.gateway), (js "url", .str entry.url),
      (js "found", .bool entry.found), (js "value", entry.value.received)] := by
  have named : ∀ key ∈ [js "gateway", js "url", js "found", js "value"], keyIndex key = none := by
    decide
  exact received_obj named

theorem received_field (entry : ComparedField) :
    entry.toJson.received = .obj [(js "field", .str (js entry.field)),
      (js "status", .str entry.status.text),
      (js "values", .arr (entry.values.map fun value => value.toJson.received))] := by
  have named : ∀ key ∈ [js "field", js "status", js "values"], keyIndex key = none := by decide
  have whole : entry.toJson.received = .obj [(js "field", .str (js entry.field)),
      (js "status", .str entry.status.text),
      (js "values", (Json.arr (entry.values.map FieldValue.toJson)).received)] :=
    received_obj named
  rw [whole, received_arr, List.map_map]
  rfl

theorem received_summary (mismatches invalids gateways : Nat) :
    (Json.obj [(js "mismatchCount", count mismatches), (js "invalidFieldCount", count invalids),
      (js "gatewayCount", count gateways)]).received =
        .obj [(js "mismatchCount", count mismatches), (js "invalidFieldCount", count invalids),
          (js "gatewayCount", count gateways)] := by
  have named : ∀ key ∈ [js "mismatchCount", js "invalidFieldCount", js "gatewayCount"],
    keyIndex key = none := by decide
  have counted (value : Nat) : (count value).received = count value := received_ofInt value
  have whole : (Json.obj [(js "mismatchCount", count mismatches),
      (js "invalidFieldCount", count invalids), (js "gatewayCount", count gateways)]).received =
        .obj [(js "mismatchCount", (count mismatches).received),
          (js "invalidFieldCount", (count invalids).received),
          (js "gatewayCount", (count gateways).received)] := received_obj named
  rw [whole, counted, counted, counted]

theorem isObject_received (value : Json) :
    isObject (some value.received) = isObject (some value) := by
  cases value with
  | num number => cases number <;> rfl
  | _ => rfl

/-- An entry is accepted when its snapshot is an object. -/
theorem acceptedGateway_received {result : GatewayResult} (sound : SoundResult platform result) :
    AcceptedGateway platform result.toJson.received ↔
      isObject (some result.snapshot) = true := by
  rw [received_result]
  constructor
  · intro accepted
    have snapshot : isObject (some result.snapshot.received) = true := accepted.snapshot
    rwa [isObject_received] at snapshot
  · intro object
    have label : isNonEmptyString (some (.str result.label)) = true :=
      decide_eq_true sound.label
    have snapshot : isObject (some result.snapshot.received) = true := by
      rwa [isObject_received]
    exact ⟨rfl, label, sound.url, snapshot⟩

theorem acceptedValue_received {result : GatewayResult} (sound : SoundResult platform result)
    (path : List String) :
    AcceptedValue platform (fieldValue path result).toJson.received := by
  rw [received_value]
  have label : isNonEmptyString (some (.str result.label)) = true := decide_eq_true sound.label
  exact ⟨rfl, label, sound.url, rfl, rfl⟩

theorem acceptedField_received (sound : ∀ result ∈ results, SoundResult platform result)
    (asked : results ≠ []) {field : String × List String} (listed : field ∈ comparedFields) :
    AcceptedField platform (compareField results field).toJson.received := by
  have named : ∀ field ∈ comparedFields, isNonEmptyString (some (.str (js field.1))) = true := by
    decide
  have status (status : FieldStatus) : ([js "consensus", js "mismatch", js "invalid"].any
      fun name => isText name (some (.str status.text))) = true := by
    cases status <;> decide
  rw [received_field]
  refine ⟨rfl, named field listed, status _, ?_, ?_⟩
  · obtain ⟨first, others, rfl⟩ := List.exists_cons_of_ne_nil asked
    rfl
  · intro value member
    have inValues : value ∈ ((results.map (fieldValue field.2)).map
        fun entry => entry.toJson.received) := member
    obtain ⟨entry, given, rfl⟩ := List.mem_map.mp inValues
    obtain ⟨result, answered, rfl⟩ := List.mem_map.mp given
    exact acceptedValue_received (sound result answered) field.2

end Reading

/-! ### Acceptance -/

/-- An integer is read off its decimal. -/
theorem trunc_of_toRat {decimal : Decimal} {value : Int} (valued : decimal.toRat = value)
    (whole : decimal.isInteger = true) : decimal.trunc = value := by
  have nonnegative : 0 ≤ decimal.exponent := of_decide_eq_true whole
  obtain ⟨power, same⟩ := Int.eq_ofNat_of_zero_le nonnegative
  have cast : (decimal.trunc : ℚ) = decimal.toRat := by
    rw [Decimal.trunc, Decimal.toRat, if_pos nonnegative, same, zpow_natCast]
    cases decimal.negative <;> simp
  exact_mod_cast cast.trans valued

theorem integerOf_count (value : Nat) : integerOf (some (count value)) = some (value : Int) := by
  obtain ⟨decimal, same, valued, whole, -⟩ := Number.ofInt_eq value
  rw [count, same, integerOf, if_pos whole, trunc_of_toRat valued whole]

/-- The validator finds the statuses that were counted. -/
theorem statusCount_received (status : FieldStatus) (entries : List ComparedField) :
    (entries.map fun entry => entry.toJson.received).countP
        (fun entry => isText status.text (statusOf entry)) =
      entries.countP fun entry => entry.status = status := by
  have same (other : FieldStatus) : isText status.text (some (.str other.text)) =
      decide (other = status) := by
    cases status <;> cases other <;> decide
  rw [List.countP_map]
  apply List.countP_congr
  intro entry _
  have read : statusOf entry.toJson.received = some (.str entry.status.text) := by
    rw [received_field]
    rfl
  rw [Function.comp_apply, read, same]

section Acceptance

variable {results : List GatewayResult} {generatedAt digest : JsString} {signature : Fields}

/-- The checks in front of the digest ask for nothing but objects. -/
theorem acceptedSegment_iff (sound : ∀ result ∈ results, SoundResult platform result)
    (several : 2 ≤ results.length)
    (dated : isIsoDateTime platform (some (.str generatedAt)) = true) :
    AcceptedSegment platform (receivedFields (artifactOf results generatedAt digest signature)) ↔
      ∀ result ∈ results, isObject (some result.snapshot) = true := by
  have gateways : Fields.get (receivedFields (artifactOf results generatedAt digest signature))
      (js "gateways") = some (.arr (results.map fun result => result.toJson.received)) := by
    show some (Json.arr (results.map GatewayResult.toJson)).received = _
    rw [received_arr, List.map_map]
    rfl
  have compared : Fields.get (receivedFields (artifactOf results generatedAt digest signature))
      (js "comparedFields") = some (.arr ((comparedFields.map (compareField results)).map
        fun entry => entry.toJson.received)) := by
    show some (Json.arr ((extractComparedFields results).comparedFields.map
      ComparedField.toJson)).received = _
    rw [extractComparedFields_eq, received_arr, List.map_map]
    rfl
  have summary : Fields.get (receivedFields (artifactOf results generatedAt digest signature))
      (js "summary") = some (.obj [
        (js "mismatchCount", count (extractComparedFields results).mismatchCount),
        (js "invalidFieldCount", count (extractComparedFields results).invalidFieldCount),
        (js "gatewayCount", count results.length)]) := by
    exact congrArg some (received_summary _ _ _)
  have asked : results ≠ [] := by
    rintro rfl
    simp at several
  constructor
  · intro accepted result member
    have entries := accepted.gateways
    rw [gateways] at entries
    exact (acceptedGateway_received (sound result member)).mp
      (entries _ (List.mem_map_of_mem member))
  · intro objects
    refine ⟨rfl, rfl, dated, ?_, ?_, ?_, ?_, ?_⟩
    · rw [gateways]
      simpa [elementsOf] using several
    · rw [gateways]
      intro gateway member
      obtain ⟨result, asked, rfl⟩ := List.mem_map.mp member
      exact (acceptedGateway_received (sound result asked)).mpr (objects result asked)
    · rw [compared]
      rfl
    · rw [compared]
      intro entry member
      obtain ⟨found, listed, rfl⟩ := List.mem_map.mp member
      obtain ⟨field, inFields, rfl⟩ := List.mem_map.mp listed
      exact acceptedField_received sound asked inFields
    · have mismatches := statusCount_received .mismatch (comparedFields.map (compareField results))
      have invalids := statusCount_received .invalid (comparedFields.map (compareField results))
      rw [gateways, compared, summary, elementsOf, elementsOf, List.length_map, statusCount,
        statusCount]
      refine ⟨rfl, integerOf_count _, ?_, ?_⟩
      · refine (integerOf_count _).trans ?_
        rw [extractComparedFields_eq]
        exact congrArg (fun total : Nat => some (total : Int)) mismatches.symm
      · refine (integerOf_count _).trans ?_
        rw [extractComparedFields_eq]
        exact congrArg (fun total : Nat => some (total : Int)) invalids.symm

/-- The digest is the one the validator computes from the file. -/
theorem validateDigest_artifact (lawful : platform.Lawful)
    (sound : ∀ result ∈ results, SoundResult platform result) (few : results.length ≤ 2 ^ 53) :
    validateDigest platform (receivedFields (artifactOf results generatedAt
      (createDeterministicDigest platform (canonicalJson (.obj (buildCanonicalSegment results
        (extractComparedFields results) generatedAt)))) signature)) = .ok () := by
  have names : ∀ key ∈ (buildCanonicalSegment results (extractComparedFields results)
      generatedAt).map Prod.fst, keyIndex key = none := by
    show ∀ key ∈ [js "artifactType", js "scriptVersionTag", js "generatedAt", js "gateways",
      js "comparedFields", js "summary"], keyIndex key = none
    decide
  have printable : Printable platform.readNumeral (.obj (buildCanonicalSegment results
      (extractComparedFields results) generatedAt)) := by
    apply printable_obj
    · show [js "artifactType", js "scriptVersionTag", js "generatedAt", js "gateways",
        js "comparedFields", js "summary"].Nodup
      decide
    · exact segment_printable lawful sound few generatedAt
  have text := canonicalJson_received printable.distinct
  rw [received_obj names] at text
  have hex : isDigest (createDeterministicDigest platform (canonicalJson (.obj
      (buildCanonicalSegment results (extractComparedFields results) generatedAt)))) = true :=
    isDigest_of_isHex (lawful.hashed _)
  have visible : trim (createDeterministicDigest platform (canonicalJson (.obj
      (buildCanonicalSegment results (extractComparedFields results) generatedAt)))) ≠ [] := by
    have letter : isWhitespace 115 = false := by decide
    exact trim_ne_nil_of_mem List.mem_cons_self letter
  rw [validateDigest, then_eq_ok, require_eq_ok, require_eq_ok]
  constructor
  · show (decide _ && isDigest _) = true
    rw [hex, Bool.and_true, decide_eq_true_eq]
    exact visible
  · show (_ == expectedAttestationDigest platform _) = true
    rw [beq_iff_eq, expectedAttestationDigest, createDeterministicDigest, ← text]
    rfl

theorem validateHmac_artifact (lawful : platform.Lawful)
    (shape : SignatureFields platform signature) :
    validateHmac (receivedFields (artifactOf results generatedAt digest signature)) = .ok () := by
  cases shape with
  | unsigned => rfl
  | signed name key text visible =>
      have named : isNonEmptyString (some (.str name)) = true := decide_eq_true visible
      have hex := isDigest_of_isHex (lawful.signed key text)
      have present : Fields.get (receivedFields (artifactOf results generatedAt digest
          [(js "hmacEnv", .str name), (js "hmacSha256", .str (js "sha256:" ++
            platform.hmacHex key text))])) (js "hmacEnv") = some (.str name) := rfl
      rw [validateHmac, if_pos (Or.inl (by rw [present]; rfl)), then_eq_ok, require_eq_ok]
      refine ⟨named, ?_⟩
      show (require (isDigest (js "sha256:" ++ platform.hmacHex key text)) _ : Except Fault Unit) =
        .ok ()
      rw [require_eq_ok]
      exact hex

end Acceptance

/-! ### The round trip -/

/-- A snapshot with one of the compared fields is an object. -/
theorem isObject_of_getField {snapshot value : Json} {key : String} {path : List String}
    (found : getField snapshot (key :: path) = some value) : isObject (some snapshot) = true := by
  cases snapshot with
  | obj fields => rfl
  | _ => cases found

/-- A run that reports no missing field has found objects everywhere. -/
theorem objects_of_exitCode {results : List GatewayResult}
    (complete : exitCode (extractComparedFields results) ≠ 2) :
    ∀ result ∈ results, isObject (some result.snapshot) = true := by
  intro result member
  have clean : (extractComparedFields results).invalidFieldCount = 0 := by
    by_contra missing
    exact complete (if_pos (Nat.pos_of_ne_zero missing))
  rw [extractComparedFields_eq, List.countP_eq_zero] at clean
  have first := clean (compareField results ("policy.paused", ["policy", "paused"]))
    (List.mem_map_of_mem (List.mem_cons_self))
  simp only [compareField, decide_eq_true_eq] at first
  split at first
  next => exact absurd rfl first
  next present =>
    have each : ∀ entry ∈ results.map (fieldValue ["policy", "paused"]), entry.found = true := by
      simpa using present
    have found := each _ (List.mem_map_of_mem member)
    obtain ⟨value, there⟩ := Option.isSome_iff_exists.mp found
    exact isObject_of_getField there

/-- The validator accepts the file of the generator exactly when every gateway has
answered with an object, and always when the generator reports no missing field. The
command line is an array. -/
theorem written_attestation_accepted_iff (lawful : platform.Lawful) {environment : Environment}
    {network : Network} {now : Int} (dated : platform.parseDate (platform.toISOString now) = some now)
    {argv : List JsString} (array : argv.length < 2 ^ 32) {run : Generated}
    (ran : generateAttestation platform environment network now argv = .ok run) :
    (validateAttestation platform run.text = .ok () ↔
      ∀ result ∈ run.results, isObject (some result.snapshot) = true) ∧
    (run.code ≠ 2 → validateAttestation platform run.text = .ok ()) := by
  obtain ⟨args, parsedArgs, ran⟩ := bind_eq_ok.mp ran
  obtain ⟨results, collected, ran⟩ := bind_eq_ok.mp ran
  obtain rfl := pure_eq_ok.mp ran
  obtain ⟨length, sound⟩ := collectStates_sound lawful collected
  obtain ⟨read, several⟩ := readArgs_of_parseArgs parsedArgs
  rw [← length] at several
  have few : results.length ≤ 2 ^ 53 := by
    have given := length_urls_readArgs read
    rw [length]
    simp only [List.length_nil] at given
    omega
  obtain ⟨signature, shape, artifact⟩ := @buildAttestationArtifact_eq platform results
    (platform.toISOString now) args.hmacEnv
    (if args.hmacEnv = [] then [] else environment args.hmacEnv)
  have accepted : validateAttestation platform (writtenText (buildAttestationArtifact platform
      results (platform.toISOString now) args.hmacEnv
        (if args.hmacEnv = [] then [] else environment args.hmacEnv))) = .ok () ↔
      ∀ result ∈ results, isObject (some result.snapshot) = true := by
    rw [artifact, validateAttestation, parse_writtenText lawful sound few shape]
    simp only [validateArtifact]
    rw [then_eq_ok, then_eq_ok, validateSegment_eq_ok,
      acceptedSegment_iff sound several (isIsoDateTime_now lawful dated)]
    exact and_iff_left ⟨validateDigest_artifact lawful sound few, validateHmac_artifact lawful shape⟩
  exact ⟨accepted, fun complete => accepted.mpr (objects_of_exitCode complete)⟩

section Sample

def epoch : JsString := js "1970-01-01T00:00:00.000Z"

/-- Two gateways and the start of the epoch, with digests of one digit. -/
noncomputable def samplePlatform : Platform where
  readNumeral := readPrinted
  parseUrl text :=
    if text = js "http://a/" then some ⟨js "http://a/", js "http:", js "a", js "a"⟩
    else if text = js "http://b/" then some ⟨js "http://b/", js "http:", js "b", js "b"⟩
    else none
  parseDate text := if text = epoch then some 0 else none
  toISOString _ := epoch
  syntaxMessage _ := []
  sha256Hex text := List.replicate 64 (if text.length % 2 = 0 then 48 else 49)
  hmacHex _ text := List.replicate 64 (if text.length % 2 = 0 then 50 else 51)

theorem samplePlatform_lawful : samplePlatform.Lawful where
  integers _ _ := readPrinted_readsBack _
  reprints := reprints_readPrinted
  reparsed := by
    intro text parsed found _
    simp only [samplePlatform] at found ⊢
    split at found
    next => obtain rfl := Option.some.inj found; rfl
    next =>
      split at found
      next => obtain rfl := Option.some.inj found; rfl
      next => cases found
  schemed := by
    intro text parsed found
    simp only [samplePlatform] at found
    split at found
    next => obtain rfl := Option.some.inj found; exact List.isPrefixOf_iff_prefix.mp (by decide)
    next =>
      split at found
      next => obtain rfl := Option.some.inj found; exact List.isPrefixOf_iff_prefix.mp (by decide)
      next => cases found
  undated := by
    intro text blank
    have visible : trim epoch ≠ [] := by decide
    refine if_neg ?_
    rintro rfl
    exact visible blank
  hashed text := by
    refine ⟨List.length_replicate, ?_⟩
    show (List.all (List.replicate 64 (if text.length % 2 = 0 then (48 : CodeUnit) else 49)) _) = true
    split <;> decide
  signed key text := by
    refine ⟨List.length_replicate, ?_⟩
    show (List.all (List.replicate 64 (if text.length % 2 = 0 then (50 : CodeUnit) else 51)) _) = true
    split <;> decide

/-- The second gateway answers with more than the first. -/
def sampleState (url : JsString) : Fields :=
  if url = js "http://a/" then [(js "policy", .obj [(js "paused", .bool true)])]
  else [(js "audit", .null), (js "policy", .obj [(js "paused", .bool true)])]

def sampleNetwork : Network := fun _ url _ =>
  .answered true 200 [] (Json.obj (sampleState url)).stringify

def sampleArgs : Args :=
  { urls := [js "http://a/", js "http://b/"], tokens := [], out := js "out.json", hmacEnv := []
    allowAnon := true }

def sampleLine : List JsString :=
  [js "--url", js "http://a/", js "--url", js "http://b/", js "--out", js "out.json",
    js "--allow-anon"]

theorem sampleState_printable (url : JsString) : Printable readPrinted (.obj (sampleState url)) := by
  refine ⟨?_, readPrinted_readsBack _⟩
  unfold sampleState
  split <;> decide

theorem fetchState_sample (index : Nat) (url token : JsString) :
    fetchState samplePlatform sampleNetwork index url token =
      .ok (Json.obj (sampleState url)).received := by
  have blank : ∀ unit ∈ ([] : JsString), isJsonSpace unit = true := by simp
  have read := (sampleState_printable url).parse blank
  rw [List.append_nil] at read
  have body : (Json.obj (sampleState url)).stringify ≠ [] := List.cons_ne_nil _ _
  have parsed : parse samplePlatform.readNumeral (Json.obj (sampleState url)).stringify =
      some (Json.obj (sampleState url)).received := read
  simp only [fetchState, sampleNetwork]
  rw [if_neg body, parsed]
  rfl

theorem collectStates_sample : ∃ results, collectStates samplePlatform (fun _ => []) sampleNetwork
    sampleArgs 0 sampleArgs.urls = .ok results ∧
      ∀ result ∈ results, isObject (some result.snapshot) = true := by
  have first : validateUrl samplePlatform (js "http://a/") = .ok (js "http://a/") := rfl
  have second : validateUrl samplePlatform (js "http://b/") = .ok (js "http://b/") := rfl
  have anonymous (index : Nat) : resolveToken (fun _ => []) sampleArgs index = .ok [] := rfl
  have firstLabel : formatGatewayLabel samplePlatform (js "http://a/") 0 = .ok (js "#1 a") := rfl
  have secondLabel : formatGatewayLabel samplePlatform (js "http://b/") 1 = .ok (js "#2 b") := rfl
  refine ⟨[⟨js "#1 a", js "http://a/", (Json.obj (sampleState (js "http://a/"))).received⟩,
    ⟨js "#2 b", js "http://b/", (Json.obj (sampleState (js "http://b/"))).received⟩], ?_, ?_⟩
  · simp only [sampleArgs] at anonymous ⊢
    simp only [collectStates, first, second, anonymous, fetchState_sample, firstLabel, secondLabel,
      bind, Except.bind, pure, Except.pure]
  · intro result member
    rcases List.mem_cons.mp member with rfl | last
    · rfl
    · obtain rfl := List.mem_singleton.mp last
      rfl

theorem sample_attestation_accepted : ∃ run,
    generateAttestation samplePlatform (fun _ => []) sampleNetwork 0 sampleLine = .ok run ∧
      validateAttestation samplePlatform run.text = .ok () := by
  have parsed : parseArgs samplePlatform sampleLine = .ok sampleArgs := rfl
  obtain ⟨results, collected, objects⟩ := collectStates_sample
  have ran : generateAttestation samplePlatform (fun _ => []) sampleNetwork 0 sampleLine = .ok
      { results
        out := js "out.json"
        text := writtenText (buildAttestationArtifact samplePlatform results epoch [] [])
        code := exitCode (extractComparedFields results) } := by
    rw [generateAttestation, parsed]
    show (collectStates samplePlatform (fun _ => []) sampleNetwork sampleArgs 0 sampleArgs.urls >>=
      fun _ => _) = _
    rw [collected]
    rfl
  exact ⟨_, ran, (written_attestation_accepted_iff samplePlatform_lawful rfl (by decide) ran).1.mpr objects⟩

end Sample

end DarkmeshGateway.Operations.Attestation
