import DarkmeshGateway.Foundation.Js.Segment
import DarkmeshGateway.Gateway.AnalyticsEvent

/-!
Contract: the policy that an analytics event is checked against.

Owns the sensitive keys, the limits on tags and on the size of an event, and
which keys of a payload an accepted event has been checked for.

Does not own the normalisation of an event.
-/

namespace DarkmeshGateway.Gateway.AnalyticsPolicy

open Foundation.Js
open Gateway.AnalyticsEvent

/-! ### The policy -/

def defaultAnalyticsSensitiveKeys : List JsString :=
  [js "password", js "passwd", js "pwd", js "token", js "access_token", js "refresh_token",
    js "secret", js "client_secret", js "auth", js "authorization", js "proxy-authorization",
    js "x-auth-token", js "x-auth-header", js "api-key", js "x-api-key", js "cookie",
    js "set-cookie"]

structure AnalyticsValidationOptions extends AnalyticsEventNormalizationOptions where
  maxEventBytes : Option Number := none
  maxTags : Option Number := none
  denylistKeys : List Raw := []

/-- `key.toLowerCase().replace(/[^a-z0-9]/g, '')`. -/
def normalizeSensitiveKey (key : JsString) : JsString := (toLowerCase key).filter isNameUnit

/-- The normal form of a configured key, unless it is no string or has none. -/
def configuredKey : Raw → Option JsString
  | .text key => if normalizeSensitiveKey key = [] then none else some (normalizeSensitiveKey key)
  | _ => none

def buildSensitiveKeySet (extraKeys : List Raw) : List JsString :=
  defaultAnalyticsSensitiveKeys.map normalizeSensitiveKey ++ extraKeys.filterMap configuredKey

/-- The first key that the list denies; an empty one is not reported. -/
def firstSensitiveKey (payload : Fields) (denylist : List JsString) : Option JsString :=
  ((payload.map Prod.fst).find? fun key => decide (normalizeSensitiveKey key ∈ denylist)).filter
    (· ≠ [])

/-- The bytes of the text of an event, which no lone surrogate is in. -/
def estimateEventBytes (event : NormalizedAnalyticsEvent) : Nat :=
  utf8Length event.toJson.stringify

/-- `${left}/${right}` in brackets. -/
def ratio (left right : Int) : JsString :=
  js "(" ++ (Number.ofInt left).toString ++ js "/" ++ (Number.ofInt right).toString ++ js ")"

/-- `none` is a thrown error. -/
def validateAnalyticsEvent (platform : Platform) (payload : Raw)
    (options : AnalyticsValidationOptions) : Option (Except JsString NormalizedAnalyticsEvent) := do
  let parsed ← parseAnalyticsEventEnvelope platform payload
    options.toAnalyticsEventNormalizationOptions
  match parsed with
  | .error error => return .error error
  | .ok event =>
      let maxTags := clampInteger options.maxTags 24 0 256
      let tagsCount : Int := event.tags.length
      let denylist := buildSensitiveKeySet options.denylistKeys
      let maxEventBytes := clampInteger options.maxEventBytes 8192 64 1048576
      let bytes : Int := estimateEventBytes event
      if tagsCount > maxTags then
        return .error (js "event tags exceed max tags " ++ ratio tagsCount maxTags)
      else
        match firstSensitiveKey event.tags denylist with
        | some key =>
            return .error (js "event tags contain sensitive key \"" ++ key ++ js "\"")
        | none =>
            match firstSensitiveKey event.metadata denylist with
            | some key =>
                return .error (js "event metadata contain sensitive key \"" ++ key ++ js "\"")
            | none =>
                if bytes > maxEventBytes then
                  return .error (js "event exceeds max event size bytes " ++
                    ratio bytes maxEventBytes)
                else return .ok event

/-- The normal form of the key is a default or a configured one. -/
def Sensitive (options : AnalyticsValidationOptions) (key : JsString) : Prop :=
  normalizeSensitiveKey key ∈ buildSensitiveKeySet options.denylistKeys

/-! ### Normal forms of keys -/

/-- No denied form is empty. -/
theorem nil_not_denied (extraKeys : List Raw) : [] ∉ buildSensitiveKeySet extraKeys := by
  intro denied
  rcases List.mem_append.mp denied with default | configured
  · revert default
    decide +kernel
  · obtain ⟨raw, -, isKey⟩ := List.mem_filterMap.mp configured
    cases raw with
    | text key =>
        by_cases empty : normalizeSensitiveKey key = []
        · rw [configuredKey, if_pos empty] at isKey
          cases isKey
        · rw [configuredKey, if_neg empty] at isKey
          exact empty (Option.some.inj isKey)
    | _ => cases isKey

theorem normalizeSensitiveKey_append (left right : JsString) :
    normalizeSensitiveKey (left ++ right) =
      normalizeSensitiveKey left ++ normalizeSensitiveKey right := by
  rw [normalizeSensitiveKey, toLowerCase, List.flatMap_append, List.filter_append]
  rfl

private theorem normalizeSensitiveKey_space {unit : CodeUnit} (space : isWhitespace unit = true) :
    normalizeSensitiveKey [unit] = [] := by
  simp only [isWhitespace, Bool.or_eq_true, Bool.and_eq_true, decide_eq_true_eq, beq_iff_eq]
    at space
  have notCapital : ¬(65 ≤ unit.toNat ∧ unit.toNat ≤ 90) := by omega
  have notKelvin : unit.toNat ≠ 0x212A := by omega
  have notDotted : unit.toNat ≠ 0x0130 := by omega
  have notName : isNameUnit unit = false := by
    simp only [isNameUnit, isDigit, Bool.or_eq_false_iff, Bool.and_eq_false_iff,
      decide_eq_false_iff_not]
    omega
  simp [normalizeSensitiveKey, toLowerCase, lowerUnit, notCapital, notKelvin, notDotted, notName]

/-- Nothing is left of a blank text. -/
theorem normalizeSensitiveKey_blank {text : JsString} (blank : Blank text) :
    normalizeSensitiveKey text = [] := by
  induction text with
  | nil => rfl
  | cons unit rest inductionHypothesis =>
      have first := normalizeSensitiveKey_space (blank unit List.mem_cons_self)
      have others := inductionHypothesis fun other later =>
        blank other (List.mem_cons_of_mem unit later)
      rw [← List.singleton_append, normalizeSensitiveKey_append, first, others, List.nil_append]

/-- Trimming a key does not change its normal form. -/
theorem normalizeSensitiveKey_trim (key : JsString) :
    normalizeSensitiveKey (trim key) = normalizeSensitiveKey key := by
  obtain ⟨front, rear, frontBlank, rearBlank, whole⟩ := trim_between key
  have same := congrArg normalizeSensitiveKey whole
  rw [normalizeSensitiveKey_append, normalizeSensitiveKey_append,
    normalizeSensitiveKey_blank frontBlank, normalizeSensitiveKey_blank rearBlank, List.nil_append,
    List.append_nil] at same
  exact same.symm

/-! ### What an accepted event was checked for -/

/-- Fields without a sensitive key to report have no sensitive key. -/
theorem not_sensitive_of_none {options : AnalyticsValidationOptions} {fields : Fields}
    (clean : firstSensitiveKey fields (buildSensitiveKeySet options.denylistKeys) = none) :
    ∀ key ∈ fields.map Prod.fst, ¬Sensitive options key := by
  intro key member sensitive
  rw [firstSensitiveKey, Option.filter_eq_none_iff] at clean
  cases found : (fields.map Prod.fst).find? fun key =>
      decide (normalizeSensitiveKey key ∈ buildSensitiveKeySet options.denylistKeys) with
  | none =>
      have none := List.find?_eq_none.mp found key member
      exact none (decide_eq_true sensitive)
  | some first =>
      have denied := List.find?_some found
      have empty : first = [] := by simpa using clean first found
      rw [decide_eq_true_eq, empty] at denied
      exact nil_not_denied _ denied

/-- What an accepted event is. -/
structure Validated (platform : Platform) (payload : Raw) (options : AnalyticsValidationOptions)
    (event : NormalizedAnalyticsEvent) : Prop where
  enveloped : Enveloped platform payload options.toAnalyticsEventNormalizationOptions event
  tags : ∀ key ∈ event.tags.map Prod.fst, ¬Sensitive options key
  metadata : ∀ key ∈ event.metadata.map Prod.fst, ¬Sensitive options key

theorem validated {platform : Platform} {payload : Raw} {options : AnalyticsValidationOptions}
    {event : NormalizedAnalyticsEvent}
    (accepted : validateAnalyticsEvent platform payload options = some (.ok event)) :
    Validated platform payload options event := by
  obtain ⟨parsed, envelope, checked⟩ := Option.bind_eq_some_iff.mp accepted
  cases parsed with
  | error error => cases checked
  | ok made =>
      simp only at checked
      split at checked
      next => cases checked
      next =>
        split at checked
        next => cases checked
        next cleanTags =>
          split at checked
          next => cases checked
          next cleanMetadata =>
            split at checked
            next => cases checked
            next =>
              obtain rfl := Except.ok.inj (Option.some.inj checked)
              exact ⟨enveloped envelope, not_sensitive_of_none cleanTags,
                not_sensitive_of_none cleanMetadata⟩

/-- A key of the input that fits is not sensitive when the stored ones are not,
the setter's apart. -/
theorem not_sensitive_raw {platform : Platform} {options : AnalyticsValidationOptions}
    {input : Raw} {fields : Fields}
    (normalized : normalizeAnalyticsFields platform options.toAnalyticsEventNormalizationOptions
      input = some fields)
    (clean : ∀ key ∈ fields.map Prod.fst, ¬Sensitive options key) {entry : JsString × Raw}
    (member : entry ∈ input.entries)
    (fits : (trim entry.1).length ≤ options.maxKeyLength.toNat)
    (plain : trim entry.1 ≠ js "__proto__") : ¬Sensitive options entry.1 := by
  have stored : storedKey options.toAnalyticsEventNormalizationOptions entry.1 = trim entry.1 :=
    List.take_of_length_le fits
  intro sensitive
  rw [Sensitive, ← normalizeSensitiveKey_trim] at sensitive
  by_cases empty : trim entry.1 = []
  · rw [empty] at sensitive
    exact nil_not_denied _ sensitive
  · have key := storedKey_mem normalized member (by rwa [stored]) (by rwa [stored])
    rw [stored] at key
    exact clean _ key sensitive

/-- An accepted event has no sensitive key, nor has its payload one at the top of
its tags or metadata that fits into the maximum length, the setter's apart. -/
theorem accepted_event_not_sensitive {platform : Platform} {payload : Raw}
    {options : AnalyticsValidationOptions} {event : NormalizedAnalyticsEvent}
    (accepted : validateAnalyticsEvent platform payload options = some (.ok event)) :
    (∀ key ∈ event.tags.map Prod.fst ++ event.metadata.map Prod.fst, ¬Sensitive options key) ∧
      ∀ part ∈ ["tags", "metadata"], ∀ entry ∈ (payload.read part).entries,
        (trim entry.1).length ≤ options.maxKeyLength.toNat → trim entry.1 ≠ js "__proto__" →
          ¬Sensitive options entry.1 := by
  have checked := validated accepted
  constructor
  · intro key member
    rcases List.mem_append.mp member with tag | described
    · exact checked.tags key tag
    · exact checked.metadata key described
  · intro part isPart entry member fits plain
    rcases List.mem_pair.mp isPart with rfl | rfl
    · exact not_sensitive_raw checked.enveloped.tags checked.tags member fits plain
    · exact not_sensitive_raw checked.enveloped.metadata checked.metadata member fits plain

/-- The engine at the start of its clock, for records that hold one token. -/
def samplePlatform : Platform where
  stringify := fun _ => some (js "\x7b\"token\":\"x\"\x7d")
  string := fun _ => some (js "[object Object]")
  dateParse := fun _ => none
  toISOString := fun _ => some (js "1970-01-01T00:00:00.000Z")
  now := 0

/-- A payload with tags. -/
def tagged (tags : List (JsString × Raw)) : Raw :=
  .record [(js "event", .text (js "gateway.request")), (js "tags", .record tags)]

/-- The event it is accepted as. -/
def taggedEvent (tags : Fields) : NormalizedAnalyticsEvent :=
  ⟨js "gateway.request", js "1970-01-01T00:00:00.000Z", tags, []⟩

/-- A payload with two tags and metadata, under a denylist of its own. -/
def describedTags : List (JsString × Raw) :=
  [(js " region ", .text (js "eu")), (js "plan", .text (js "pro"))]

def describedPayload : Raw :=
  .record [(js "event", .text (js "gateway.request")), (js "tags", .record describedTags),
    (js "metadata", .record [(js "path", .text (js "/"))])]

def denying : AnalyticsValidationOptions where
  denylistKeys := [.text (js "Internal-Id")]

theorem region_not_sensitive :
    (∀ key ∈ [js "region", js "plan", js "path"], ¬Sensitive denying key) ∧
      ∀ entry ∈ describedTags, ¬Sensitive denying entry.1 := by
  have accepted : validateAnalyticsEvent samplePlatform describedPayload denying =
      some (.ok ⟨js "gateway.request", js "1970-01-01T00:00:00.000Z",
        [(js "region", .str (js "eu")), (js "plan", .str (js "pro"))],
        [(js "path", .str (js "/"))]⟩) := by
    decide +kernel
  obtain ⟨emitted, raw⟩ := accepted_event_not_sensitive accepted
  refine ⟨emitted, ?_⟩
  have fits : ∀ entry ∈ describedTags,
      (trim entry.1).length ≤ denying.maxKeyLength.toNat ∧ trim entry.1 ≠ js "__proto__" := by
    simp only [describedTags, List.forall_mem_cons]
    exact ⟨⟨by decide, by decide⟩, ⟨by decide, by decide⟩, by simp⟩
  intro entry member
  obtain ⟨short, plain⟩ := fits entry member
  exact raw "tags" (by decide) entry member short plain

/-- A key is sensitive, and one of the tags at some depth. -/
def Leaks (options : AnalyticsValidationOptions) (tags : List (JsString × Raw)) : Prop :=
  ∃ key, Raw.HasKey (.record tags) key ∧ Sensitive options key

/-- Accepted all the same: a nested key, one that is cut before it is checked,
and the one that the setter takes. -/
theorem unchecked_keys_accepted :
    (∃ tags, Leaks {} tags ∧ validateAnalyticsEvent samplePlatform (tagged tags) {} =
      some (.ok (taggedEvent [(js "context", .str (js "\x7b\"token\":\"x\"\x7d"))]))) ∧
    (∃ tags, Leaks {} tags ∧ validateAnalyticsEvent samplePlatform (tagged tags) {} =
      some (.ok (taggedEvent [(List.replicate 64 45, .str (js "x"))]))) ∧
    ∃ tags, Leaks { denylistKeys := [.text (js "proto")] } tags ∧
      validateAnalyticsEvent samplePlatform (tagged tags)
        { denylistKeys := [.text (js "proto")] } = some (.ok (taggedEvent [])) := by
  refine ⟨⟨[(js "context", .record [(js "token", .text (js "x"))])], ?_, ?_⟩,
    ⟨[(List.replicate 64 45 ++ js "token", .text (js "x"))], ?_, ?_⟩,
    ⟨[(js "__proto__", .text (js "x"))], ?_, ?_⟩⟩
  · refine ⟨js "token", .field List.mem_cons_self (.own List.mem_cons_self), ?_⟩
    rw [Sensitive]
    decide +kernel
  · decide +kernel
  · refine ⟨_, .own List.mem_cons_self, ?_⟩
    rw [Sensitive]
    decide +kernel
  · decide +kernel
  · refine ⟨_, .own List.mem_cons_self, ?_⟩
    rw [Sensitive]
    decide +kernel
  · decide +kernel

end DarkmeshGateway.Gateway.AnalyticsPolicy
