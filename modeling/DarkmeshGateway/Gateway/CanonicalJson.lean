import DarkmeshGateway.Foundation.Js.Stringify
import DarkmeshGateway.Foundation.Outcome

/-!
Contract: the canonical text of a JSON value.

Owns the encoder, the error it raises with its path, and that its texts are
those of the sorted values and determine them.

Does not own cycles, sparse arrays and objects with a prototype of their own,
which no JSON value has.
-/

namespace DarkmeshGateway.Gateway.CanonicalJson

open Foundation.Js
open Foundation.Outcome

/-- `canonical_json_invalid_number`, the one error a JSON value raises. -/
structure CanonicalJsonError where
  path : JsString
  message : JsString
deriving DecidableEq

/-- `/^[A-Za-z_$]$/`. -/
def isIdentifierStart (unit : CodeUnit) : Bool :=
  let code := unit.toNat
  (65 ≤ code && code ≤ 90) || (97 ≤ code && code ≤ 122) || code == 95 || code == 36

/-- A property step of a path: dotted for an identifier, else quoted in brackets. -/
def formatPathSegment (key : JsString) : JsString :=
  if key.head?.any isIdentifierStart &&
      key.all fun unit => isIdentifierStart unit || isDigit unit then 46 :: key
  else 91 :: (quote key ++ [93])

def invalidNumber (path : JsString) : CanonicalJsonError :=
  { path, message := js "canonical json requires finite numbers at " ++ path }

/-- A sorted property with its encoded value. -/
def encodeProperty (entry : JsString × Except CanonicalJsonError JsString) :
    Except CanonicalJsonError JsString := do
  let text ← entry.2
  return quote entry.1 ++ 58 :: text

mutual

def encodeCanonicalJsonValue (path : JsString) : Json → Except CanonicalJsonError JsString
  | .null => .ok (js "null")
  | .bool value => .ok (if value then js "true" else js "false")
  | .num value =>
      if value.isFinite then .ok (Json.num value).stringify else .error (invalidNumber path)
  | .str value => .ok (Json.str value).stringify
  | .arr elements => do
      let parts ← encodeElements path 0 elements
      return 91 :: (List.intercalate [44] parts ++ [93])
  | .obj fields => do
      let parts ← (sortByKey (encodeEntries path fields)).mapM encodeProperty
      return 123 :: (List.intercalate [44] parts ++ [125])

def encodeElements (path : JsString) (index : Nat) :
    List Json → Except CanonicalJsonError (List JsString)
  | [] => .ok []
  | value :: rest => do
      let text ← encodeCanonicalJsonValue (path ++ 91 :: (decimalDigits index ++ [93])) value
      let texts ← encodeElements path (index + 1) rest
      return text :: texts

/-- Each key with its encoded value, in the order of the object. -/
def encodeEntries (path : JsString) :
    Fields → List (JsString × Except CanonicalJsonError JsString)
  | [] => []
  | (key, value) :: rest =>
      (key, encodeCanonicalJsonValue (path ++ formatPathSegment key) value) ::
        encodeEntries path rest

end

def canonicalizeJson (value : Json) : Except CanonicalJsonError JsString :=
  encodeCanonicalJsonValue (js "$") value

/-! ### Canonical texts -/

private theorem mapM_encodeProperty_ok (fields : Fields) :
    (fields.map fun field => (field.1, (.ok field.2.stringify :
      Except CanonicalJsonError JsString))).mapM encodeProperty =
        .ok (fields.map fun field => quote field.1 ++ 58 :: field.2.stringify) := by
  induction fields with
  | nil => rfl
  | cons field rest inductionHypothesis =>
      rw [List.map_cons, List.mapM_cons, inductionHypothesis]
      rfl

mutual

/-- A value without infinities is encoded as the text of its sorted value. -/
theorem encodeCanonicalJsonValue_finite (path : JsString) : (value : Json) →
    value.AllFinite = true → encodeCanonicalJsonValue path value = .ok value.canonical.stringify
  | .null, _ => rfl
  | .bool _, _ => rfl
  | .str _, _ => rfl
  | .num (.finite decimal), _ => by
      simp [encodeCanonicalJsonValue, Json.canonical, Number.dropZeroSign, Json.stringify,
        Number.isFinite, Number.toString, Decimal.toString_dropZeroSign]
  | .num .nan, finite => by simp [Json.AllFinite, Number.isFinite] at finite
  | .num (.infinity _), finite => by simp [Json.AllFinite, Number.isFinite] at finite
  | .arr elements, finite => by
      rw [encodeCanonicalJsonValue, encodeElements_finite path 0 elements finite, Json.canonical,
        Json.stringify, stringifyElements_eq]
      rfl
  | .obj fields, finite => by
      rw [encodeCanonicalJsonValue, encodeEntries_finite path fields finite,
        sortByKey_map fun value : Json => (.ok value.stringify : Except CanonicalJsonError JsString),
        mapM_encodeProperty_ok, Json.canonical, Json.stringify, stringifyFields_eq]
      rfl

theorem encodeElements_finite (path : JsString) (index : Nat) : (elements : List Json) →
    elementsFinite elements = true →
    encodeElements path index elements = .ok ((canonicalElements elements).map Json.stringify)
  | [], _ => rfl
  | value :: rest, finite => by
      simp only [elementsFinite, Bool.and_eq_true] at finite
      rw [encodeElements, encodeCanonicalJsonValue_finite _ value finite.1,
        encodeElements_finite path (index + 1) rest finite.2, canonicalElements, List.map_cons]
      rfl

theorem encodeEntries_finite (path : JsString) : (fields : Fields) →
    fieldsFinite fields = true →
    encodeEntries path fields =
      (canonicalFields fields).map fun field => (field.1, .ok field.2.stringify)
  | [], _ => rfl
  | (key, value) :: rest, finite => by
      simp only [fieldsFinite, Bool.and_eq_true] at finite
      rw [encodeEntries, encodeCanonicalJsonValue_finite _ value finite.1,
        encodeEntries_finite path rest finite.2, canonicalFields, List.map_cons]

end

/-! ### Infinities -/

private theorem mapM_encodeProperty_eq_ok
    {entries : List (JsString × Except CanonicalJsonError JsString)} {parts : List JsString}
    (encoded : entries.mapM encodeProperty = .ok parts) :
    ∀ entry ∈ entries, ∃ text, entry.2 = .ok text := by
  induction entries generalizing parts with
  | nil => simp
  | cons head rest inductionHypothesis =>
      simp only [List.mapM_cons, bind_eq_ok] at encoded
      obtain ⟨_, headEncoded, others, restEncoded, -⟩ := encoded
      intro entry member
      rcases List.mem_cons.mp member with rfl | later
      · simp only [encodeProperty, bind_eq_ok] at headEncoded
        obtain ⟨text, found, -⟩ := headEncoded
        exact ⟨text, found⟩
      · exact inductionHypothesis restEncoded entry later

mutual

/-- An encoded value has no infinities. -/
theorem finite_of_encoded : (path : JsString) → (value : Json) → (text : JsString) →
    encodeCanonicalJsonValue path value = .ok text → value.AllFinite = true
  | _, .null, _, _ => rfl
  | _, .bool _, _, _ => rfl
  | _, .str _, _, _ => rfl
  | path, .num value, text, encoded => by
      unfold encodeCanonicalJsonValue at encoded
      split at encoded
      next finite => exact finite
      next => exact absurd encoded (by simp)
  | path, .arr elements, text, encoded => by
      simp only [encodeCanonicalJsonValue, bind_eq_ok] at encoded
      obtain ⟨parts, elementsEncoded, -⟩ := encoded
      exact elementsFinite_of_encoded path 0 elements parts elementsEncoded
  | path, .obj fields, text, encoded => by
      simp only [encodeCanonicalJsonValue, bind_eq_ok] at encoded
      obtain ⟨parts, sorted, -⟩ := encoded
      apply fieldsFinite_of_encoded path fields
      intro entry member
      apply mapM_encodeProperty_eq_ok sorted
      exact (List.perm_insertionSort _ _).mem_iff.mpr member

theorem elementsFinite_of_encoded : (path : JsString) → (index : Nat) → (elements : List Json) →
    (parts : List JsString) → encodeElements path index elements = .ok parts →
    elementsFinite elements = true
  | _, _, [], _, _ => rfl
  | path, index, value :: rest, parts, encoded => by
      simp only [encodeElements, bind_eq_ok] at encoded
      obtain ⟨text, valueEncoded, texts, restEncoded, -⟩ := encoded
      simp only [elementsFinite, Bool.and_eq_true]
      exact ⟨finite_of_encoded _ value text valueEncoded,
        elementsFinite_of_encoded path (index + 1) rest texts restEncoded⟩

theorem fieldsFinite_of_encoded : (path : JsString) → (fields : Fields) →
    (∀ entry ∈ encodeEntries path fields, ∃ text, entry.2 = .ok text) →
    fieldsFinite fields = true
  | _, [], _ => rfl
  | path, (key, value) :: rest, encoded => by
      simp only [encodeEntries, List.mem_cons, forall_eq_or_imp] at encoded
      obtain ⟨⟨text, valueEncoded⟩, restEncoded⟩ := encoded
      simp only [fieldsFinite, Bool.and_eq_true]
      exact ⟨finite_of_encoded _ value text valueEncoded,
        fieldsFinite_of_encoded path rest restEncoded⟩

end

/-- The encoder succeeds on the values without infinities, with the text of the
sorted value. -/
theorem canonicalizeJson_eq_ok {value : Json} {text : JsString} :
    canonicalizeJson value = .ok text ↔
      value.AllFinite = true ∧ value.canonical.stringify = text := by
  constructor
  · intro encoded
    have finite := finite_of_encoded _ value text encoded
    refine ⟨finite, ?_⟩
    rw [canonicalizeJson, encodeCanonicalJsonValue_finite _ value finite] at encoded
    exact Except.ok.inj encoded
  · rintro ⟨finite, rfl⟩
    exact encodeCanonicalJsonValue_finite _ value finite

/-- Values with one canonical text are the same. -/
theorem canonicalizeJson_unique {left right : Json} {text : JsString}
    (leftEncoded : canonicalizeJson left = .ok text)
    (rightEncoded : canonicalizeJson right = .ok text) : Json.Same left right := by
  obtain ⟨leftFinite, leftText⟩ := canonicalizeJson_eq_ok.mp leftEncoded
  obtain ⟨rightFinite, rightText⟩ := canonicalizeJson_eq_ok.mp rightEncoded
  exact Json.same_of_canonical_text leftFinite rightFinite (leftText.trans rightText.symm)

end DarkmeshGateway.Gateway.CanonicalJson
