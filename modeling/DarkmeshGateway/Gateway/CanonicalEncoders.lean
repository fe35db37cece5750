import DarkmeshGateway.AsyncWorker.Refresh
import DarkmeshGateway.Foundation.Js.Parse
import DarkmeshGateway.Gateway.CanonicalJson
import DarkmeshGateway.SecretsWorker.RouteAssertion

/-!
Contract: the canonical encoders of the gateway and its workers are one
encoder of JSON values.

Owns JSON values, the encoders, and that their texts are equal exactly for
equal values and survive `JSON.parse`.

Does not own the encoders themselves, or the number a numeral denotes.
-/

namespace DarkmeshGateway.Gateway.CanonicalEncoders

open Foundation.Js
open Gateway.CanonicalJson

/-- A JSON value: its numbers are finite, and the keys of an object distinct. -/
structure JsonValue where
  value : Json
  finite : value.AllFinite = true
  distinct : value.Distinct = true

/-- `canonicalizeJson` and the copies of `stableStringify`, which raise nothing. -/
def encoders : List (Json → Except CanonicalJsonError JsString) :=
  [canonicalizeJson,
    fun value => .ok (SecretsWorker.DetachedMessage.stableStringify value),
    fun value => .ok (SecretsWorker.RouteAssertion.stableStringify value),
    fun value => .ok (AsyncWorker.Refresh.stableStringify value)]

/-- Every encoder writes the sorted value. -/
theorem encode_eq {encode : Json → Except CanonicalJsonError JsString} (member : encode ∈ encoders)
    (source : JsonValue) : encode source.value = .ok source.value.canonical.stringify := by
  have copied : SecretsWorker.DetachedMessage.stableStringify source.value =
      source.value.canonical.stringify :=
    SecretsWorker.DetachedMessage.stableStringify_eq source.value
  simp only [encoders, List.mem_cons, List.not_mem_nil, or_false] at member
  rcases member with rfl | rfl | rfl | rfl
  · exact canonicalizeJson_eq_ok.mpr ⟨source.finite, rfl⟩
  · exact congrArg Except.ok copied
  · exact congrArg Except.ok copied
  · exact congrArg Except.ok copied

/-- The text of a value is the text of another exactly when they are equal, which
neither the order of keys nor the sign of zero changes. -/
theorem encode_eq_iff {encode : Json → Except CanonicalJsonError JsString}
    (member : encode ∈ encoders) (left right : JsonValue) :
    encode left.value = encode right.value ↔ left.value.Equal right.value := by
  rw [encode_eq member left, encode_eq member right, Except.ok.injEq,
    Json.equal_iff_same _ _ left.distinct right.distinct]
  constructor
  · exact Json.same_of_canonical_text left.finite right.finite
  · exact congrArg Json.stringify

variable (readNumeral : JsString → Option Number)

/-- The text is parsed as a value of the same text. -/
theorem canonicalizeJson_parse (source : JsonValue)
    (readsBack : ReadsBack readNumeral source.value.numbers) :
    ∃ text parsed, canonicalizeJson source.value = .ok text ∧
      parse readNumeral text = some parsed ∧ canonicalizeJson parsed = .ok text := by
  obtain ⟨parsed, read, finite, sorted⟩ :=
    parse_canonical source.finite source.distinct readsBack
  have encoded : canonicalizeJson source.value = .ok source.value.canonical.stringify :=
    canonicalizeJson_eq_ok.mpr ⟨source.finite, rfl⟩
  have again : canonicalizeJson parsed = .ok source.value.canonical.stringify :=
    canonicalizeJson_eq_ok.mpr ⟨finite, congrArg Json.stringify sorted⟩
  exact ⟨_, parsed, encoded, read, again⟩

/-- The encoders agree, their texts are equal exactly for equal values, and
`canonicalizeJson` gives the parsed text back. -/
theorem encoders_canonical :
    (∀ encode ∈ encoders, ∀ left right : JsonValue,
      encode left.value = encode right.value ↔ left.value.Equal right.value) ∧
    (∀ encode ∈ encoders, ∀ source : JsonValue,
      encode source.value = canonicalizeJson source.value) ∧
    ∀ source : JsonValue, ReadsBack readNumeral source.value.numbers →
      ∃ text parsed, canonicalizeJson source.value = .ok text ∧
        parse readNumeral text = some parsed ∧ canonicalizeJson parsed = .ok text := by
  have listed : canonicalizeJson ∈ encoders := List.mem_cons_self
  refine ⟨fun encode member => encode_eq_iff member, ?_, canonicalizeJson_parse readNumeral⟩
  intro encode member source
  rw [encode_eq member source, encode_eq listed source]

/-! ### Two orders of the same keys -/

/-- `{"b":1,"a":[-0]}`. -/
def written : JsonValue where
  value := .obj [(js "b", .num (.ofInt 1)),
    (js "a", .arr [.num (.finite ⟨true, 0, 0, Decimal.zero_reduced⟩)])]
  finite := by decide
  distinct := by decide

/-- `{"a":[0],"b":1}`. -/
def reordered : JsonValue where
  value := .obj [(js "a", .arr [.num (.ofInt 0)]), (js "b", .num (.ofInt 1))]
  finite := by decide
  distinct := by decide

def readDigit (text : JsString) : Option Number :=
  if text = js "0" then some (.ofInt 0) else if text = js "1" then some (.ofInt 1) else none

theorem written_readsBack : ReadsBack readDigit written.value.numbers := by
  intro decimal member
  have numbers : decimal ∈ [⟨false, 1, 0, Or.inl (by decide)⟩,
      ⟨true, 0, 0, Decimal.zero_reduced⟩] := member
  simp only [List.mem_cons, List.not_mem_nil, or_false] at numbers
  rcases numbers with rfl | rfl
  · decide
  · decide

theorem written_canonical :
    canonicalizeJson written.value = canonicalizeJson reordered.value ∧
      ∃ text parsed, canonicalizeJson written.value = .ok text ∧
        parse readDigit text = some parsed ∧ canonicalizeJson parsed = .ok text := by
  obtain ⟨injective, -, parses⟩ := encoders_canonical readDigit
  have equal : written.value.Equal reordered.value := by
    rw [Json.equal_iff_same _ _ written.distinct reordered.distinct]
    show written.value.canonical = reordered.value.canonical
    rfl
  constructor
  · exact (injective canonicalizeJson List.mem_cons_self written reordered).mpr equal
  · exact parses written written_readsBack

end DarkmeshGateway.Gateway.CanonicalEncoders
