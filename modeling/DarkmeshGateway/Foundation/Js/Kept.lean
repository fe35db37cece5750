import DarkmeshGateway.Foundation.Js.Double
import DarkmeshGateway.Foundation.Js.Reread

/-!
Contract: values that arrive as they were sent.

Owns the values that are read from their text unchanged, and how such values
are put together.

Does not own the number a numeral denotes, which is a parameter.
-/

namespace DarkmeshGateway.Foundation.Js

/-- What is read from the text of the value is the value. -/
structure Kept (readNumeral : JsString → Option Number) (value : Json) : Prop where
  steady : value.reread.ordered = value
  distinct : value.Distinct = true
  readsBack : ReadsBack readNumeral value.numbers

/-- A reader that knows every numeral that is printed. -/
noncomputable def readPrinted (text : JsString) : Option Number :=
  open Classical in
  if printed : ∃ decimal : Decimal, decimal.toString = text then
    some (.finite printed.choose.dropZeroSign)
  else none

theorem readPrinted_readsBack (decimals : List Decimal) : ReadsBack readPrinted decimals := by
  intro decimal _
  have printed : ∃ other : Decimal, other.toString = decimal.toString := ⟨decimal, rfl⟩
  rw [readPrinted, dif_pos printed, Decimal.toString_injective printed.choose_spec]

/-- An integer has no sign of zero to lose. -/
theorem steady_ofInt (value : Int) :
    (Json.num (.ofInt value)).reread.ordered = .num (.ofInt value) := by
  obtain ⟨decimal, same, exact, -⟩ := Number.ofInt_eq value
  rcases eq_or_ne value 0 with rfl | nonzero
  · rfl
  · have visible : decimal.coefficient ≠ 0 := by
      intro zero
      simp only [Decimal.toRat, zero, Nat.cast_zero, mul_zero, zero_mul] at exact
      exact nonzero (by exact_mod_cast exact.symm)
    rw [same]
    simp [Json.reread, Json.ordered, Decimal.dropZeroSign, visible]

/-- The numerals of the integers that a double holds without a gap denote these. -/
def ReadsIntegers (readNumeral : JsString → Option Number) : Prop :=
  ∀ value : Int, |value| ≤ 2 ^ 53 → ReadsBack readNumeral (Json.num (.ofInt value)).numbers

section Kept

variable {readNumeral : JsString → Option Number}

theorem Kept.parse {value : Json} (kept : Kept readNumeral value) :
    Js.parse readNumeral value.stringify = some value := by
  rw [parse_reread kept.distinct kept.readsBack, kept.steady]

theorem kept_str (text : JsString) : Kept readNumeral (.str text) :=
  ⟨rfl, rfl, fun _ member => absurd member List.not_mem_nil⟩

theorem kept_bool (flag : Bool) : Kept readNumeral (.bool flag) :=
  ⟨rfl, rfl, fun _ member => absurd member List.not_mem_nil⟩

theorem kept_ofInt (reads : ReadsIntegers readNumeral) {value : Int} (exact : |value| ≤ 2 ^ 53) :
    Kept readNumeral (.num (.ofInt value)) := by
  obtain ⟨decimal, same, -, -⟩ := Number.ofInt_eq value
  exact ⟨steady_ofInt value, by rw [same]; rfl, reads value exact⟩

/-- An object of such values under distinct names that are no indices. -/
theorem kept_obj {fields : Fields} (distinct : (fields.map Prod.fst).Nodup)
    (named : ∀ key ∈ fields.map Prod.fst, keyIndex key = none)
    (inner : ∀ field ∈ fields, Kept readNumeral field.2) : Kept readNumeral (.obj fields) := by
  refine ⟨?_, (distinct_obj_iff fields).mpr ⟨distinct, fun field member =>
    (inner field member).distinct⟩, ?_⟩
  · have read : orderedFields (rereadFields fields) = fields := by
      clear named distinct
      induction fields with
      | nil => rfl
      | cons field rest inductionHypothesis =>
          obtain ⟨first, others⟩ := List.forall_mem_cons.mp inner
          rw [rereadFields, orderedFields, inductionHypothesis others, first.steady]
    rw [Json.reread, Json.ordered, read, orderKeys_of_named]
    intro field member
    exact named field.1 (List.mem_map_of_mem member)
  · intro decimal member
    obtain ⟨field, listed, inside⟩ := mem_fieldNumbers.mp member
    exact (inner field listed).readsBack decimal inside

end Kept

end DarkmeshGateway.Foundation.Js
