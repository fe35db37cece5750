import DarkmeshGateway.Foundation.Js.Parse

/-!
Contract: what `JSON.parse` reads from the text of any value.

Owns that the text of a value is read as the value with its lost numbers and
signs gone and its keys in the order of the engine, and the objects whose keys
stay in the order they were written in.

Does not own the number a numeral denotes, which is a parameter.
-/

namespace DarkmeshGateway.Foundation.Js

variable {readNumeral : JsString → Option Number}

/-! ### Keys and numbers of what is read -/

theorem keys_rereadFields (fields : Fields) :
    (rereadFields fields).map Prod.fst = fields.map Prod.fst := by
  induction fields with
  | nil => rfl
  | cons field rest inductionHypothesis =>
      rw [rereadFields, List.map_cons, List.map_cons, inductionHypothesis]

mutual

theorem Json.distinct_reread : (value : Json) → value.Distinct = true →
    value.reread.Distinct = true
  | .num (.finite _), _ => rfl
  | .num .nan, _ => rfl
  | .num (.infinity _), _ => rfl
  | .arr elements, distinct => elementsDistinct_reread elements distinct
  | .obj fields, distinct => by
      rw [Json.Distinct, Bool.and_eq_true] at distinct
      rw [Json.reread, Json.Distinct, keys_rereadFields, distinct.1,
        fieldsDistinct_reread fields distinct.2, Bool.and_self]
  | .null, _ => rfl
  | .bool _, _ => rfl
  | .str _, _ => rfl

theorem elementsDistinct_reread : (elements : List Json) → elementsDistinct elements = true →
    elementsDistinct (rereadElements elements) = true
  | [], _ => rfl
  | value :: rest, distinct => by
      rw [elementsDistinct, Bool.and_eq_true] at distinct
      rw [rereadElements, elementsDistinct, Json.distinct_reread value distinct.1,
        elementsDistinct_reread rest distinct.2, Bool.and_self]

theorem fieldsDistinct_reread : (fields : Fields) → fieldsDistinct fields = true →
    fieldsDistinct (rereadFields fields) = true
  | [], _ => rfl
  | (_, value) :: rest, distinct => by
      rw [fieldsDistinct, Bool.and_eq_true] at distinct
      rw [rereadFields, fieldsDistinct, Json.distinct_reread value distinct.1,
        fieldsDistinct_reread rest distinct.2, Bool.and_self]

end

mutual

/-- The numbers that are read are those that were written, up to the sign of zero. -/
theorem Json.numbers_reread : (value : Json) → {decimal : Decimal} →
    decimal ∈ value.reread.numbers → ∃ original ∈ value.numbers, original.dropZeroSign = decimal
  | .null, _, member => absurd member List.not_mem_nil
  | .bool _, _, member => absurd member List.not_mem_nil
  | .str _, _, member => absurd member List.not_mem_nil
  | .num .nan, _, member => absurd member List.not_mem_nil
  | .num (.infinity _), _, member => absurd member List.not_mem_nil
  | .num (.finite original), _, member =>
      ⟨original, List.mem_singleton_self _, (List.mem_singleton.mp member).symm⟩
  | .arr elements, _, member => elementNumbers_reread elements member
  | .obj fields, _, member => fieldNumbers_reread fields member

theorem elementNumbers_reread : (elements : List Json) → {decimal : Decimal} →
    decimal ∈ elementNumbers (rereadElements elements) →
    ∃ original ∈ elementNumbers elements, original.dropZeroSign = decimal
  | [], _, member => absurd member List.not_mem_nil
  | value :: rest, _, member => by
      rcases List.mem_append.mp member with here | later
      · obtain ⟨original, inValue, same⟩ := Json.numbers_reread value here
        exact ⟨original, List.mem_append_left _ inValue, same⟩
      · obtain ⟨original, inRest, same⟩ := elementNumbers_reread rest later
        exact ⟨original, List.mem_append_right _ inRest, same⟩

theorem fieldNumbers_reread : (fields : Fields) → {decimal : Decimal} →
    decimal ∈ fieldNumbers (rereadFields fields) →
    ∃ original ∈ fieldNumbers fields, original.dropZeroSign = decimal
  | [], _, member => absurd member List.not_mem_nil
  | (_, value) :: rest, _, member => by
      rcases List.mem_append.mp member with here | later
      · obtain ⟨original, inValue, same⟩ := Json.numbers_reread value here
        exact ⟨original, List.mem_append_left _ inValue, same⟩
      · obtain ⟨original, inRest, same⟩ := fieldNumbers_reread rest later
        exact ⟨original, List.mem_append_right _ inRest, same⟩

end

theorem ReadsBack.reread {value : Json} (readsBack : ReadsBack readNumeral value.numbers) :
    ReadsBack readNumeral value.reread.numbers := by
  intro decimal member
  obtain ⟨original, written, rfl⟩ := Json.numbers_reread value member
  rw [Decimal.toString_dropZeroSign, Decimal.dropZeroSign_idempotent]
  exact readsBack original written

/-- Numerals are read back when each of them is. -/
theorem readsBack_of_all {decimals : List Decimal}
    (each : (decimals.all fun decimal =>
      readNumeral decimal.toString = some (.finite decimal.dropZeroSign)) = true) :
    ReadsBack readNumeral decimals := by
  intro decimal member
  exact of_decide_eq_true (List.all_eq_true.mp each decimal member)

/-! ### The text of a value -/

/-- The text of a value is read as what the value is reread as. -/
theorem parse_reread {value : Json} (distinct : value.Distinct = true)
    (readsBack : ReadsBack readNumeral value.numbers) :
    parse readNumeral value.stringify = some value.reread.ordered := by
  have blank : ∀ unit ∈ ([] : JsString), isJsonSpace unit = true := by simp
  have read := parse_stringify (Json.regular_reread value) (Json.distinct_reread value distinct)
    readsBack.reread blank
  rwa [List.append_nil, Json.stringify_reread] at read

/-! ### Keys that keep their order -/

/-- Keys that are no array indices stay in the order they were written in. -/
theorem orderKeys_of_named {fields : Fields} (named : ∀ field ∈ fields, keyIndex field.1 = none) :
    orderKeys fields = fields := by
  have indexed : (fields.filter fun field => (keyIndex field.1).isSome) = [] := by
    rw [List.filter_eq_nil_iff]
    intro field member
    rw [named field member]
    exact Bool.false_ne_true
  have others : (fields.filter fun field => !(keyIndex field.1).isSome) = fields := by
    rw [List.filter_eq_self]
    intro field member
    rw [named field member]
    rfl
  rw [orderKeys, indexed, others, List.insertionSort_nil, List.nil_append]

theorem orderedFields_eq_self {fields : Fields}
    (inner : ∀ field ∈ fields, field.2.ordered = field.2) : orderedFields fields = fields := by
  induction fields with
  | nil => rfl
  | cons field rest inductionHypothesis =>
      have first := inner field List.mem_cons_self
      have others := inductionHypothesis fun other later =>
        inner other (List.mem_cons_of_mem field later)
      rw [orderedFields, first, others]

/-- An object with such keys and such values is read in the order it was written in. -/
theorem ordered_obj_of_named {fields : Fields}
    (named : ∀ key ∈ fields.map Prod.fst, keyIndex key = none)
    (inner : ∀ field ∈ fields, field.2.ordered = field.2) :
    (Json.obj fields).ordered = .obj fields := by
  have keys : ∀ field ∈ fields, keyIndex field.1 = none := fun field member =>
    named field.1 (List.mem_map_of_mem member)
  rw [Json.ordered, orderedFields_eq_self inner, orderKeys_of_named keys]

end DarkmeshGateway.Foundation.Js
