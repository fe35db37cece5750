import DarkmeshGateway.Foundation.Js.Printable
import DarkmeshGateway.Operations.Attestation

/-!
Contract: what the canonical copy keeps of a value.

Owns that printing and reading a value leaves its canonical text alone, when
two values have one canonical text, and what a property of the copy is.

Does not own the artifact whose digest is taken of such a text.
-/

namespace DarkmeshGateway.Operations.Attestation

open Foundation.Js

/-! ### Lists of properties -/

theorem rereadFields_eq (fields : Fields) :
    rereadFields fields = fields.map fun field => (field.1, field.2.reread) := by
  induction fields with
  | nil => rfl
  | cons field rest inductionHypothesis =>
      rw [rereadFields, inductionHypothesis]
      rfl

theorem canonicalizeFields_eq (fields : Fields) :
    canonicalizeFields fields =
      (fields.filter fun field => !decide (field.1 = js "__proto__")).map
        fun field => (field.1, canonicalize field.2) := by
  induction fields with
  | nil => rfl
  | cons field rest inductionHypothesis =>
      obtain ⟨key, value⟩ := field
      by_cases hidden : key = js "__proto__"
      · simp [canonicalizeFields, hidden, inductionHypothesis]
      · simp [canonicalizeFields, hidden, inductionHypothesis]

/-- The order of the engine looks at the keys only. -/
theorem orderKeys_map (change : Json → Json) (fields : Fields) :
    orderKeys (fields.map fun field => (field.1, change field.2)) =
      (orderKeys fields).map fun field => (field.1, change field.2) := by
  unfold orderKeys
  rw [List.filter_map, List.filter_map, List.map_append]
  congr 1
  exact (List.map_insertionSort
    (fun left right : JsString × Json => (keyIndex left.1).getD 0 ≤ (keyIndex right.1).getD 0)
    (fun left right : JsString × Json => (keyIndex left.1).getD 0 ≤ (keyIndex right.1).getD 0)
    (fun field => (field.1, change field.2)) _ fun _ _ _ _ => Iff.rfl).symm

theorem keys_canonicalizeFields (fields : Fields) :
    (canonicalizeFields fields).map Prod.fst =
      (fields.map Prod.fst).filter fun key => !decide (key = js "__proto__") := by
  rw [canonicalizeFields_eq, List.map_map, List.filter_map]
  rfl

theorem nodup_canonicalizeFields {fields : Fields} (distinct : (fields.map Prod.fst).Nodup) :
    ((canonicalizeFields fields).map Prod.fst).Nodup := by
  rw [keys_canonicalizeFields]
  exact distinct.filter _

/-! ### Printing and reading -/

mutual

/-- What printing changes in a value it changes in its copy. -/
theorem canonicalize_reread : (value : Json) →
    canonicalize value.reread = (canonicalize value).reread
  | .null => rfl
  | .bool _ => rfl
  | .num (.finite _) => rfl
  | .num .nan => rfl
  | .num (.infinity _) => rfl
  | .str _ => rfl
  | .arr elements => by
      rw [Json.reread, canonicalize, canonicalize, Json.reread,
        canonicalizeElements_reread elements]
  | .obj fields => by
      rw [Json.reread, canonicalize, canonicalize, Json.reread, canonicalizeFields_reread fields,
        rereadFields_eq (orderKeys _), rereadFields_eq (canonicalizeFields fields), sortByKey_map,
        orderKeys_map]

theorem canonicalizeElements_reread : (elements : List Json) →
    canonicalizeElements (rereadElements elements) = rereadElements (canonicalizeElements elements)
  | [] => rfl
  | value :: rest => by
      rw [rereadElements, canonicalizeElements, canonicalizeElements, rereadElements,
        canonicalize_reread value, canonicalizeElements_reread rest]

theorem canonicalizeFields_reread : (fields : Fields) →
    canonicalizeFields (rereadFields fields) = rereadFields (canonicalizeFields fields)
  | [] => rfl
  | (key, value) :: rest => by
      rw [rereadFields, canonicalizeFields, canonicalizeFields, canonicalize_reread value,
        canonicalizeFields_reread rest]
      split
      next => rfl
      next => rw [rereadFields]

end

mutual

/-- The copy does not depend on the order of the keys. -/
theorem canonicalize_ordered : (value : Json) → value.Distinct = true →
    canonicalize value.ordered = canonicalize value
  | .null, _ => rfl
  | .bool _, _ => rfl
  | .num _, _ => rfl
  | .str _, _ => rfl
  | .arr elements, distinct => by
      rw [Json.ordered, canonicalize, canonicalize, canonicalizeElements_ordered elements distinct]
  | .obj fields, distinct => by
      simp only [Json.Distinct, Bool.and_eq_true, decide_eq_true_eq] at distinct
      have values := canonicalizeFields_ordered fields distinct.2
      have keys := nodup_canonicalizeFields distinct.1
      have perm : (canonicalizeFields fields).Perm
          (canonicalizeFields (orderKeys (orderedFields fields))) := by
        rw [← values, canonicalizeFields_eq, canonicalizeFields_eq]
        exact ((orderKeys_perm _).symm.filter _).map _
      rw [Json.ordered, canonicalize, canonicalize, ← sortByKey_eq_of_perm keys perm]

theorem canonicalizeElements_ordered : (elements : List Json) → elementsDistinct elements = true →
    canonicalizeElements (orderedElements elements) = canonicalizeElements elements
  | [], _ => rfl
  | value :: rest, distinct => by
      simp only [elementsDistinct, Bool.and_eq_true] at distinct
      rw [orderedElements, canonicalizeElements, canonicalizeElements,
        canonicalize_ordered value distinct.1, canonicalizeElements_ordered rest distinct.2]

theorem canonicalizeFields_ordered : (fields : Fields) → fieldsDistinct fields = true →
    canonicalizeFields (orderedFields fields) = canonicalizeFields fields
  | [], _ => rfl
  | (key, value) :: rest, distinct => by
      simp only [fieldsDistinct, Bool.and_eq_true] at distinct
      rw [orderedFields, canonicalizeFields, canonicalizeFields,
        canonicalize_ordered value distinct.1, canonicalizeFields_ordered rest distinct.2]

end

/-- The part of a value its canonical text speaks of: sorted keys, no property
`__proto__`, and the numbers as they are printed. -/
def attested (value : Json) : Json := (canonicalize value).reread

theorem canonicalize_received {value : Json} (distinct : value.Distinct = true) :
    canonicalize value.received = attested value := by
  rw [Json.received, canonicalize_ordered _ (Json.distinct_reread value distinct),
    canonicalize_reread, attested]

theorem canonicalJson_eq (value : Json) : canonicalJson value = (attested value).stringify := by
  rw [attested, Json.stringify_reread, canonicalJson]

/-- The canonical text survives the way through a file. -/
theorem canonicalJson_received {value : Json} (distinct : value.Distinct = true) :
    canonicalJson value.received = canonicalJson value := by
  rw [canonicalJson, canonicalize_received distinct, canonicalJson_eq]

/-- A canonical text is that of one attested part. -/
theorem canonicalJson_eq_iff {left right : Json} :
    canonicalJson left = canonicalJson right ↔ attested left = attested right := by
  constructor
  · intro texts
    rw [canonicalJson_eq, canonicalJson_eq] at texts
    have stops : Stops [] := by simp [Stops]
    exact (Json.stringify_unique (attested left) (attested right) [] []
      (Json.regular_reread _) (Json.regular_reread _) stops stops (by rw [texts])).1
  · intro parts
    rw [canonicalJson_eq, canonicalJson_eq, parts]

/-! ### Properties of the copy -/

/-- The order of the keys is immaterial to what a key finds. -/
theorem get_of_perm {left right : Fields} (distinct : (left.map Prod.fst).Nodup)
    (perm : left.Perm right) (key : JsString) : Fields.get right key = Fields.get left key := by
  have rightDistinct : (right.map Prod.fst).Nodup := (perm.map Prod.fst).nodup_iff.mp distinct
  cases found : Fields.get left key with
  | some value =>
      have listed : (key, value) ∈ right := perm.mem_iff.mp (Fields.mem_of_get found)
      exact Fields.get_of_mem rightDistinct listed
  | none =>
      cases other : Fields.get right key with
      | none => rfl
      | some value =>
          have listed : (key, value) ∈ left := perm.mem_iff.mpr (Fields.mem_of_get other)
          have present : Fields.get left key = some value := Fields.get_of_mem distinct listed
          rw [found] at present
          cases present

theorem get_map (change : Json → Json) (fields : Fields) (key : JsString) :
    Fields.get (fields.map fun field => (field.1, change field.2)) key =
      (Fields.get fields key).map change := by
  induction fields with
  | nil => rfl
  | cons field rest inductionHypothesis =>
      obtain ⟨name, value⟩ := field
      simp only [List.map_cons, Fields.get, List.lookup_cons] at inductionHypothesis ⊢
      split
      next => rfl
      next => exact inductionHypothesis

/-- Every property but `__proto__` is copied. -/
theorem get_attested {fields : Fields} (distinct : (fields.map Prod.fst).Nodup) {key : JsString}
    (visible : key ≠ js "__proto__") :
    Fields.get (rereadFields (orderKeys (sortByKey (canonicalizeFields fields)))) key =
      (Fields.get fields key).map attested := by
  have keys := nodup_canonicalizeFields distinct
  have perm : (canonicalizeFields fields).Perm
      (orderKeys (sortByKey (canonicalizeFields fields))) :=
    ((orderKeys_perm _).trans (sortByKey_perm _)).symm
  rw [Fields.get_reread, get_of_perm keys perm, canonicalizeFields_eq, get_map, Option.map_map]
  have kept : Fields.get (fields.filter fun field => !decide (field.1 = js "__proto__")) key =
      Fields.get fields key := by
    refine Fields.get_filter fields _ ?_
    intro value
    simp [visible]
  rw [kept]
  rfl

end DarkmeshGateway.Operations.Attestation
