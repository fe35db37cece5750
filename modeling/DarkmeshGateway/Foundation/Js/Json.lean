import Mathlib.Data.List.Sort
import DarkmeshGateway.Foundation.Js.Number

/-!
Contract: JSON values as JavaScript sees them after `JSON.parse`.

Owns field reads and writes, truthiness, conversion to string, record tests
and the comparison of values up to key order and the sign of zero.

Does not own inherited properties: every name read through this interface is
one that `Object.prototype` does not define.
-/

namespace DarkmeshGateway.Foundation.Js

/-- A parsed JSON value; an object lists its own properties in `Object.keys` order. -/
inductive Json where
  | null
  | bool (value : Bool)
  | num (value : Number)
  | str (value : JsString)
  | arr (elements : List Json)
  | obj (fields : List (JsString × Json))

/-- The own properties of a JSON object. -/
abbrev Fields := List (JsString × Json)

/-! ### Properties -/

/-- `object[key]`; `none` is `undefined`. -/
def Fields.get (fields : Fields) (key : JsString) : Option Json := List.lookup key fields

/-- Own definition of `key`, in place when it exists and last otherwise: one
property of an object literal after a spread. -/
def Fields.set (fields : Fields) (key : JsString) (value : Json) : Fields :=
  match fields with
  | [] => [(key, value)]
  | (name, old) :: rest =>
      if name = key then (key, value) :: rest else (name, old) :: Fields.set rest key value

@[simp] theorem Fields.get_set_self (fields : Fields) (key : JsString) (value : Json) :
    (fields.set key value).get key = some value := by
  induction fields with
  | nil => simp [Fields.set, Fields.get]
  | cons field rest inductionHypothesis =>
      obtain ⟨name, old⟩ := field
      unfold Fields.set
      split
      next => simp [Fields.get]
      next different =>
        have : (key == name) = false := by simpa using Ne.symm different
        simpa [Fields.get, List.lookup_cons, this] using inductionHypothesis

theorem Fields.get_set_other (fields : Fields) {key other : JsString} (different : other ≠ key)
    (value : Json) : (fields.set key value).get other = fields.get other := by
  have miss : (other == key) = false := by simpa using different
  induction fields with
  | nil => simp [Fields.set, Fields.get, List.lookup_cons, miss]
  | cons field rest inductionHypothesis =>
      obtain ⟨name, old⟩ := field
      unfold Fields.set
      split
      next same =>
        subst same
        simp [Fields.get, List.lookup_cons, miss]
      next =>
        simp only [Fields.get, List.lookup_cons] at inductionHypothesis ⊢
        rw [inductionHypothesis]

/-- Defining a property again with the value it was given changes nothing. -/
@[simp] theorem Fields.set_set (fields : Fields) (key : JsString) (value : Json) :
    (fields.set key value).set key value = fields.set key value := by
  induction fields with
  | nil => simp [Fields.set]
  | cons field rest inductionHypothesis =>
      obtain ⟨name, old⟩ := field
      by_cases same : name = key
      · simp [Fields.set, same]
      · simp [Fields.set, same, inductionHypothesis]

/-- Defining a property with the value it has changes nothing. -/
theorem Fields.set_of_get {fields : Fields} {key : JsString} {value : Json}
    (found : fields.get key = some value) : fields.set key value = fields := by
  induction fields with
  | nil => simp [Fields.get] at found
  | cons field rest inductionHypothesis =>
      obtain ⟨name, old⟩ := field
      unfold Fields.set
      split
      next same =>
        subst same
        obtain rfl : old = value := by simpa [Fields.get] using found
        rfl
      next different =>
        have miss : (key == name) = false := by simpa using Ne.symm different
        rw [Fields.get, List.lookup_cons, miss] at found
        exact congrArg ((name, old) :: ·) (inductionHypothesis found)

/-- Removing other properties leaves a property alone. -/
theorem Fields.get_filter (fields : Fields) {key : JsString} (keep : JsString × Json → Bool)
    (kept : ∀ value, keep (key, value) = true) :
    Fields.get (fields.filter keep) key = fields.get key := by
  induction fields with
  | nil => rfl
  | cons field rest inductionHypothesis =>
      obtain ⟨name, old⟩ := field
      simp only [Fields.get] at inductionHypothesis ⊢
      by_cases same : key = name
      · subst same
        simp [kept old]
      · have miss : (key == name) = false := by simpa using same
        rw [List.filter_cons, List.lookup_cons, miss]
        split
        next => simpa [List.lookup_cons, miss] using inductionHypothesis
        next => exact inductionHypothesis

/-- Own enumerable properties of a value of type `object`; an array's keys are
its indices. -/
def ownProperties : Json → Option Fields
  | .obj fields => some fields
  | .arr elements =>
      some (elements.zipIdx.map fun element => (decimalDigits element.2, element.1))
  | _ => none

/-- Own properties of a non-null, non-array object. -/
def asRecord : Option Json → Option Fields
  | some (.obj fields) => some fields
  | _ => none

/-! ### Truthiness and conversion to string -/

/-- JavaScript truthiness. -/
def Json.truthy : Json → Bool
  | .null => false
  | .bool value => value
  | .num value => !value.isZero && value != .nan
  | .str value => !value.isEmpty
  | .arr _ => true
  | .obj _ => true

/-- `a || b || ... || fallback` over property reads. -/
def firstTruthy (fallback : Json) : List (Option Json) → Json
  | [] => fallback
  | some value :: rest => if value.truthy then value else firstTruthy fallback rest
  | none :: rest => firstTruthy fallback rest

/-- The first truthy value among the aliases. -/
def firstTruthyAlias (aliases : List (Option Json)) : Option Json :=
  (aliases.filterMap id).find? Json.truthy

theorem firstTruthy_eq (fallback : Json) (aliases : List (Option Json)) :
    firstTruthy fallback aliases = (firstTruthyAlias aliases).getD fallback := by
  induction aliases with
  | nil => rfl
  | cons head rest inductionHypothesis =>
      cases head with
      | none => simpa [firstTruthy, firstTruthyAlias] using inductionHypothesis
      | some value =>
          unfold firstTruthy
          split
          next truthy => simp [firstTruthyAlias, truthy]
          next falsy => simpa [firstTruthyAlias, falsy] using inductionHypothesis

mutual

/-- `String(value)`; `none` is the `TypeError` raised for an object whose own
`toString` is data. -/
def Json.toText : Json → Option JsString
  | .null => some (js "null")
  | .bool value => some (if value then js "true" else js "false")
  | .num value => some value.toString
  | .str value => some value
  | .arr elements => (elementTexts elements).map (List.intercalate [44])
  | .obj fields =>
      if (Fields.get fields (js "toString")).isSome then none else some (js "[object Object]")

/-- The texts `Array.prototype.join` puts between commas: `null` is empty. -/
def elementTexts : List Json → Option (List JsString)
  | [] => some []
  | .null :: rest => (elementTexts rest).map ([] :: ·)
  | value :: rest => value.toText.bind fun text => (elementTexts rest).map (text :: ·)

end

/-! ### Comparison -/

/-- UTF-16 code unit order, the default order of `Array.prototype.sort`. -/
def codeUnitLe : JsString → JsString → Bool
  | [], _ => true
  | _ :: _, [] => false
  | left :: lefts, right :: rights =>
      if left.toNat < right.toNat then true
      else if right.toNat < left.toNat then false
      else codeUnitLe lefts rights

/-- Entries sorted by key. -/
def sortByKey {β : Type*} (entries : List (JsString × β)) : List (JsString × β) :=
  entries.insertionSort fun left right => codeUnitLe left.1 right.1

/-- Sorting by key commutes with a change of the values. -/
theorem sortByKey_map {β γ : Type*} (change : β → γ) (entries : List (JsString × β)) :
    sortByKey (entries.map fun entry => (entry.1, change entry.2)) =
      (sortByKey entries).map fun entry => (entry.1, change entry.2) := by
  unfold sortByKey
  exact (List.map_insertionSort (fun left right : JsString × β => codeUnitLe left.1 right.1)
    (fun left right : JsString × γ => codeUnitLe left.1 right.1) _ entries
    fun _ _ _ _ => Iff.rfl).symm

private theorem codeUnitLe_refl (text : JsString) : codeUnitLe text text = true := by
  induction text with
  | nil => rfl
  | cons unit rest inductionHypothesis => simp [codeUnitLe, inductionHypothesis]

private theorem lookup_orderedInsert {β : Type*} (entry : JsString × β)
    (entries : List (JsString × β)) (key : JsString) :
    (entries.orderedInsert (fun left right => codeUnitLe left.1 right.1) entry).lookup key =
      (entry :: entries).lookup key := by
  induction entries with
  | nil => rfl
  | cons head rest inductionHypothesis =>
      rw [List.orderedInsert_cons]
      split
      next => rfl
      next later =>
        -- The entry moves behind a head of another key.
        have different : head.1 ≠ entry.1 := by
          intro same
          rw [same] at later
          exact later (codeUnitLe_refl entry.1)
        rw [List.lookup_cons, inductionHypothesis, List.lookup_cons, List.lookup_cons,
          List.lookup_cons]
        by_cases found : key = entry.1
        · have miss : (entry.1 == head.1) = false := by simpa using different.symm
          simp [found, miss]
        · have miss : (key == entry.1) = false := by simpa using found
          simp [miss]

/-- Sorting by key keeps what each key finds. -/
theorem lookup_sortByKey {β : Type*} (entries : List (JsString × β)) (key : JsString) :
    (sortByKey entries).lookup key = entries.lookup key := by
  induction entries with
  | nil => rfl
  | cons entry rest inductionHypothesis =>
      unfold sortByKey at inductionHypothesis ⊢
      rw [List.insertionSort_cons, lookup_orderedInsert, List.lookup_cons, List.lookup_cons,
        inductionHypothesis]

/-- Negative zero read as zero. -/
def Number.dropZeroSign : Number → Number
  | .finite decimal => .finite decimal.dropZeroSign
  | other => other

mutual

/-- The value with object keys sorted and zeros unsigned, at every depth. -/
def Json.canonical : Json → Json
  | .num value => .num value.dropZeroSign
  | .arr elements => .arr (canonicalElements elements)
  | .obj fields => .obj (sortByKey (canonicalFields fields))
  | .null => .null
  | .bool value => .bool value
  | .str value => .str value

def canonicalElements : List Json → List Json
  | [] => []
  | value :: rest => value.canonical :: canonicalElements rest

def canonicalFields : Fields → Fields
  | [] => []
  | (key, value) :: rest => (key, value.canonical) :: canonicalFields rest

end

/-- Equality of JSON values: key order is immaterial and `-0` is `0`. -/
def Json.Same (left right : Json) : Prop := left.canonical = right.canonical

theorem canonicalFields_set (fields : Fields) (key : JsString) (value : Json) :
    canonicalFields (fields.set key value) = (canonicalFields fields).set key value.canonical := by
  induction fields with
  | nil => rfl
  | cons field rest inductionHypothesis =>
      obtain ⟨name, old⟩ := field
      by_cases same : name = key
      · simp [Fields.set, canonicalFields, same]
      · simp [Fields.set, canonicalFields, same, inductionHypothesis]

theorem mem_canonicalFields {fields : Fields} {field : JsString × Json}
    (member : field ∈ canonicalFields fields) :
    ∃ original ∈ fields, field = (original.1, original.2.canonical) := by
  induction fields with
  | nil => simp [canonicalFields] at member
  | cons head rest inductionHypothesis =>
      obtain ⟨name, value⟩ := head
      rcases List.mem_cons.mp member with rfl | later
      · exact ⟨(name, value), by simp, rfl⟩
      · obtain ⟨original, inRest, same⟩ := inductionHypothesis later
        exact ⟨original, List.mem_cons_of_mem _ inRest, same⟩

theorem canonicalFields_get (fields : Fields) (key : JsString) :
    (canonicalFields fields).get key = (fields.get key).map Json.canonical := by
  induction fields with
  | nil => rfl
  | cons field rest inductionHypothesis =>
      obtain ⟨name, value⟩ := field
      simp only [canonicalFields, Fields.get, List.lookup_cons] at inductionHypothesis ⊢
      split
      next => rfl
      next => exact inductionHypothesis

/-- The same objects find the same value under every key. -/
theorem Json.Same.get {left right : Fields} (same : Json.Same (.obj left) (.obj right))
    (key : JsString) :
    (left.get key).map Json.canonical = (right.get key).map Json.canonical := by
  have sorted : sortByKey (canonicalFields left) = sortByKey (canonicalFields right) :=
    Json.obj.inj same
  rw [← canonicalFields_get, ← canonicalFields_get, Fields.get, Fields.get,
    ← lookup_sortByKey (canonicalFields left), sorted, lookup_sortByKey]

/-- Defining a property permutes the others only if it had the value before. -/
private theorem Fields.get_of_perm_set {fields : Fields} {key : JsString} {value : Json}
    (permuted : fields.Perm (fields.set key value)) : fields.get key = some value := by
  induction fields with
  | nil => exact absurd permuted.length_eq (by simp [Fields.set])
  | cons field rest inductionHypothesis =>
      obtain ⟨name, old⟩ := field
      unfold Fields.set at permuted
      split at permuted
      next same =>
        have heads : ((name, old) : JsString × Json) = (key, value) := by
          apply (Multiset.cons_inj_left (rest : Multiset (JsString × Json))).mp
          simpa only [Multiset.cons_coe, Multiset.coe_eq_coe] using permuted
        simp [Fields.get, (Prod.mk.inj heads).1, (Prod.mk.inj heads).2]
      next different =>
        have miss : (key == name) = false := by simpa using Ne.symm different
        rw [Fields.get, List.lookup_cons, miss]
        exact inductionHypothesis permuted.cons_inv

/-- Objects that differ in one property are the same exactly when it had that value. -/
theorem Json.same_set_iff (fields : Fields) (key : JsString) (value : Json) :
    Json.Same (.obj fields) (.obj (fields.set key value)) ↔
      ∃ old, fields.get key = some old ∧ Json.Same old value := by
  constructor
  · intro same
    have sorted : sortByKey (canonicalFields fields) =
        sortByKey ((canonicalFields fields).set key value.canonical) := by
      rw [← canonicalFields_set]
      exact Json.obj.inj same
    have permuted : (canonicalFields fields).Perm
        ((canonicalFields fields).set key value.canonical) :=
      ((List.perm_insertionSort _ _).symm.trans (List.Perm.of_eq sorted)).trans
        (List.perm_insertionSort _ _)
    have found := Fields.get_of_perm_set permuted
    rw [canonicalFields_get] at found
    obtain ⟨old, present, canonical⟩ := Option.map_eq_some_iff.mp found
    exact ⟨old, present, canonical⟩
  · rintro ⟨old, present, canonical⟩
    have kept : (canonicalFields fields).set key value.canonical = canonicalFields fields := by
      apply Fields.set_of_get
      rw [canonicalFields_get, present, Option.map_some, canonical]
    simp only [Json.Same, Json.canonical, canonicalFields_set, kept]

/-- Only a string is the same as it. -/
theorem Json.same_str_iff {value : Json} {text : JsString} :
    Json.Same value (.str text) ↔ value = .str text := by
  cases value <;> simp [Json.Same, Json.canonical]

mutual

/-- No number overflowed to an infinity when the text was parsed. -/
def Json.AllFinite : Json → Bool
  | .num value => value.isFinite
  | .arr elements => elementsFinite elements
  | .obj fields => fieldsFinite fields
  | _ => true

def elementsFinite : List Json → Bool
  | [] => true
  | value :: rest => value.AllFinite && elementsFinite rest

def fieldsFinite : Fields → Bool
  | [] => true
  | (_, value) :: rest => value.AllFinite && fieldsFinite rest

end

end DarkmeshGateway.Foundation.Js
