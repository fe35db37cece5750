import DarkmeshGateway.Foundation.Js.Json

/-!
Contract: when two JSON values are equal.

Owns that being the same value is decidable, values whose objects have distinct
keys, equality that ignores the order of keys and the sign of zero, and that the
sorted value decides it.

Does not own any text of a value.
-/

namespace DarkmeshGateway.Foundation.Js

/-! ### The same value -/

mutual

/-- Whether two values are the same value, computed along their structure. -/
def Json.matches : Json → Json → Bool
  | .null, .null => true
  | .bool left, .bool right => left == right
  | .num left, .num right => left == right
  | .str left, .str right => left == right
  | .arr left, .arr right => elementsMatch left right
  | .obj left, .obj right => fieldsMatch left right
  | _, _ => false

def elementsMatch : List Json → List Json → Bool
  | [], [] => true
  | left :: lefts, right :: rights => left.matches right && elementsMatch lefts rights
  | _, _ => false

def fieldsMatch : Fields → Fields → Bool
  | [], [] => true
  | (name, left) :: lefts, (key, right) :: rights =>
      name == key && (left.matches right && fieldsMatch lefts rights)
  | _, _ => false

end

mutual

theorem Json.eq_of_matches : (left right : Json) → left.matches right = true → left = right
  | .null, right, same => by cases right <;> simp_all [Json.matches]
  | .bool _, right, same => by cases right <;> simp_all [Json.matches]
  | .num _, right, same => by cases right <;> simp_all [Json.matches]
  | .str _, right, same => by cases right <;> simp_all [Json.matches]
  | .arr left, right, same => by
      cases right with
      | arr right => rw [elements_eq_of_match left right same]
      | _ => cases same
  | .obj left, right, same => by
      cases right with
      | obj right => rw [fields_eq_of_match left right same]
      | _ => cases same

theorem elements_eq_of_match : (lefts rights : List Json) → elementsMatch lefts rights = true →
    lefts = rights
  | [], [], _ => rfl
  | left :: lefts, right :: rights, same => by
      simp only [elementsMatch, Bool.and_eq_true] at same
      rw [Json.eq_of_matches left right same.1, elements_eq_of_match lefts rights same.2]

theorem fields_eq_of_match : (lefts rights : Fields) → fieldsMatch lefts rights = true →
    lefts = rights
  | [], [], _ => rfl
  | (name, left) :: lefts, (key, right) :: rights, same => by
      simp only [fieldsMatch, Bool.and_eq_true, beq_iff_eq] at same
      rw [same.1, Json.eq_of_matches left right same.2.1, fields_eq_of_match lefts rights same.2.2]

end

mutual

theorem Json.matches_self : (value : Json) → value.matches value = true
  | .null => rfl
  | .bool _ | .num _ | .str _ => by simp [Json.matches]
  | .arr elements => elements_match_self elements
  | .obj fields => fields_match_self fields

theorem elements_match_self : (elements : List Json) → elementsMatch elements elements = true
  | [] => rfl
  | value :: rest => by
      rw [elementsMatch, Json.matches_self value, elements_match_self rest]
      rfl

theorem fields_match_self : (fields : Fields) → fieldsMatch fields fields = true
  | [] => rfl
  | (key, value) :: rest => by
      rw [fieldsMatch, Json.matches_self value, fields_match_self rest]
      simp

end

instance : DecidableEq Json := fun left right =>
  decidable_of_iff (left.matches right = true)
    ⟨Json.eq_of_matches left right, fun same => same ▸ Json.matches_self left⟩

instance (left right : Json) : Decidable (Json.Same left right) :=
  inferInstanceAs (Decidable (left.canonical = right.canonical))

/-! ### The order of keys -/

theorem codeUnitLe_total (left right : JsString) :
    codeUnitLe left right = true ∨ codeUnitLe right left = true := by
  induction left generalizing right with
  | nil => exact Or.inl rfl
  | cons unit rest inductionHypothesis =>
      cases right with
      | nil => exact Or.inr rfl
      | cons other others =>
          unfold codeUnitLe
          split
          next => exact Or.inl rfl
          next notBelow =>
            split
            next => exact Or.inr rfl
            next notAbove => simpa [notBelow] using inductionHypothesis others

theorem codeUnitLe_antisymm {left right : JsString} (le : codeUnitLe left right = true)
    (ge : codeUnitLe right left = true) : left = right := by
  induction left generalizing right with
  | nil =>
      cases right with
      | nil => rfl
      | cons other others => cases ge
  | cons unit rest inductionHypothesis =>
      cases right with
      | nil => cases le
      | cons other others =>
          have units : unit.toNat = other.toNat := by
            rcases Nat.lt_trichotomy unit.toNat other.toNat with below | same | above
            · have notAbove : ¬other.toNat < unit.toNat := by omega
              simp [codeUnitLe, below, notAbove] at ge
            · exact same
            · have notBelow : ¬unit.toNat < other.toNat := by omega
              simp [codeUnitLe, above, notBelow] at le
          have same : unit = other := UInt16.toNat.inj units
          subst same
          simp only [codeUnitLe, Nat.lt_irrefl, if_false] at le ge
          rw [inductionHypothesis le ge]

theorem codeUnitLe_trans {first second third : JsString} (le : codeUnitLe first second = true)
    (more : codeUnitLe second third = true) : codeUnitLe first third = true := by
  induction first generalizing second third with
  | nil => rfl
  | cons unit rest inductionHypothesis =>
      cases second with
      | nil => cases le
      | cons other others =>
          cases third with
          | nil => cases more
          | cons last lasts =>
              unfold codeUnitLe at le more ⊢
              by_cases below : unit.toNat < last.toNat
              · rw [if_pos below]
              · have middle : unit.toNat = other.toNat ∧ other.toNat = last.toNat := by
                  split at le
                  next =>
                    split at more
                    next => omega
                    next =>
                      split at more
                      next => cases more
                      next => omega
                  next =>
                    split at le
                    next => cases le
                    next =>
                      split at more
                      next => omega
                      next =>
                        split at more
                        next => cases more
                        next => omega
                obtain ⟨sameFirst, sameLast⟩ := middle
                rw [if_neg below, if_neg (by omega)]
                rw [if_neg (by omega), if_neg (by omega)] at le more
                exact inductionHypothesis le more

/-- Entries in the order of their keys. -/
abbrev KeyLe {β : Type*} (left right : JsString × β) : Prop := codeUnitLe left.1 right.1 = true

instance {β : Type*} : Std.Total (KeyLe (β := β)) where
  total left right := codeUnitLe_total left.1 right.1

instance {β : Type*} : IsTrans (JsString × β) KeyLe where
  trans _ _ _ := codeUnitLe_trans

theorem sortByKey_perm {β : Type*} (entries : List (JsString × β)) :
    (sortByKey entries).Perm entries := List.perm_insertionSort _ _

theorem sortByKey_sorted {β : Type*} (entries : List (JsString × β)) :
    (sortByKey entries).Pairwise KeyLe := List.pairwise_insertionSort KeyLe entries

theorem sortByKey_idempotent {β : Type*} (entries : List (JsString × β)) :
    sortByKey (sortByKey entries) = sortByKey entries :=
  List.Pairwise.insertionSort_eq (sortByKey_sorted entries)

/-- With distinct keys the order of the entries is immaterial to their sorting. -/
theorem sortByKey_eq_of_perm {β : Type*} {left right : List (JsString × β)}
    (distinct : (left.map Prod.fst).Nodup) (perm : left.Perm right) :
    sortByKey left = sortByKey right := by
  have sorted : (sortByKey left).Perm (sortByKey right) :=
    (sortByKey_perm left).trans (perm.trans (sortByKey_perm right).symm)
  refine List.Perm.eq_of_pairwise ?_ (sortByKey_sorted left) (sortByKey_sorted right) sorted
  intro first second firstIn secondIn le ge
  have inLeft : first ∈ left := (sortByKey_perm left).mem_iff.mp firstIn
  have alsoIn : second ∈ left := perm.mem_iff.mpr ((sortByKey_perm right).mem_iff.mp secondIn)
  exact List.inj_on_of_nodup_map distinct inLeft alsoIn (codeUnitLe_antisymm le ge)

/-! ### Distinct keys -/

mutual

/-- The keys of every object are distinct, at every depth. -/
def Json.Distinct : Json → Bool
  | .arr elements => elementsDistinct elements
  | .obj fields => (fields.map Prod.fst).Nodup && fieldsDistinct fields
  | _ => true

def elementsDistinct : List Json → Bool
  | [] => true
  | value :: rest => value.Distinct && elementsDistinct rest

def fieldsDistinct : Fields → Bool
  | [] => true
  | (_, value) :: rest => value.Distinct && fieldsDistinct rest

end

theorem canonicalFields_eq (fields : Fields) :
    canonicalFields fields = fields.map fun field => (field.1, field.2.canonical) := by
  induction fields with
  | nil => rfl
  | cons field rest inductionHypothesis =>
      rw [canonicalFields, inductionHypothesis]
      rfl

theorem canonicalFields_keys (fields : Fields) :
    (canonicalFields fields).map Prod.fst = fields.map Prod.fst := by
  rw [canonicalFields_eq, List.map_map]
  rfl

/-- A property of an object with distinct keys is what its key finds. -/
theorem Fields.get_of_mem {fields : Fields} (distinct : (fields.map Prod.fst).Nodup)
    {field : JsString × Json} (member : field ∈ fields) : fields.get field.1 = some field.2 := by
  induction fields with
  | nil => exact absurd member List.not_mem_nil
  | cons head rest inductionHypothesis =>
      obtain ⟨name, value⟩ := head
      obtain ⟨absent, restDistinct⟩ := List.nodup_cons.mp distinct
      rcases List.mem_cons.mp member with rfl | later
      · rw [Fields.get, List.lookup_cons, beq_self_eq_true]
      · have different : (field.1 == name) = false := by
          rw [beq_eq_false_iff_ne]
          rintro rfl
          exact absent (List.mem_map.mpr ⟨field, later, rfl⟩)
        rw [Fields.get, List.lookup_cons, different]
        exact inductionHypothesis restDistinct later

theorem Fields.mem_of_get {fields : Fields} {key : JsString} {value : Json}
    (found : fields.get key = some value) : (key, value) ∈ fields := by
  obtain ⟨before, after, rfl, -⟩ := List.lookup_eq_some_iff.mp found
  simp

/-! ### Equality -/

mutual

/-- One value, whatever the order of keys and the sign of zero: objects have the
same keys with equal values. -/
def Json.Equal : Json → Json → Prop
  | .null, .null => True
  | .bool left, .bool right => left = right
  | .num left, .num right => left.dropZeroSign = right.dropZeroSign
  | .str left, .str right => left = right
  | .arr left, .arr right => elementsEqual left right
  | .obj left, .obj right => left.length = right.length ∧ fieldsEqual left right
  | _, _ => False

def elementsEqual : List Json → List Json → Prop
  | [], [] => True
  | left :: lefts, right :: rights => left.Equal right ∧ elementsEqual lefts rights
  | _, _ => False

/-- Every property on the left has an equal one on the right. -/
def fieldsEqual : Fields → Fields → Prop
  | [], _ => True
  | (key, value) :: rest, right =>
      (∃ other, right.get key = some other ∧ value.Equal other) ∧ fieldsEqual rest right

end

/-- An object with distinct keys has the sorted value of another when it has as
many properties and they are all found there. -/
theorem sorted_eq_iff {left right : Fields} (leftDistinct : (left.map Prod.fst).Nodup) :
    sortByKey (canonicalFields left) = sortByKey (canonicalFields right) ↔
      left.length = right.length ∧ ∀ field ∈ left,
        (right.get field.1).map Json.canonical = some field.2.canonical := by
  constructor
  · intro sorted
    have perm : (canonicalFields left).Perm (canonicalFields right) :=
      (sortByKey_perm _).symm.trans ((List.Perm.of_eq sorted).trans (sortByKey_perm _))
    have length := perm.length_eq
    rw [canonicalFields_eq, canonicalFields_eq, List.length_map, List.length_map] at length
    refine ⟨length, fun field member => ?_⟩
    have same : Json.Same (.obj left) (.obj right) := congrArg Json.obj sorted
    rw [← same.get, Fields.get_of_mem leftDistinct member, Option.map_some]
  · rintro ⟨length, found⟩
    have keysDistinct : ((canonicalFields left).map Prod.fst).Nodup := by
      rw [canonicalFields_keys]
      exact leftDistinct
    have part : canonicalFields left ⊆ canonicalFields right := by
      intro field member
      obtain ⟨original, inLeft, rfl⟩ := mem_canonicalFields member
      have present := found original inLeft
      rw [← canonicalFields_get] at present
      exact Fields.mem_of_get present
    have whole : (canonicalFields left).Perm (canonicalFields right) := by
      refine (List.subperm_of_subset keysDistinct.of_map part).perm_of_length_le ?_
      rw [canonicalFields_eq, canonicalFields_eq, List.length_map, List.length_map, length]
    exact sortByKey_eq_of_perm keysDistinct whole

private theorem distinct_obj {fields : Fields} (distinct : (Json.obj fields).Distinct = true) :
    (fields.map Prod.fst).Nodup ∧ fieldsDistinct fields = true := by
  simpa only [Json.Distinct, Bool.and_eq_true, decide_eq_true_eq] using distinct

theorem fieldsDistinct_iff (fields : Fields) :
    fieldsDistinct fields = true ↔ ∀ field ∈ fields, field.2.Distinct = true := by
  induction fields with
  | nil => simp [fieldsDistinct]
  | cons field rest inductionHypothesis =>
      obtain ⟨key, value⟩ := field
      simp [fieldsDistinct, inductionHypothesis]

mutual

/-- Values are equal exactly when their sorted values are one. -/
theorem Json.equal_iff_same : (left right : Json) → left.Distinct = true →
    right.Distinct = true → (left.Equal right ↔ Json.Same left right)
  | .null, right, _, _ => by cases right <;> simp [Json.Equal, Json.Same, Json.canonical]
  | .bool _, right, _, _ => by cases right <;> simp [Json.Equal, Json.Same, Json.canonical]
  | .num _, right, _, _ => by cases right <;> simp [Json.Equal, Json.Same, Json.canonical]
  | .str _, right, _, _ => by cases right <;> simp [Json.Equal, Json.Same, Json.canonical]
  | .arr lefts, .arr rights, leftDistinct, rightDistinct => by
      have elements := elementsEqual_iff lefts rights leftDistinct rightDistinct
      simp only [Json.Equal, Json.Same, Json.canonical, Json.arr.injEq, elements]
  | .obj left, .obj right, leftDistinct, rightDistinct => by
      obtain ⟨leftKeys, leftValues⟩ := distinct_obj leftDistinct
      have rightValues := (distinct_obj rightDistinct).2
      have fields := fieldsEqual_iff left right leftValues rightValues
      simp only [Json.Equal, Json.Same, Json.canonical, Json.obj.injEq, fields,
        sorted_eq_iff leftKeys]
  | .arr _, .null, _, _ => by simp [Json.Equal, Json.Same, Json.canonical]
  | .arr _, .bool _, _, _ => by simp [Json.Equal, Json.Same, Json.canonical]
  | .arr _, .num _, _, _ => by simp [Json.Equal, Json.Same, Json.canonical]
  | .arr _, .str _, _, _ => by simp [Json.Equal, Json.Same, Json.canonical]
  | .arr _, .obj _, _, _ => by simp [Json.Equal, Json.Same, Json.canonical]
  | .obj _, .null, _, _ => by simp [Json.Equal, Json.Same, Json.canonical]
  | .obj _, .bool _, _, _ => by simp [Json.Equal, Json.Same, Json.canonical]
  | .obj _, .num _, _, _ => by simp [Json.Equal, Json.Same, Json.canonical]
  | .obj _, .str _, _, _ => by simp [Json.Equal, Json.Same, Json.canonical]
  | .obj _, .arr _, _, _ => by simp [Json.Equal, Json.Same, Json.canonical]

theorem elementsEqual_iff : (left right : List Json) → elementsDistinct left = true →
    elementsDistinct right = true →
    (elementsEqual left right ↔ canonicalElements left = canonicalElements right)
  | [], right, _, _ => by cases right <;> simp [elementsEqual, canonicalElements]
  | _ :: _, [], _, _ => by simp [elementsEqual, canonicalElements]
  | left :: lefts, right :: rights, leftDistinct, rightDistinct => by
      simp only [elementsDistinct, Bool.and_eq_true] at leftDistinct rightDistinct
      have heads := Json.equal_iff_same left right leftDistinct.1 rightDistinct.1
      have tails := elementsEqual_iff lefts rights leftDistinct.2 rightDistinct.2
      simp only [elementsEqual, canonicalElements, List.cons.injEq, heads, tails, Json.Same]

theorem fieldsEqual_iff : (left right : Fields) → fieldsDistinct left = true →
    fieldsDistinct right = true → (fieldsEqual left right ↔ ∀ field ∈ left,
      (right.get field.1).map Json.canonical = some field.2.canonical)
  | [], _, _, _ => by simp [fieldsEqual]
  | (key, value) :: rest, right, leftDistinct, rightDistinct => by
      simp only [fieldsDistinct, Bool.and_eq_true] at leftDistinct
      have tails := fieldsEqual_iff rest right leftDistinct.2 rightDistinct
      simp only [fieldsEqual, tails, List.forall_mem_cons, Option.map_eq_some_iff]
      have heads (other : Json) (found : right.get key = some other) :
          value.Equal other ↔ other.canonical = value.canonical := by
        have otherDistinct := (fieldsDistinct_iff right).mp rightDistinct _
          (Fields.mem_of_get found)
        rw [Json.equal_iff_same value other leftDistinct.1 otherDistinct, Json.Same]
        exact eq_comm
      have found : (∃ other, right.get key = some other ∧ value.Equal other) ↔
          ∃ other, right.get key = some other ∧ other.canonical = value.canonical :=
        exists_congr fun other => and_congr_right (heads other)
      rw [found]

end

/-! ### Sorted values -/

mutual

theorem Json.canonical_idempotent : (value : Json) → value.canonical.canonical = value.canonical
  | .null => rfl
  | .bool _ => rfl
  | .str _ => rfl
  | .num (.finite decimal) => by
      simp [Json.canonical, Number.dropZeroSign, Decimal.dropZeroSign_idempotent]
  | .num .nan => rfl
  | .num (.infinity _) => rfl
  | .arr elements => by
      rw [Json.canonical, Json.canonical, canonicalElements_idempotent elements]
  | .obj fields => by
      rw [Json.canonical, Json.canonical, canonicalFields_eq (sortByKey _), ← sortByKey_map,
        ← canonicalFields_eq, canonicalFields_idempotent fields, sortByKey_idempotent]

theorem canonicalElements_idempotent : (elements : List Json) →
    canonicalElements (canonicalElements elements) = canonicalElements elements
  | [] => rfl
  | value :: rest => by
      rw [canonicalElements, canonicalElements, Json.canonical_idempotent value,
        canonicalElements_idempotent rest]

theorem canonicalFields_idempotent : (fields : Fields) →
    canonicalFields (canonicalFields fields) = canonicalFields fields
  | [] => rfl
  | (key, value) :: rest => by
      rw [canonicalFields, canonicalFields, Json.canonical_idempotent value,
        canonicalFields_idempotent rest]

end

mutual

theorem Json.distinct_canonical : (value : Json) → value.Distinct = true →
    value.canonical.Distinct = true
  | .null, _ => rfl
  | .bool _, _ => rfl
  | .num _, _ => rfl
  | .str _, _ => rfl
  | .arr elements, distinct => elementsDistinct_canonical elements distinct
  | .obj fields, distinct => by
      obtain ⟨keys, values⟩ := distinct_obj distinct
      have sortedKeys : ((sortByKey (canonicalFields fields)).map Prod.fst).Nodup := by
        rw [((sortByKey_perm _).map Prod.fst).nodup_iff, canonicalFields_keys]
        exact keys
      have sortedValues : fieldsDistinct (sortByKey (canonicalFields fields)) = true := by
        rw [fieldsDistinct_iff]
        intro field member
        exact (fieldsDistinct_iff _).mp (fieldsDistinct_canonical fields values) field
          ((sortByKey_perm _).mem_iff.mp member)
      simp [Json.canonical, Json.Distinct, sortedKeys, sortedValues]

theorem elementsDistinct_canonical : (elements : List Json) → elementsDistinct elements = true →
    elementsDistinct (canonicalElements elements) = true
  | [], _ => rfl
  | value :: rest, distinct => by
      simp only [elementsDistinct, Bool.and_eq_true] at distinct
      rw [canonicalElements, elementsDistinct, Json.distinct_canonical value distinct.1,
        elementsDistinct_canonical rest distinct.2, Bool.and_self]

theorem fieldsDistinct_canonical : (fields : Fields) → fieldsDistinct fields = true →
    fieldsDistinct (canonicalFields fields) = true
  | [], _ => rfl
  | (key, value) :: rest, distinct => by
      simp only [fieldsDistinct, Bool.and_eq_true] at distinct
      rw [canonicalFields, fieldsDistinct, Json.distinct_canonical value distinct.1,
        fieldsDistinct_canonical rest distinct.2, Bool.and_self]

end

end DarkmeshGateway.Foundation.Js
