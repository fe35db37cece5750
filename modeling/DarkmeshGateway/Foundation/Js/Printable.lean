import DarkmeshGateway.Foundation.Js.Kept

/-!
Contract: values that can be printed and read again.

Owns what is read from the text of a value, the induction over what
`JSON.parse` builds, and that what was read once can be printed.

Does not own the number a numeral denotes, which is a parameter.
-/

namespace DarkmeshGateway.Foundation.Js

/-! ### Received values -/

/-- What `JSON.parse` reads from the text of a value. -/
def Json.received (value : Json) : Json := value.reread.ordered

@[simp] theorem received_str (text : JsString) : (Json.str text).received = .str text := rfl

@[simp] theorem received_bool (flag : Bool) : (Json.bool flag).received = .bool flag := rfl

@[simp] theorem received_ofInt (value : Int) :
    (Json.num (.ofInt value)).received = .num (.ofInt value) := steady_ofInt value

@[simp] theorem received_arr (elements : List Json) :
    (Json.arr elements).received = .arr (elements.map Json.received) := by
  have each : orderedElements (rereadElements elements) = elements.map Json.received := by
    induction elements with
    | nil => rfl
    | cons value rest inductionHypothesis =>
        rw [rereadElements, orderedElements, inductionHypothesis, List.map_cons, Json.received]
  rw [Json.received, Json.reread, Json.ordered, each]

theorem receivedFields_eq (fields : Fields) :
    orderedFields (rereadFields fields) = fields.map fun field => (field.1, field.2.received) := by
  induction fields with
  | nil => rfl
  | cons field rest inductionHypothesis =>
      rw [rereadFields, orderedFields, inductionHypothesis, List.map_cons, Json.received]

/-- A record keeps the order of its properties. -/
theorem received_obj {fields : Fields} (named : ∀ key ∈ fields.map Prod.fst, keyIndex key = none) :
    (Json.obj fields).received = .obj (fields.map fun field => (field.1, field.2.received)) := by
  rw [Json.received, Json.reread, Json.ordered, receivedFields_eq, orderKeys_of_named]
  intro field member
  obtain ⟨original, listed, rfl⟩ := List.mem_map.mp member
  exact named original.1 (List.mem_map_of_mem listed)

/-! ### What `JSON.parse` builds -/

section Parsing

variable {readNumeral : JsString → Option Number}

/-- What a property of values owes to hold of every parsed value. -/
structure ParseRules (readNumeral : JsString → Option Number) (motive : Json → Prop) : Prop where
  null : motive .null
  bool : ∀ flag, motive (.bool flag)
  str : ∀ text, motive (.str text)
  num : ∀ {text number}, readNumeral text = some number → motive (.num number)
  arr : ∀ {elements}, (∀ element ∈ elements, motive element) → motive (.arr elements)
  obj : ∀ {fields : Fields}, (∀ field ∈ fields, motive field.2) → motive (.obj fields)

/-- The property holds of what the three parsers return with so much fuel. -/
structure ParsesInto (readNumeral : JsString → Option Number) (motive : Json → Prop)
    (fuel : Nat) : Prop where
  value : ∀ {text rest value}, parseValue readNumeral fuel text = some (value, rest) →
    motive value
  elements : ∀ {text rest elements},
    parseElements readNumeral fuel text = some (elements, rest) →
      ∀ element ∈ elements, motive element
  members : ∀ {fields text rest parsed}, (∀ field ∈ fields, motive field.2) →
    parseMembers readNumeral fuel fields text = some (parsed, rest) →
      ∀ field ∈ parsed, motive field.2

variable {motive : Json → Prop}

theorem ParseRules.scalar (rules : ParseRules readNumeral motive) {text rest : JsString}
    {value : Json} (parsed : parseScalar readNumeral text = some (value, rest)) :
    motive value := by
  unfold parseScalar at parsed
  split at parsed
  next literal found =>
    have listed := List.mem_of_find?_eq_some found
    obtain ⟨rfl, -⟩ := Prod.mk.inj (Option.some.inj parsed)
    simp only [literals, List.mem_cons, List.not_mem_nil, or_false] at listed
    rcases listed with rfl | rfl | rfl
    · exact rules.null
    · exact rules.bool true
    · exact rules.bool false
  next =>
    obtain ⟨number, read, same⟩ := Option.map_eq_some_iff.mp parsed
    obtain ⟨rfl, -⟩ := Prod.mk.inj same
    exact rules.num read

theorem ParseRules.parsesInto (rules : ParseRules readNumeral motive) (fuel : Nat) :
    ParsesInto readNumeral motive fuel := by
  induction fuel with
  | zero => exact ⟨fun parsed => (by cases parsed), fun parsed => (by cases parsed),
      fun _ parsed => (by cases parsed)⟩
  | succ fuel inductionHypothesis =>
      constructor
      · intro text rest value parsed
        unfold parseValue at parsed
        split at parsed
        next =>
          obtain ⟨units, -, same⟩ := Option.map_eq_some_iff.mp parsed
          obtain ⟨rfl, -⟩ := Prod.mk.inj same
          exact rules.str _
        next =>
          split at parsed
          next =>
            obtain ⟨rfl, -⟩ := Prod.mk.inj (Option.some.inj parsed)
            exact rules.arr fun _ member => absurd member List.not_mem_nil
          next =>
            obtain ⟨⟨elements, after⟩, inner, same⟩ := Option.map_eq_some_iff.mp parsed
            obtain ⟨rfl, -⟩ := Prod.mk.inj same
            exact rules.arr (inductionHypothesis.elements inner)
        next =>
          split at parsed
          next =>
            obtain ⟨rfl, -⟩ := Prod.mk.inj (Option.some.inj parsed)
            exact rules.obj fun _ member => absurd member List.not_mem_nil
          next =>
            obtain ⟨⟨fields, after⟩, inner, same⟩ := Option.map_eq_some_iff.mp parsed
            obtain ⟨rfl, -⟩ := Prod.mk.inj same
            have each := inductionHypothesis.members
              (fun _ member => absurd member List.not_mem_nil) inner
            exact rules.obj fun field member => each field ((orderKeys_perm fields).mem_iff.mp member)
        next => exact rules.scalar parsed
      · intro text rest elements parsed
        unfold parseElements at parsed
        obtain ⟨⟨value, after⟩, first, others⟩ := Option.bind_eq_some_iff.mp parsed
        have inner := inductionHypothesis.value first
        split at others
        next =>
          obtain ⟨⟨more, last⟩, later, same⟩ := Option.map_eq_some_iff.mp others
          obtain ⟨rfl, -⟩ := Prod.mk.inj same
          exact List.forall_mem_cons.mpr ⟨inner, inductionHypothesis.elements later⟩
        next =>
          obtain ⟨rfl, -⟩ := Prod.mk.inj (Option.some.inj others)
          exact List.forall_mem_cons.mpr ⟨inner, fun _ member => absurd member List.not_mem_nil⟩
        next => cases others
      · intro fields text rest result earlier parsed
        unfold parseMembers at parsed
        obtain ⟨⟨key, afterKey⟩, -, named⟩ := Option.bind_eq_some_iff.mp parsed
        obtain ⟨⟨value, after⟩, first, others⟩ := Option.bind_eq_some_iff.mp named
        have extended : ∀ field ∈ Fields.set fields key value, motive field.2 := by
          intro field member
          rcases Fields.mem_set member with rfl | before
          · exact inductionHypothesis.value first
          · exact earlier field before
        split at others
        next => exact inductionHypothesis.members extended others
        next =>
          obtain ⟨rfl, -⟩ := Prod.mk.inj (Option.some.inj others)
          exact extended
        next => cases others

/-- The induction over a parsed value. -/
theorem ParseRules.parse (rules : ParseRules readNumeral motive) {text : JsString} {value : Json}
    (parsed : Js.parse readNumeral text = some value) : motive value := by
  unfold Js.parse at parsed
  obtain ⟨⟨result, rest⟩, read, ended⟩ := Option.bind_eq_some_iff.mp parsed
  split at ended
  next =>
    obtain rfl := Option.some.inj ended
    exact (rules.parsesInto _).value read
  next => cases ended

/-! ### Printable values -/

/-- A value whose text `JSON.parse` reads. -/
structure Printable (readNumeral : JsString → Option Number) (value : Json) : Prop where
  distinct : value.Distinct = true
  readsBack : ReadsBack readNumeral value.numbers

theorem Kept.printable {value : Json} (kept : Kept readNumeral value) :
    Printable readNumeral value := ⟨kept.distinct, kept.readsBack⟩

theorem printable_null : Printable readNumeral .null :=
  ⟨rfl, fun _ member => absurd member List.not_mem_nil⟩

theorem printable_arr {elements : List Json}
    (each : ∀ element ∈ elements, Printable readNumeral element) :
    Printable readNumeral (.arr elements) := by
  induction elements with
  | nil => exact ⟨rfl, fun _ member => absurd member List.not_mem_nil⟩
  | cons value rest inductionHypothesis =>
      obtain ⟨first, others⟩ := List.forall_mem_cons.mp each
      have later := inductionHypothesis others
      refine ⟨?_, ?_⟩
      · have inner := later.distinct
        rw [Json.Distinct] at inner ⊢
        rw [elementsDistinct, first.distinct, inner, Bool.and_self]
      · intro decimal member
        rcases List.mem_append.mp member with here | after
        · exact first.readsBack decimal here
        · exact later.readsBack decimal after

theorem printable_obj {fields : Fields} (distinct : (fields.map Prod.fst).Nodup)
    (each : ∀ field ∈ fields, Printable readNumeral field.2) :
    Printable readNumeral (.obj fields) := by
  refine ⟨(distinct_obj_iff fields).mpr ⟨distinct, fun field member =>
    (each field member).distinct⟩, ?_⟩
  intro decimal member
  obtain ⟨field, listed, inside⟩ := mem_fieldNumbers.mp member
  exact (each field listed).readsBack decimal inside

theorem Printable.get {fields : Fields} (printable : Printable readNumeral (.obj fields))
    {key : JsString} {value : Json} (found : fields.get key = some value) :
    Printable readNumeral value := by
  have listed : (key, value) ∈ fields := Fields.mem_of_get found
  refine ⟨((distinct_obj_iff fields).mp printable.distinct).2 _ listed, ?_⟩
  intro decimal member
  exact printable.readsBack decimal (mem_fieldNumbers.mpr ⟨_, listed, member⟩)

/-- Text printed for the value is read, also in front of whitespace. -/
theorem Printable.parse {value : Json} (printable : Printable readNumeral value)
    {space : JsString} (blank : ∀ unit ∈ space, isJsonSpace unit = true) :
    Js.parse readNumeral (value.stringify ++ space) = some value.received := by
  have read := parse_stringify (Json.regular_reread value)
    (Json.distinct_reread value printable.distinct) printable.readsBack.reread blank
  rwa [Json.stringify_reread] at read

/-- A number that was read is denoted by the numeral that is printed for it. -/
def Reprints (readNumeral : JsString → Option Number) : Prop :=
  ∀ {text decimal}, readNumeral text = some (.finite decimal) →
    readNumeral decimal.toString = some (.finite decimal.dropZeroSign)

theorem reprints_readPrinted : Reprints readPrinted := by
  intro text decimal _
  exact readPrinted_readsBack [decimal] decimal List.mem_cons_self

/-- What was read once can be printed. -/
theorem printable_of_parse (reprints : Reprints readNumeral) {text : JsString} {value : Json}
    (parsed : Js.parse readNumeral text = some value) : Printable readNumeral value := by
  refine ⟨parse_distinct parsed, ?_⟩
  have rules : ParseRules readNumeral fun value => ReadsBack readNumeral value.numbers :=
    { null := fun _ member => absurd member List.not_mem_nil
      bool := fun _ _ member => absurd member List.not_mem_nil
      str := fun _ _ member => absurd member List.not_mem_nil
      num := by
        intro text number read decimal member
        cases number with
        | finite other =>
            obtain rfl := List.mem_singleton.mp member
            exact reprints read
        | nan => cases member
        | infinity negative => cases member
      arr := by
        intro elements each
        induction elements with
        | nil => exact fun _ member => absurd member List.not_mem_nil
        | cons value rest inductionHypothesis =>
            obtain ⟨first, others⟩ := List.forall_mem_cons.mp each
            intro decimal member
            rcases List.mem_append.mp member with here | after
            · exact first decimal here
            · exact inductionHypothesis others decimal after
      obj := by
        intro fields each decimal member
        obtain ⟨field, listed, inside⟩ := mem_fieldNumbers.mp member
        exact each field listed decimal inside }
  exact rules.parse parsed

end Parsing

end DarkmeshGateway.Foundation.Js
