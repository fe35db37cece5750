import DarkmeshGateway.Foundation.Js.Equality
import DarkmeshGateway.Foundation.Js.Object
import DarkmeshGateway.Foundation.Js.Stringify

/-!
Contract: `JSON.parse`, and that it reads back what `JSON.stringify` wrote.

Owns whitespace, literals, quoted strings with their escapes, arrays, objects
with the key order of the engine, the value a written text is read as, and that
every accepted text gives objects with distinct keys.

Does not own the number a numeral denotes, which is a parameter.
-/

namespace DarkmeshGateway.Foundation.Js

/-! ### Strings -/

/-- Space, tab, line feed and carriage return. -/
def isJsonSpace (unit : CodeUnit) : Bool := unit == 32 || unit == 9 || unit == 10 || unit == 13

def skipSpace (text : JsString) : JsString := text.dropWhile isJsonSpace

/-- One hexadecimal digit of either case. -/
def hexadecimal (unit : CodeUnit) : Option Nat :=
  let code := unit.toNat
  if 48 ≤ code ∧ code ≤ 57 then some (code - 48)
  else if 97 ≤ code ∧ code ≤ 102 then some (code - 87)
  else if 65 ≤ code ∧ code ≤ 70 then some (code - 55)
  else none

def unescape (unit : CodeUnit) : Option CodeUnit :=
  if unit = 34 ∨ unit = 92 ∨ unit = 47 then some unit
  else if unit = 98 then some 8
  else if unit = 102 then some 12
  else if unit = 110 then some 10
  else if unit = 114 then some 13
  else if unit = 116 then some 9
  else none

/-- The code unit of four hexadecimal digits. -/
def fourDigits (first second third fourth : CodeUnit) : Option CodeUnit := do
  let high ← hexadecimal first
  let upper ← hexadecimal second
  let lower ← hexadecimal third
  let low ← hexadecimal fourth
  return UInt16.ofNat (4096 * high + 256 * upper + 16 * lower + low)

/-- A unit in front of a parsed string. -/
def consUnit (unit : Option CodeUnit) (parsed : Option (JsString × JsString)) :
    Option (JsString × JsString) :=
  unit.bind fun unit => parsed.map fun parsed => (unit :: parsed.1, parsed.2)

/-- The units of a string behind its opening quote, and the text behind the
closing one. -/
def parseUnits : JsString → Option (JsString × JsString)
  | [] => none
  | 34 :: rest => some ([], rest)
  | 92 :: 117 :: first :: second :: third :: fourth :: rest =>
      consUnit (fourDigits first second third fourth) (parseUnits rest)
  | 92 :: unit :: rest => consUnit (unescape unit) (parseUnits rest)
  | unit :: rest => consUnit (if unit.toNat < 32 then none else some unit) (parseUnits rest)

/-! ### Objects -/

/-- An array index, which is below `2 ^ 32 - 1`. -/
def keyIndex (key : JsString) : Option Nat := (arrayIndex key).filter (· < 2 ^ 32 - 1)

/-- The properties in the order of `Object.keys`: array indices in ascending
order, then the others in the order of their definition. -/
def orderKeys (fields : Fields) : Fields :=
  (fields.filter fun field => (keyIndex field.1).isSome).insertionSort
      (fun left right => (keyIndex left.1).getD 0 ≤ (keyIndex right.1).getD 0) ++
    fields.filter fun field => !(keyIndex field.1).isSome

/-- The key of a property, and the text behind its colon. -/
def parseKey (text : JsString) : Option (JsString × JsString) :=
  match skipSpace text with
  | 34 :: rest =>
      (parseUnits rest).bind fun key =>
        match skipSpace key.2 with
        | 58 :: rest => some (key.1, rest)
        | _ => none
  | _ => none

theorem orderKeys_perm (fields : Fields) : (orderKeys fields).Perm fields := by
  unfold orderKeys
  refine ((List.perm_insertionSort _ _).append_right _).trans ?_
  exact List.filter_append_perm _ fields

/-! ### Values -/

/-- The units of a numeral. -/
def isNumeralUnit (unit : CodeUnit) : Bool := isNumberUnit unit || unit == 69

def literals : List (JsString × Json) :=
  [(js "null", .null), (js "true", .bool true), (js "false", .bool false)]

variable (readNumeral : JsString → Option Number)

/-- A literal or a numeral; `readNumeral` gives the number of a numeral, or none
for a text that is no numeral. -/
def parseScalar (text : JsString) : Option (Json × JsString) :=
  match literals.find? fun literal => literal.1.isPrefixOf text with
  | some literal => some (literal.2, text.drop literal.1.length)
  | none => (readNumeral (text.takeWhile isNumeralUnit)).map fun number =>
      (.num number, text.dropWhile isNumeralUnit)

mutual

/-- A value in front of a text, and the rest of the text. -/
def parseValue : Nat → JsString → Option (Json × JsString)
  | 0, _ => none
  | fuel + 1, text =>
      match skipSpace text with
      | 34 :: rest => (parseUnits rest).map fun parsed => (.str parsed.1, parsed.2)
      | 91 :: rest =>
          match skipSpace rest with
          | 93 :: rest => some (.arr [], rest)
          | rest => (parseElements fuel rest).map fun parsed => (.arr parsed.1, parsed.2)
      | 123 :: rest =>
          match skipSpace rest with
          | 125 :: rest => some (.obj [], rest)
          | rest => (parseMembers fuel [] rest).map fun parsed =>
              (.obj (orderKeys parsed.1), parsed.2)
      | text => parseScalar readNumeral text

/-- Elements up to the end of their array. -/
def parseElements : Nat → JsString → Option (List Json × JsString)
  | 0, _ => none
  | fuel + 1, text =>
      (parseValue fuel text).bind fun value =>
        match skipSpace value.2 with
        | 44 :: rest =>
            (parseElements fuel rest).map fun parsed => (value.1 :: parsed.1, parsed.2)
        | 93 :: rest => some ([value.1], rest)
        | _ => none

/-- Properties up to the end of their object, defined one after the other. -/
def parseMembers : Nat → Fields → JsString → Option (Fields × JsString)
  | 0, _, _ => none
  | fuel + 1, fields, text =>
      (parseKey text).bind fun key =>
        (parseValue fuel key.2).bind fun value =>
          match skipSpace value.2 with
          | 44 :: rest => parseMembers fuel (fields.set key.1 value.1) rest
          | 125 :: rest => some (fields.set key.1 value.1, rest)
          | _ => none

end

/-- `JSON.parse`; `none` is a `SyntaxError`. No value is nested deeper than twice
the length of its text. -/
def parse (text : JsString) : Option Json :=
  (parseValue readNumeral (2 * text.length + 2) text).bind fun parsed =>
    if skipSpace parsed.2 = [] then some parsed.1 else none

/-! ### Written strings -/

theorem fourDigits_unicodeEscape (unit : CodeUnit) :
    fourDigits (hexDigit (unit.toNat / 4096)) (hexDigit (unit.toNat / 256 % 16))
      (hexDigit (unit.toNat / 16 % 16)) (hexDigit (unit.toNat % 16)) = some unit := by
  have digit {value : Nat} (small : value < 16) : hexadecimal (hexDigit value) = some value := by
    interval_cases value <;> rfl
  have bound : unit.toNat < 65536 := unit.toNat_lt
  have assembled : 4096 * (unit.toNat / 4096) + 256 * (unit.toNat / 256 % 16) +
      16 * (unit.toNat / 16 % 16) + unit.toNat % 16 = unit.toNat := by omega
  simp only [fourDigits, digit (show unit.toNat / 4096 < 16 by omega),
    digit (show unit.toNat / 256 % 16 < 16 by omega),
    digit (show unit.toNat / 16 % 16 < 16 by omega),
    digit (show unit.toNat % 16 < 16 by omega), bind, pure, Option.bind_some, assembled,
    UInt16.ofNat_toNat]

/-- A unit that needs no escape is read as itself. -/
theorem parseUnits_plain {unit : CodeUnit} (notQuote : unit ≠ 34) (notEscape : unit ≠ 92)
    (printed : ¬unit.toNat < 32) (rest : JsString) :
    parseUnits (unit :: rest) = consUnit (some unit) (parseUnits rest) := by
  rw [parseUnits.eq_def]
  split
  next => simp_all
  next => simp_all
  next => simp_all
  next => simp_all
  next same =>
    obtain ⟨rfl, rfl⟩ := List.cons.inj same
    rw [if_neg printed]

/-- An escaped unit is read as that unit. -/
theorem parseUnits_escapeUnit (unit : CodeUnit) (rest : JsString) :
    parseUnits (escapeUnit unit ++ rest) = consUnit (some unit) (parseUnits rest) := by
  have coded : parseUnits (unicodeEscape unit ++ rest) =
      consUnit (some unit) (parseUnits rest) := by
    simp only [unicodeEscape, List.cons_append, List.nil_append, parseUnits,
      fourDigits_unicodeEscape]
  unfold escapeUnit
  split_ifs with isQuote isEscape _ _ _ _ _ special
  · subst unit; rfl
  · subst unit; rfl
  · subst unit; rfl
  · subst unit; rfl
  · subst unit; rfl
  · subst unit; rfl
  · subst unit; rfl
  · exact coded
  · have printed : ¬unit.toNat < 32 := by
      intro control
      exact special (by simp [control])
    exact parseUnits_plain isQuote isEscape printed rest

theorem parseUnits_quoteUnits (rest : JsString) : (units : JsString) →
    parseUnits (quoteUnits units ++ 34 :: rest) = some (units, rest)
  | [] => rfl
  | [unit] => by
      rw [quoteUnits, parseUnits_escapeUnit]
      rfl
  | unit :: next :: more => by
      unfold quoteUnits
      split
      next pair =>
        simp only [Bool.and_eq_true] at pair
        obtain ⟨firstQuote, firstEscape⟩ := surrogate_not_special (Or.inl pair.1)
        obtain ⟨nextQuote, nextEscape⟩ := surrogate_not_special (Or.inr pair.2)
        have printed {unit : CodeUnit}
            (surrogate : isHighSurrogate unit = true ∨ isLowSurrogate unit = true) :
            ¬unit.toNat < 32 := by
          simp only [isHighSurrogate, isLowSurrogate, Bool.and_eq_true, decide_eq_true_eq]
            at surrogate
          omega
        rw [List.cons_append, List.cons_append,
          parseUnits_plain firstQuote firstEscape (printed (Or.inl pair.1)),
          parseUnits_plain nextQuote nextEscape (printed (Or.inr pair.2)),
          parseUnits_quoteUnits rest more]
        rfl
      next =>
        rw [List.append_assoc, parseUnits_escapeUnit, parseUnits_quoteUnits rest (next :: more)]
        rfl

theorem parseKey_quote (key rest : JsString) :
    parseKey (quote key ++ 58 :: rest) = some (key, rest) := by
  have spelled : quote key ++ 58 :: rest = 34 :: (quoteUnits key ++ 34 :: 58 :: rest) := by
    simp [quote]
  rw [spelled]
  show (parseUnits (quoteUnits key ++ 34 :: 58 :: rest)).bind _ = _
  rw [parseUnits_quoteUnits]
  rfl

/-! ### Written values -/

mutual

/-- The value as it is read back: the properties of objects in the order of
`Object.keys`, at every depth. -/
def Json.ordered : Json → Json
  | .arr elements => .arr (orderedElements elements)
  | .obj fields => .obj (orderKeys (orderedFields fields))
  | .null => .null
  | .bool value => .bool value
  | .num value => .num value
  | .str value => .str value

def orderedElements : List Json → List Json
  | [] => []
  | value :: rest => value.ordered :: orderedElements rest

def orderedFields : Fields → Fields
  | [] => []
  | (key, value) :: rest => (key, value.ordered) :: orderedFields rest

end

mutual

/-- The finite numbers of a value. -/
def Json.numbers : Json → List Decimal
  | .num (.finite decimal) => [decimal]
  | .arr elements => elementNumbers elements
  | .obj fields => fieldNumbers fields
  | _ => []

def elementNumbers : List Json → List Decimal
  | [] => []
  | value :: rest => value.numbers ++ elementNumbers rest

def fieldNumbers : Fields → List Decimal
  | [] => []
  | (_, value) :: rest => value.numbers ++ fieldNumbers rest

end

/-- The numerals written for some numbers denote them, where `0` is not `-0`. -/
def ReadsBack (decimals : List Decimal) : Prop :=
  ∀ decimal ∈ decimals, readNumeral decimal.toString = some (.finite decimal.dropZeroSign)

/-- A rest that cannot continue a numeral. -/
def EndsNumeral (rest : JsString) : Prop := ∀ unit ∈ rest.head?, isNumeralUnit unit = false

variable {readNumeral}

theorem endsNumeral_cons {unit : CodeUnit} (ends : isNumeralUnit unit = false) (rest : JsString) :
    EndsNumeral (unit :: rest) := by
  intro head member
  obtain rfl : unit = head := by simpa using member
  exact ends

theorem isJsonSpace_of_digit {unit : CodeUnit} (digit : isDigit unit = true) :
    isJsonSpace unit = false := by
  by_contra space
  simp only [isJsonSpace, Bool.not_eq_false, Bool.or_eq_true, beq_iff_eq] at space
  rcases space with ((rfl | rfl) | rfl) | rfl <;> cases digit

/-- A written number is read as the number it denotes. -/
theorem parseScalar_number {decimal : Decimal} {number : Number}
    (denotes : readNumeral decimal.toString = some number) {rest : JsString}
    (ends : EndsNumeral rest) :
    parseScalar readNumeral (decimal.toString ++ rest) = some (.num number, rest) := by
  obtain ⟨first, more, text, leads⟩ := decimal.toString_head
  have noLiteral : literals.find? (fun literal =>
      literal.1.isPrefixOf (decimal.toString ++ rest)) = none := by
    have other : first ≠ 110 ∧ first ≠ 116 ∧ first ≠ 102 := by
      rcases leads with digit | rfl
      · refine ⟨?_, ?_, ?_⟩ <;> rintro rfl <;> cases digit
      · decide
    rw [text]
    simp [literals, js, other.1.symm, other.2.1.symm, other.2.2.symm]
  have units : ∀ unit ∈ decimal.toString, isNumeralUnit unit = true := by
    intro unit member
    simp [isNumeralUnit, Decimal.isNumberUnit_toString member]
  have taken : rest.takeWhile isNumeralUnit = [] ∧ rest.dropWhile isNumeralUnit = rest := by
    cases rest with
    | nil => exact ⟨rfl, rfl⟩
    | cons unit others =>
        have stops : ¬isNumeralUnit unit = true := by simp [ends unit rfl]
        exact ⟨List.takeWhile_cons_of_neg stops, List.dropWhile_cons_of_neg stops⟩
  rw [parseScalar, noLiteral]
  dsimp only
  rw [List.takeWhile_append_of_pos units, List.dropWhile_append_of_pos units, taken.1, taken.2,
    List.append_nil, denotes]
  rfl

/-- A text that starts with no space, string, array or object is a scalar. -/
private theorem parseValue_scalar (fuel : Nat) {first : CodeUnit}
    (leads : isDigit first = true ∨ first = 45) (text : JsString) :
    parseValue readNumeral (fuel + 1) (first :: text) = parseScalar readNumeral (first :: text) := by
  have notSpace : isJsonSpace first = false ∧ first ≠ 34 ∧ first ≠ 91 ∧ first ≠ 123 := by
    rcases leads with digit | rfl
    · refine ⟨isJsonSpace_of_digit digit, ?_, ?_, ?_⟩
      · rintro rfl; cases digit
      · rintro rfl; cases digit
      · rintro rfl; cases digit
    · decide
  have kept : skipSpace (first :: text) = first :: text :=
    List.dropWhile_cons_of_neg (by simp [notSpace.1])
  rw [parseValue.eq_def]
  dsimp only
  rw [kept]
  split
  next same => exact absurd (List.cons.inj same).1 notSpace.2.1
  next same => exact absurd (List.cons.inj same).1 notSpace.2.2.1
  next same => exact absurd (List.cons.inj same).1 notSpace.2.2.2
  next => rfl

/-- The text of a value starts with no space, and closes no array. -/
private theorem stringify_starts {value : Json} (regular : value.Regular = true) :
    ∃ first rest, value.stringify = first :: rest ∧ isJsonSpace first = false ∧ first ≠ 93 := by
  cases value with
  | null => exact ⟨110, _, rfl, rfl, by decide⟩
  | bool value => cases value <;> exact ⟨_, _, rfl, rfl, by decide⟩
  | num value =>
      cases value with
      | finite decimal =>
          obtain ⟨first, rest, text, leads⟩ := decimal.toString_head
          refine ⟨first, rest, text, ?_⟩
          rcases leads with digit | rfl
          · refine ⟨isJsonSpace_of_digit digit, ?_⟩
            rintro rfl
            cases digit
          · decide
      | nan => simp [Json.Regular] at regular
      | infinity negative => simp [Json.Regular] at regular
  | str value => exact ⟨34, _, rfl, rfl, by decide⟩
  | arr elements => exact ⟨91, _, rfl, rfl, by decide⟩
  | obj fields => exact ⟨123, _, rfl, rfl, by decide⟩

theorem Fields.set_of_absent {fields : Fields} {key : JsString} (absent : key ∉ fields.map Prod.fst)
    (value : Json) : fields.set key value = fields ++ [(key, value)] := by
  induction fields with
  | nil => rfl
  | cons field rest inductionHypothesis =>
      obtain ⟨name, old⟩ := field
      rw [List.map_cons, List.mem_cons, not_or] at absent
      rw [Fields.set, if_neg (Ne.symm absent.1), inductionHypothesis absent.2, List.cons_append]

/-- An array with an element is read element by element. -/
private theorem parseValue_array (fuel : Nat) {first : CodeUnit} (notSpace : isJsonSpace first = false)
    (notClosed : first ≠ 93) (text : JsString) :
    parseValue readNumeral (fuel + 1) (91 :: first :: text) =
      (parseElements readNumeral fuel (first :: text)).map fun parsed =>
        (.arr parsed.1, parsed.2) := by
  have kept : skipSpace (first :: text) = first :: text :=
    List.dropWhile_cons_of_neg (by simp [notSpace])
  have opened : skipSpace (91 :: first :: text) = 91 :: first :: text := rfl
  rw [parseValue.eq_def]
  dsimp only
  rw [opened]
  split
  next same => exact absurd (List.cons.inj same).1 (by decide)
  next inner same =>
    obtain rfl := (List.cons.inj same).2
    rw [kept]
    split
    next closed => exact absurd (List.cons.inj closed).1 notClosed
    next => rfl
  next same => exact absurd (List.cons.inj same).1 (by decide)
  next other _ => exact absurd rfl (other (first :: text))

private theorem endsNumeral_afterElement (others : List Json) (rest : JsString) :
    EndsNumeral (afterElement others (93 :: rest)) := by
  cases others <;> exact endsNumeral_cons (by decide) _

private theorem endsNumeral_afterField (others : Fields) (rest : JsString) :
    EndsNumeral (afterField others (125 :: rest)) := by
  cases others <;> exact endsNumeral_cons (by decide) _

theorem elementNumbers_cons (value : Json) (others : List Json)
    (readsBack : ReadsBack readNumeral (elementNumbers (value :: others))) :
    ReadsBack readNumeral value.numbers ∧ ReadsBack readNumeral (elementNumbers others) := by
  constructor
  · intro decimal member
    exact readsBack decimal (List.mem_append_left _ member)
  · intro decimal member
    exact readsBack decimal (List.mem_append_right _ member)

theorem fieldNumbers_cons (key : JsString) (value : Json) (others : Fields)
    (readsBack : ReadsBack readNumeral (fieldNumbers ((key, value) :: others))) :
    ReadsBack readNumeral value.numbers ∧ ReadsBack readNumeral (fieldNumbers others) := by
  constructor
  · intro decimal member
    exact readsBack decimal (List.mem_append_left _ member)
  · intro decimal member
    exact readsBack decimal (List.mem_append_right _ member)

mutual

/-- A written value is read back in front of any rest that ends a numeral. -/
theorem parseValue_stringify : (value : Json) → value.Regular = true → value.Distinct = true →
    ReadsBack readNumeral value.numbers → (fuel : Nat) → (rest : JsString) →
    2 * value.stringify.length ≤ fuel → EndsNumeral rest →
    parseValue readNumeral fuel (value.stringify ++ rest) = some (value.ordered, rest)
  | .null, _, _, _, fuel + 1, rest, _, _ => rfl
  | .bool true, _, _, _, fuel + 1, rest, _, _ => rfl
  | .bool false, _, _, _, fuel + 1, rest, _, _ => rfl
  | .num (.finite decimal), regular, _, readsBack, fuel + 1, rest, _, ends => by
      have denotes := readsBack decimal (by simp [Json.numbers])
      have unsigned : decimal.dropZeroSign = decimal := by simpa [Json.Regular] using regular
      obtain ⟨first, more, text, leads⟩ := decimal.toString_head
      have scalar := parseScalar_number denotes ends
      show parseValue readNumeral (fuel + 1) (decimal.toString ++ rest) = _
      rw [text] at scalar ⊢
      rw [List.cons_append, parseValue_scalar fuel leads, ← List.cons_append, scalar, unsigned]
      rfl
  | .num .nan, regular, _, _, _, _, _, _ => by simp [Json.Regular] at regular
  | .num (.infinity _), regular, _, _, _, _, _, _ => by simp [Json.Regular] at regular
  | .str text, _, _, _, fuel + 1, rest, _, _ => by
      have units := parseUnits_quoteUnits rest text
      show ((parseUnits ((quoteUnits text ++ [34]) ++ rest)).map _) = _
      rw [List.append_assoc]
      show ((parseUnits (quoteUnits text ++ 34 :: rest)).map _) = _
      rw [units]
      rfl
  | .arr elements, regular, distinct, readsBack, fuel + 1, rest, enough, _ => by
      have written : (Json.arr elements).stringify ++ rest =
          91 :: (stringifyElements elements ++ 93 :: rest) := by simp [Json.stringify]
      have long : (Json.arr elements).stringify.length = (stringifyElements elements).length + 2 := by
        simp [Json.stringify]
      rw [written]
      have parsed := parseElements_stringify elements regular distinct readsBack fuel rest
      cases elements with
      | nil => rfl
      | cons value others =>
          simp only [Json.Regular, elementsRegular, Bool.and_eq_true] at regular
          obtain ⟨first, more, text, notSpace, notClosed⟩ := stringify_starts regular.1
          have within := parsed (List.cons_ne_nil _ _) (by omega)
          rw [stringifyElements_append, text, List.cons_append] at within ⊢
          rw [parseValue_array fuel notSpace notClosed, within]
          rfl
  | .obj fields, regular, distinct, readsBack, fuel + 1, rest, enough, _ => by
      have written : (Json.obj fields).stringify ++ rest =
          123 :: (stringifyFields fields ++ 125 :: rest) := by simp [Json.stringify]
      have long : (Json.obj fields).stringify.length = (stringifyFields fields).length + 2 := by
        simp [Json.stringify]
      simp only [Json.Distinct, Bool.and_eq_true, decide_eq_true_eq] at distinct
      rw [written]
      have parsed := parseMembers_stringify fields regular distinct.2 readsBack [] fuel rest
      cases fields with
      | nil => rfl
      | cons field others =>
          obtain ⟨key, value⟩ := field
          have within := parsed (List.cons_ne_nil _ _) distinct.1 (by omega)
          rw [stringifyFields_append] at within ⊢
          show (parseMembers readNumeral fuel [] (quote key ++ _)).map _ = _
          rw [within]
          rfl
  | .null, _, _, _, 0, _, enough, _ => by simp [Json.stringify, js] at enough
  | .bool value, _, _, _, 0, _, enough, _ => by
      cases value <;> simp [Json.stringify, js] at enough
  | .num (.finite decimal), _, _, _, 0, _, enough, _ => by
      obtain ⟨first, more, text, -⟩ := decimal.toString_head
      simp [Json.stringify, Number.isFinite, Number.toString, text] at enough
  | .str _, _, _, _, 0, _, enough, _ => by simp [Json.stringify, quote] at enough
  | .arr _, _, _, _, 0, _, enough, _ => by simp [Json.stringify] at enough
  | .obj _, _, _, _, 0, _, enough, _ => by simp [Json.stringify] at enough

theorem parseElements_stringify : (elements : List Json) → elementsRegular elements = true →
    elementsDistinct elements = true → ReadsBack readNumeral (elementNumbers elements) →
    (fuel : Nat) → (rest : JsString) → elements ≠ [] →
    2 * (stringifyElements elements).length + 1 ≤ fuel →
    parseElements readNumeral fuel (stringifyElements elements ++ 93 :: rest) =
      some (orderedElements elements, rest)
  | [], _, _, _, _, _, nonempty, _ => absurd rfl nonempty
  | value :: others, regular, distinct, readsBack, 0, rest, _, enough => by omega
  | value :: others, regular, distinct, readsBack, fuel + 1, rest, _, enough => by
      simp only [elementsRegular, elementsDistinct, Bool.and_eq_true] at regular distinct
      obtain ⟨valueReads, othersRead⟩ := elementNumbers_cons value others readsBack
      have head := parseValue_stringify value regular.1 distinct.1 valueReads fuel
        (afterElement others (93 :: rest))
      have tail := parseElements_stringify others regular.2 distinct.2 othersRead fuel rest
      have long := congrArg List.length (stringifyElements_append value others [])
      simp only [List.append_nil, List.length_append] at long
      rw [stringifyElements_append, parseElements,
        head (by omega) (endsNumeral_afterElement others rest), Option.bind_some]
      cases others with
      | nil => rfl
      | cons next more =>
          simp only [afterElement, List.append_nil, List.length_cons] at long
          show (parseElements readNumeral fuel (stringifyElements (next :: more) ++ 93 :: rest)).map
            _ = _
          rw [tail (List.cons_ne_nil _ _) (by omega)]
          rfl

theorem parseMembers_stringify : (fields : Fields) → fieldsRegular fields = true →
    fieldsDistinct fields = true → ReadsBack readNumeral (fieldNumbers fields) →
    (defined : Fields) → (fuel : Nat) → (rest : JsString) → fields ≠ [] →
    (defined.map Prod.fst ++ fields.map Prod.fst).Nodup →
    2 * (stringifyFields fields).length + 1 ≤ fuel →
    parseMembers readNumeral fuel defined (stringifyFields fields ++ 125 :: rest) =
      some (defined ++ orderedFields fields, rest)
  | [], _, _, _, _, _, _, nonempty, _, _ => absurd rfl nonempty
  | (key, value) :: others, regular, distinct, readsBack, defined, 0, rest, _, _, enough => by omega
  | (key, value) :: others, regular, distinct, readsBack, defined, fuel + 1, rest, _, fresh,
      enough => by
      simp only [fieldsRegular, fieldsDistinct, Bool.and_eq_true] at regular distinct
      obtain ⟨valueReads, othersRead⟩ := fieldNumbers_cons key value others readsBack
      have head := parseValue_stringify value regular.1 distinct.1 valueReads fuel
        (afterField others (125 :: rest))
      have absent : key ∉ defined.map Prod.fst := by
        intro present
        exact (List.nodup_append.mp fresh).2.2 key present key (by simp) rfl
      have tail := parseMembers_stringify others regular.2 distinct.2 othersRead
        (defined ++ [(key, value.ordered)]) fuel rest
      have long := congrArg List.length (stringifyFields_append key value others [])
      simp only [List.append_nil, List.length_append, List.length_cons] at long
      rw [stringifyFields_append, parseMembers, parseKey_quote, Option.bind_some]
      dsimp only
      rw [head (by omega) (endsNumeral_afterField others rest), Option.bind_some]
      dsimp only
      rw [Fields.set_of_absent absent]
      cases others with
      | nil => rfl
      | cons next more =>
          simp only [afterField, List.append_nil, List.length_cons] at long
          show parseMembers readNumeral fuel _ (stringifyFields (next :: more) ++ 125 :: rest) = _
          have later : ((defined ++ [(key, value.ordered)]).map Prod.fst ++
              (next :: more).map Prod.fst).Nodup := by
            simpa using fresh
          rw [tail (List.cons_ne_nil _ _) later (by omega)]
          simp [orderedFields]

end

/-- Whitespace cannot continue a numeral. -/
private theorem endsNumeral_space {space : JsString}
    (blank : ∀ unit ∈ space, isJsonSpace unit = true) : EndsNumeral space := by
  intro unit leads
  have isSpace := blank unit (List.mem_of_mem_head? leads)
  simp only [isJsonSpace, Bool.or_eq_true, beq_iff_eq] at isSpace
  rcases isSpace with ((rfl | rfl) | rfl) | rfl
  all_goals decide

/-- `JSON.parse` reads back what `JSON.stringify` wrote, with the keys in the
order of the engine, also in front of whitespace. -/
theorem parse_stringify {value : Json} (regular : value.Regular = true)
    (distinct : value.Distinct = true) (readsBack : ReadsBack readNumeral value.numbers)
    {space : JsString} (blank : ∀ unit ∈ space, isJsonSpace unit = true) :
    parse readNumeral (value.stringify ++ space) = some value.ordered := by
  have enough : 2 * value.stringify.length ≤ 2 * (value.stringify ++ space).length + 2 := by
    rw [List.length_append]
    omega
  have read := parseValue_stringify value regular distinct readsBack _ space enough
    (endsNumeral_space blank)
  have nothing : skipSpace space = [] := List.dropWhile_eq_nil_iff.mpr blank
  rw [parse, read, Option.bind_some, if_pos nothing]

/-! ### Sorted values -/

mutual

/-- The order of the keys is immaterial to the sorted value. -/
theorem Json.canonical_ordered : (value : Json) → value.Distinct = true →
    value.ordered.canonical = value.canonical
  | .null, _ => rfl
  | .bool _, _ => rfl
  | .num _, _ => rfl
  | .str _, _ => rfl
  | .arr elements, distinct => by
      rw [Json.ordered, Json.canonical, Json.canonical,
        canonicalElements_ordered elements distinct]
  | .obj fields, distinct => by
      simp only [Json.Distinct, Bool.and_eq_true, decide_eq_true_eq] at distinct
      have values := canonicalFields_ordered fields distinct.2
      have keys : ((canonicalFields (orderedFields fields)).map Prod.fst).Nodup := by
        rw [values, canonicalFields_keys]
        exact distinct.1
      have perm : (canonicalFields (orderedFields fields)).Perm
          (canonicalFields (orderKeys (orderedFields fields))) := by
        rw [canonicalFields_eq, canonicalFields_eq]
        exact (orderKeys_perm _).symm.map _
      rw [Json.ordered, Json.canonical, Json.canonical, ← sortByKey_eq_of_perm keys perm, values]

theorem canonicalElements_ordered : (elements : List Json) → elementsDistinct elements = true →
    canonicalElements (orderedElements elements) = canonicalElements elements
  | [], _ => rfl
  | value :: rest, distinct => by
      simp only [elementsDistinct, Bool.and_eq_true] at distinct
      rw [orderedElements, canonicalElements, canonicalElements,
        Json.canonical_ordered value distinct.1, canonicalElements_ordered rest distinct.2]

theorem canonicalFields_ordered : (fields : Fields) → fieldsDistinct fields = true →
    canonicalFields (orderedFields fields) = canonicalFields fields
  | [], _ => rfl
  | (key, value) :: rest, distinct => by
      simp only [fieldsDistinct, Bool.and_eq_true] at distinct
      rw [orderedFields, canonicalFields, canonicalFields,
        Json.canonical_ordered value distinct.1, canonicalFields_ordered rest distinct.2]

end

mutual

theorem Json.regular_ordered : (value : Json) → value.Regular = true →
    value.ordered.Regular = true
  | .null, _ => rfl
  | .bool _, _ => rfl
  | .num _, regular => regular
  | .str _, _ => rfl
  | .arr elements, regular => elementsRegular_ordered elements regular
  | .obj fields, regular => by
      rw [Json.ordered, Json.Regular, fieldsRegular_iff]
      intro field member
      exact (fieldsRegular_iff _).mp (fieldsRegular_ordered fields regular) field
        ((orderKeys_perm _).mem_iff.mp member)

theorem elementsRegular_ordered : (elements : List Json) → elementsRegular elements = true →
    elementsRegular (orderedElements elements) = true
  | [], _ => rfl
  | value :: rest, regular => by
      simp only [elementsRegular, Bool.and_eq_true] at regular
      rw [orderedElements, elementsRegular, Json.regular_ordered value regular.1,
        elementsRegular_ordered rest regular.2, Bool.and_self]

theorem fieldsRegular_ordered : (fields : Fields) → fieldsRegular fields = true →
    fieldsRegular (orderedFields fields) = true
  | [], _ => rfl
  | (key, value) :: rest, regular => by
      simp only [fieldsRegular, Bool.and_eq_true] at regular
      rw [orderedFields, fieldsRegular, Json.regular_ordered value regular.1,
        fieldsRegular_ordered rest regular.2, Bool.and_self]

end

theorem mem_fieldNumbers {fields : Fields} {decimal : Decimal} :
    decimal ∈ fieldNumbers fields ↔ ∃ field ∈ fields, decimal ∈ field.2.numbers := by
  induction fields with
  | nil => simp [fieldNumbers]
  | cons field rest inductionHypothesis =>
      obtain ⟨key, value⟩ := field
      simp [fieldNumbers, inductionHypothesis]

mutual

/-- The numbers of a sorted value are those of the value, up to the sign of zero. -/
theorem Json.numbers_canonical : (value : Json) → {decimal : Decimal} →
    decimal ∈ value.canonical.numbers → ∃ original ∈ value.numbers, original.dropZeroSign = decimal
  | .null, _, member => absurd member List.not_mem_nil
  | .bool _, _, member => absurd member List.not_mem_nil
  | .str _, _, member => absurd member List.not_mem_nil
  | .num .nan, _, member => absurd member List.not_mem_nil
  | .num (.infinity _), _, member => absurd member List.not_mem_nil
  | .num (.finite original), _, member =>
      ⟨original, List.mem_singleton_self _, (List.mem_singleton.mp member).symm⟩
  | .arr elements, _, member => elementNumbers_canonical elements member
  | .obj fields, decimal, member => by
      obtain ⟨field, sorted, inside⟩ := mem_fieldNumbers.mp member
      have unsorted := (sortByKey_perm _).mem_iff.mp sorted
      exact fieldNumbers_canonical fields (mem_fieldNumbers.mpr ⟨field, unsorted, inside⟩)

theorem elementNumbers_canonical : (elements : List Json) → {decimal : Decimal} →
    decimal ∈ elementNumbers (canonicalElements elements) →
    ∃ original ∈ elementNumbers elements, original.dropZeroSign = decimal
  | [], _, member => absurd member List.not_mem_nil
  | value :: rest, _, member => by
      rcases List.mem_append.mp member with here | later
      · obtain ⟨original, inValue, same⟩ := Json.numbers_canonical value here
        exact ⟨original, List.mem_append_left _ inValue, same⟩
      · obtain ⟨original, inRest, same⟩ := elementNumbers_canonical rest later
        exact ⟨original, List.mem_append_right _ inRest, same⟩

theorem fieldNumbers_canonical : (fields : Fields) → {decimal : Decimal} →
    decimal ∈ fieldNumbers (canonicalFields fields) →
    ∃ original ∈ fieldNumbers fields, original.dropZeroSign = decimal
  | [], _, member => absurd member List.not_mem_nil
  | (_, value) :: rest, _, member => by
      rcases List.mem_append.mp member with here | later
      · obtain ⟨original, inValue, same⟩ := Json.numbers_canonical value here
        exact ⟨original, List.mem_append_left _ inValue, same⟩
      · obtain ⟨original, inRest, same⟩ := fieldNumbers_canonical rest later
        exact ⟨original, List.mem_append_right _ inRest, same⟩

end

theorem ReadsBack.canonical {value : Json} (readsBack : ReadsBack readNumeral value.numbers) :
    ReadsBack readNumeral value.canonical.numbers := by
  intro decimal member
  obtain ⟨original, inValue, rfl⟩ := Json.numbers_canonical value member
  rw [Decimal.toString_dropZeroSign, Decimal.dropZeroSign_idempotent]
  exact readsBack original inValue

/-- The text of a sorted value is read as a value that sorts to the same. -/
theorem parse_canonical {value : Json} (finite : value.AllFinite = true)
    (distinct : value.Distinct = true) (readsBack : ReadsBack readNumeral value.numbers) :
    ∃ parsed, parse readNumeral value.canonical.stringify = some parsed ∧
      parsed.AllFinite = true ∧ parsed.canonical = value.canonical := by
  have regular := Json.regular_canonical value finite
  have sortedDistinct := Json.distinct_canonical value distinct
  refine ⟨value.canonical.ordered, ?_, ?_, ?_⟩
  · have blank : ∀ unit ∈ ([] : JsString), isJsonSpace unit = true := by simp
    have read := parse_stringify regular sortedDistinct readsBack.canonical blank
    rwa [List.append_nil] at read
  · exact Json.allFinite_of_regular _ (Json.regular_ordered _ regular)
  · rw [Json.canonical_ordered _ sortedDistinct, Json.canonical_idempotent]

/-! ### Accepted texts -/

theorem distinct_obj_iff (fields : Fields) :
    (Json.obj fields).Distinct = true ↔
      (fields.map Prod.fst).Nodup ∧ ∀ field ∈ fields, field.2.Distinct = true := by
  rw [Json.Distinct, Bool.and_eq_true, decide_eq_true_eq, fieldsDistinct_iff]

theorem Fields.keys_set (fields : Fields) (key : JsString) (value : Json) :
    (fields.set key value).map Prod.fst =
      if key ∈ fields.map Prod.fst then fields.map Prod.fst else fields.map Prod.fst ++ [key] := by
  induction fields with
  | nil => simp [Fields.set]
  | cons field rest inductionHypothesis =>
      obtain ⟨name, old⟩ := field
      by_cases same : name = key
      · simp [Fields.set, same]
      · have other : key ≠ name := Ne.symm same
        simp only [Fields.set, same, if_false, List.map_cons, inductionHypothesis, List.mem_cons,
          other, false_or]
        split <;> rfl

theorem Fields.mem_set {fields : Fields} {key : JsString} {value : Json} {field : JsString × Json}
    (member : field ∈ fields.set key value) : field = (key, value) ∨ field ∈ fields := by
  induction fields with
  | nil => exact Or.inl (List.mem_singleton.mp member)
  | cons head rest inductionHypothesis =>
      obtain ⟨name, old⟩ := head
      unfold Fields.set at member
      split at member
      next =>
        rcases List.mem_cons.mp member with here | later
        · exact Or.inl here
        · exact Or.inr (List.mem_cons_of_mem _ later)
      next =>
        rcases List.mem_cons.mp member with here | later
        · exact Or.inr (here ▸ List.mem_cons_self)
        · exact (inductionHypothesis later).imp_right (List.mem_cons_of_mem _)

/-- A property with distinct keys of its own keeps the keys of its object distinct. -/
theorem distinct_set {fields : Fields} {key : JsString} {value : Json}
    (distinct : (Json.obj fields).Distinct = true) (inner : value.Distinct = true) :
    (Json.obj (fields.set key value)).Distinct = true := by
  rw [distinct_obj_iff] at distinct ⊢
  constructor
  · rw [Fields.keys_set]
    split
    next => exact distinct.1
    next absent =>
      refine List.nodup_append.mpr ⟨distinct.1, List.nodup_singleton key, ?_⟩
      rintro left member right rightMember rfl
      exact absent (List.mem_singleton.mp rightMember ▸ member)
  · intro field member
    rcases Fields.mem_set member with rfl | earlier
    · exact inner
    · exact distinct.2 field earlier

theorem distinct_perm {left right : Fields} (perm : left.Perm right)
    (distinct : (Json.obj right).Distinct = true) : (Json.obj left).Distinct = true := by
  rw [distinct_obj_iff] at distinct ⊢
  exact ⟨(perm.map Prod.fst).nodup_iff.mpr distinct.1,
    fun field member => distinct.2 field (perm.mem_iff.mp member)⟩

/-- What the three parsers return with so much fuel has distinct keys. -/
structure ParsesDistinct (readNumeral : JsString → Option Number) (fuel : Nat) : Prop where
  value : ∀ {text rest value}, parseValue readNumeral fuel text = some (value, rest) →
    value.Distinct = true
  elements : ∀ {text rest elements}, parseElements readNumeral fuel text = some (elements, rest) →
    elementsDistinct elements = true
  members : ∀ {fields text rest parsed}, (Json.obj fields).Distinct = true →
    parseMembers readNumeral fuel fields text = some (parsed, rest) →
      (Json.obj parsed).Distinct = true

theorem distinct_parseScalar {text rest : JsString} {value : Json}
    (parsed : parseScalar readNumeral text = some (value, rest)) : value.Distinct = true := by
  unfold parseScalar at parsed
  split at parsed
  next literal found =>
    have listed := List.mem_of_find?_eq_some found
    obtain ⟨rfl, -⟩ := Prod.mk.inj (Option.some.inj parsed)
    simp only [literals, List.mem_cons, List.not_mem_nil, or_false] at listed
    rcases listed with rfl | rfl | rfl
    all_goals rfl
  next =>
    obtain ⟨number, -, same⟩ := Option.map_eq_some_iff.mp parsed
    obtain ⟨rfl, -⟩ := Prod.mk.inj same
    rfl

theorem parsesDistinct (readNumeral : JsString → Option Number) (fuel : Nat) :
    ParsesDistinct readNumeral fuel := by
  induction fuel with
  | zero =>
      constructor
      · intro text rest value parsed
        cases parsed
      · intro text rest elements parsed
        cases parsed
      · intro fields text rest result _ parsed
        cases parsed
  | succ fuel inductionHypothesis =>
      constructor
      · intro text rest value parsed
        unfold parseValue at parsed
        split at parsed
        next =>
          obtain ⟨units, -, same⟩ := Option.map_eq_some_iff.mp parsed
          obtain ⟨rfl, -⟩ := Prod.mk.inj same
          rfl
        next =>
          split at parsed
          next =>
            obtain ⟨rfl, -⟩ := Prod.mk.inj (Option.some.inj parsed)
            rfl
          next =>
            obtain ⟨⟨elements, after⟩, inner, same⟩ := Option.map_eq_some_iff.mp parsed
            obtain ⟨rfl, -⟩ := Prod.mk.inj same
            exact inductionHypothesis.elements inner
        next =>
          split at parsed
          next =>
            obtain ⟨rfl, -⟩ := Prod.mk.inj (Option.some.inj parsed)
            rfl
          next =>
            obtain ⟨⟨fields, after⟩, inner, same⟩ := Option.map_eq_some_iff.mp parsed
            obtain ⟨rfl, -⟩ := Prod.mk.inj same
            exact distinct_perm (orderKeys_perm fields) (inductionHypothesis.members rfl inner)
        next => exact distinct_parseScalar parsed
      · intro text rest elements parsed
        unfold parseElements at parsed
        obtain ⟨⟨value, after⟩, first, others⟩ := Option.bind_eq_some_iff.mp parsed
        have inner := inductionHypothesis.value first
        split at others
        next =>
          obtain ⟨⟨more, last⟩, later, same⟩ := Option.map_eq_some_iff.mp others
          obtain ⟨rfl, -⟩ := Prod.mk.inj same
          simp [elementsDistinct, inner, inductionHypothesis.elements later]
        next =>
          obtain ⟨rfl, -⟩ := Prod.mk.inj (Option.some.inj others)
          simp [elementsDistinct, inner]
        next => cases others
      · intro fields text rest result distinct parsed
        unfold parseMembers at parsed
        obtain ⟨⟨key, afterKey⟩, -, named⟩ := Option.bind_eq_some_iff.mp parsed
        obtain ⟨⟨value, after⟩, first, others⟩ := Option.bind_eq_some_iff.mp named
        have extended : (Json.obj (Fields.set fields key value)).Distinct = true :=
          distinct_set distinct (inductionHypothesis.value first)
        split at others
        next => exact inductionHypothesis.members extended others
        next =>
          obtain ⟨rfl, -⟩ := Prod.mk.inj (Option.some.inj others)
          exact extended
        next => cases others

/-- A parsed value has distinct keys. -/
theorem parse_distinct {text : JsString} {value : Json}
    (parsed : parse readNumeral text = some value) : value.Distinct = true := by
  unfold parse at parsed
  obtain ⟨⟨result, rest⟩, read, ended⟩ := Option.bind_eq_some_iff.mp parsed
  split at ended
  next =>
    obtain rfl := Option.some.inj ended
    exact (parsesDistinct readNumeral _).value read
  next => cases ended

end DarkmeshGateway.Foundation.Js
