import DarkmeshGateway.Foundation.Delimited
import DarkmeshGateway.Foundation.Js.Json

/-!
Contract: `JSON.stringify` without spacing, and what its text determines.

Owns string quoting, the compact text of a value, that it is well formed, and
unique decoding: a text followed by a delimiter fixes the value in front of it.
Values are restricted there to finite numbers without a negative zero, the two
cases where `JSON.stringify` is not injective.
-/

namespace DarkmeshGateway.Foundation.Js

open Foundation.Delimited

/-! ### Quoting -/

/-- One lower-case hexadecimal digit. -/
def hexDigit (value : Nat) : CodeUnit :=
  if value < 10 then UInt16.ofNat (48 + value) else UInt16.ofNat (87 + value)

/-- `\\uXXXX`. -/
def unicodeEscape (unit : CodeUnit) : JsString :=
  let code := unit.toNat
  [92, 117, hexDigit (code / 4096), hexDigit (code / 256 % 16), hexDigit (code / 16 % 16),
    hexDigit (code % 16)]

/-- The text of one code unit that is not half of a surrogate pair. -/
def escapeUnit (unit : CodeUnit) : JsString :=
  if unit = 34 then [92, 34]
  else if unit = 92 then [92, 92]
  else if unit = 8 then [92, 98]
  else if unit = 9 then [92, 116]
  else if unit = 10 then [92, 110]
  else if unit = 12 then [92, 102]
  else if unit = 13 then [92, 114]
  else if unit.toNat < 32 || isHighSurrogate unit || isLowSurrogate unit then unicodeEscape unit
  else [unit]

/-- The inside of a quoted string: surrogate pairs stay, lone surrogates are escaped. -/
def quoteUnits : JsString → JsString
  | [] => []
  | [unit] => escapeUnit unit
  | unit :: next :: rest =>
      if isHighSurrogate unit && isLowSurrogate next then unit :: next :: quoteUnits rest
      else escapeUnit unit ++ quoteUnits (next :: rest)

/-- `JSON.stringify` of a string. -/
def quote (text : JsString) : JsString := 34 :: (quoteUnits text ++ [34])

/-! ### Values -/

mutual

/-- `JSON.stringify(value)`. -/
def Json.stringify : Json → JsString
  | .null => js "null"
  | .bool value => if value then js "true" else js "false"
  | .num value => if value.isFinite then value.toString else js "null"
  | .str value => quote value
  | .arr elements => 91 :: (stringifyElements elements ++ [93])
  | .obj fields => 123 :: (stringifyFields fields ++ [125])

def stringifyElements : List Json → JsString
  | [] => []
  | [value] => value.stringify
  | value :: next :: rest => value.stringify ++ 44 :: stringifyElements (next :: rest)

def stringifyFields : Fields → JsString
  | [] => []
  | [(key, value)] => quote key ++ 58 :: value.stringify
  | (key, value) :: next :: rest =>
      quote key ++ 58 :: (value.stringify ++ 44 :: stringifyFields (next :: rest))

end

/-- The texts of the elements, joined by commas. -/
theorem stringifyElements_eq : (elements : List Json) →
    stringifyElements elements = List.intercalate [44] (elements.map Json.stringify)
  | [] => rfl
  | [value] => by simp [stringifyElements]
  | value :: next :: rest => by
      rw [stringifyElements, stringifyElements_eq (next :: rest)]
      simp

/-- The texts of the properties, joined by commas. -/
theorem stringifyFields_eq : (fields : Fields) →
    stringifyFields fields =
      List.intercalate [44] (fields.map fun field => quote field.1 ++ 58 :: field.2.stringify)
  | [] => rfl
  | [(key, value)] => by simp [stringifyFields]
  | (key, value) :: next :: rest => by
      rw [stringifyFields, stringifyFields_eq (next :: rest)]
      simp

/-- Both zeros print `0`. -/
theorem Decimal.toString_dropZeroSign (decimal : Decimal) :
    decimal.dropZeroSign.toString = decimal.toString := by
  unfold Decimal.dropZeroSign
  split
  next zero => simp [Decimal.toString, zero]
  next => rfl

/-! ### Decoding quoted strings -/

private def hexValue (unit : CodeUnit) : Nat :=
  if unit.toNat < 58 then unit.toNat - 48 else unit.toNat - 87

private theorem hexValue_hexDigit {value : Nat} (small : value < 16) :
    hexValue (hexDigit value) = value := by
  interval_cases value <;> rfl

private def shortEscape (unit : CodeUnit) : CodeUnit :=
  if unit = 98 then 8
  else if unit = 116 then 9
  else if unit = 110 then 10
  else if unit = 102 then 12
  else if unit = 114 then 13
  else unit

/-- Read one code unit from the inside of a quoted string. -/
private def decodeUnit : JsString → Option (CodeUnit × JsString)
  | 92 :: 117 :: a :: b :: c :: d :: rest =>
      some (UInt16.ofNat (4096 * hexValue a + 256 * hexValue b + 16 * hexValue c + hexValue d), rest)
  | 92 :: unit :: rest => some (shortEscape unit, rest)
  | unit :: rest => some (unit, rest)
  | [] => none

private theorem decodeUnit_unicodeEscape (unit : CodeUnit) (rest : JsString) :
    decodeUnit (unicodeEscape unit ++ rest) = some (unit, rest) := by
  have bound : unit.toNat < 65536 := unit.toNat_lt
  simp only [unicodeEscape, List.cons_append, List.nil_append, decodeUnit]
  rw [hexValue_hexDigit (by omega), hexValue_hexDigit (by omega), hexValue_hexDigit (by omega),
    hexValue_hexDigit (by omega)]
  have assembled : 4096 * (unit.toNat / 4096) + 256 * (unit.toNat / 256 % 16) +
      16 * (unit.toNat / 16 % 16) + unit.toNat % 16 = unit.toNat := by omega
  rw [assembled, UInt16.ofNat_toNat]

private theorem decodeUnit_raw {unit : CodeUnit} (notEscape : unit ≠ 92) (rest : JsString) :
    decodeUnit (unit :: rest) = some (unit, rest) := by
  unfold decodeUnit
  split <;> simp_all

/-- The spelling of one code unit: raw, or escaped. -/
private inductive Spells : JsString → JsString → Prop where
  | nil : Spells [] []
  | raw {unit : CodeUnit} {text units : JsString} (notQuote : unit ≠ 34) (notEscape : unit ≠ 92)
      (rest : Spells text units) : Spells (unit :: text) (unit :: units)
  | escaped {unit : CodeUnit} {text units : JsString} (rest : Spells text units) :
      Spells (escapeUnit unit ++ text) (unit :: units)

theorem surrogate_not_special {unit : CodeUnit}
    (surrogate : isHighSurrogate unit = true ∨ isLowSurrogate unit = true) :
    unit ≠ 34 ∧ unit ≠ 92 := by
  constructor <;> rintro rfl <;> rcases surrogate with high | low <;> contradiction

private theorem spells_quoteUnits (units : JsString) : Spells (quoteUnits units) units := by
  fun_induction quoteUnits units with
  | case1 => exact .nil
  | case2 unit => simpa using @Spells.escaped unit _ _ .nil
  | case3 unit next rest pair inductionHypothesis =>
      simp only [Bool.and_eq_true] at pair
      obtain ⟨firstQuote, firstEscape⟩ := surrogate_not_special (Or.inl pair.1)
      obtain ⟨nextQuote, nextEscape⟩ := surrogate_not_special (Or.inr pair.2)
      exact .raw firstQuote firstEscape (.raw nextQuote nextEscape inductionHypothesis)
  | case4 unit next rest _ inductionHypothesis => exact .escaped inductionHypothesis

private theorem escapeUnit_decodes (unit : CodeUnit) (rest : JsString) :
    decodeUnit (escapeUnit unit ++ rest) = some (unit, rest) := by
  unfold escapeUnit
  split_ifs with isQuote isEscape
  all_goals first
    | exact decodeUnit_unicodeEscape unit rest
    | exact decodeUnit_raw isEscape rest
    | (subst unit; rfl)

private theorem escapeUnit_head (unit : CodeUnit) :
    ∃ first rest, escapeUnit unit = first :: rest ∧ first ≠ 34 := by
  unfold escapeUnit
  split_ifs with isQuote
  all_goals first
    | exact ⟨92, _, rfl, by decide⟩
    | exact ⟨unit, [], rfl, isQuote⟩

/-- A non-empty spelling decodes to its first code unit and does not close the string. -/
private theorem Spells.decode {text units : JsString} (spells : Spells text units)
    (rest : JsString) :
    (units = [] ∧ text = []) ∨
      ∃ unit tail units', units = unit :: units' ∧ Spells tail units' ∧
        decodeUnit (text ++ rest) = some (unit, tail ++ rest) ∧
        ∃ first others, text = first :: others ∧ first ≠ 34 := by
  cases spells with
  | nil => exact Or.inl ⟨rfl, rfl⟩
  | @raw unit text units notQuote notEscape tailSpells =>
      exact Or.inr ⟨unit, text, units, rfl, tailSpells, decodeUnit_raw notEscape _,
        unit, text, rfl, notQuote⟩
  | @escaped unit text units tailSpells =>
      obtain ⟨first, others, shape, notQuote⟩ := escapeUnit_head unit
      refine Or.inr ⟨unit, text, units, rfl, tailSpells, ?_, first, others ++ text, ?_, notQuote⟩
      · rw [List.append_assoc, escapeUnit_decodes]
      · rw [shape, List.cons_append]

private theorem spells_unique {leftText leftUnits rightText rightUnits : JsString}
    (left : Spells leftText leftUnits) (right : Spells rightText rightUnits)
    {leftRest rightRest : JsString}
    (same : leftText ++ 34 :: leftRest = rightText ++ 34 :: rightRest) :
    leftUnits = rightUnits ∧ leftRest = rightRest := by
  induction leftUnits generalizing leftText rightText rightUnits with
  | nil =>
      rcases left.decode [] with ⟨-, rfl⟩ | ⟨unit, tail, units, absurdShape, -⟩
      · rcases right.decode [] with ⟨rfl, rfl⟩ | ⟨_, _, _, -, -, -, first, others, rfl, notQuote⟩
        · exact ⟨rfl, by simpa using same⟩
        · exact absurd (by simpa using (congrArg List.head? same).symm) notQuote
      · simp at absurdShape
  | cons leftUnit leftTail inductionHypothesis =>
      rcases left.decode (34 :: leftRest) with ⟨absurdShape, -⟩ |
        ⟨unit, tail, units, shape, tailSpells, decoded, first, others, rfl, notQuote⟩
      · simp at absurdShape
      obtain ⟨rfl, rfl⟩ := List.cons.inj shape
      rcases right.decode (34 :: rightRest) with ⟨rfl, rfl⟩ |
        ⟨unit', tail', units', rfl, tailSpells', decoded', -⟩
      · exact absurd (by simpa using congrArg List.head? same) notQuote
      rw [same, decoded'] at decoded
      obtain ⟨unitEq, restEq⟩ := Prod.ext_iff.mp (Option.some.inj decoded)
      obtain ⟨unitsEq, tailEq⟩ := inductionHypothesis tailSpells tailSpells' restEq.symm
      exact ⟨by rw [unitsEq]; simp_all, tailEq⟩

/-- A quoted string is recovered from the front of any text. -/
theorem quote_unique {left right leftRest rightRest : JsString}
    (same : quote left ++ leftRest = quote right ++ rightRest) :
    left = right ∧ leftRest = rightRest := by
  simp only [quote, List.cons_append, List.append_assoc, List.cons.injEq, true_and,
    List.nil_append] at same
  exact spells_unique (spells_quoteUnits left) (spells_quoteUnits right) same

/-! ### Decoding values -/

mutual

/-- Every number is finite and is not negative zero. -/
def Json.Regular : Json → Bool
  | .num (.finite decimal) => decimal.dropZeroSign = decimal
  | .num _ => false
  | .arr elements => elementsRegular elements
  | .obj fields => fieldsRegular fields
  | _ => true

def elementsRegular : List Json → Bool
  | [] => true
  | value :: rest => value.Regular && elementsRegular rest

def fieldsRegular : Fields → Bool
  | [] => true
  | (_, value) :: rest => value.Regular && fieldsRegular rest

end

/-- The constructor of a value, booleans apart. -/
private def Json.kind : Json → Nat
  | .null => 0
  | .bool value => if value then 1 else 2
  | .num _ => 3
  | .str _ => 4
  | .arr _ => 5
  | .obj _ => 6

/-- The kind of value a first code unit announces. -/
private def unitKind (unit : CodeUnit) : Nat :=
  if unit = 110 then 0
  else if unit = 116 then 1
  else if unit = 102 then 2
  else if unit = 34 then 4
  else if unit = 91 then 5
  else if unit = 123 then 6
  else if isDigit unit || unit == 45 then 3
  else 7

private theorem unitKind_number {unit : CodeUnit} (leads : isDigit unit = true ∨ unit = 45) :
    unitKind unit = 3 := by
  have announces : (isDigit unit || unit == 45) = true := by simpa using leads
  unfold unitKind
  rw [announces]
  split_ifs <;> simp_all <;> contradiction

private theorem stringify_head {value : Json} (regular : value.Regular = true) :
    ∃ first rest, value.stringify = first :: rest ∧ unitKind first = value.kind := by
  cases value with
  | null => exact ⟨110, _, rfl, rfl⟩
  | bool value => cases value <;> exact ⟨_, _, rfl, rfl⟩
  | num value =>
      cases value with
      | finite decimal =>
          obtain ⟨first, rest, text, leads⟩ := decimal.toString_head
          exact ⟨first, rest, text, unitKind_number leads⟩
      | nan => simp [Json.Regular] at regular
      | infinity negative => simp [Json.Regular] at regular
  | str value => exact ⟨34, _, rfl, rfl⟩
  | arr elements => exact ⟨91, _, rfl, rfl⟩
  | obj fields => exact ⟨123, _, rfl, rfl⟩

/-- A rest that cannot continue a number. -/
def Stops (rest : JsString) : Prop := ∀ unit ∈ rest.head?, isNumberUnit unit = false

private theorem stops_cons {unit : CodeUnit} (delimiter : isNumberUnit unit = false)
    (rest : JsString) : Stops (unit :: rest) := by
  intro head member
  obtain rfl : unit = head := by simpa using member
  exact delimiter

private theorem kind_eq {left right : Json} {leftRest rightRest : JsString}
    (leftRegular : left.Regular = true) (rightRegular : right.Regular = true)
    (same : left.stringify ++ leftRest = right.stringify ++ rightRest) : left.kind = right.kind := by
  obtain ⟨leftFirst, _, leftText, leftKind⟩ := stringify_head leftRegular
  obtain ⟨rightFirst, _, rightText, rightKind⟩ := stringify_head rightRegular
  rw [leftText, rightText, List.cons_append, List.cons_append, List.cons.injEq] at same
  rw [← leftKind, ← rightKind, same.1]

/-- Two runs of number symbols, each ended by a delimiter, are the same run. -/
private theorem number_unique {left right leftRest rightRest : JsString}
    (leftUnits : ∀ unit ∈ left, isNumberUnit unit = true)
    (rightUnits : ∀ unit ∈ right, isNumberUnit unit = true)
    (leftStops : Stops leftRest) (rightStops : Stops rightRest)
    (same : left ++ leftRest = right ++ rightRest) : left = right ∧ leftRest = rightRest := by
  have ends (rest : JsString) (stops : Stops rest) : rest.takeWhile isNumberUnit = [] := by
    cases rest with
    | nil => rfl
    | cons unit others => exact List.takeWhile_cons_of_neg (by simp [stops unit rfl])
  have runs := congrArg (List.takeWhile isNumberUnit) same
  rw [List.takeWhile_append_of_pos leftUnits, List.takeWhile_append_of_pos rightUnits,
    ends leftRest leftStops, ends rightRest rightStops, List.append_nil, List.append_nil] at runs
  exact ⟨runs, by simpa [runs] using same⟩

private theorem kind_cases {left right : Json} (kinds : left.kind = right.kind) :
    (left = .null ∧ right = .null) ∨ (∃ value, left = .bool value ∧ right = .bool value) ∨
      (∃ value other, left = .num value ∧ right = .num other) ∨
      (∃ value other, left = .str value ∧ right = .str other) ∨
      (∃ elements others, left = .arr elements ∧ right = .arr others) ∨
      ∃ fields others, left = .obj fields ∧ right = .obj others := by
  cases left <;> cases right <;> simp [Json.kind] at kinds ⊢ <;> grind

/-- A text that starts a value neither closes a container nor separates its members. -/
private theorem stringify_ne_delimiter {value : Json} (regular : value.Regular = true)
    {delimiter : CodeUnit} (closes : unitKind delimiter = 7) (valueRest rest : JsString) :
    value.stringify ++ valueRest ≠ delimiter :: rest := by
  intro same
  obtain ⟨first, others, text, announced⟩ := stringify_head regular
  rw [text, List.cons_append, List.cons.injEq] at same
  rw [same.1, closes] at announced
  cases value with
  | bool value => cases value <;> simp [Json.kind] at announced
  | _ => simp [Json.kind] at announced

private theorem elementsRegular_cons {value : Json} {rest : List Json}
    (regular : elementsRegular (value :: rest) = true) :
    value.Regular = true ∧ elementsRegular rest = true := by
  simpa [elementsRegular] using regular

private theorem fieldsRegular_cons {key : JsString} {value : Json} {rest : Fields}
    (regular : fieldsRegular ((key, value) :: rest) = true) :
    value.Regular = true ∧ fieldsRegular rest = true := by
  simpa [fieldsRegular] using regular

/-- What follows the first of the elements: a comma and the others, or nothing. -/
def afterElement : List Json → JsString → JsString
  | [], rest => rest
  | next :: others, rest => 44 :: (stringifyElements (next :: others) ++ rest)

theorem stringifyElements_append (value : Json) (others : List Json) (rest : JsString) :
    stringifyElements (value :: others) ++ rest = value.stringify ++ afterElement others rest := by
  cases others <;> simp [stringifyElements, afterElement]

/-- What follows the first of the fields: a comma and the others, or nothing. -/
def afterField : Fields → JsString → JsString
  | [], rest => rest
  | next :: others, rest => 44 :: (stringifyFields (next :: others) ++ rest)

/-- The text of an object starts with its first property. -/
theorem stringifyFields_append (key : JsString) (value : Json) (others : Fields)
    (rest : JsString) :
    stringifyFields ((key, value) :: others) ++ rest =
      quote key ++ 58 :: (value.stringify ++ afterField others rest) := by
  cases others <;> simp [stringifyFields, afterField]

private theorem afterElement_stops (others : List Json) (rest : JsString) :
    Stops (afterElement others (93 :: rest)) := by
  cases others <;> exact stops_cons (by decide) _

private theorem afterField_stops (others : Fields) (rest : JsString) :
    Stops (afterField others (125 :: rest)) := by
  cases others <;> exact stops_cons (by decide) _

mutual

/-- A regular value is recovered from the front of a text that goes on with a
delimiter. -/
theorem Json.stringify_unique : (left right : Json) → (leftRest rightRest : JsString) →
    left.Regular = true → right.Regular = true → Stops leftRest → Stops rightRest →
    left.stringify ++ leftRest = right.stringify ++ rightRest →
    left = right ∧ leftRest = rightRest
  | .null, right, leftRest, rightRest, leftRegular, rightRegular, _, _, same => by
      have kinds := kind_eq leftRegular rightRegular same
      obtain rfl : right = .null := by rcases kind_cases kinds with shape | shape <;> simp_all
      exact ⟨rfl, by simpa [Json.stringify] using same⟩
  | .bool value, right, leftRest, rightRest, leftRegular, rightRegular, _, _, same => by
      have kinds := kind_eq leftRegular rightRegular same
      obtain rfl : right = .bool value := by
        rcases kind_cases kinds with shape | shape <;> simp_all
      exact ⟨rfl, List.append_cancel_left same⟩
  | .num value, right, leftRest, rightRest, leftRegular, rightRegular, leftStops, rightStops,
      same => by
      have kinds := kind_eq leftRegular rightRegular same
      obtain ⟨other, rfl⟩ : ∃ other, right = .num other := by
        rcases kind_cases kinds with shape | shape <;> simp_all
      cases value with
      | finite decimal =>
          cases other with
          | finite other =>
              obtain ⟨texts, rests⟩ := number_unique (fun _ => decimal.isNumberUnit_toString)
                (fun _ => other.isNumberUnit_toString) leftStops rightStops same
              have decimals := Decimal.toString_injective texts
              simp only [Json.Regular, decide_eq_true_eq] at leftRegular rightRegular
              rw [leftRegular, rightRegular] at decimals
              exact ⟨by rw [decimals], rests⟩
          | nan => simp [Json.Regular] at rightRegular
          | infinity negative => simp [Json.Regular] at rightRegular
      | nan => simp [Json.Regular] at leftRegular
      | infinity negative => simp [Json.Regular] at leftRegular
  | .str value, right, leftRest, rightRest, leftRegular, rightRegular, _, _, same => by
      have kinds := kind_eq leftRegular rightRegular same
      obtain ⟨other, rfl⟩ : ∃ other, right = .str other := by
        rcases kind_cases kinds with shape | shape <;> simp_all
      obtain ⟨rfl, rests⟩ := quote_unique same
      exact ⟨rfl, rests⟩
  | .arr elements, right, leftRest, rightRest, leftRegular, rightRegular, _, _, same => by
      have kinds := kind_eq leftRegular rightRegular same
      obtain ⟨others, rfl⟩ : ∃ others, right = .arr others := by
        rcases kind_cases kinds with shape | shape <;> simp_all
      simp only [Json.stringify, List.cons_append, List.append_assoc, List.cons.injEq,
        true_and, List.nil_append] at same
      obtain ⟨rfl, rests⟩ := stringifyElements_unique elements others leftRest rightRest
        leftRegular rightRegular same
      exact ⟨rfl, rests⟩
  | .obj fields, right, leftRest, rightRest, leftRegular, rightRegular, _, _, same => by
      have kinds := kind_eq leftRegular rightRegular same
      obtain ⟨others, rfl⟩ : ∃ others, right = .obj others := by
        rcases kind_cases kinds with shape | shape <;> simp_all
      simp only [Json.stringify, List.cons_append, List.append_assoc, List.cons.injEq,
        true_and, List.nil_append] at same
      obtain ⟨rfl, rests⟩ := stringifyFields_unique fields others leftRest rightRest
        leftRegular rightRegular same
      exact ⟨rfl, rests⟩

theorem stringifyElements_unique : (left right : List Json) → (leftRest rightRest : JsString) →
    elementsRegular left = true → elementsRegular right = true →
    stringifyElements left ++ 93 :: leftRest = stringifyElements right ++ 93 :: rightRest →
    left = right ∧ leftRest = rightRest
  | [], [], _, _, _, _, same => ⟨rfl, (List.cons.inj same).2⟩
  | [], other :: others, _, _, _, rightRegular, same => by
      rw [stringifyElements_append] at same
      exact absurd same.symm
        (stringify_ne_delimiter (elementsRegular_cons rightRegular).1 (by decide) _ _)
  | value :: rest, [], _, _, leftRegular, _, same => by
      rw [stringifyElements_append] at same
      exact absurd same
        (stringify_ne_delimiter (elementsRegular_cons leftRegular).1 (by decide) _ _)
  | value :: rest, other :: others, leftRest, rightRest, leftRegular, rightRegular, same => by
      obtain ⟨valueRegular, restRegular⟩ := elementsRegular_cons leftRegular
      obtain ⟨otherRegular, othersRegular⟩ := elementsRegular_cons rightRegular
      rw [stringifyElements_append, stringifyElements_append] at same
      obtain ⟨rfl, after⟩ := Json.stringify_unique value other _ _ valueRegular otherRegular
        (afterElement_stops rest leftRest) (afterElement_stops others rightRest) same
      match rest, others, after with
      | [], [], after => exact ⟨rfl, (List.cons.inj after).2⟩
      | [], _ :: _, after => exact absurd (List.cons.inj after).1 (by decide)
      | _ :: _, [], after => exact absurd (List.cons.inj after).1 (by decide)
      | next :: rest, follower :: others, after =>
          obtain ⟨tails, rests⟩ := stringifyElements_unique (next :: rest) (follower :: others)
            leftRest rightRest restRegular othersRegular (List.cons.inj after).2
          exact ⟨by rw [tails], rests⟩

theorem stringifyFields_unique : (left right : Fields) → (leftRest rightRest : JsString) →
    fieldsRegular left = true → fieldsRegular right = true →
    stringifyFields left ++ 125 :: leftRest = stringifyFields right ++ 125 :: rightRest →
    left = right ∧ leftRest = rightRest
  | [], [], _, _, _, _, same => ⟨rfl, (List.cons.inj same).2⟩
  | [], (key, value) :: others, _, _, _, _, same => by
      rw [stringifyFields_append] at same
      exact absurd (List.cons.inj same).1 (by decide)
  | (key, value) :: rest, [], _, _, _, _, same => by
      rw [stringifyFields_append] at same
      exact absurd (List.cons.inj same).1 (by decide)
  | (key, value) :: rest, (name, other) :: others, leftRest, rightRest, leftRegular,
      rightRegular, same => by
      obtain ⟨valueRegular, restRegular⟩ := fieldsRegular_cons leftRegular
      obtain ⟨otherRegular, othersRegular⟩ := fieldsRegular_cons rightRegular
      rw [stringifyFields_append, stringifyFields_append] at same
      obtain ⟨rfl, values⟩ := quote_unique same
      obtain ⟨rfl, after⟩ := Json.stringify_unique value other _ _ valueRegular otherRegular
        (afterField_stops rest leftRest) (afterField_stops others rightRest)
        (List.cons.inj values).2
      match rest, others, after with
      | [], [], after => exact ⟨rfl, (List.cons.inj after).2⟩
      | [], _ :: _, after => exact absurd (List.cons.inj after).1 (by decide)
      | _ :: _, [], after => exact absurd (List.cons.inj after).1 (by decide)
      | next :: rest, follower :: others, after =>
          obtain ⟨tails, rests⟩ := stringifyFields_unique (next :: rest) (follower :: others)
            leftRest rightRest restRegular othersRegular (List.cons.inj after).2
          exact ⟨by rw [tails], rests⟩

end

/-! ### Canonical values -/

theorem fieldsRegular_iff (fields : Fields) :
    fieldsRegular fields = true ↔ ∀ field ∈ fields, field.2.Regular = true := by
  induction fields with
  | nil => simp [fieldsRegular]
  | cons field rest inductionHypothesis =>
      obtain ⟨key, value⟩ := field
      simp [fieldsRegular, inductionHypothesis]

mutual

/-- A canonical value without infinities is regular. -/
theorem Json.regular_canonical : (value : Json) → value.AllFinite = true →
    value.canonical.Regular = true
  | .num (.finite decimal), _ => by
      simp [Json.canonical, Number.dropZeroSign, Json.Regular, Decimal.dropZeroSign_idempotent]
  | .num .nan, finite => by simp [Json.AllFinite, Number.isFinite] at finite
  | .num (.infinity _), finite => by simp [Json.AllFinite, Number.isFinite] at finite
  | .arr elements, finite => by
      simpa [Json.canonical, Json.Regular] using elementsRegular_canonical elements finite
  | .obj fields, finite => by
      simp only [Json.canonical, Json.Regular]
      rw [fieldsRegular_iff]
      intro field member
      exact (fieldsRegular_iff _).mp (fieldsRegular_canonical fields finite) field
        ((List.perm_insertionSort _ _).mem_iff.mp member)
  | .null, _ => rfl
  | .bool _, _ => rfl
  | .str _, _ => rfl

theorem elementsRegular_canonical : (elements : List Json) → elementsFinite elements = true →
    elementsRegular (canonicalElements elements) = true
  | [], _ => rfl
  | value :: rest, finite => by
      simp only [elementsFinite, Bool.and_eq_true] at finite
      simp [canonicalElements, elementsRegular, Json.regular_canonical value finite.1,
        elementsRegular_canonical rest finite.2]

theorem fieldsRegular_canonical : (fields : Fields) → fieldsFinite fields = true →
    fieldsRegular (canonicalFields fields) = true
  | [], _ => rfl
  | (key, value) :: rest, finite => by
      simp only [fieldsFinite, Bool.and_eq_true] at finite
      simp [canonicalFields, fieldsRegular, Json.regular_canonical value finite.1,
        fieldsRegular_canonical rest finite.2]

end

/-- Values without infinities whose canonical texts agree are the same. -/
theorem Json.same_of_canonical_text {left right : Json} (leftFinite : left.AllFinite = true)
    (rightFinite : right.AllFinite = true)
    (texts : left.canonical.stringify = right.canonical.stringify) : Json.Same left right := by
  have stops : Stops [] := by simp [Stops]
  exact (Json.stringify_unique _ _ [] [] (Json.regular_canonical left leftFinite)
    (Json.regular_canonical right rightFinite) stops stops (by rw [texts])).1

/-! ### Inside a quoted string -/

private theorem hexDigit_plain {value : Nat} (small : value < 16) :
    isSurrogate (hexDigit value) = false ∧ hexDigit value ≠ 124 := by
  interval_cases value <;> decide

/-- The text of one unit has no surrogate, and a bar only if it is the bar. -/
private theorem escapeUnit_plain (unit : CodeUnit) :
    ∀ emitted ∈ escapeUnit unit, isSurrogate emitted = false ∧ (emitted = 124 → unit = 124) := by
  intro emitted member
  have other {letter : CodeUnit} (plain : isSurrogate letter = false) (notBar : letter ≠ 124)
      (same : emitted = letter) : isSurrogate emitted = false ∧ (emitted = 124 → unit = 124) := by
    subst same
    exact ⟨plain, fun bar => absurd bar notBar⟩
  have escaped {letter : CodeUnit} (plain : isSurrogate letter = false) (notBar : letter ≠ 124)
      (pair : emitted ∈ [92, letter]) :
      isSurrogate emitted = false ∧ (emitted = 124 → unit = 124) := by
    rcases List.mem_cons.mp pair with slash | second
    · exact other (by decide) (by decide) slash
    · exact other plain notBar (List.mem_singleton.mp second)
  have range := unit.toNat_lt
  unfold escapeUnit at member
  split_ifs at member with quoted slash back tab line feed return_ special
  · exact escaped (by decide) (by decide) member
  · exact escaped (by decide) (by decide) member
  · exact escaped (by decide) (by decide) member
  · exact escaped (by decide) (by decide) member
  · exact escaped (by decide) (by decide) member
  · exact escaped (by decide) (by decide) member
  · exact escaped (by decide) (by decide) member
  · have digit {value : Nat} (small : value < 16) (same : emitted = hexDigit value) :=
      other (hexDigit_plain small).1 (hexDigit_plain small).2 same
    simp only [unicodeEscape, List.mem_cons, List.not_mem_nil, or_false] at member
    rcases member with slash | mark | first | second | third | fourth
    · exact other (by decide) (by decide) slash
    · exact other (by decide) (by decide) mark
    · exact digit (by omega) first
    · exact digit (Nat.mod_lt _ (by decide)) second
    · exact digit (Nat.mod_lt _ (by decide)) third
    · exact digit (Nat.mod_lt _ (by decide)) fourth
  · obtain rfl : emitted = unit := by simpa using member
    simp only [Bool.or_eq_true, not_or, Bool.not_eq_true] at special
    refine ⟨?_, fun bar => bar⟩
    simp [isSurrogate, special.1.2, special.2]

/-- The inside of a quoted string is well formed. -/
theorem toWellFormed_quoteUnits (rest : JsString) : (units : JsString) →
    toWellFormed (quoteUnits units ++ rest) = quoteUnits units ++ toWellFormed rest
  | [] => rfl
  | [unit] => toWellFormed_append_plain (fun _ member => (escapeUnit_plain unit _ member).1) rest
  | unit :: next :: others => by
      have paired := toWellFormed_quoteUnits rest others
      have single := toWellFormed_quoteUnits rest (next :: others)
      unfold quoteUnits
      split
      next surrogates =>
        simp only [List.cons_append, toWellFormed, surrogates, if_true]
        rw [paired]
      next =>
        rw [List.append_assoc, toWellFormed_append_plain
          fun _ member => (escapeUnit_plain unit _ member).1, single, List.append_assoc]

/-- The text of a number has neither surrogates nor bars. -/
theorem Decimal.toString_plain {decimal : Decimal} {unit : CodeUnit}
    (member : unit ∈ decimal.toString) : isSurrogate unit = false ∧ unit ≠ 124 := by
  have kind := Decimal.isNumberUnit_toString member
  simp only [isNumberUnit, isDigit, Bool.or_eq_true, Bool.and_eq_true, decide_eq_true_eq,
    beq_iff_eq] at kind
  constructor
  · simp only [isSurrogate, isHighSurrogate, isLowSurrogate]
    rcases kind with (((digit | rfl) | rfl) | rfl) | rfl
    · simp
      omega
    all_goals decide
  · rintro rfl
    revert kind
    decide

/-- A quoted string splits at a bar into two of them. -/
theorem quoteUnits_split {before after : JsString} : (units : JsString) →
    quoteUnits units = before ++ 124 :: after → ∃ others, after = quoteUnits others
  | [], same => absurd same (by simp [quoteUnits])
  | [unit], same => by
      rw [quoteUnits] at same
      obtain rfl : unit = 124 := (escapeUnit_plain unit 124 (by simp [same])).2 rfl
      obtain ⟨_, nothing⟩ : before = [] ∧ after = [] := by
        simpa [escapeUnit, isHighSurrogate, isLowSurrogate, List.singleton_eq_append_iff] using same
      exact ⟨[], nothing⟩
  | unit :: next :: others, same => by
      unfold quoteUnits at same
      split at same
      next surrogates =>
        have parts : [unit, next] ++ quoteUnits others = before ++ 124 :: after := same
        rcases append_eq_append_cons parts with ⟨middle, pair, -⟩ | ⟨middle, -, rest⟩
        · have bar : (124 : CodeUnit) ∈ [unit, next] := by simp [pair]
          simp only [List.mem_cons, List.not_mem_nil, or_false] at bar
          rcases bar with rfl | rfl
          · exact absurd surrogates (by simp [isHighSurrogate])
          · exact absurd surrogates (by simp [isLowSurrogate])
        · exact quoteUnits_split others rest
      next =>
        rcases append_eq_append_cons same with ⟨middle, head, rest⟩ | ⟨middle, -, rest⟩
        · obtain rfl : unit = 124 := (escapeUnit_plain unit 124 (by simp [head])).2 rfl
          obtain ⟨_, nothing⟩ : before = [] ∧ middle = [] := by
            simpa [escapeUnit, isHighSurrogate, isLowSurrogate, List.singleton_eq_append_iff]
              using head
          exact ⟨next :: others, by rw [rest, nothing, List.nil_append]⟩
        · exact quoteUnits_split (next :: others) rest

/-! ### Reading back -/

mutual

/-- What `JSON.parse` reads from the text of a value: an infinity became
`null`, and negative zero became zero. -/
def Json.reread : Json → Json
  | .num (.finite decimal) => .num (.finite decimal.dropZeroSign)
  | .num _ => .null
  | .arr elements => .arr (rereadElements elements)
  | .obj fields => .obj (rereadFields fields)
  | .null => .null
  | .bool value => .bool value
  | .str value => .str value

def rereadElements : List Json → List Json
  | [] => []
  | value :: rest => value.reread :: rereadElements rest

def rereadFields : Fields → Fields
  | [] => []
  | (key, value) :: rest => (key, value.reread) :: rereadFields rest

end

mutual

/-- The text of a value read back is the text it was read from. -/
theorem Json.stringify_reread : (value : Json) → value.reread.stringify = value.stringify
  | .num (.finite decimal) => by
      simp only [Json.reread, Json.stringify, Number.isFinite, if_true, Number.toString,
        Decimal.toString_dropZeroSign]
  | .num .nan => rfl
  | .num (.infinity _) => rfl
  | .arr elements => by
      rw [Json.reread, Json.stringify, Json.stringify, stringify_rereadElements elements]
  | .obj fields => by
      rw [Json.reread, Json.stringify, Json.stringify, stringify_rereadFields fields]
  | .null => rfl
  | .bool _ => rfl
  | .str _ => rfl

theorem stringify_rereadElements : (elements : List Json) →
    stringifyElements (rereadElements elements) = stringifyElements elements
  | [] => rfl
  | [value] => by
      simp only [rereadElements, stringifyElements, Json.stringify_reread value]
  | value :: next :: rest => by
      have others := stringify_rereadElements (next :: rest)
      simp only [rereadElements] at others ⊢
      simp only [stringifyElements, Json.stringify_reread value, others]

theorem stringify_rereadFields : (fields : Fields) →
    stringifyFields (rereadFields fields) = stringifyFields fields
  | [] => rfl
  | [(key, value)] => by
      simp only [rereadFields, stringifyFields, Json.stringify_reread value]
  | (key, value) :: (nextKey, next) :: rest => by
      have others := stringify_rereadFields ((nextKey, next) :: rest)
      simp only [rereadFields] at others ⊢
      simp only [stringifyFields, Json.stringify_reread value, others]

end

mutual

/-- A value read back is regular, so its text determines it. -/
theorem Json.regular_reread : (value : Json) → value.reread.Regular = true
  | .num (.finite decimal) => by simp [Json.reread, Json.Regular, Decimal.dropZeroSign_idempotent]
  | .num .nan => rfl
  | .num (.infinity _) => rfl
  | .arr elements => by
      rw [Json.reread, Json.Regular]
      exact regular_rereadElements elements
  | .obj fields => by
      rw [Json.reread, Json.Regular]
      exact regular_rereadFields fields
  | .null => rfl
  | .bool _ => rfl
  | .str _ => rfl

theorem regular_rereadElements : (elements : List Json) →
    elementsRegular (rereadElements elements) = true
  | [] => rfl
  | value :: rest => by
      rw [rereadElements, elementsRegular, Json.regular_reread value, regular_rereadElements rest,
        Bool.and_self]

theorem regular_rereadFields : (fields : Fields) →
    fieldsRegular (rereadFields fields) = true
  | [] => rfl
  | (key, value) :: rest => by
      rw [rereadFields, fieldsRegular, Json.regular_reread value, regular_rereadFields rest,
        Bool.and_self]

end

mutual

theorem Json.allFinite_of_regular : (value : Json) → value.Regular = true →
    value.AllFinite = true
  | .num (.finite _), _ => rfl
  | .num .nan, regular => by simp [Json.Regular] at regular
  | .num (.infinity _), regular => by simp [Json.Regular] at regular
  | .arr elements, regular => elementsFinite_of_regular elements regular
  | .obj fields, regular => fieldsFinite_of_regular fields regular
  | .null, _ => rfl
  | .bool _, _ => rfl
  | .str _, _ => rfl

theorem elementsFinite_of_regular : (elements : List Json) → elementsRegular elements = true →
    elementsFinite elements = true
  | [], _ => rfl
  | value :: rest, regular => by
      simp only [elementsRegular, Bool.and_eq_true] at regular
      rw [elementsFinite, Json.allFinite_of_regular value regular.1,
        elementsFinite_of_regular rest regular.2, Bool.and_self]

theorem fieldsFinite_of_regular : (fields : Fields) → fieldsRegular fields = true →
    fieldsFinite fields = true
  | [], _ => rfl
  | (key, value) :: rest, regular => by
      simp only [fieldsRegular, Bool.and_eq_true] at regular
      rw [fieldsFinite, Json.allFinite_of_regular value regular.1,
        fieldsFinite_of_regular rest regular.2, Bool.and_self]

end

/-- Reading a property back is reading back the property. -/
theorem Fields.get_reread (fields : Fields) (key : JsString) :
    (rereadFields fields).get key = (fields.get key).map Json.reread := by
  induction fields with
  | nil => rfl
  | cons field rest inductionHypothesis =>
      obtain ⟨name, value⟩ := field
      simp only [rereadFields, Fields.get, List.lookup_cons] at inductionHypothesis ⊢
      split
      next => rfl
      next => exact inductionHypothesis

theorem rereadFields_set (fields : Fields) (key : JsString) (value : Json) :
    rereadFields (fields.set key value) = (rereadFields fields).set key value.reread := by
  induction fields with
  | nil => rfl
  | cons field rest inductionHypothesis =>
      obtain ⟨name, old⟩ := field
      by_cases same : name = key
      · simp [Fields.set, rereadFields, same]
      · simp [Fields.set, rereadFields, same, inductionHypothesis]

/-- Only a string is read back as it. -/
theorem Json.reread_eq_str_iff {value : Json} {text : JsString} :
    value.reread = .str text ↔ value = .str text := by
  cases value with
  | num number => cases number <;> simp [Json.reread]
  | _ => simp [Json.reread]

/-! ### Encoded texts -/

theorem toWellFormed_quote (text rest : JsString) :
    toWellFormed (quote text ++ rest) = quote text ++ toWellFormed rest := by
  have mark : isSurrogate 34 = false := by decide
  simp only [quote, List.cons_append, List.append_assoc, List.nil_append]
  rw [toWellFormed_cons mark, toWellFormed_quoteUnits, toWellFormed_cons mark]

private theorem toWellFormed_literal {text : JsString}
    (plain : (text.any isSurrogate) = false) (rest : JsString) :
    toWellFormed (text ++ rest) = text ++ toWellFormed rest :=
  toWellFormed_append_plain (by simpa using plain) rest

mutual

/-- The text of a value is well formed. -/
theorem Json.toWellFormed_stringify : (value : Json) → (rest : JsString) →
    toWellFormed (value.stringify ++ rest) = value.stringify ++ toWellFormed rest
  | .null, rest => toWellFormed_literal rfl rest
  | .bool true, rest => toWellFormed_literal rfl rest
  | .bool false, rest => toWellFormed_literal rfl rest
  | .num .nan, rest => toWellFormed_literal rfl rest
  | .num (.infinity _), rest => toWellFormed_literal rfl rest
  | .num (.finite decimal), rest => by
      simp only [Json.stringify, Number.isFinite, if_true, Number.toString]
      exact toWellFormed_append_plain (fun _ member => (Decimal.toString_plain member).1) rest
  | .str text, rest => toWellFormed_quote text rest
  | .arr elements, rest => by
      have opening : isSurrogate 91 = false := by decide
      have closing : isSurrogate 93 = false := by decide
      simp only [Json.stringify, List.cons_append, List.append_assoc, List.nil_append]
      rw [toWellFormed_cons opening, toWellFormed_stringifyElements elements,
        toWellFormed_cons closing]
  | .obj fields, rest => by
      have opening : isSurrogate 123 = false := by decide
      have closing : isSurrogate 125 = false := by decide
      simp only [Json.stringify, List.cons_append, List.append_assoc, List.nil_append]
      rw [toWellFormed_cons opening, toWellFormed_stringifyFields fields,
        toWellFormed_cons closing]

theorem toWellFormed_stringifyElements : (elements : List Json) → (rest : JsString) →
    toWellFormed (stringifyElements elements ++ rest) =
      stringifyElements elements ++ toWellFormed rest
  | [], _ => rfl
  | [value], rest => Json.toWellFormed_stringify value rest
  | value :: next :: others, rest => by
      have comma : isSurrogate 44 = false := by decide
      simp only [stringifyElements, List.append_assoc, List.cons_append]
      rw [Json.toWellFormed_stringify value, toWellFormed_cons comma,
        toWellFormed_stringifyElements (next :: others)]

theorem toWellFormed_stringifyFields : (fields : Fields) → (rest : JsString) →
    toWellFormed (stringifyFields fields ++ rest) = stringifyFields fields ++ toWellFormed rest
  | [], _ => rfl
  | [(key, value)], rest => by
      have colon : isSurrogate 58 = false := by decide
      simp only [stringifyFields, List.append_assoc, List.cons_append]
      rw [toWellFormed_quote, toWellFormed_cons colon, Json.toWellFormed_stringify value]
  | (key, value) :: next :: others, rest => by
      have colon : isSurrogate 58 = false := by decide
      have comma : isSurrogate 44 = false := by decide
      simp only [stringifyFields, List.append_assoc, List.cons_append]
      rw [toWellFormed_quote, toWellFormed_cons colon, Json.toWellFormed_stringify value,
        toWellFormed_cons comma, toWellFormed_stringifyFields (next :: others)]

end

end DarkmeshGateway.Foundation.Js
