import DarkmeshGateway.Foundation.Js.Stringify

/-!
Contract: the text of an object of strings and finite numbers under plain names.

Owns what follows the string value that holds a bar: the end of the object, or
the name of the next property.
-/

namespace DarkmeshGateway.Foundation.Js

open Foundation.Delimited

/-- An ASCII letter. -/
def isLetter (unit : CodeUnit) : Bool :=
  (65 ≤ unit.toNat && unit.toNat ≤ 90) || (97 ≤ unit.toNat && unit.toNat ≤ 122)

/-- A string or a finite number. -/
def isFlat : Json → Bool
  | .str _ => true
  | .num value => value.isFinite
  | _ => false

/-- A property of letters with a flat value. -/
structure FlatField (field : JsString × Json) : Prop where
  named : field.1 ≠ []
  letters : ∀ unit ∈ field.1, isLetter unit = true
  flat : isFlat field.2 = true

/-- What follows a string value: the end of the object, or the next name. -/
def EndsValue (rest : JsString) : Prop :=
  rest = [125] ∨ ∃ letter tail, rest = 44 :: 34 :: letter :: tail ∧ isLetter letter = true

/-! ### Names -/

private theorem escapeUnit_letter {unit : CodeUnit} (letter : isLetter unit = true) :
    escapeUnit unit = [unit] ∧ isHighSurrogate unit = false ∧ isSurrogate unit = false := by
  simp only [isLetter, Bool.or_eq_true, Bool.and_eq_true, decide_eq_true_eq] at letter
  have notHigh : isHighSurrogate unit = false := by
    simp only [isHighSurrogate]
    simp
    omega
  have notLow : isLowSurrogate unit = false := by
    simp only [isLowSurrogate]
    simp
    omega
  have notSpecial (special : CodeUnit) (low : special.toNat < 65 ∨ special.toNat = 92) :
      unit ≠ special := by
    rintro rfl
    omega
  have notControl : ¬unit.toNat < 32 := by omega
  refine ⟨?_, notHigh, by simp [isSurrogate, notHigh, notLow]⟩
  simp [escapeUnit, notHigh, notLow, notControl, notSpecial 34 (by decide),
    notSpecial 92 (by decide), notSpecial 8 (by decide),
    notSpecial 9 (by decide), notSpecial 10 (by decide),
    notSpecial 12 (by decide), notSpecial 13 (by decide)]

/-- A name of letters is quoted as it is. -/
theorem quoteUnits_letters : (name : JsString) → (∀ unit ∈ name, isLetter unit = true) →
    quoteUnits name = name
  | [], _ => rfl
  | [unit], letters => (escapeUnit_letter (letters unit (by simp))).1
  | unit :: next :: rest, letters => by
      have plain := escapeUnit_letter (letters unit (by simp))
      have others := quoteUnits_letters (next :: rest) fun other member =>
        letters other (List.mem_cons_of_mem _ member)
      simp [quoteUnits, plain.1, plain.2.1, others]

theorem quote_letters {name : JsString} (letters : ∀ unit ∈ name, isLetter unit = true) :
    quote name = 34 :: (name ++ [34]) := by
  rw [quote, quoteUnits_letters name letters]

/-- The quoted name and its colon have neither surrogates nor bars. -/
private theorem name_plain {name : JsString} (letters : ∀ unit ∈ name, isLetter unit = true) :
    ∀ unit ∈ quote name ++ [58], isSurrogate unit = false ∧ unit ≠ 124 := by
  intro unit member
  have shape : quote name ++ [58] = 34 :: (name ++ [34, 58]) := by simp [quote_letters letters]
  rw [shape, List.mem_cons, List.mem_append, List.mem_cons, List.mem_singleton] at member
  rcases member with rfl | inName | rfl | rfl
  · exact ⟨by decide, by decide⟩
  · refine ⟨(escapeUnit_letter (letters unit inName)).2.2, ?_⟩
    rintro rfl
    exact absurd (letters 124 inName) (by decide)
  · exact ⟨by decide, by decide⟩
  · exact ⟨by decide, by decide⟩

/-! ### Bars -/

/-- A bar behind the start of a flat value lies in its string or behind it. -/
private theorem value_split {value : Json} (flat : isFlat value = true)
    {tail before after : JsString} (same : value.stringify ++ tail = before ++ 124 :: after) :
    (∃ others, after = quoteUnits others ++ 34 :: tail) ∨
      ∃ middle, tail = middle ++ 124 :: after := by
  match value with
  | .str text =>
      have shape : [34] ++ (quoteUnits text ++ 34 :: tail) = before ++ 124 :: after := by
        simpa [Json.stringify, quote] using same
      rcases append_eq_append_cons shape with ⟨_, mark, -⟩ | ⟨inner, -, inside⟩
      · exact absurd (mark ▸ (by simp) : (124 : CodeUnit) ∈ ([34] : JsString)) (by decide)
      rcases append_eq_append_cons inside with ⟨middle, split, rest⟩ | ⟨outer, -, behind⟩
      · obtain ⟨others, rfl⟩ := quoteUnits_split text split
        exact Or.inl ⟨others, rest⟩
      · cases outer with
        | nil => exact absurd (List.cons.inj behind).1 (by decide)
        | cons mark middle => exact Or.inr ⟨middle, (List.cons.inj behind).2⟩
  | .num (.finite decimal) =>
      simp only [Json.stringify, Number.isFinite, if_true, Number.toString] at same
      rcases append_eq_append_cons same with ⟨_, bar, -⟩ | ⟨middle, -, behind⟩
      · exact absurd rfl (@Decimal.toString_plain decimal 124 (by simp [bar])).2
      · exact Or.inr ⟨middle, behind⟩

/-- A bar in the text of a flat record lies in a string value, and that value
ends as values do. -/
theorem stringifyFields_bar {before after : JsString} : (fields : Fields) →
    (∀ field ∈ fields, FlatField field) →
    stringifyFields fields ++ [125] = before ++ 124 :: after →
    ∃ others rest, after = quoteUnits others ++ 34 :: rest ∧ EndsValue rest
  | [], _, same => by
      have bar : (124 : CodeUnit) ∈ ([125] : JsString) := by
        rw [stringifyFields, List.nil_append] at same
        simp [same]
      exact absurd bar (by decide)
  | (key, value) :: others, flat, same => by
      have first := flat (key, value) (by simp)
      have shape : (quote key ++ [58]) ++ (value.stringify ++ afterField others [125]) =
          before ++ 124 :: after := by
        rw [stringifyFields_append] at same
        simpa using same
      rcases append_eq_append_cons shape with ⟨_, name, -⟩ | ⟨middle, -, inValue⟩
      · have bar : (124 : CodeUnit) ∈ quote key ++ [58] := by simp [name]
        exact absurd rfl (name_plain first.letters 124 bar).2
      rcases value_split first.flat inValue with ⟨units, rest⟩ | ⟨outer, behind⟩
      · refine ⟨units, afterField others [125], rest, ?_⟩
        cases others with
        | nil => exact Or.inl rfl
        | cons next more =>
            have nextField := flat next (by simp)
            obtain ⟨name, content⟩ := next
            cases name with
            | nil => exact absurd rfl nextField.named
            | cons letter letters =>
                have shape : afterField ((letter :: letters, content) :: more) [125] =
                    44 :: 34 :: letter ::
                      (letters ++ 34 :: 58 :: (content.stringify ++ afterField more [125])) := by
                  rw [afterField, stringifyFields_append, quote_letters nextField.letters]
                  simp
                exact Or.inr ⟨letter, _, shape, nextField.letters letter (by simp)⟩
      · cases others with
        | nil =>
            have bar : (124 : CodeUnit) ∈ ([125] : JsString) := by
              rw [afterField] at behind
              simp [behind]
            exact absurd bar (by decide)
        | cons next more =>
            rw [afterField] at behind
            cases outer with
            | nil => exact absurd (List.cons.inj behind).1 (by decide)
            | cons comma inside =>
                exact stringifyFields_bar (next :: more)
                  (fun field member => flat field (List.mem_cons_of_mem _ member))
                  (List.cons.inj behind).2

end DarkmeshGateway.Foundation.Js
