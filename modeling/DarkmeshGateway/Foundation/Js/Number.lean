import Mathlib.Data.Nat.Digits.Lemmas
import Mathlib.Algebra.Order.Field.Rat
import Mathlib.Tactic.FieldSimp
import Mathlib.Tactic.Ring
import Mathlib.Tactic.NormNum
import DarkmeshGateway.Foundation.Js.Text

/-!
Contract: JavaScript numbers and `Number.prototype.toString`.

A finite double is represented by the shortest decimal that identifies it, the
one `Number::toString` prints, so the representation loses nothing. Every
reduced decimal is a value of the type; the doubles are among them.

Owns the four printing formats and their joint injectivity.

Does not own arithmetic beyond truncation, or decimal-to-double rounding.
-/

namespace DarkmeshGateway.Foundation.Js

/-- `± coefficient * 10 ^ exponent` without trailing zeros in the coefficient. -/
structure Decimal where
  negative : Bool
  coefficient : Nat
  exponent : Int
  reduced : coefficient % 10 ≠ 0 ∨ (coefficient = 0 ∧ exponent = 0)
deriving DecidableEq

theorem Decimal.zero_reduced : 0 % 10 ≠ 0 ∨ (0 = 0 ∧ (0 : Int) = 0) := Or.inr ⟨rfl, rfl⟩

/-- A JavaScript number. Negative zero is the negative decimal zero. -/
inductive Number where
  | nan
  | infinity (negative : Bool)
  | finite (decimal : Decimal)
deriving DecidableEq

/-- Remove trailing decimal zeros, at most `fuel` of them. -/
def stripZeros : Nat → Nat → Int → Nat × Int
  | 0, coefficient, exponent => (coefficient, exponent)
  | fuel + 1, coefficient, exponent =>
      if coefficient % 10 = 0 then stripZeros fuel (coefficient / 10) (exponent + 1)
      else (coefficient, exponent)

private theorem stripZeros_reduced (fuel coefficient : Nat) (exponent : Int)
    (positive : 0 < coefficient) (small : coefficient < 10 ^ fuel) :
    (stripZeros fuel coefficient exponent).1 % 10 ≠ 0 := by
  induction fuel generalizing coefficient exponent with
  | zero => simp at small; omega
  | succ fuel inductionHypothesis =>
      unfold stripZeros
      split
      next divisible =>
        apply inductionHypothesis
        · omega
        · rw [pow_succ] at small; omega
      next notDivisible => exact notDivisible

/-- The number of an integer. -/
def Number.ofInt (value : Int) : Number :=
  if zero : value = 0 then .finite ⟨false, 0, 0, Or.inr ⟨rfl, rfl⟩⟩
  else
    let stripped := stripZeros value.natAbs value.natAbs 0
    .finite ⟨value < 0, stripped.1, stripped.2,
      Or.inl (stripZeros_reduced _ _ _ (Int.natAbs_pos.mpr zero) (Nat.lt_pow_self (by decide)))⟩

/-- `n === 0`. -/
def Number.isZero : Number → Bool
  | .finite decimal => decimal.coefficient == 0
  | _ => false

/-- `Number.isFinite`. -/
def Number.isFinite : Number → Bool
  | .finite _ => true
  | _ => false

/-- `Math.trunc` of a finite decimal. -/
def Decimal.trunc (decimal : Decimal) : Int :=
  let magnitude : Nat :=
    if 0 ≤ decimal.exponent then decimal.coefficient * 10 ^ decimal.exponent.toNat
    else decimal.coefficient / 10 ^ (-decimal.exponent).toNat
  if decimal.negative then -magnitude else magnitude

/-! ### Printing -/

/-- The ASCII digit of a value below ten. -/
def digitUnit (digit : Nat) : CodeUnit := UInt16.ofNat (48 + digit)

/-- A natural number in decimal. -/
def decimalDigits (value : Nat) : JsString :=
  if value = 0 then [48] else (Nat.digits 10 value).reverse.map digitUnit

/-- The exponent part after `e`: its sign and digits. -/
def exponentText (exponent : Int) : JsString :=
  (if exponent < 0 then 45 else 43) :: decimalDigits exponent.natAbs

/-- The digits with a point after the first when there are several. -/
def pointedDigits : JsString → JsString
  | first :: second :: rest => first :: 46 :: second :: rest
  | digits => digits

/-- `Number::toString` of the digits of a coefficient: integer, pointed,
leading-zero or exponent notation by the position of the decimal point. -/
def placePoint (digits : JsString) (exponent : Int) : JsString :=
  let point : Int := exponent + digits.length
  if 0 ≤ exponent ∧ point ≤ 21 then digits ++ List.replicate exponent.toNat 48
  else if 0 < point ∧ point ≤ 21 then digits.take point.toNat ++ 46 :: digits.drop point.toNat
  else if -6 < point ∧ point ≤ 0 then [48] ++ 46 :: (List.replicate (-point).toNat 48 ++ digits)
  else pointedDigits digits ++ 101 :: exponentText (point - 1)

/-- `Number::toString` of a non-negative decimal. -/
def unsignedText (coefficient : Nat) (exponent : Int) : JsString :=
  placePoint (decimalDigits coefficient) exponent

/-- `Number::toString` of a finite number. Both zeros print `0`. -/
def Decimal.toString (decimal : Decimal) : JsString :=
  if decimal.coefficient = 0 then [48]
  else if decimal.negative then 45 :: unsignedText decimal.coefficient decimal.exponent
  else unsignedText decimal.coefficient decimal.exponent

/-- `Number.prototype.toString`. -/
def Number.toString : Number → JsString
  | .nan => js "NaN"
  | .infinity negative => if negative then js "-Infinity" else js "Infinity"
  | .finite decimal => decimal.toString

/-! ### Reading digits back -/

theorem digitUnit_toNat {digit : Nat} (small : digit < 10) :
    (digitUnit digit).toNat = 48 + digit := by
  simp only [digitUnit, UInt16.toNat_ofNat']
  omega

private theorem digitsValue_foldl (text : JsString) (initial : Nat) :
    text.foldl (fun value unit => 10 * value + (unit.toNat - 48)) initial =
      initial * 10 ^ text.length + digitsValue text := by
  induction text generalizing initial with
  | nil => simp [digitsValue]
  | cons unit rest inductionHypothesis =>
      simp only [digitsValue, List.foldl_cons, List.length_cons]
      rw [inductionHypothesis, inductionHypothesis (10 * 0 + _)]
      ring

@[simp] theorem digitsValue_append (left right : JsString) :
    digitsValue (left ++ right) = digitsValue left * 10 ^ right.length + digitsValue right := by
  unfold digitsValue
  rw [List.foldl_append, digitsValue_foldl]
  rfl

@[simp] theorem digitsValue_replicate_zero (count : Nat) :
    digitsValue (List.replicate count 48) = 0 := by
  induction count with
  | zero => rfl
  | succ count inductionHypothesis =>
      simpa [digitsValue, List.replicate_succ] using inductionHypothesis

private theorem digitsValue_reverse_map (digits : List Nat) (small : ∀ digit ∈ digits, digit < 10) :
    digitsValue (digits.reverse.map digitUnit) = Nat.ofDigits 10 digits := by
  induction digits with
  | nil => rfl
  | cons digit rest inductionHypothesis =>
      have headSmall := small digit (by simp)
      rw [List.reverse_cons, List.map_append, digitsValue_append,
        inductionHypothesis fun other member => small other (List.mem_cons_of_mem _ member),
        Nat.ofDigits_cons]
      simp [digitsValue, digitUnit_toNat headSmall]
      ring

/-- Printing and reading a natural number is the identity. -/
@[simp] theorem digitsValue_decimalDigits (value : Nat) :
    digitsValue (decimalDigits value) = value := by
  unfold decimalDigits
  split
  next zero => rw [zero]; rfl
  next =>
    rw [digitsValue_reverse_map _ fun digit member => Nat.digits_lt_base (by decide) member,
      Nat.ofDigits_digits]

/-- Decimal digits are ASCII digits. -/
theorem isDigit_of_mem_decimalDigits {value : Nat} {unit : CodeUnit}
    (member : unit ∈ decimalDigits value) : isDigit unit = true := by
  unfold decimalDigits at member
  split at member
  · obtain rfl := List.mem_singleton.mp member
    decide
  · obtain ⟨digit, digitMember, rfl⟩ := List.mem_map.mp member
    have small : digit < 10 := Nat.digits_lt_base (by decide) (List.mem_reverse.mp digitMember)
    simp only [isDigit, digitUnit_toNat small, Bool.and_eq_true, decide_eq_true_eq]
    omega

theorem decimalDigits_ne_nil (value : Nat) : decimalDigits value ≠ [] := by
  unfold decimalDigits
  split
  · simp
  · simpa [Nat.digits_eq_nil_iff_eq_zero]

/-! ### The value of a printed number -/

/-- The text before the first `mark`, and the text after it. -/
private def splitAtMark (mark : CodeUnit) (text : JsString) : JsString × JsString :=
  (text.takeWhile (· != mark), (text.dropWhile (· != mark)).drop 1)

private theorem splitAtMark_append {mark : CodeUnit} {left : JsString} (free : mark ∉ left)
    (right : JsString) : splitAtMark mark (left ++ mark :: right) = (left, right) := by
  have passes : ∀ unit ∈ left, (unit != mark) = true := by
    intro unit member
    simpa using fun same : unit = mark => free (same ▸ member)
  simp [splitAtMark, List.takeWhile_append_of_pos passes, List.dropWhile_append_of_pos passes]

private theorem splitAtMark_free {mark : CodeUnit} {text : JsString} (free : mark ∉ text) :
    splitAtMark mark text = (text, []) := by
  have passes : ∀ unit ∈ text, (unit != mark) = true := by
    intro unit member
    simpa using fun same : unit = mark => free (same ▸ member)
  rw [splitAtMark, List.takeWhile_eq_self_iff.mpr passes, List.dropWhile_eq_nil_iff.mpr passes]
  rfl

private def mantissaValue (text : JsString) : ℚ :=
  let parts := splitAtMark 46 text
  digitsValue (parts.1 ++ parts.2) / 10 ^ parts.2.length

private def exponentValue : JsString → ℤ
  | [] => 0
  | sign :: digits => if sign = 45 then -digitsValue digits else digitsValue digits

private def unsignedValue (text : JsString) : ℚ :=
  let parts := splitAtMark 101 text
  mantissaValue parts.1 * 10 ^ exponentValue parts.2

private theorem notMem_digits {mark : CodeUnit} (notDigit : isDigit mark = false) (value : Nat) :
    mark ∉ decimalDigits value :=
  fun member => by simp [isDigit_of_mem_decimalDigits member] at notDigit

private theorem exponentValue_exponentText (exponent : Int) :
    exponentValue (exponentText exponent) = exponent := by
  unfold exponentText exponentValue
  by_cases negative : exponent < 0
  · simp only [negative, if_true, digitsValue_decimalDigits]
    omega
  · simp only [negative, if_false, digitsValue_decimalDigits]
    rw [if_neg (by decide)]
    omega

private theorem mantissaValue_whole {text : JsString} (free : 46 ∉ text) :
    mantissaValue text = digitsValue text := by
  simp [mantissaValue, splitAtMark_free free]

private theorem mantissaValue_pointed {left : JsString} (free : 46 ∉ left) (right : JsString) :
    mantissaValue (left ++ 46 :: right) = digitsValue (left ++ right) / 10 ^ right.length := by
  simp only [mantissaValue, splitAtMark_append free]

private theorem mantissaValue_pointedDigits {digits : JsString} (free : 46 ∉ digits)
    (nonempty : digits ≠ []) :
    mantissaValue (pointedDigits digits) = digitsValue digits / 10 ^ (digits.length - 1) := by
  match digits, free, nonempty with
  | [first], free, _ => simpa [pointedDigits] using mantissaValue_whole free
  | first :: second :: rest, free, _ =>
      have headFree : (46 : CodeUnit) ∉ [first] := by simp_all
      simpa [pointedDigits] using mantissaValue_pointed headFree (second :: rest)

private theorem unsignedValue_plain {text : JsString} (free : 101 ∉ text) :
    unsignedValue text = mantissaValue text := by
  simp [unsignedValue, splitAtMark_free free, exponentValue]

private theorem unsignedValue_exponent {left : JsString} (free : 101 ∉ left) (exponent : Int) :
    unsignedValue (left ++ 101 :: exponentText exponent) =
      mantissaValue left * 10 ^ exponent := by
  simp only [unsignedValue, splitAtMark_append free, exponentValue_exponentText]

private theorem div_pow_eq {value : ℚ} {length : Nat} {exponent : Int}
    (same : (length : Int) = -exponent) : value / 10 ^ length = value * 10 ^ exponent := by
  rw [← zpow_natCast, same, zpow_neg, div_inv_eq_mul]

/-- Whichever format is chosen, the text denotes `digits * 10 ^ exponent`. -/
private theorem unsignedValue_placePoint {digits : JsString} (noPoint : 46 ∉ digits)
    (noMark : 101 ∉ digits) (nonempty : digits ≠ []) (exponent : Int) :
    unsignedValue (placePoint digits exponent) = digitsValue digits * (10 : ℚ) ^ exponent := by
  have positive : 0 < digits.length := List.length_pos_of_ne_nil nonempty
  have zeroFree (mark : CodeUnit) (other : mark ≠ 48) (count : Nat) :
      mark ∉ List.replicate count 48 := fun member => other (List.eq_of_mem_replicate member)
  unfold placePoint
  by_cases integral : 0 ≤ exponent ∧ exponent + digits.length ≤ 21
  · rw [if_pos integral]
    obtain ⟨count, rfl⟩ := Int.eq_ofNat_of_zero_le integral.1
    have whole (mark : CodeUnit) (free : mark ∉ digits) (other : mark ≠ 48) :
        mark ∉ digits ++ List.replicate (count : Int).toNat 48 := by
      simpa using ⟨free, fun _ => other⟩
    rw [unsignedValue_plain (whole 101 noMark (by decide)),
      mantissaValue_whole (whole 46 noPoint (by decide))]
    simp
  rw [if_neg integral]
  by_cases pointed : 0 < exponent + digits.length ∧ exponent + digits.length ≤ 21
  · rw [if_pos pointed]
    set position := (exponent + digits.length).toNat with positionEq
    have noMark' : (101 : CodeUnit) ∉ digits.take position ++ 46 :: digits.drop position := by
      intro member
      rcases List.mem_append.mp member with inTake | inDrop
      · exact noMark (List.mem_of_mem_take inTake)
      · rcases List.mem_cons.mp inDrop with isPoint | inDrop
        · exact absurd isPoint (by decide)
        · exact noMark (List.mem_of_mem_drop inDrop)
    have fraction : ((digits.drop position).length : Int) = -exponent := by
      simp only [List.length_drop]
      omega
    rw [unsignedValue_plain noMark',
      mantissaValue_pointed (fun member => noPoint (List.mem_of_mem_take member)),
      List.take_append_drop, div_pow_eq fraction]
  rw [if_neg pointed]
  by_cases small : -6 < exponent + digits.length ∧ exponent + digits.length ≤ 0
  · rw [if_pos small]
    set zeros := List.replicate (-(exponent + digits.length)).toNat (48 : CodeUnit) with zerosEq
    have noMark' : (101 : CodeUnit) ∉ [48] ++ 46 :: (zeros ++ digits) := by
      simp only [List.mem_cons, List.mem_append, List.not_mem_nil, or_false, not_or]
      exact ⟨by decide, by decide, zeroFree 101 (by decide) _, noMark⟩
    have fraction : ((zeros ++ digits).length : Int) = -exponent := by
      simp only [zerosEq, List.length_append, List.length_replicate]
      omega
    have leading : digitsValue ([48] ++ (zeros ++ digits)) = digitsValue digits := by
      rw [digitsValue_append, digitsValue_append, zerosEq, digitsValue_replicate_zero]
      simp [digitsValue]
    rw [unsignedValue_plain noMark', mantissaValue_pointed (by decide), div_pow_eq fraction,
      leading]
  rw [if_neg small]
  have noMark' : (101 : CodeUnit) ∉ pointedDigits digits := by
    match digits, noMark with
    | [], _ => simp [pointedDigits]
    | [first], noMark => simpa [pointedDigits] using noMark
    | first :: second :: rest, noMark => simp_all [pointedDigits]
  have shift : exponent + digits.length - 1 = exponent + ((digits.length - 1 : Nat) : Int) := by
    omega
  rw [unsignedValue_exponent noMark', mantissaValue_pointedDigits noPoint nonempty, shift,
    zpow_add₀ (by norm_num), zpow_natCast]
  field_simp

/-- A printed decimal denotes `coefficient * 10 ^ exponent`. -/
private theorem unsignedValue_unsignedText (coefficient : Nat) (exponent : Int) :
    unsignedValue (unsignedText coefficient exponent) = coefficient * (10 : ℚ) ^ exponent := by
  rw [unsignedText, unsignedValue_placePoint (notMem_digits (by decide) _)
    (notMem_digits (by decide) _) (decimalDigits_ne_nil _), digitsValue_decimalDigits]

/-! ### Injectivity of printing -/

/-- A reduced decimal is determined by its value. -/
private theorem reduced_unique {left right : Nat} {leftExponent rightExponent : Int}
    (leftReduced : left % 10 ≠ 0) (rightReduced : right % 10 ≠ 0)
    (same : (left : ℚ) * 10 ^ leftExponent = right * 10 ^ rightExponent)
    (le : leftExponent ≤ rightExponent) : left = right ∧ leftExponent = rightExponent := by
  obtain ⟨shift, shiftEq⟩ := Int.eq_ofNat_of_zero_le (sub_nonneg.mpr le)
  have rightEq : rightExponent = leftExponent + shift := by omega
  have nonzero : (10 : ℚ) ^ leftExponent ≠ 0 := zpow_ne_zero _ (by norm_num)
  have scaled : (left : ℚ) = right * 10 ^ shift := by
    rw [rightEq, zpow_add₀ (by norm_num), zpow_natCast] at same
    apply mul_right_cancel₀ nonzero
    rw [same]
    ring
  have natural : left = right * 10 ^ shift := by exact_mod_cast scaled
  cases shift with
  | zero => exact ⟨by simpa using natural, by omega⟩
  | succ shift =>
      rw [pow_succ, ← mul_assoc] at natural
      omega

private theorem unsignedText_injective {left right : Nat} {leftExponent rightExponent : Int}
    (leftReduced : left % 10 ≠ 0) (rightReduced : right % 10 ≠ 0)
    (same : unsignedText left leftExponent = unsignedText right rightExponent) :
    left = right ∧ leftExponent = rightExponent := by
  have values := congrArg unsignedValue same
  rw [unsignedValue_unsignedText, unsignedValue_unsignedText] at values
  rcases le_total leftExponent rightExponent with le | le
  · exact reduced_unique leftReduced rightReduced values le
  · obtain ⟨coefficientEq, exponentEq⟩ := reduced_unique rightReduced leftReduced values.symm le
    exact ⟨coefficientEq.symm, exponentEq.symm⟩

/-- The symbols of a printed finite number. -/
def isNumberUnit (unit : CodeUnit) : Bool :=
  isDigit unit || unit == 43 || unit == 45 || unit == 46 || unit == 101

private theorem isNumberUnit_of_isDigit {unit : CodeUnit} (digit : isDigit unit = true) :
    isNumberUnit unit = true := by
  simp [isNumberUnit, digit]

private theorem isNumberUnit_exponentText {exponent : Int} {unit : CodeUnit}
    (member : unit ∈ exponentText exponent) : isNumberUnit unit = true := by
  rcases List.mem_cons.mp member with rfl | inDigits
  · split <;> decide
  · exact isNumberUnit_of_isDigit (isDigit_of_mem_decimalDigits inDigits)

private theorem isNumberUnit_placePoint {digits : JsString}
    (allDigits : ∀ unit ∈ digits, isDigit unit = true) {exponent : Int} {unit : CodeUnit}
    (member : unit ∈ placePoint digits exponent) : isNumberUnit unit = true := by
  have fromDigits (unit : CodeUnit) (inDigits : unit ∈ digits) : isNumberUnit unit = true :=
    isNumberUnit_of_isDigit (allDigits unit inDigits)
  have fromZeros (count : Nat) (unit : CodeUnit) (inZeros : unit ∈ List.replicate count 48) :
      isNumberUnit unit = true := by
    rw [List.eq_of_mem_replicate inZeros]
    decide
  unfold placePoint at member
  extract_lets point at member
  split_ifs at member
  · rcases List.mem_append.mp member with inDigits | inZeros
    · exact fromDigits _ inDigits
    · exact fromZeros _ _ inZeros
  · simp only [List.mem_append, List.mem_cons] at member
    rcases member with inTake | rfl | inDrop
    · exact fromDigits _ (List.mem_of_mem_take inTake)
    · decide
    · exact fromDigits _ (List.mem_of_mem_drop inDrop)
  · simp only [List.mem_append, List.mem_cons, List.not_mem_nil, or_false] at member
    rcases member with rfl | rfl | inZeros | inDigits
    · decide
    · decide
    · exact fromZeros _ _ inZeros
    · exact fromDigits _ inDigits
  · rcases List.mem_append.mp member with inMantissa | inExponent
    · match digits, inMantissa with
      | [first], inMantissa => exact fromDigits _ inMantissa
      | first :: second :: rest, inMantissa =>
          simp only [pointedDigits, List.mem_cons] at inMantissa
          rcases inMantissa with rfl | rfl | rfl | inRest
          · exact fromDigits _ (by simp)
          · decide
          · exact fromDigits _ (by simp)
          · exact fromDigits _ (by simp [inRest])
    · rcases List.mem_cons.mp inExponent with rfl | inExponent
      · decide
      · exact isNumberUnit_exponentText inExponent

/-- A printed finite number consists of digits, signs, a point and `e`. -/
theorem Decimal.isNumberUnit_toString {decimal : Decimal} {unit : CodeUnit}
    (member : unit ∈ decimal.toString) : isNumberUnit unit = true := by
  have unsigned (inText : unit ∈ unsignedText decimal.coefficient decimal.exponent) :
      isNumberUnit unit = true :=
    isNumberUnit_placePoint (fun _ => isDigit_of_mem_decimalDigits) inText
  unfold Decimal.toString at member
  split_ifs at member
  · rw [List.mem_singleton.mp member]
    decide
  · rcases List.mem_cons.mp member with rfl | inText
    · decide
    · exact unsigned inText
  · exact unsigned member

private theorem placePoint_head {digits : JsString} (nonempty : digits ≠ [])
    (allDigits : ∀ unit ∈ digits, isDigit unit = true) (exponent : Int) :
    ∃ first rest, placePoint digits exponent = first :: rest ∧ isDigit first = true := by
  obtain ⟨first, rest, rfl⟩ := List.exists_cons_of_ne_nil nonempty
  have firstDigit := allDigits first (by simp)
  unfold placePoint
  extract_lets point
  split_ifs with integral pointed
  · exact ⟨first, _, rfl, firstDigit⟩
  · obtain ⟨position, positionEq⟩ : ∃ position, point.toNat = position + 1 :=
      Nat.exists_eq_succ_of_ne_zero (by omega)
    rw [positionEq]
    exact ⟨first, _, rfl, firstDigit⟩
  · exact ⟨48, _, rfl, by decide⟩
  · cases rest with
    | nil => exact ⟨first, _, rfl, firstDigit⟩
    | cons second rest => exact ⟨first, _, rfl, firstDigit⟩

private theorem unsignedText_head (coefficient : Nat) (exponent : Int) :
    ∃ first rest, unsignedText coefficient exponent = first :: rest ∧ isDigit first = true :=
  placePoint_head (decimalDigits_ne_nil _) (fun _ => isDigit_of_mem_decimalDigits) exponent

/-- A printed finite number starts with a digit or a minus sign. -/
theorem Decimal.toString_head (decimal : Decimal) :
    ∃ first rest, decimal.toString = first :: rest ∧
      (isDigit first = true ∨ first = 45) := by
  unfold Decimal.toString
  split_ifs
  · exact ⟨48, [], rfl, Or.inl (by decide)⟩
  · exact ⟨45, _, rfl, Or.inr rfl⟩
  · obtain ⟨first, rest, text, digit⟩ := unsignedText_head decimal.coefficient decimal.exponent
    exact ⟨first, rest, text, Or.inl digit⟩

/-- Negative zero read as zero, every other number as itself. -/
def Decimal.dropZeroSign (decimal : Decimal) : Decimal :=
  if decimal.coefficient = 0 then ⟨false, 0, 0, Or.inr ⟨rfl, rfl⟩⟩ else decimal

theorem Decimal.dropZeroSign_idempotent (decimal : Decimal) :
    decimal.dropZeroSign.dropZeroSign = decimal.dropZeroSign := by
  unfold Decimal.dropZeroSign
  split_ifs with zero <;> simp_all

private theorem unsignedText_ne_zero {coefficient : Nat} (nonzero : coefficient ≠ 0)
    (exponent : Int) : unsignedText coefficient exponent ≠ [48] := by
  intro same
  have values := congrArg unsignedValue same
  have zero : unsignedValue [48] = 0 := by
    rw [unsignedValue_plain (by decide), mantissaValue_whole (by decide)]
    simp [digitsValue]
  rw [unsignedValue_unsignedText, zero] at values
  have : (10 : ℚ) ^ exponent ≠ 0 := zpow_ne_zero _ (by norm_num)
  simp_all

/-- Printing identifies a finite number up to the sign of zero. -/
theorem Decimal.toString_injective {left right : Decimal}
    (same : left.toString = right.toString) :
    left.dropZeroSign = right.dropZeroSign := by
  have positiveText (decimal : Decimal) (rest : JsString) :
      unsignedText decimal.coefficient decimal.exponent ≠ 45 :: rest := by
    intro text
    obtain ⟨first, others, shape, digit⟩ := unsignedText_head decimal.coefficient decimal.exponent
    rw [shape, List.cons.injEq] at text
    rw [text.1] at digit
    exact absurd digit (by decide)
  have merge (leftNonzero : left.coefficient ≠ 0) (rightNonzero : right.coefficient ≠ 0)
      (signs : left.negative = right.negative)
      (texts : unsignedText left.coefficient left.exponent =
        unsignedText right.coefficient right.exponent) : left = right := by
    obtain ⟨coefficientEq, exponentEq⟩ := unsignedText_injective
      (left.reduced.resolve_right fun zero => leftNonzero zero.1)
      (right.reduced.resolve_right fun zero => rightNonzero zero.1) texts
    cases left
    cases right
    simp_all
  simp only [Decimal.toString] at same
  unfold Decimal.dropZeroSign
  split_ifs at same ⊢ with leftZero rightZero rightSign rightZero leftSign rightSign rightSign
  all_goals first
    | rfl
    | exact absurd (List.cons.inj same).1 (by decide)
    | exact absurd same.symm (unsignedText_ne_zero rightZero _)
    | exact absurd same (unsignedText_ne_zero leftZero _)
    | exact absurd same (positiveText left _)
    | exact absurd same.symm (positiveText right _)
    | exact merge leftZero rightZero (by simp_all) (List.cons.inj same).2
    | exact merge leftZero rightZero (by simp_all) same

end DarkmeshGateway.Foundation.Js
