import DarkmeshGateway.Foundation.Js.Base64
import DarkmeshGateway.SecretsWorker.Fields

/-!
Contract: which texts the worker decodes as hexadecimal, and to which bytes.

Owns `parseInt` in base sixteen, the loop over two-unit slices and the texts for
which decoding is the inverse of lower-case encoding.

Does not own the checks of the decoded signature or key.
-/

namespace DarkmeshGateway.SecretsWorker.HexDecoding

open Foundation.Js
open SecretsWorker.Fields

/-! ### The decoder -/

def isHexUnit (unit : CodeUnit) : Bool := (digitIn 16 unit).isSome

/-- The text without a leading `0x`. -/
def stripHexMark : JsString → JsString
  | 48 :: mark :: rest => if mark = 120 ∨ mark = 88 then rest else 48 :: mark :: rest
  | text => text

/-- `parseInt(text, 16)`: leading white space, a sign, `0x` and the longest run of
digits; `none` is `NaN`. -/
def parseInt16 (text : JsString) : Option Int :=
  let body := text.dropWhile isWhitespace
  let negative := body.head? == some 45
  let unsigned := if negative || body.head? == some 43 then body.tail else body
  (digitsIn 16 ((stripHexMark unsigned).takeWhile isHexUnit)).map fun value =>
    if negative then -(nearestDouble value : Int) else nearestDouble value

/-- A number stored in a `Uint8Array`. -/
def toUint8 : Option Int → Nat
  | none => 0
  | some value => (value % 256).toNat

def normalizeHmacSignature (signature : JsString) : JsString := toLowerCase (trim signature)

/-- `parseInt(hex.slice(i, i + 2), 16)` for each even `i`. -/
def sliceBytes : JsString → List Nat
  | high :: low :: rest => toUint8 (parseInt16 [high, low]) :: sliceBytes rest
  | _ => []

def hexToBytes (hex : JsString) : Except HttpException (List Nat) :=
  if hex = [] ∨ hex.length % 2 ≠ 0 then .error ⟨401, "invalid_signature"⟩
  else .ok (sliceBytes hex)

/-- The decoder of the routes fails with the texts that this one refuses. -/
theorem hexDecodable_eq (hex : JsString) : hexDecodable hex = (hexToBytes hex).map fun _ => () := by
  unfold hexDecodable hexToBytes
  split <;> rfl

/-! ### Digits -/

/-- The digits of base sixteen and their values. -/
theorem digitIn_sixteen_cases {unit : CodeUnit} {value : Nat}
    (read : digitIn 16 unit = some value) :
    (48 ≤ unit.toNat ∧ unit.toNat ≤ 57 ∧ value = unit.toNat - 48) ∨
      (65 ≤ unit.toNat ∧ unit.toNat ≤ 70 ∧ value = unit.toNat - 55) ∨
      (97 ≤ unit.toNat ∧ unit.toNat ≤ 102 ∧ value = unit.toNat - 87) := by
  have kept := (Option.filter_eq_some_iff.mp read).1
  split at kept
  next digit => exact .inl ⟨digit.1, digit.2, (Option.some.inj kept).symm⟩
  next =>
    split at kept
    next capital => exact .inr (.inl ⟨capital.1, capital.2, (Option.some.inj kept).symm⟩)
    next =>
      split at kept
      next letter => exact .inr (.inr ⟨letter.1, letter.2, (Option.some.inj kept).symm⟩)
      next => cases kept

theorem isHexUnit_iff (unit : CodeUnit) :
    isHexUnit unit = true ↔
      (48 ≤ unit.toNat ∧ unit.toNat ≤ 57) ∨ (65 ≤ unit.toNat ∧ unit.toNat ≤ 70) ∨
        (97 ≤ unit.toNat ∧ unit.toNat ≤ 102) := by
  constructor
  · intro hex
    obtain ⟨value, read⟩ := Option.isSome_iff_exists.mp hex
    have cases := digitIn_sixteen_cases read
    omega
  · intro ranges
    have bound {value : Nat} (small : value < 16) :
        (Option.filter (· < 16) (some value)).isSome = true := by simp [small]
    unfold isHexUnit digitIn
    dsimp only
    split
    next => exact bound (by omega)
    next =>
      split
      next => exact bound (by omega)
      next =>
        split
        next => exact bound (by omega)
        next => omega

/-- A digit that is no capital is the one that writes its value. -/
theorem hexDigit_digitIn {unit : CodeUnit} {value : Nat} (read : digitIn 16 unit = some value)
    (small : ¬(65 ≤ unit.toNat ∧ unit.toNat ≤ 90)) : hexDigit value = unit := by
  rcases digitIn_sixteen_cases read with digit | capital | letter
  · obtain ⟨low, high, rfl⟩ := digit
    rw [hexDigit, if_pos (by omega), show 48 + (unit.toNat - 48) = unit.toNat by omega,
      UInt16.ofNat_toNat]
  · omega
  · obtain ⟨low, high, rfl⟩ := letter
    rw [hexDigit, if_neg (by omega), show 87 + (unit.toNat - 87) = unit.toNat by omega,
      UInt16.ofNat_toNat]

theorem stripHexMark_slice (high : CodeUnit) {low : CodeUnit} (hex : isHexUnit low = true) :
    stripHexMark [high, low] = [high, low] := by
  have ranges := (isHexUnit_iff low).mp hex
  have notMark : ¬(low = 120 ∨ low = 88) := by
    rintro (rfl | rfl)
    · simp at ranges
    · simp at ranges
  unfold stripHexMark
  split
  next mark rest shape =>
    obtain ⟨rfl, tail⟩ := List.cons.inj shape
    obtain ⟨rfl, -⟩ := List.cons.inj tail
    rw [if_neg notMark]
    exact shape.symm
  next => rfl

/-- A slice of two digits. -/
theorem toUint8_slice {high low : CodeUnit} {first second : Nat}
    (highRead : digitIn 16 high = some first) (lowRead : digitIn 16 low = some second) :
    toUint8 (parseInt16 [high, low]) = 16 * first + second := by
  have highHex : isHexUnit high = true := by rw [isHexUnit, highRead]; rfl
  have lowHex : isHexUnit low = true := by rw [isHexUnit, lowRead]; rfl
  have ranges := (isHexUnit_iff high).mp highHex
  have visible : isWhitespace high = false := by
    simp only [isWhitespace, Bool.or_eq_false_iff, Bool.and_eq_false_iff, decide_eq_false_iff_not,
      beq_eq_false_iff_ne, ne_eq]
    omega
  have unsigned : high ≠ 45 ∧ high ≠ 43 := by
    constructor
    · rintro rfl
      simp at ranges
    · rintro rfl
      simp at ranges
  have body : [high, low].dropWhile isWhitespace = [high, low] := by simp [visible]
  have run : [high, low].takeWhile isHexUnit = [high, low] := by simp [highHex, lowHex]
  have number : digitsIn 16 [high, low] = some (16 * first + second) := by
    simp [digitsIn, highRead, lowRead]
  have small : 16 * first + second < 256 := by
    have firstCases := digitIn_sixteen_cases highRead
    have secondCases := digitIn_sixteen_cases lowRead
    omega
  have exact : nearestDouble (16 * first + second) = 16 * first + second := by
    rw [nearestDouble, if_pos (by omega)]
  simp only [parseInt16, body, List.head?_cons, Option.some_beq_some]
  simp [unsigned, stripHexMark_slice high lowHex, run, number, exact, toUint8]
  omega

theorem sliceBytes_small : (text : JsString) → ∀ byte ∈ sliceBytes text, byte < 256
  | [] => by simp [sliceBytes]
  | [unit] => by simp [sliceBytes]
  | high :: low :: rest => by
      rw [sliceBytes, List.forall_mem_cons]
      refine ⟨?_, sliceBytes_small rest⟩
      unfold toUint8
      split
      next => omega
      next value number => omega

/-- Slices of digits that are no capitals are what encoding them writes. -/
theorem bytesHex_sliceBytes : (text : JsString) → text.length % 2 = 0 →
    (∀ unit ∈ text, isHexUnit unit = true ∧ ¬(65 ≤ unit.toNat ∧ unit.toNat ≤ 90)) →
    bytesHex (sliceBytes text) = text
  | [], _, _ => rfl
  | [unit], even, _ => by simp at even
  | high :: low :: rest, even, digits => by
      rw [List.forall_mem_cons, List.forall_mem_cons] at digits
      obtain ⟨highDigit, lowDigit, restDigits⟩ := digits
      obtain ⟨first, highRead⟩ := Option.isSome_iff_exists.mp highDigit.1
      obtain ⟨second, lowRead⟩ := Option.isSome_iff_exists.mp lowDigit.1
      have firstCases := digitIn_sixteen_cases highRead
      have secondCases := digitIn_sixteen_cases lowRead
      have upper : (16 * first + second) / 16 = first := by omega
      have lower : (16 * first + second) % 16 = second := by omega
      have shorter : rest.length % 2 = 0 := by
        rw [List.length_cons, List.length_cons] at even
        omega
      rw [sliceBytes, toUint8_slice highRead lowRead, bytesHex_cons, upper, lower,
        hexDigit_digitIn highRead highDigit.2, hexDigit_digitIn lowRead lowDigit.2,
        bytesHex_sliceBytes rest shorter restDigits]

/-! ### Lower case -/

theorem lowerUnit_hex {unit : CodeUnit} (hex : isHexUnit unit = true) :
    ∃ lowered, lowerUnit unit = [lowered] ∧ isHexUnit lowered = true := by
  have ranges := (isHexUnit_iff unit).mp hex
  by_cases capital : 65 ≤ unit.toNat ∧ unit.toNat ≤ 90
  · refine ⟨unit + 32, by simp [lowerUnit, capital], ?_⟩
    have shift : (32 : UInt16).toNat = 32 := rfl
    rw [isHexUnit_iff, UInt16.toNat_add, shift]
    omega
  · refine ⟨unit, ?_, hex⟩
    rw [lowerUnit, if_neg (by simpa using capital), if_neg (by simp; omega),
      if_neg (by simp; omega)]

theorem lowerUnit_not_hex {unit : CodeUnit} (other : isHexUnit unit = false) :
    ∃ lowered ∈ lowerUnit unit, isHexUnit lowered = false := by
  have ranges := mt (isHexUnit_iff unit).mpr (by simp [other])
  unfold lowerUnit
  split
  next capital =>
    simp only [Bool.and_eq_true, decide_eq_true_eq] at capital
    have shift : (32 : UInt16).toNat = 32 := rfl
    refine ⟨unit + 32, by simp, ?_⟩
    rw [← Bool.not_eq_true, isHexUnit_iff, UInt16.toNat_add, shift]
    omega
  next =>
    split
    next => exact ⟨107, by simp, by decide⟩
    next =>
      split
      next => exact ⟨105, by simp, by decide⟩
      next => exact ⟨unit, by simp, other⟩

theorem not_capital_of_mem_toLowerCase {text : JsString} {unit : CodeUnit}
    (member : unit ∈ toLowerCase text) : ¬(65 ≤ unit.toNat ∧ unit.toNat ≤ 90) := by
  obtain ⟨source, -, emitted⟩ := List.mem_flatMap.mp member
  unfold lowerUnit at emitted
  split at emitted
  next capital =>
    obtain rfl : unit = source + 32 := by simpa using emitted
    simp only [Bool.and_eq_true, decide_eq_true_eq] at capital
    have shift : (32 : UInt16).toNat = 32 := rfl
    rw [UInt16.toNat_add, shift]
    omega
  next notCapital =>
    split at emitted
    next =>
      obtain rfl : unit = 107 := by simpa using emitted
      decide
    next =>
      split at emitted
      next =>
        have parts : unit = 105 ∨ unit = 0x307 := by simpa using emitted
        rcases parts with rfl | rfl
        · decide
        · decide
      next =>
        obtain rfl : unit = source := by simpa using emitted
        simpa using notCapital

/-- Lower casing keeps digits digits, and nothing else becomes one. -/
theorem all_hex_toLowerCase (text : JsString) :
    (toLowerCase text).all isHexUnit = text.all isHexUnit := by
  induction text with
  | nil => rfl
  | cons unit rest inductionHypothesis =>
      have head : (lowerUnit unit).all isHexUnit = isHexUnit unit := by
        cases hex : isHexUnit unit with
        | true =>
            obtain ⟨lowered, same, digit⟩ := lowerUnit_hex hex
            simp [same, digit]
        | false =>
            obtain ⟨lowered, member, other⟩ := lowerUnit_not_hex hex
            rw [List.all_eq_false]
            exact ⟨lowered, member, by simp [other]⟩
      rw [toLowerCase, List.flatMap_cons, List.all_append, head, ← toLowerCase,
        inductionHypothesis, List.all_cons]

theorem length_toLowerCase {text : JsString} (hex : text.all isHexUnit = true) :
    (toLowerCase text).length = text.length := by
  induction text with
  | nil => rfl
  | cons unit rest inductionHypothesis =>
      rw [List.all_cons, Bool.and_eq_true] at hex
      obtain ⟨lowered, same, -⟩ := lowerUnit_hex hex.1
      rw [toLowerCase, List.flatMap_cons, same, List.length_append, ← toLowerCase,
        inductionHypothesis hex.2, List.length_singleton, List.length_cons, Nat.add_comm]

/-! ### Exact decoding -/

/-- A non-empty text of pairs of hexadecimal digits. -/
structure HexText (text : JsString) : Prop where
  present : text ≠ []
  even : text.length % 2 = 0
  digits : text.all isHexUnit = true

theorem hexText_toLowerCase_iff (text : JsString) : HexText (toLowerCase text) ↔ HexText text := by
  constructor
  · intro lowered
    have digits : text.all isHexUnit = true := by
      rw [← all_hex_toLowerCase]
      exact lowered.digits
    have length := length_toLowerCase digits
    refine ⟨?_, length ▸ lowered.even, digits⟩
    rintro rfl
    exact lowered.present rfl
  · intro hex
    have length := length_toLowerCase hex.digits
    refine ⟨?_, length ▸ hex.even, by rw [all_hex_toLowerCase]; exact hex.digits⟩
    intro empty
    apply hex.present
    rw [← List.length_eq_zero_iff, ← length, empty, List.length_nil]

/-- A text that the decoder takes although it is not hexadecimal. -/
structure Malformed (text : JsString) : Prop where
  present : normalizeHmacSignature text ≠ []
  even : (normalizeHmacSignature text).length % 2 = 0
  other : (normalizeHmacSignature text).all isHexUnit = false

/-- Decoding succeeds on hexadecimal texts only, and encoding gives the text back. -/
structure Exact (text : JsString) : Prop where
  accepted : (∃ bytes, hexToBytes (normalizeHmacSignature text) = .ok bytes) ↔ HexText (trim text)
  inverse : ∀ bytes, hexToBytes (normalizeHmacSignature text) = .ok bytes →
    (∀ byte ∈ bytes, byte < 256) ∧ bytesHex bytes = toLowerCase (trim text)

/-- Texts with the same bytes differ in case and outer white space only. -/
def Separate (left right : JsString) : Prop :=
  ∀ bytes, hexToBytes (normalizeHmacSignature left) = .ok bytes →
    hexToBytes (normalizeHmacSignature right) = .ok bytes →
    toLowerCase (trim left) = toLowerCase (trim right)

theorem hexToBytes_eq_ok_iff (hex : JsString) (bytes : List Nat) :
    hexToBytes hex = .ok bytes ↔ hex ≠ [] ∧ hex.length % 2 = 0 ∧ bytes = sliceBytes hex := by
  unfold hexToBytes
  by_cases refused : hex = [] ∨ hex.length % 2 ≠ 0
  · rw [if_pos refused]
    constructor
    · intro impossible
      cases impossible
    · rintro ⟨present, even, -⟩
      rcases refused with empty | odd
      · exact absurd empty present
      · exact absurd even odd
  · rw [if_neg refused]
    rw [not_or, not_not] at refused
    simp [refused, eq_comm]

theorem exact_iff (text : JsString) : Exact text ↔ ¬ Malformed text := by
  constructor
  · intro exactly malformed
    have decoded := (hexToBytes_eq_ok_iff _ _).mpr ⟨malformed.present, malformed.even, rfl⟩
    have hex := exactly.accepted.mp ⟨_, decoded⟩
    have digits := ((hexText_toLowerCase_iff _).mpr hex).digits
    rw [← normalizeHmacSignature, malformed.other] at digits
    cases digits
  · intro wellFormed
    have hexOf (bytes : List Nat)
        (decoded : hexToBytes (normalizeHmacSignature text) = .ok bytes) :
        HexText (toLowerCase (trim text)) ∧ bytes = sliceBytes (toLowerCase (trim text)) := by
      obtain ⟨present, even, rfl⟩ := (hexToBytes_eq_ok_iff _ _).mp decoded
      refine ⟨⟨present, even, ?_⟩, rfl⟩
      by_contra other
      exact wellFormed ⟨present, even, Bool.eq_false_of_not_eq_true other⟩
    refine ⟨⟨?_, ?_⟩, ?_⟩
    · rintro ⟨bytes, decoded⟩
      exact (hexText_toLowerCase_iff _).mp (hexOf bytes decoded).1
    · intro hex
      have lowered := (hexText_toLowerCase_iff _).mpr hex
      exact ⟨_, (hexToBytes_eq_ok_iff _ _).mpr ⟨lowered.present, lowered.even, rfl⟩⟩
    · intro bytes decoded
      obtain ⟨hex, rfl⟩ := hexOf bytes decoded
      refine ⟨sliceBytes_small _, bytesHex_sliceBytes _ hex.even ?_⟩
      intro unit member
      exact ⟨List.all_eq_true.mp hex.digits unit member, not_capital_of_mem_toLowerCase member⟩

/-- The decoder is exact, on one text and between two, exactly on texts that are not
malformed. -/
theorem hex_decoding_exact_iff (left right : JsString) :
    (Exact left ∧ Exact right ∧ Separate left right) ↔ ¬ Malformed left ∧ ¬ Malformed right := by
  rw [← exact_iff, ← exact_iff]
  constructor
  · intro exactly
    exact ⟨exactly.1, exactly.2.1⟩
  · intro exactly
    refine ⟨exactly.1, exactly.2, ?_⟩
    intro bytes leftBytes rightBytes
    rw [← (exactly.1.inverse bytes leftBytes).2, ← (exactly.2.inverse bytes rightBytes).2]

/-- `1g`, `zz` and `-a` are decoded, the first to the byte of `01`. -/
theorem malformed_slices_decode :
    hexToBytes (normalizeHmacSignature (js "1g")) = .ok [1] ∧
      hexToBytes (normalizeHmacSignature (js "01")) = .ok [1] ∧
      hexToBytes (normalizeHmacSignature (js "zz")) = .ok [0] ∧
      hexToBytes (normalizeHmacSignature (js "-a")) = .ok [246] ∧
      ¬ (Exact (js "1g") ∧ Separate (js "1g") (js "01")) := by
  have first : hexToBytes (normalizeHmacSignature (js "1g")) = .ok [1] := by decide +kernel
  have second : hexToBytes (normalizeHmacSignature (js "01")) = .ok [1] := by decide +kernel
  refine ⟨first, second, by decide +kernel, by decide +kernel, ?_⟩
  rintro ⟨-, separate⟩
  exact absurd (separate [1] first second) (by decide)

end DarkmeshGateway.SecretsWorker.HexDecoding
