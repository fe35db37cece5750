import Mathlib.Algebra.Group.Nat.Defs
import Mathlib.Data.List.DropRight

/-!
Contract: JavaScript strings as sequences of UTF-16 code units.

Owns literals, `String.prototype.trim`, ASCII case folding, prefix tests,
decimal parsing, the UTF-8 length of a string and what its encoder sees.

Does not own Unicode case mapping outside ASCII, except for the code points
whose lower-case or upper-case form contains an ASCII letter: `toLowerCase`
folds `A` to `Z`, U+0130 and U+212A and leaves every other letter, such as U+00C9,
as it is.
-/

namespace DarkmeshGateway.Foundation.Js

/-- One UTF-16 code unit. -/
abbrev CodeUnit := UInt16

/-- A JavaScript string. Any sequence of code units is one, lone surrogates
included. -/
abbrev JsString := List CodeUnit

instance : LawfulBEq JsString := inferInstance

/-- A string literal of basic-plane characters. -/
def js (literal : String) : JsString :=
  literal.toList.map fun character => UInt16.ofNat character.toNat

/-! ### Trimming -/

/-- ECMAScript `WhiteSpace` and `LineTerminator`, which `trim` removes. -/
def isWhitespace (unit : CodeUnit) : Bool :=
  let code := unit.toNat
  (9 ≤ code && code ≤ 13) || code == 0x20 || code == 0xA0 || code == 0x1680 ||
    (0x2000 ≤ code && code ≤ 0x200A) || code == 0x2028 || code == 0x2029 ||
    code == 0x202F || code == 0x205F || code == 0x3000 || code == 0xFEFF

/-- `String.prototype.trim`. -/
def trim (text : JsString) : JsString :=
  (text.dropWhile isWhitespace).rdropWhile isWhitespace

@[simp] theorem trim_nil : trim [] = [] := rfl

/-- A trimmed text neither starts nor ends with white space. -/
theorem trim_eq_self_iff (text : JsString) :
    trim text = text ↔
      (∀ head ∈ text.head?, isWhitespace head = false) ∧
        ∀ last ∈ text.getLast?, isWhitespace last = false := by
  constructor
  · intro fixed
    have dropped : text.dropWhile isWhitespace = text := by
      have short : (trim text).length ≤ (text.dropWhile isWhitespace).length :=
        (List.rdropWhile_prefix isWhitespace _).length_le
      have suffix := List.dropWhile_suffix (l := text) isWhitespace
      exact suffix.eq_of_length (le_antisymm suffix.length_le (by rwa [fixed] at short))
    constructor
    · intro head member
      cases text with
      | nil => simp at member
      | cons first rest =>
          obtain rfl : first = head := by simpa using member
          by_contra space
          simp only [Bool.not_eq_false] at space
          rw [List.dropWhile_cons_of_pos space] at dropped
          have := congrArg List.length dropped
          have := (List.dropWhile_suffix (l := rest) isWhitespace).length_le
          simp at *
          omega
    · intro last member
      have kept : text.rdropWhile isWhitespace = text := by rwa [trim, dropped] at fixed
      rw [List.rdropWhile_eq_self_iff] at kept
      obtain ⟨nonempty, rfl⟩ := List.mem_getLast?_eq_getLast member
      simpa using kept nonempty
  · rintro ⟨headOk, lastOk⟩
    have dropped : text.dropWhile isWhitespace = text := by
      cases text with
      | nil => rfl
      | cons first rest => exact List.dropWhile_cons_of_neg (by simp [headOk first rfl])
    rw [trim, dropped, List.rdropWhile_eq_self_iff]
    intro nonempty
    simp [lastOk _ (List.getLast?_eq_some_getLast nonempty)]

/-- Trimming twice is trimming once. -/
@[simp] theorem trim_trim (text : JsString) : trim (trim text) = trim text := by
  rw [trim_eq_self_iff]
  constructor
  · intro head member
    obtain ⟨rest, same⟩ := List.rdropWhile_prefix isWhitespace (text.dropWhile isWhitespace)
    have headMember : (text.dropWhile isWhitespace).head? = some head := by
      rw [← same, List.head?_append]
      exact Option.or_of_isSome (by simp_all [trim]) |>.trans member
    have := List.head?_dropWhile_not isWhitespace text
    simp_all
  · intro last member
    obtain ⟨nonempty, rfl⟩ := List.mem_getLast?_eq_getLast member
    exact Bool.not_eq_true _ |>.mp
      (List.rdropWhile_last_not isWhitespace (text.dropWhile isWhitespace) nonempty)

/-! ### Case folding -/

/-- `String.prototype.toLowerCase` on one code unit: exact on ASCII and on the
Kelvin sign and dotted capital I, whose lower-case forms contain ASCII letters. -/
def lowerUnit (unit : CodeUnit) : JsString :=
  if 65 ≤ unit.toNat && unit.toNat ≤ 90 then [unit + 32]
  else if unit.toNat == 0x212A then [107]
  else if unit.toNat == 0x0130 then [105, 0x307]
  else [unit]

/-- `String.prototype.toLowerCase`. -/
def toLowerCase (text : JsString) : JsString := text.flatMap lowerUnit

private theorem lowerUnit_ne_nil (unit : CodeUnit) : lowerUnit unit ≠ [] := by
  unfold lowerUnit
  split
  · simp
  · split
    · simp
    · split <;> simp

/-- A unit of a lower-case form: a shifted capital, a unit of one of the two
special forms, or a unit that lower casing keeps. -/
private theorem lowerUnit_cases {unit emitted : CodeUnit} (member : emitted ∈ lowerUnit unit) :
    (97 ≤ emitted.toNat ∧ emitted.toNat ≤ 122) ∨ emitted = 0x307 ∨
      (emitted = unit ∧ lowerUnit unit = [unit]) := by
  have folded := member
  unfold lowerUnit at folded
  split at folded
  next upper =>
    obtain rfl : emitted = unit + 32 := by simpa using folded
    simp only [Bool.and_eq_true, decide_eq_true_eq] at upper
    have shift : (32 : UInt16).toNat = 32 := rfl
    rw [UInt16.toNat_add, shift]
    left
    omega
  next notUpper =>
    split at folded
    next =>
      obtain rfl : emitted = 107 := by simpa using folded
      left
      decide
    next notKelvin =>
      split at folded
      next =>
        have parts : emitted = 105 ∨ emitted = 0x307 := by simpa using folded
        rcases parts with rfl | rfl
        · left
          decide
        · exact Or.inr (Or.inl rfl)
      next notDotted =>
        obtain rfl : emitted = unit := by simpa using folded
        refine Or.inr (Or.inr ⟨rfl, ?_⟩)
        rw [lowerUnit, if_neg notUpper, if_neg notKelvin, if_neg notDotted]

/-- What lower casing emits is already lower case. -/
private theorem lowerUnit_emitted {unit emitted : CodeUnit} (member : emitted ∈ lowerUnit unit) :
    lowerUnit emitted = [emitted] := by
  rcases lowerUnit_cases member with letter | rfl | ⟨rfl, kept⟩
  · rw [lowerUnit, if_neg (by simp; omega), if_neg (by simp; omega), if_neg (by simp; omega)]
  · decide
  · exact kept

/-- Lower casing makes no white space. -/
private theorem lowerUnit_visible {unit emitted : CodeUnit} (visible : isWhitespace unit = false)
    (member : emitted ∈ lowerUnit unit) : isWhitespace emitted = false := by
  rcases lowerUnit_cases member with letter | rfl | ⟨rfl, -⟩
  · simp only [isWhitespace]
    simp
    omega
  · decide
  · exact visible

/-- Every unit of a lower-case form is lower case. -/
theorem lowerUnit_of_mem_toLowerCase {text : JsString} {unit : CodeUnit}
    (member : unit ∈ toLowerCase text) : lowerUnit unit = [unit] := by
  obtain ⟨source, -, emitted⟩ := List.mem_flatMap.mp member
  exact lowerUnit_emitted emitted

/-- A text of lower-case units is its own lower-case form. -/
theorem toLowerCase_of_units {text : JsString} (fixed : ∀ unit ∈ text, lowerUnit unit = [unit]) :
    toLowerCase text = text := by
  induction text with
  | nil => rfl
  | cons unit rest inductionHypothesis =>
      have head := fixed unit (by simp)
      have tail := inductionHypothesis fun other member => fixed other (by simp [member])
      rw [toLowerCase, List.flatMap_cons, head]
      exact congrArg (unit :: ·) tail

/-- Lower casing twice is lower casing once. -/
@[simp] theorem toLowerCase_toLowerCase (text : JsString) :
    toLowerCase (toLowerCase text) = toLowerCase text :=
  toLowerCase_of_units fun _ member => lowerUnit_of_mem_toLowerCase member

/-- A trimmed text is still trimmed in lower case. -/
@[simp] theorem trim_toLowerCase_trim (text : JsString) :
    trim (toLowerCase (trim text)) = toLowerCase (trim text) := by
  obtain ⟨headOk, lastOk⟩ := (trim_eq_self_iff (trim text)).mp (trim_trim text)
  rw [trim_eq_self_iff]
  constructor
  · intro head member
    cases shape : trim text with
    | nil => simp [shape, toLowerCase] at member
    | cons first rest =>
        have visible := headOk first (by simp [shape])
        apply lowerUnit_visible visible
        rw [shape, toLowerCase, List.flatMap_cons,
          List.head?_append_of_ne_nil _ (lowerUnit_ne_nil _)] at member
        exact List.mem_of_mem_head? member
  · intro last member
    rcases List.eq_nil_or_concat (trim text) with shape | ⟨before, final, shape⟩
    · simp [shape, toLowerCase] at member
    · have visible := lastOk final (by simp [shape])
      apply lowerUnit_visible visible
      rw [shape, List.concat_eq_append, toLowerCase, List.flatMap_append, List.flatMap_singleton,
        List.getLast?_append_of_ne_nil _ (lowerUnit_ne_nil _)] at member
      exact List.mem_of_mem_getLast? member

theorem trim_sublist (text : JsString) : (trim text).Sublist text :=
  (List.rdropWhile_prefix isWhitespace _).sublist.trans
    (List.dropWhile_suffix isWhitespace).sublist

theorem trim_length_le (text : JsString) : (trim text).length ≤ text.length :=
  (trim_sublist text).length_le

/-- A text without white space is trimmed. -/
theorem trim_of_visible {text : JsString} (visible : text.any isWhitespace = false) :
    trim text = text := by
  rw [List.any_eq_false] at visible
  rw [trim_eq_self_iff]
  constructor
  · intro head member
    simpa using visible head (List.mem_of_mem_head? member)
  · intro last member
    simpa using visible last (List.mem_of_mem_getLast? member)

/-- A lower-case form starts with a unit other than `i` only if that unit is the
whole lower-case form of the first one. -/
theorem toLowerCase_eq_cons {text rest : JsString} {unit : CodeUnit} (plain : unit ≠ 105)
    (folded : toLowerCase text = unit :: rest) :
    ∃ first others, text = first :: others ∧ lowerUnit first = [unit] ∧
      toLowerCase others = rest := by
  cases text with
  | nil => cases folded
  | cons first others =>
      have single : lowerUnit first = [unit] ∧ toLowerCase others = rest := by
        rw [toLowerCase, List.flatMap_cons] at folded
        unfold lowerUnit at folded ⊢
        split at folded
        next upper =>
          obtain ⟨rfl, rfl⟩ := List.cons.inj folded
          exact ⟨by simp [upper], rfl⟩
        next notUpper =>
          split at folded
          next kelvin =>
            obtain ⟨rfl, rfl⟩ := List.cons.inj folded
            exact ⟨by simp [notUpper, kelvin], rfl⟩
          next notKelvin =>
            split at folded
            next => exact absurd (List.cons.inj folded).1.symm plain
            next notDotted =>
              obtain ⟨rfl, rfl⟩ := List.cons.inj folded
              exact ⟨by simp [notUpper, notKelvin, notDotted], rfl⟩
      exact ⟨first, others, rfl, single⟩

/-- What one unit is folded to is lower case. -/
theorem lowerUnit_lowerUnit {unit lower : CodeUnit} (folded : lowerUnit unit = [lower]) :
    lowerUnit lower = [lower] := by
  have emitted : lower ∈ lowerUnit unit := by simp [folded]
  exact lowerUnit_emitted emitted

/-- The units outside ASCII whose upper-case form contains an ASCII letter. -/
def upperForms : List (CodeUnit × JsString) :=
  [(0xDF, [83, 83]), (0x131, [73]), (0x149, [0x2BC, 78]), (0x17F, [83]), (0x1F0, [74, 0x30C]),
    (0x1E96, [72, 0x331]), (0x1E97, [84, 0x308]), (0x1E98, [87, 0x30A]), (0x1E99, [89, 0x30A]),
    (0x1E9A, [65, 0x2BE]), (0xFB00, [70, 70]), (0xFB01, [70, 73]), (0xFB02, [70, 76]),
    (0xFB03, [70, 70, 73]), (0xFB04, [70, 70, 76]), (0xFB05, [83, 84]), (0xFB06, [83, 84])]

/-- `String.prototype.toUpperCase` on one code unit. -/
def upperUnit (unit : CodeUnit) : JsString :=
  if 97 ≤ unit.toNat && unit.toNat ≤ 122 then [unit - 32]
  else (upperForms.lookup unit).getD [unit]

/-- `String.prototype.toUpperCase`. -/
def toUpperCase (text : JsString) : JsString := text.flatMap upperUnit

/-! ### Tests and measures -/

/-- `String.prototype.startsWith`. -/
def startsWith (text start : JsString) : Bool := start.isPrefixOf text

/-- `String.prototype.includes`. -/
def includes (text part : JsString) : Bool := text.tails.any part.isPrefixOf

/-- An ASCII digit. -/
def isDigit (unit : CodeUnit) : Bool := 48 ≤ unit.toNat && unit.toNat ≤ 57

/-- The number written by a list of ASCII digits. -/
def digitsValue (text : JsString) : Nat :=
  text.foldl (fun value unit => 10 * value + (unit.toNat - 48)) 0

/-- The double nearest to an integer, ties to even. A magnitude beyond the double
range is kept and stands for an infinity. -/
def nearestDouble (magnitude : Nat) : Nat :=
  if magnitude < 2 ^ 53 then magnitude
  else
    let unit := 2 ^ (magnitude.log2 - 52)
    let quotient := magnitude / unit
    let remainder := magnitude % unit
    if 2 * remainder < unit ∨ (2 * remainder = unit ∧ quotient % 2 = 0) then quotient * unit
    else (quotient + 1) * unit

/-- The integer is within the double range: `Number.isFinite` of its double. -/
def isFiniteInt (value : Int) : Bool := value.natAbs.log2 < 1024

/-- `Number.parseInt(text, 10)`: an optional sign and the longest run of digits
after leading white space; `none` is `NaN`. -/
def parseInt10 (text : JsString) : Option Int :=
  match text.dropWhile isWhitespace with
  | [] => none
  | first :: rest =>
      let unsigned := if first == 45 || first == 43 then rest else first :: rest
      match unsigned.takeWhile isDigit with
      | [] => none
      | digits =>
          let magnitude : Int := nearestDouble (digitsValue digits)
          some (if first == 45 then -magnitude else magnitude)

/-- A leading surrogate. -/
def isHighSurrogate (unit : CodeUnit) : Bool := 0xD800 ≤ unit.toNat && unit.toNat ≤ 0xDBFF

/-- A trailing surrogate. -/
def isLowSurrogate (unit : CodeUnit) : Bool := 0xDC00 ≤ unit.toNat && unit.toNat ≤ 0xDFFF

def isSurrogate (unit : CodeUnit) : Bool := isHighSurrogate unit || isLowSurrogate unit

/-- `String.prototype.toWellFormed`, the text an encoder sees: a lone surrogate
becomes the replacement character. -/
def toWellFormed : JsString → JsString
  | [] => []
  | [unit] => [if isSurrogate unit then 0xFFFD else unit]
  | unit :: next :: rest =>
      if isHighSurrogate unit && isLowSurrogate next then unit :: next :: toWellFormed rest
      else (if isSurrogate unit then 0xFFFD else unit) :: toWellFormed (next :: rest)

/-- Bytes of the UTF-8 encoding; a lone surrogate becomes the three-byte
replacement character. -/
def utf8Length : JsString → Nat
  | [] => 0
  | [unit] => if unit.toNat < 0x80 then 1 else if unit.toNat < 0x800 then 2 else 3
  | unit :: next :: rest =>
      if unit.toNat < 0x80 then 1 + utf8Length (next :: rest)
      else if unit.toNat < 0x800 then 2 + utf8Length (next :: rest)
      else if isHighSurrogate unit && isLowSurrogate next then 4 + utf8Length rest
      else 3 + utf8Length (next :: rest)

/-! ### Well-formed texts -/

/-- A unit that is no surrogate is encoded by itself. -/
theorem toWellFormed_cons {unit : CodeUnit} (plain : isSurrogate unit = false) (rest : JsString) :
    toWellFormed (unit :: rest) = unit :: toWellFormed rest := by
  have notHigh : isHighSurrogate unit = false := by
    simp only [isSurrogate, Bool.or_eq_false_iff] at plain
    exact plain.1
  cases rest with
  | nil => simp [toWellFormed, plain]
  | cons next others => simp [toWellFormed, plain, notHigh]

theorem toWellFormed_append_plain {text : JsString}
    (plain : ∀ unit ∈ text, isSurrogate unit = false) (rest : JsString) :
    toWellFormed (text ++ rest) = text ++ toWellFormed rest := by
  induction text with
  | nil => rfl
  | cons unit others inductionHypothesis =>
      rw [List.cons_append, toWellFormed_cons (plain unit (by simp)),
        inductionHypothesis fun other member => plain other (by simp [member]), List.cons_append]

/-- Encoding splits at a unit that is no surrogate. -/
theorem toWellFormed_append_cons {unit : CodeUnit} (plain : isSurrogate unit = false)
    (rest : JsString) : (text : JsString) →
    toWellFormed (text ++ unit :: rest) = toWellFormed text ++ unit :: toWellFormed rest
  | [] => by
      rw [List.nil_append, toWellFormed_cons plain]
      rfl
  | [last] => by
      have notLow : isLowSurrogate unit = false := by
        simp only [isSurrogate, Bool.or_eq_false_iff] at plain
        exact plain.2
      simp [toWellFormed, notLow, toWellFormed_cons plain]
  | first :: next :: others => by
      have paired := toWellFormed_append_cons plain rest others
      have single := toWellFormed_append_cons plain rest (next :: others)
      simp only [List.cons_append] at paired single ⊢
      simp only [toWellFormed]
      split
      next => rw [paired, List.cons_append, List.cons_append]
      next => rw [single, List.cons_append]

/-- An encoded text starts with a unit other than the replacement character
only if the text does. -/
theorem toWellFormed_eq_cons {text rest : JsString} {unit : CodeUnit}
    (plain : isSurrogate unit = false) (genuine : unit ≠ 0xFFFD)
    (encoded : toWellFormed text = unit :: rest) :
    ∃ others, text = unit :: others ∧ toWellFormed others = rest := by
  have head (first : CodeUnit) (others : JsString)
      (same : (if isSurrogate first then 0xFFFD else first) = unit) : first = unit := by
    split at same
    next => exact absurd same.symm genuine
    next => exact same
  match text with
  | [] => exact absurd encoded (by simp [toWellFormed])
  | [first] =>
      simp only [toWellFormed, List.cons.injEq] at encoded
      obtain rfl := head first [] encoded.1
      exact ⟨[], rfl, encoded.2⟩
  | first :: next :: others =>
      unfold toWellFormed at encoded
      split at encoded
      next paired =>
        obtain rfl := (List.cons.inj encoded).1
        simp only [Bool.and_eq_true] at paired
        simp [isSurrogate, paired.1] at plain
      next =>
        obtain ⟨first_eq, rest_eq⟩ := List.cons.inj encoded
        obtain rfl := head first others first_eq
        exact ⟨next :: others, rfl, rest_eq⟩

/-- Only the empty text is encoded by nothing. -/
theorem eq_nil_of_toWellFormed {text : JsString} (encoded : toWellFormed text = []) :
    text = [] := by
  match text with
  | [] => rfl
  | [unit] => simp [toWellFormed] at encoded
  | unit :: next :: rest =>
      unfold toWellFormed at encoded
      split at encoded <;> cases encoded

/-- An encoded text starts with an ASCII text only if the text does. -/
theorem toWellFormed_eq_append {start text rest : JsString}
    (ascii : ∀ unit ∈ start, unit.toNat < 128) (encoded : toWellFormed text = start ++ rest) :
    ∃ others, text = start ++ others ∧ toWellFormed others = rest := by
  induction start generalizing text with
  | nil => exact ⟨text, rfl, encoded⟩
  | cons unit units inductionHypothesis =>
      have small := ascii unit (by simp)
      have plain : isSurrogate unit = false := by
        simp only [isSurrogate, isHighSurrogate, isLowSurrogate]
        simp
        omega
      have genuine : unit ≠ 0xFFFD := by
        rintro rfl
        exact absurd small (by decide)
      obtain ⟨others, rfl, tail⟩ := toWellFormed_eq_cons plain genuine encoded
      obtain ⟨final, rfl, encodedRest⟩ :=
        inductionHypothesis (fun other member => ascii other (by simp [member])) tail
      exact ⟨final, rfl, encodedRest⟩

end DarkmeshGateway.Foundation.Js
