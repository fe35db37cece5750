import DarkmeshGateway.Foundation.Js.Text

/-!
Contract: the UTF-8 bytes of a JavaScript string.

Owns code points, their bytes, that a text is read back from its bytes, and
what an ASCII byte says about the text.

Does not own the replacement of lone surrogates: JSON text carries one as an
escape, and its reader encodes it like any other code point.
-/

namespace DarkmeshGateway.Foundation.Js

/-! ### Code points -/

/-- The code points of a text. A lone surrogate is one of its own. -/
def codePoints : JsString → List Nat
  | [] => []
  | [unit] => [unit.toNat]
  | unit :: next :: rest =>
      if isHighSurrogate unit && isLowSurrogate next then
        (0x10000 + (unit.toNat - 0xD800) * 0x400 + (next.toNat - 0xDC00)) :: codePoints rest
      else unit.toNat :: codePoints (next :: rest)

/-- The code units of a code point. -/
def unitsOf (point : Nat) : JsString :=
  if point < 0x10000 then [UInt16.ofNat point]
  else [UInt16.ofNat (0xD800 + (point - 0x10000) / 0x400),
    UInt16.ofNat (0xDC00 + (point - 0x10000) % 0x400)]

theorem unitsOf_unit (unit : CodeUnit) : unitsOf unit.toNat = [unit] := by
  have small : unit.toNat < 0x10000 := unit.toNat_lt
  rw [unitsOf, if_pos small, UInt16.ofNat_toNat]

theorem unitsOf_pair {unit next : CodeUnit}
    (paired : (isHighSurrogate unit && isLowSurrogate next) = true) :
    unitsOf (0x10000 + (unit.toNat - 0xD800) * 0x400 + (next.toNat - 0xDC00)) = [unit, next] := by
  simp only [isHighSurrogate, isLowSurrogate, Bool.and_eq_true, decide_eq_true_eq] at paired
  have high : 0xD800 + (0x10000 + (unit.toNat - 0xD800) * 0x400 + (next.toNat - 0xDC00) -
      0x10000) / 0x400 = unit.toNat := by omega
  have low : 0xDC00 + (0x10000 + (unit.toNat - 0xD800) * 0x400 + (next.toNat - 0xDC00) -
      0x10000) % 0x400 = next.toNat := by omega
  rw [unitsOf, if_neg (by omega), high, low, UInt16.ofNat_toNat, UInt16.ofNat_toNat]

/-- A text is read back from its code points. -/
theorem codePoints_units (text : JsString) : (codePoints text).flatMap unitsOf = text := by
  induction text using codePoints.induct with
  | case1 => rfl
  | case2 unit => simp [codePoints, unitsOf_unit]
  | case3 unit next rest paired inductionHypothesis =>
      rw [codePoints, if_pos paired, List.flatMap_cons, inductionHypothesis, unitsOf_pair paired]
      rfl
  | case4 unit next rest lone inductionHypothesis =>
      rw [codePoints, if_neg lone, List.flatMap_cons, inductionHypothesis, unitsOf_unit]
      rfl

theorem codePoints_bound {text : JsString} : ∀ point ∈ codePoints text, point < 0x110000 := by
  induction text using codePoints.induct with
  | case1 => simp [codePoints]
  | case2 unit =>
      have small : unit.toNat < 0x10000 := unit.toNat_lt
      simp only [codePoints, List.mem_singleton, forall_eq]
      omega
  | case3 unit next rest paired inductionHypothesis =>
      rw [codePoints, if_pos paired, List.forall_mem_cons]
      simp only [isHighSurrogate, isLowSurrogate, Bool.and_eq_true, decide_eq_true_eq] at paired
      exact ⟨by omega, inductionHypothesis⟩
  | case4 unit next rest lone inductionHypothesis =>
      rw [codePoints, if_neg lone, List.forall_mem_cons]
      have small : unit.toNat < 0x10000 := unit.toNat_lt
      exact ⟨by omega, inductionHypothesis⟩

/-- No pair reaches across a unit that is no surrogate. -/
theorem codePoints_append {unit : CodeUnit} (plain : unit.toNat < 0xD800) (after : JsString)
    (before : JsString) :
    codePoints (before ++ unit :: after) =
      codePoints before ++ unit.toNat :: codePoints after := by
  have notHigh : isHighSurrogate unit = false := by
    simp only [isHighSurrogate, Bool.and_eq_false_iff, decide_eq_false_iff_not]
    omega
  have notLow : isLowSurrogate unit = false := by
    simp only [isLowSurrogate, Bool.and_eq_false_iff, decide_eq_false_iff_not]
    omega
  have front : codePoints (unit :: after) = unit.toNat :: codePoints after := by
    cases after with
    | nil => rfl
    | cons next rest => simp [codePoints, notHigh]
  induction before using codePoints.induct with
  | case1 => exact front
  | case2 first => simp [codePoints, notLow, front]
  | case3 first next rest paired inductionHypothesis =>
      simp only [List.cons_append, codePoints, if_pos paired, inductionHypothesis]
  | case4 first next rest lone inductionHypothesis =>
      simp only [List.cons_append, codePoints, if_neg lone] at inductionHypothesis ⊢
      rw [inductionHypothesis]

/-! ### Bytes -/

/-- The bytes of a code point. -/
def encodePoint (point : Nat) : List UInt8 :=
  if point < 0x80 then [UInt8.ofNat point]
  else if point < 0x800 then [UInt8.ofNat (0xC0 + point / 64), UInt8.ofNat (0x80 + point % 64)]
  else if point < 0x10000 then
    [UInt8.ofNat (0xE0 + point / 4096), UInt8.ofNat (0x80 + point / 64 % 64),
      UInt8.ofNat (0x80 + point % 64)]
  else
    [UInt8.ofNat (0xF0 + point / 262144), UInt8.ofNat (0x80 + point / 4096 % 64),
      UInt8.ofNat (0x80 + point / 64 % 64), UInt8.ofNat (0x80 + point % 64)]

/-- The UTF-8 bytes of a text. -/
def utf8 (text : JsString) : List UInt8 := (codePoints text).flatMap encodePoint

/-- Read one code point. -/
private def decodePoint : List UInt8 → Option (Nat × List UInt8)
  | [] => none
  | first :: rest =>
      if first.toNat < 0x80 then some (first.toNat, rest)
      else if first.toNat < 0xE0 then
        match rest with
        | second :: more => some ((first.toNat - 0xC0) * 64 + (second.toNat - 0x80), more)
        | _ => none
      else if first.toNat < 0xF0 then
        match rest with
        | second :: third :: more =>
            some ((first.toNat - 0xE0) * 4096 + (second.toNat - 0x80) * 64 +
              (third.toNat - 0x80), more)
        | _ => none
      else
        match rest with
        | second :: third :: fourth :: more =>
            some ((first.toNat - 0xF0) * 262144 + (second.toNat - 0x80) * 4096 +
              (third.toNat - 0x80) * 64 + (fourth.toNat - 0x80), more)
        | _ => none

private theorem byte_toNat {value : Nat} (small : value < 256) :
    (UInt8.ofNat value).toNat = value := by
  rw [UInt8.toNat_ofNat']
  exact Nat.mod_eq_of_lt small

private theorem decodePoint_encodePoint {point : Nat} (bound : point < 0x110000)
    (rest : List UInt8) : decodePoint (encodePoint point ++ rest) = some (point, rest) := by
  have tail (value : Nat) : (UInt8.ofNat (0x80 + value % 64)).toNat = 0x80 + value % 64 :=
    byte_toNat (by omega)
  unfold encodePoint
  split
  next ascii =>
    have lead : (UInt8.ofNat point).toNat = point := byte_toNat (by omega)
    simp [decodePoint, lead, ascii]
  next notAscii =>
  split
  next two =>
    have lead : (UInt8.ofNat (0xC0 + point / 64)).toNat = 0xC0 + point / 64 :=
      byte_toNat (by omega)
    simp only [List.cons_append, List.nil_append, decodePoint, lead, tail]
    rw [if_neg (by omega), if_pos (by omega)]
    simp only [Option.some.injEq, Prod.mk.injEq, and_true]
    omega
  next notTwo =>
  split
  next three =>
    have lead : (UInt8.ofNat (0xE0 + point / 4096)).toNat = 0xE0 + point / 4096 :=
      byte_toNat (by omega)
    simp only [List.cons_append, List.nil_append, decodePoint, lead, tail]
    rw [if_neg (by omega), if_neg (by omega), if_pos (by omega)]
    simp only [Option.some.injEq, Prod.mk.injEq, and_true]
    omega
  next notThree =>
    have lead : (UInt8.ofNat (0xF0 + point / 262144)).toNat = 0xF0 + point / 262144 :=
      byte_toNat (by omega)
    simp only [List.cons_append, List.nil_append, decodePoint, lead, tail]
    rw [if_neg (by omega), if_neg (by omega), if_neg (by omega)]
    simp only [Option.some.injEq, Prod.mk.injEq, and_true]
    omega

private theorem encodePoints_injective {left right : List Nat}
    (leftBound : ∀ point ∈ left, point < 0x110000) (rightBound : ∀ point ∈ right, point < 0x110000)
    (same : left.flatMap encodePoint = right.flatMap encodePoint) : left = right := by
  have readFront {point : Nat} (bound : point < 0x110000) (rest : List Nat) :
      decodePoint ((point :: rest).flatMap encodePoint) =
        some (point, rest.flatMap encodePoint) := by
    rw [List.flatMap_cons]
    exact decodePoint_encodePoint bound _
  induction left generalizing right with
  | nil =>
      cases right with
      | nil => rfl
      | cons point rest =>
          have read := readFront (rightBound point List.mem_cons_self) rest
          rw [← same] at read
          simp [decodePoint] at read
  | cons point rest inductionHypothesis =>
      have read := readFront (leftBound point List.mem_cons_self) rest
      cases right with
      | nil =>
          rw [same] at read
          simp [decodePoint] at read
      | cons other others =>
          rw [same, readFront (rightBound other List.mem_cons_self) others, Option.some.injEq,
            Prod.mk.injEq] at read
          have tails := inductionHypothesis
            (fun point member => leftBound point (List.mem_cons_of_mem _ member))
            (fun point member => rightBound point (List.mem_cons_of_mem _ member)) read.2.symm
          rw [read.1, tails]

/-- Different texts have different bytes. -/
theorem utf8_injective : Function.Injective utf8 := by
  intro left right same
  have points := encodePoints_injective codePoints_bound codePoints_bound same
  rw [← codePoints_units left, points, codePoints_units]

theorem utf8_length (text : JsString) : (utf8 text).length = utf8Length text := by
  have width (point : Nat) : (encodePoint point).length =
      if point < 0x80 then 1 else if point < 0x800 then 2 else if point < 0x10000 then 3 else 4 := by
    unfold encodePoint
    split_ifs <;> rfl
  induction text using codePoints.induct with
  | case1 => rfl
  | case2 unit =>
      have small : unit.toNat < 0x10000 := unit.toNat_lt
      simp [utf8, codePoints, utf8Length, width, small]
  | case3 unit next rest paired inductionHypothesis =>
      have high := paired
      simp only [isHighSurrogate, isLowSurrogate, Bool.and_eq_true, decide_eq_true_eq] at high
      rw [utf8, codePoints, if_pos paired, List.flatMap_cons, List.length_append, width,
        if_neg (by omega), if_neg (by omega), if_neg (by omega), utf8Length, if_neg (by omega),
        if_neg (by omega), if_pos paired, ← inductionHypothesis]
      rfl
  | case4 unit next rest lone inductionHypothesis =>
      have small : unit.toNat < 0x10000 := unit.toNat_lt
      rw [utf8, codePoints, if_neg lone, List.flatMap_cons, List.length_append, width, utf8Length,
        if_neg lone, ← inductionHypothesis, if_pos small]
      split_ifs <;> rfl

/-! ### ASCII -/

/-- The byte of an ASCII unit. -/
def asciiByte (unit : CodeUnit) : UInt8 := UInt8.ofNat unit.toNat

theorem asciiByte_toNat {unit : CodeUnit} (ascii : unit.toNat < 0x80) :
    (asciiByte unit).toNat = unit.toNat := byte_toNat (by omega)

theorem utf8_append {unit : CodeUnit} (ascii : unit.toNat < 0x80) (before after : JsString) :
    utf8 (before ++ unit :: after) = utf8 before ++ asciiByte unit :: utf8 after := by
  have single : encodePoint unit.toNat = [asciiByte unit] := by
    rw [encodePoint, if_pos ascii]
    rfl
  rw [utf8, codePoints_append (by omega), List.flatMap_append, List.flatMap_cons, single]
  rfl

@[simp] theorem utf8_nil : utf8 [] = [] := rfl

theorem utf8_cons {unit : CodeUnit} (ascii : unit.toNat < 0x80) (rest : JsString) :
    utf8 (unit :: rest) = asciiByte unit :: utf8 rest := utf8_append ascii [] rest

theorem utf8_eq_nil_iff {text : JsString} : utf8 text = [] ↔ text = [] := by
  constructor
  · intro empty
    exact utf8_injective (empty.trans utf8_nil.symm)
  · intro empty
    rw [empty, utf8_nil]

/-- An ASCII text has one byte for each unit. -/
theorem utf8_ascii {text : JsString} (ascii : ∀ unit ∈ text, unit.toNat < 0x80) :
    utf8 text = text.map asciiByte := by
  induction text with
  | nil => rfl
  | cons unit rest inductionHypothesis =>
      rw [List.forall_mem_cons] at ascii
      rw [utf8_cons ascii.1, inductionHypothesis ascii.2, List.map_cons]

/-- The bytes of a code point outside ASCII are outside ASCII. -/
theorem encodePoint_high {point : Nat} (high : 0x80 ≤ point) (bound : point < 0x110000) :
    ∀ byte ∈ encodePoint point, 0x80 ≤ byte.toNat := by
  have tail (value : Nat) : 0x80 ≤ (UInt8.ofNat (0x80 + value % 64)).toNat := by
    rw [byte_toNat (by omega)]
    omega
  have lead {base value : Nat} (small : base + value < 256) (above : 0x80 ≤ base) :
      0x80 ≤ (UInt8.ofNat (base + value)).toNat := by
    rw [byte_toNat small]
    omega
  unfold encodePoint
  rw [if_neg (by omega)]
  split
  · simp only [List.forall_mem_cons]
    exact ⟨lead (by omega) (by omega), tail _, by simp⟩
  · split
    · simp only [List.forall_mem_cons]
      exact ⟨lead (by omega) (by omega), tail _, tail _, by simp⟩
    · simp only [List.forall_mem_cons]
      exact ⟨lead (by omega) (by omega), tail _, tail _, tail _, by simp⟩

/-- What an ASCII byte of a code point says about the units it stands for. -/
theorem ascii_of_mem_encodePoint {point : Nat} (bound : point < 0x110000) {byte : UInt8}
    (ascii : byte.toNat < 0x80) (member : byte ∈ encodePoint point) : point = byte.toNat := by
  by_cases high : 0x80 ≤ point
  · have above := encodePoint_high high bound byte member
    omega
  · rw [encodePoint, if_pos (by omega), List.mem_singleton] at member
    rw [member, byte_toNat (by omega)]

private theorem unitsOf_ascii {point : Nat} (ascii : point < 0x80) :
    ∃ unit : CodeUnit, unitsOf point = [unit] ∧ unit.toNat = point := by
  refine ⟨UInt16.ofNat point, by rw [unitsOf, if_pos (by omega)], ?_⟩
  rw [UInt16.toNat_ofNat']
  exact Nat.mod_eq_of_lt (by omega)

/-- An ASCII code point is a unit of the text. -/
theorem unit_of_mem_codePoints {text : JsString} {point : Nat} (ascii : point < 0x80)
    (member : point ∈ codePoints text) : ∃ unit ∈ text, unit.toNat = point := by
  obtain ⟨unit, single, value⟩ := unitsOf_ascii ascii
  refine ⟨unit, ?_, value⟩
  rw [← codePoints_units text, List.mem_flatMap]
  exact ⟨point, member, single ▸ List.mem_singleton_self unit⟩

/-- The ASCII bytes of a text are those of its ASCII units. -/
theorem mem_utf8_iff {text : JsString} {byte : UInt8} (ascii : byte.toNat < 0x80) :
    byte ∈ utf8 text ↔ ∃ unit ∈ text, unit.toNat = byte.toNat := by
  constructor
  · intro member
    obtain ⟨point, listed, encoded⟩ := List.mem_flatMap.mp member
    have same := ascii_of_mem_encodePoint (codePoints_bound point listed) ascii encoded
    rw [← same] at ascii ⊢
    exact unit_of_mem_codePoints ascii listed
  · rintro ⟨unit, member, same⟩
    obtain ⟨before, after, rfl⟩ := List.append_of_mem member
    have encoded : asciiByte unit = byte := by
      rw [asciiByte, same, UInt8.ofNat_toNat]
    rw [utf8_append (by omega), encoded]
    exact List.mem_append_right _ List.mem_cons_self

private theorem takeWhile_ne_of_not_mem {α : Type} [DecidableEq α] {stop : α} {front : List α}
    (free : stop ∉ front) : front.takeWhile (· ≠ stop) = front := by
  rw [List.takeWhile_eq_self_iff]
  intro item member
  have different : item ≠ stop := fun same => free (same ▸ member)
  exact decide_eq_true different

private theorem takeWhile_ne_append {α : Type} [DecidableEq α] {stop : α} {front : List α}
    (free : stop ∉ front) (rest : List α) :
    (front ++ stop :: rest).takeWhile (· ≠ stop) = front := by
  rw [List.takeWhile_append, takeWhile_ne_of_not_mem free]
  simp

/-- Cutting a text at an ASCII unit cuts its bytes there. -/
theorem utf8_takeWhile {unit : CodeUnit} (ascii : unit.toNat < 0x80) (text : JsString) :
    (utf8 text).takeWhile (· ≠ asciiByte unit) = utf8 (text.takeWhile (· ≠ unit)) := by
  have low : (asciiByte unit).toNat < 0x80 := by rwa [asciiByte_toNat ascii]
  have absent {front : JsString} (free : unit ∉ front) : asciiByte unit ∉ utf8 front := by
    rw [mem_utf8_iff low, asciiByte_toNat ascii]
    rintro ⟨other, member, same⟩
    exact free (UInt16.toNat_inj.mp same ▸ member)
  by_cases member : unit ∈ text
  · obtain ⟨before, after, rfl, free⟩ := List.eq_append_cons_of_mem member
    rw [utf8_append ascii, takeWhile_ne_append (absent free), takeWhile_ne_append free]
  · rw [takeWhile_ne_of_not_mem (absent member), takeWhile_ne_of_not_mem member]

private theorem encodePoint_ne_nil (point : Nat) : encodePoint point ≠ [] := by
  unfold encodePoint
  split_ifs <;> simp

/-- An ASCII byte in front is the first unit. -/
theorem utf8_head {text : JsString} {byte : UInt8} (ascii : byte.toNat < 0x80)
    (first : byte ∈ (utf8 text).head?) : ∃ unit ∈ text.head?, unit.toNat = byte.toNat := by
  have units := codePoints_units text
  have bounds : ∀ point ∈ codePoints text, point < 0x110000 := codePoints_bound
  rw [utf8] at first
  cases points : codePoints text with
  | nil => simp [points] at first
  | cons point others =>
      rw [points, List.flatMap_cons] at first units
      rw [List.head?_append_of_ne_nil _ (encodePoint_ne_nil point)] at first
      have same := ascii_of_mem_encodePoint (bounds point (points ▸ List.mem_cons_self)) ascii
        (List.mem_of_mem_head? first)
      obtain ⟨unit, single, value⟩ := unitsOf_ascii (same ▸ ascii)
      rw [← units, single]
      exact ⟨unit, rfl, value.trans same⟩

/-- An ASCII byte at the end is the last unit. -/
theorem utf8_last {text : JsString} {byte : UInt8} (ascii : byte.toNat < 0x80)
    (last : byte ∈ (utf8 text).getLast?) : ∃ unit ∈ text.getLast?, unit.toNat = byte.toNat := by
  have units := codePoints_units text
  have bounds : ∀ point ∈ codePoints text, point < 0x110000 := codePoints_bound
  rw [utf8] at last
  rcases List.eq_nil_or_concat (codePoints text) with points | ⟨front, point, points⟩
  · simp [points] at last
  · rw [points, List.concat_eq_append, List.flatMap_append, List.flatMap_singleton] at last units
    rw [List.getLast?_append_of_ne_nil _ (encodePoint_ne_nil point)] at last
    have same := ascii_of_mem_encodePoint (bounds point (by simp [points])) ascii
      (List.mem_of_mem_getLast? last)
    obtain ⟨unit, single, value⟩ := unitsOf_ascii (same ▸ ascii)
    rw [← units, single]
    exact ⟨unit, by simp, value.trans same⟩

end DarkmeshGateway.Foundation.Js
