import DarkmeshGateway.Foundation.Js.Double
import DarkmeshGateway.Foundation.Js.Stringify

/-!
Contract: bytes written as base64 or hexadecimal text.

Owns the forgiving decoding of `atob`, the hexadecimal buffers, and that bytes
written in hexadecimal are read back.
-/

namespace DarkmeshGateway.Foundation.Js

/-- The value of a base64 digit. -/
def sextet (unit : CodeUnit) : Option Nat :=
  let code := unit.toNat
  if 65 ≤ code ∧ code ≤ 90 then some (code - 65)
  else if 97 ≤ code ∧ code ≤ 122 then some (code - 71)
  else if 48 ≤ code ∧ code ≤ 57 then some (code + 4)
  else if code = 43 then some 62
  else if code = 47 then some 63
  else none

/-- Four digits make three bytes; the bits left over at the end are dropped. -/
def sextetBytes : List Nat → List UInt8
  | first :: second :: third :: fourth :: rest =>
      UInt8.ofNat (first * 4 + second / 16) :: UInt8.ofNat (second % 16 * 16 + third / 4) ::
        UInt8.ofNat (third % 4 * 64 + fourth) :: sextetBytes rest
  | [first, second, third] =>
      [UInt8.ofNat (first * 4 + second / 16), UInt8.ofNat (second % 16 * 16 + third / 4)]
  | [first, second] => [UInt8.ofNat (first * 4 + second / 16)]
  | _ => []

/-- ASCII white space, which `atob` removes. -/
def isAsciiWhitespace (unit : CodeUnit) : Bool :=
  unit == 9 || unit == 10 || unit == 12 || unit == 13 || unit == 32

/-- At most two final `=` of a text whose length is a multiple of four. -/
def dropPadding (text : JsString) : JsString :=
  if text.length % 4 ≠ 0 then text
  else if text.getLast? ≠ some 61 then text
  else if text.dropLast.getLast? ≠ some 61 then text.dropLast
  else text.dropLast.dropLast

/-- `atob`, as bytes; `none` is an `InvalidCharacterError`. -/
def atob (text : JsString) : Option (List UInt8) :=
  let data := dropPadding (text.filter fun unit => !isAsciiWhitespace unit)
  if data.length % 4 = 1 then none else (data.mapM sextet).map sextetBytes

/-- `Buffer.from(text, 'hex')`: the leading pairs of hexadecimal digits. -/
def hexBuffer : JsString → List Nat
  | high :: low :: rest =>
      match digitIn 16 high, digitIn 16 low with
      | some highValue, some lowValue => (16 * highValue + lowValue) :: hexBuffer rest
      | _, _ => []
  | _ => []

/-! ### Hexadecimal round trip -/

/-- `Buffer.from(bytes).toString('hex')`. -/
def bytesHex (bytes : List Nat) : JsString :=
  bytes.flatMap fun byte => [hexDigit (byte / 16), hexDigit (byte % 16)]

@[simp] theorem bytesHex_nil : bytesHex [] = [] := rfl

@[simp] theorem bytesHex_cons (byte : Nat) (rest : List Nat) :
    bytesHex (byte :: rest) = hexDigit (byte / 16) :: hexDigit (byte % 16) :: bytesHex rest := rfl

theorem digitIn_hexDigit {value : Nat} (small : value < 16) :
    digitIn 16 (hexDigit value) = some value := by
  interval_cases value <;> decide

@[simp] theorem bytesHex_length (bytes : List Nat) :
    (bytesHex bytes).length = bytes.length * 2 := by
  induction bytes with
  | nil => rfl
  | cons byte rest inductionHypothesis =>
      rw [bytesHex_cons, List.length_cons, List.length_cons, inductionHypothesis, List.length_cons]
      omega

/-- Bytes are written with hexadecimal digits. -/
theorem bytesHex_digits {bytes : List Nat} (small : ∀ byte ∈ bytes, byte < 256) :
    ∀ unit ∈ bytesHex bytes, (digitIn 16 unit).isSome = true := by
  induction bytes with
  | nil => simp
  | cons byte rest inductionHypothesis =>
      rw [List.forall_mem_cons] at small
      rw [bytesHex_cons, List.forall_mem_cons, List.forall_mem_cons]
      have high : byte / 16 < 16 := by omega
      have low : byte % 16 < 16 := Nat.mod_lt _ (by decide)
      rw [digitIn_hexDigit high, digitIn_hexDigit low]
      exact ⟨rfl, rfl, inductionHypothesis small.2⟩

/-- Bytes written in hexadecimal are read back. -/
theorem hexBuffer_bytesHex {bytes : List Nat} (small : ∀ byte ∈ bytes, byte < 256) :
    hexBuffer (bytesHex bytes) = bytes := by
  induction bytes with
  | nil => rfl
  | cons byte rest inductionHypothesis =>
      rw [List.forall_mem_cons] at small
      have high : byte / 16 < 16 := by omega
      have low : byte % 16 < 16 := Nat.mod_lt _ (by decide)
      have halves : 16 * (byte / 16) + byte % 16 = byte := Nat.div_add_mod byte 16
      rw [bytesHex_cons, hexBuffer, digitIn_hexDigit high, digitIn_hexDigit low]
      simp only [halves, inductionHypothesis small.2]

end DarkmeshGateway.Foundation.Js
