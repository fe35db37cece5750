import Mathlib.Data.List.DropRight
import Mathlib.Data.Rat.Defs

/-!
Contract: Lua strings and plain data values.

Owns byte strings with the character classes of the C locale, trimming and case
folding, values without functions or metatables, truthiness, and the sequence
part of a table.

Does not own `tostring` or `tonumber`, nor the order in which `pairs` visits a
table: a table lists its entries in that order.
-/

namespace DarkmeshGateway.Foundation.Lua

/-! ### Strings -/

/-- A Lua string. -/
abbrev LuaString := List UInt8

/-- A string literal of ASCII characters. -/
def lua (literal : String) : LuaString :=
  literal.toList.map fun character => UInt8.ofNat character.toNat

/-- `%s` -/
def isSpace (byte : UInt8) : Bool := (9 ≤ byte && byte ≤ 13) || byte == 32

/-- `%d` -/
def isDigit (byte : UInt8) : Bool := 48 ≤ byte && byte ≤ 57

/-- `%u` -/
def isUpper (byte : UInt8) : Bool := 65 ≤ byte && byte ≤ 90

/-- `%l` -/
def isLower (byte : UInt8) : Bool := 97 ≤ byte && byte ≤ 122

/-- `string.lower` -/
def lower (text : LuaString) : LuaString :=
  text.map fun byte => if isUpper byte then byte + 32 else byte

/-- `string.upper` -/
def upper (text : LuaString) : LuaString :=
  text.map fun byte => if isLower byte then byte - 32 else byte

/-- `text:gsub("^%s+", ""):gsub("%s+$", "")` -/
def trim (text : LuaString) : LuaString :=
  (text.dropWhile isSpace).rdropWhile isSpace

/-- `text:find(part, 1, true) ~= nil` -/
def containsPlain (text part : LuaString) : Bool := text.tails.any part.isPrefixOf

/-- `text:sub(1, #start) == start` -/
def startsWith (text start : LuaString) : Bool := start.isPrefixOf text

/-- `table.concat(parts, "|")` -/
def concatBar (parts : List LuaString) : LuaString := List.intercalate [124] parts

/-! ### Values -/

/-- A number; infinities and NaN are not told apart. -/
inductive Number where
  | integer (value : Int)
  | float (value : Rat)
  | nonFinite
deriving DecidableEq

/-- The integer a number is equal to: `value % 1 == 0`. -/
def Number.integral : Number → Option Int
  | .integer value => some value
  | .float value => if value.den = 1 then some value.num else none
  | .nonFinite => none

/-- A table key. A float key equal to an integer is that integer. -/
inductive Key where
  | bool (value : Bool)
  | num (value : Number)
  | str (text : LuaString)
deriving DecidableEq

/-- A value other than `nil`. A table lists its entries in the order of `pairs`. -/
inductive Value where
  | bool (value : Bool)
  | num (value : Number)
  | str (text : LuaString)
  | table (entries : List (Key × Value))

/-- The entries of a table. -/
abbrev Entries := List (Key × Value)

def Key.value : Key → Value
  | .bool value => .bool value
  | .num value => .num value
  | .str text => .str text

/-- `table[name]`, `none` for `nil`. -/
def field (entries : Entries) (name : String) : Option Value :=
  entries.lookup (.str (lua name))

/-- `nil` and `false` are falsy. -/
def truthy : Option Value → Bool
  | none => false
  | some (.bool false) => false
  | some _ => true

/-- `first or second or …`: the first truthy operand, else the last one. -/
def firstOf : List (Option Value) → Option Value
  | [] => none
  | [last] => last
  | operand :: rest => if truthy operand then operand else firstOf rest

/-- `table[first] or table[second] or …` -/
def anyField (entries : Entries) (names : List String) : Option Value :=
  firstOf (names.map (field entries))

/-- The values at `index`, `index + 1`, … up to the first `nil`. -/
def sequenceFrom (entries : Entries) : Nat → Int → List Value
  | 0, _ => []
  | fuel + 1, index =>
      match entries.lookup (.num (.integer index)) with
      | none => []
      | some value => value :: sequenceFrom entries fuel (index + 1)

/-- The values `ipairs` visits. -/
def sequence (entries : Entries) : List Value := sequenceFrom entries entries.length 1

end DarkmeshGateway.Foundation.Lua
