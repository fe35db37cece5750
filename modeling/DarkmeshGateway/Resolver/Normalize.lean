import DarkmeshGateway.Foundation.Lua.Clock
import DarkmeshGateway.Foundation.OrderedMap
import DarkmeshGateway.Foundation.Outcome

/-!
Contract: how the resolver normalises names and policy tables.

Owns hosts, paths, methods and identifiers, the four policy tables of a bundle
and the host-to-process check over them.

Does not own `ao.shared.validation`, which is not part of this repository: its
checks are operations of the platform.
-/

namespace DarkmeshGateway.Resolver.Normalize

open Foundation
open Foundation.Lua

/-- What the resolver is given: conversions, the shared validation, the order in
which `table.sort` leaves survivors of one expiry, and its limits. -/
structure Platform where
  tostring : Value → LuaString
  tonumber : Value → Option Number
  checkLength : Value → Nat → LuaString → Except LuaString Unit
  requireFields : Entries → List String → List LuaString
  requireNoExtras : Entries → List String → List Key
  sortByExpiry : List (LuaString × Int) → List (LuaString × Int) :=
    fun survivors => survivors.mergeSort fun left right => left.2 ≤ right.2
  maxHostBytes : Nat := 253
  maxPathBytes : Nat := 2048
  maxMethodBytes : Nat := 16
  maxCacheEntries : Nat := 20000

/-- `tostring` on booleans, integers and strings. -/
def fixtureText : Value → LuaString
  | .str text => text
  | .bool true => lua "true"
  | .bool false => lua "false"
  | .num (.integer value) => integerText value
  | .num _ => lua "nan"
  | .table _ => lua "table: 0x5581f0c0de00"

/-- The shared validation as the fixture runner stubs it. -/
def fixturePlatform : Platform where
  tostring := fixtureText
  tonumber
    | .num number => some number
    | _ => none
  checkLength value limit name :=
    if limit < (fixtureText value).length then .error (lua "too_long:" ++ name) else .ok ()
  requireFields msg names := (names.filter fun name =>
    ((field msg name).map fixtureText).getD [] == []).map lua
  requireNoExtras msg allowed :=
    (msg.map Prod.fst).filter fun key => !(allowed.map fun name => Key.str (lua name)).contains key

def invalidType {α : Type} (field : LuaString) : Except LuaString α :=
  .error (lua "invalid_type:" ++ field)

def invalidFormat {α : Type} (field : LuaString) : Except LuaString α :=
  .error (lua "invalid_format:" ++ field)

/-! ### Hosts -/

/-- The host without a single `:<port>` suffix. -/
def stripPort (host : LuaString) : LuaString :=
  let name := host.takeWhile (· ≠ 58)
  match host.dropWhile (· ≠ 58) with
  | _ :: port => if name ≠ [] ∧ port ≠ [] ∧ port.all isDigit = true then name else host
  | [] => host

/-- `host:gsub("%.$", "")` -/
def stripTrailingDot (host : LuaString) : LuaString :=
  if host.getLast? = some 46 then host.dropLast else host

/-- `[a-z0-9%.%-]` -/
def isHostByte (byte : UInt8) : Bool := isLower byte || isDigit byte || byte == 46 || byte == 45

/-- `[/%?#@%[%] ]` -/
def isForbiddenByte (byte : UInt8) : Bool := (lua "/?#@[] ").contains byte

def labelOk (label : LuaString) : Bool :=
  label.length ≤ 63 && label.head? != some 45 && label.getLast? != some 45

/-- The checks on a lower-case host. The plain search is for the text of the
pattern, which no host contains. -/
def hostOk (host : LuaString) : Bool :=
  host != [] && !containsPlain host (lua "%.%.") && !host.any isForbiddenByte &&
    host.all isHostByte && ((host.splitOn 46).filter (· ≠ [])).all labelOk

def normalizeHost (platform : Platform) (rawHost : Value) (field : LuaString) :
    Except LuaString LuaString :=
  match rawHost with
  | .str text =>
      if trim text = [] then invalidFormat field
      else
        let host := stripTrailingDot (lower (stripPort (trim text)))
        match platform.checkLength (.str host) platform.maxHostBytes field with
        | .error failure => .error failure
        | .ok _ => if hostOk host then .ok host else invalidFormat field
  | _ => invalidType field

/-- A normalised host consists of lower-case letters, digits, dots and hyphens. -/
theorem normalizeHost_bytes {platform : Platform} {rawHost : Value} {field host : LuaString}
    (normalized : normalizeHost platform rawHost field = .ok host) :
    ∀ byte ∈ host, isHostByte byte = true := by
  unfold normalizeHost at normalized
  split at normalized
  · split at normalized
    · simp [invalidFormat] at normalized
    · dsimp only at normalized
      split at normalized
      · simp at normalized
      · split at normalized
        · next ok =>
            have same := Except.ok.inj normalized
            rw [same] at ok
            simp only [hostOk, Bool.and_eq_true, List.all_eq_true] at ok
            exact ok.1.2
        · simp [invalidFormat] at normalized
  · simp [invalidType] at normalized

/-! ### Identifiers, paths and methods -/

/-- `[A-Za-z0-9_-]` -/
def isIdentifierByte (byte : UInt8) : Bool :=
  isLower byte || isUpper byte || isDigit byte || byte == 95 || byte == 45

def normalizeProcessIdentifier (platform : Platform) (rawValue : Option Value)
    (field : LuaString) : Except LuaString (Option LuaString) := do
  let value := trim ((rawValue.map platform.tostring).getD [])
  if value = [] then return none
  platform.checkLength (.str value) 128 field
  if value.length < 20 ∨ value.all isIdentifierByte = false then invalidFormat field
  return some value

/-- The path up to its query and fragment, with a leading slash. -/
def pathPart (text : LuaString) : LuaString :=
  let path := trim text
  let rooted := if path.head? = some 47 then path else 47 :: path
  (rooted.takeWhile (· ≠ 63)).takeWhile (· ≠ 35)

def normalizePath (platform : Platform) (rawPath : Value) (field : LuaString) :
    Except LuaString LuaString :=
  match rawPath with
  | .str text => do
      let path := pathPart text
      platform.checkLength (.str path) platform.maxPathBytes field
      if path.any isSpace then invalidFormat field
      return path
  | _ => invalidType field

def normalizeMethod (platform : Platform) (rawMethod : Value) (field : LuaString) :
    Except LuaString LuaString :=
  match rawMethod with
  | .str text =>
      let method := upper (trim text)
      if method = [] then invalidFormat field
      else match platform.checkLength (.str method) platform.maxMethodBytes field with
        | .error failure => .error failure
        | .ok _ => if method.all isUpper then .ok method else invalidFormat field
  | _ => invalidType field

/-- A normalised method consists of capital letters. -/
theorem normalizeMethod_bytes {platform : Platform} {rawMethod : Value} {field method : LuaString}
    (normalized : normalizeMethod platform rawMethod field = .ok method) :
    ∀ byte ∈ method, isUpper byte = true := by
  unfold normalizeMethod at normalized
  split at normalized
  · dsimp only at normalized
    split at normalized
    · simp [invalidFormat] at normalized
    · split at normalized
      · simp at normalized
      · split at normalized
        · next ok =>
            have same := Except.ok.inj normalized
            rw [same] at ok
            exact List.all_eq_true.mp ok
        · simp [invalidFormat] at normalized
  · simp [invalidType] at normalized

def normalizeSiteId (platform : Platform) (rawSiteId : Value) (field : LuaString) :
    Except LuaString LuaString :=
  match rawSiteId with
  | .str text => do
      let siteId := trim text
      if siteId = [] then invalidFormat field
      platform.checkLength (.str siteId) 128 field
      return siteId
  | _ => invalidType field

end DarkmeshGateway.Resolver.Normalize
