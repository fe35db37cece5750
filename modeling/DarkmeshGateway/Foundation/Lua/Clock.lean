import DarkmeshGateway.Foundation.Lua.Value

/-!
Contract: Lua's calendar form of a time.

Owns `os.date("!%Y-%m-%dT%H:%M:%SZ", epoch)` on the proleptic Gregorian calendar.
-/

namespace DarkmeshGateway.Foundation.Lua

/-- Year, month and day of a day number counted from 1970-01-01. The count is
taken over eras of 400 years that begin on the first of March. -/
def civilDate (days : Int) : Int × Int × Int :=
  let shifted := days + 719468
  let era := shifted / 146097
  let dayOfEra := shifted % 146097
  let yearOfEra := (dayOfEra - dayOfEra / 1460 + dayOfEra / 36524 - dayOfEra / 146096) / 365
  let dayOfYear := dayOfEra - (365 * yearOfEra + yearOfEra / 4 - yearOfEra / 100)
  let marchMonth := (5 * dayOfYear + 2) / 153
  let day := dayOfYear - (153 * marchMonth + 2) / 5 + 1
  let month := if marchMonth < 10 then marchMonth + 3 else marchMonth - 9
  (yearOfEra + era * 400 + (if month ≤ 2 then 1 else 0), month, day)

/-- `%02d` -/
def twoDigits (value : Int) : LuaString :=
  [UInt8.ofNat (48 + (value / 10).toNat), UInt8.ofNat (48 + (value % 10).toNat)]

/-- `%d` -/
def integerText (value : Int) : LuaString :=
  let digits := (Nat.toDigits 10 value.natAbs).map fun digit => UInt8.ofNat digit.toNat
  if value < 0 then 45 :: digits else digits

/-- `os.date("!%Y-%m-%dT%H:%M:%SZ", epoch)` -/
def isoTime (epoch : Int) : LuaString :=
  let (year, month, day) := civilDate (epoch / 86400)
  let second := epoch % 86400
  integerText year ++ lua "-" ++ twoDigits month ++ lua "-" ++ twoDigits day ++ lua "T" ++
    twoDigits (second / 3600) ++ lua ":" ++ twoDigits (second / 60 % 60) ++ lua ":" ++
    twoDigits (second % 60) ++ lua "Z"

example : isoTime 1777000000 = lua "2026-04-24T03:06:40Z" := by decide

end DarkmeshGateway.Foundation.Lua
