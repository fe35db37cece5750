import DarkmeshGateway.Foundation.Js.Text

/-!
Contract: how the gateway reads its environment variables.

Owns trimmed strings, strict flags, loose booleans, positive integers and
comma-separated lists.

Does not own the meaning of any variable.
-/

namespace DarkmeshGateway.Gateway.Environment

open Foundation.Js

/-- `process.env`. -/
abbrev Env := String → Option JsString

/-- A variable, trimmed; a blank one counts as missing. -/
def readHandlerEnvString (env : Env) (name : String) : Option JsString :=
  let value := trim ((env name).getD [])
  if value = [] then none else some value

def readHandlerStrictEnabledFlag (env : Env) (name : String) : Bool :=
  readHandlerEnvString env name == some (js "1")

/-- `/^[+-]?\d+$/` as a safe integer. -/
def parseEnvInteger (raw : JsString) : Option Int :=
  let (negative, digits) := match raw with
    | 45 :: rest => (true, rest)
    | 43 :: rest => (false, rest)
    | digits => (false, digits)
  if digits ≠ [] ∧ digits.all isDigit = true then
    let magnitude := digitsValue digits
    if magnitude < 2 ^ 53 then some (if negative then -magnitude else magnitude) else none
  else none

/-- A variable that holds a positive integer, else the fallback. -/
def readPositiveIntEnv (env : Env) (name : String) (fallback : Nat) : Nat :=
  match (readHandlerEnvString env name).bind parseEnvInteger with
  | some value => if 0 < value then value.toNat else fallback
  | none => fallback

def splitRefsCsv (raw : Option JsString) : List JsString :=
  ((raw.getD []).splitOn 44).map trim |>.filter (· ≠ [])

def parseLooseBoolean (raw : Option JsString) : Option Bool :=
  let normalized := toLowerCase (trim (raw.getD []))
  if [js "1", js "true", js "yes", js "on"].contains normalized then some true
  else if [js "0", js "false", js "no", js "off"].contains normalized then some false
  else none

def productionLikeModes : List JsString :=
  [js "production", js "prod", js "staging", js "stage", js "preprod", js "pre-production"]

def isProductionLikeMode (env : Env) : Bool :=
  match parseLooseBoolean (readHandlerEnvString env "GATEWAY_PRODUCTION_LIKE") with
  | some explicit => explicit
  | none =>
      let mode := ((readHandlerEnvString env "GATEWAY_MODE").or
        (readHandlerEnvString env "APP_ENV")).or (readHandlerEnvString env "NODE_ENV")
      productionLikeModes.contains (toLowerCase (mode.getD []))

end DarkmeshGateway.Gateway.Environment
