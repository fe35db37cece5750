import DarkmeshGateway.Foundation.Js.Json
import DarkmeshGateway.Gateway.Environment

/-!
Contract: the guard against secrets in template payloads.

Owns the suspicious tokens, the allowlists, the walk over a payload and the
paths it reports.

Does not own the locale order in which the reported paths are sorted.
-/

namespace DarkmeshGateway.Gateway.SecretGuard

open Foundation.Js
open Gateway.Environment

def defaultAllowedKeys : List JsString := [js "paymentId", js "provider", js "siteId"]

def suspiciousKeyTokens : List JsString :=
  [js "password", js "secret", js "privatekey", js "apikey", js "token", js "smtp", js "bearer",
    js "signingkey", js "walletjwk"]

def isStrictEnabled (env : Env) : Bool :=
  match readHandlerEnvString env "GATEWAY_TEMPLATE_SECRET_GUARD_STRICT" with
  | none => true
  | some raw => !List.contains [js "0", js "false", js "no", js "off"] (toLowerCase raw)

def readAllowlist (env : Env) : List JsString :=
  splitRefsCsv (readHandlerEnvString env "GATEWAY_TEMPLATE_SECRET_GUARD_ALLOWLIST")

/-- `[a-z0-9]`. -/
def isKeyUnit (unit : CodeUnit) : Bool :=
  let code := unit.toNat
  (97 ≤ code && code ≤ 122) || (48 ≤ code && code ≤ 57)

def normalizeKey (key : JsString) : JsString := (toLowerCase key).filter isKeyUnit

def isSuspiciousKey (key : JsString) : Bool :=
  suspiciousKeyTokens.any fun token => includes (normalizeKey key) token

def isAllowedKey (key : JsString) (envAllowlist : List JsString) : Bool :=
  defaultAllowedKeys.contains key || envAllowlist.contains key

/-- `path ? path + '.' + key : key`. -/
def childPath (path key : JsString) : JsString := if path = [] then key else path ++ 46 :: key

mutual

/-- The paths of the forbidden keys below a value, in the order of the walk. -/
def walkPayload (envAllowlist : List JsString) (path : JsString) : Json → List JsString
  | .arr elements => walkElements envAllowlist path 0 elements
  | .obj fields => walkFields envAllowlist path fields
  | _ => []

def walkElements (envAllowlist : List JsString) (path : JsString) (index : Nat) :
    List Json → List JsString
  | [] => []
  | value :: rest =>
      walkPayload envAllowlist (path ++ 91 :: (decimalDigits index ++ [93])) value ++
        walkElements envAllowlist path (index + 1) rest

def walkFields (envAllowlist : List JsString) (path : JsString) : Fields → List JsString
  | [] => []
  | (key, child) :: rest =>
      (if !isAllowedKey key envAllowlist && isSuspiciousKey key then [childPath path key] else []) ++
        walkPayload envAllowlist (childPath path key) child ++ walkFields envAllowlist path rest

end

/-- The forbidden fields of a payload, each once; none is an accepted payload. -/
def inspectTemplateSecretPayload (env : Env) (payload : Option Json) : List JsString :=
  if !isStrictEnabled env then []
  else (payload.elim [] (walkPayload (readAllowlist env) (js "payload"))).eraseDups

end DarkmeshGateway.Gateway.SecretGuard
