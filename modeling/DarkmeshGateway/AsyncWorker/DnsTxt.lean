import DarkmeshGateway.Foundation.Js.Text
import DarkmeshGateway.Foundation.Outcome

/-!
Contract: the `_darkmesh` TXT record of a domain.

Owns the splitting of the record into pairs, the checks of the four fields and
the bounds of an accepted envelope.

Does not own the lookup of the record.
-/

namespace DarkmeshGateway.AsyncWorker.DnsTxt

open Foundation.Js
open Foundation.Outcome

/-- `error` of a failed validation. -/
structure ValidationError where
  code : String
  message : JsString
  field : Option JsString
deriving DecidableEq

structure DmTxtEnvelope where
  cfg : JsString
  kid : JsString
  ttl : Int
deriving DecidableEq

/-! ### Patterns -/

/-- `[A-Za-z0-9_-]`. -/
def isIdUnit (unit : CodeUnit) : Bool :=
  let code := unit.toNat
  (65 ≤ code && code ≤ 90) || (97 ≤ code && code ≤ 122) || (48 ≤ code && code ≤ 57) ||
    code == 95 || code == 45

/-- `/^[A-Za-z0-9_-]{low,high}$/`. -/
def idOfLength (low high : Nat) (text : JsString) : Bool :=
  text.all isIdUnit && low ≤ text.length && text.length ≤ high

/-- `CFG_TX_RE` and `KID_RE`. -/
def isTxId (text : JsString) : Bool := idOfLength 32 128 text

def txtKeys : List JsString := [js "v", js "cfg", js "kid", js "ttl"]

def minTtlSeconds : Int := 60

def maxTtlSeconds : Int := 86400

/-! ### Parsing -/

/-- The pairs read so far. -/
abbrev Pairs := List (JsString × JsString)

/-- `text.indexOf('=')` of a text that contains it, and `-1` otherwise. -/
def equalsIndex (text : JsString) : Int :=
  if 61 ∈ text then (text.idxOf 61 : Int) else -1

def parsePairs (result : Pairs) : List JsString → Except ValidationError Pairs
  | [] => .ok result
  | segment :: segments =>
      let trimmed := trim segment
      if trimmed = [] then parsePairs result segments
      else
        let eqIdx := equalsIndex trimmed
        if eqIdx ≤ 0 ∨ eqIdx = trimmed.length - 1 then
          .error ⟨"txt_invalid_pair", js "TXT segment must be key=value.", some (js "txt")⟩
        else
          let key := toLowerCase (trim (trimmed.take eqIdx.toNat))
          let value := trim (trimmed.drop (eqIdx.toNat + 1))
          if !txtKeys.contains key then
            .error ⟨"txt_unknown_key", js "Unsupported TXT key: " ++ key ++ js ".", some key⟩
          else if (result.lookup key).isSome then
            .error ⟨"txt_duplicate_key", js "Duplicate TXT key: " ++ key ++ js ".", some key⟩
          else parsePairs (result ++ [(key, value)]) segments

/-- A field that is present and not empty. -/
def requiredField (pairs : Pairs) (key : JsString) : Except ValidationError JsString :=
  match pairs.lookup key with
  | some (unit :: rest) => .ok (unit :: rest)
  | _ => .error ⟨"txt_missing_field", js "Missing TXT field: " ++ key ++ js ".", some key⟩

/-- The required fields of a record. -/
structure ParsedTxtPairs where
  v : JsString
  cfg : JsString
  kid : JsString
  ttl : JsString

def parseDmTxtPayload (raw : JsString) : Except ValidationError ParsedTxtPairs := do
  let txt := trim raw
  if txt = [] then throw ⟨"txt_empty", js "TXT payload cannot be empty.", some (js "txt")⟩
  let pairs ← parsePairs [] (txt.splitOn 59)
  return {
    v := ← requiredField pairs (js "v")
    cfg := ← requiredField pairs (js "cfg")
    kid := ← requiredField pairs (js "kid")
    ttl := ← requiredField pairs (js "ttl") }

def validateDmTxtEnvelope (parsed : ParsedTxtPairs) : Except ValidationError DmTxtEnvelope := do
  if parsed.v ≠ js "dm1" then
    throw ⟨"txt_invalid_version", js "Unsupported TXT version. Expected dm1.", some (js "v")⟩
  if !isTxId parsed.cfg then
    throw ⟨"txt_invalid_cfg", js "cfg must be a valid Arweave transaction id.", some (js "cfg")⟩
  if !isTxId parsed.kid then
    throw ⟨"txt_invalid_kid", js "kid must be a valid Arweave address format.", some (js "kid")⟩
  if parsed.ttl = [] ∨ !parsed.ttl.all isDigit then
    throw ⟨"txt_invalid_ttl", js "ttl must be an integer in seconds.", some (js "ttl")⟩
  let ttl := (parseInt10 parsed.ttl).getD 0
  if ttl < minTtlSeconds ∨ ttl > maxTtlSeconds then
    throw ⟨"txt_invalid_ttl", js "ttl must be between 60 and 86400 seconds.", some (js "ttl")⟩
  return { cfg := parsed.cfg, kid := parsed.kid, ttl }

def parseAndValidateDmTxtEnvelope (raw : JsString) : Except ValidationError DmTxtEnvelope := do
  let parsed ← parseDmTxtPayload raw
  validateDmTxtEnvelope parsed

end DarkmeshGateway.AsyncWorker.DnsTxt
