import DarkmeshGateway.Foundation.Js.Base64
import DarkmeshGateway.Foundation.Js.Double
import DarkmeshGateway.Gateway.CanonicalJson
import DarkmeshGateway.Gateway.Environment

/-!
Contract: integrity checkpoints, signed copies of a snapshot in a file.

Owns the environment of a checkpoint, its envelope, the text its signature
covers, writing, and the checks of reading.

Does not own the file system: a read is given what its file holds.
-/

namespace DarkmeshGateway.Gateway.IntegrityCheckpoint

open Foundation.Js
open Gateway.CanonicalJson
open Gateway.Environment

/-- What the platform computes: `JSON.parse` with the message of its
`SyntaxError`, and the hexadecimal HMAC-SHA256 of a text under a key. -/
structure Platform where
  parseJson : JsString → Except JsString Json
  hmacSha256 : JsString → JsString → JsString

inductive IntegrityCheckpointErrorCode where
  | secretMissing
  | invalid
deriving DecidableEq

structure IntegrityCheckpointError where
  code : IntegrityCheckpointErrorCode
  message : JsString

/-- What a checkpoint function throws. -/
inductive Failure where
  | checkpoint (error : IntegrityCheckpointError)
  | canonicalJson (error : CanonicalJsonError)

/-! ### Environment -/

def readCheckpointEnvString (env : Env) (name : String) : Option JsString :=
  readHandlerEnvString env name

def isDisklessCheckpointMode (env : Env) : Bool :=
  readCheckpointEnvString env "GATEWAY_INTEGRITY_DISKLESS" == some (js "1") ||
    let rawMode := toLowerCase
      ((readCheckpointEnvString env "GATEWAY_INTEGRITY_CHECKPOINT_MODE").getD [])
    [js "disabled", js "diskless", js "memory-only"].contains rawMode

/-- An argument, or a variable for a missing or empty one; a blank text is none. -/
def argumentOrEnv (env : Env) (argument : Option JsString) (name : String) : Option JsString :=
  ((argument.filter (· ≠ [])).or (readCheckpointEnvString env name)).filter (trim · ≠ [])

def resolvePath (env : Env) (path : Option JsString) : Option JsString :=
  argumentOrEnv env path "GATEWAY_INTEGRITY_CHECKPOINT_PATH"

def resolveSecret (env : Env) (secret : Option JsString) : Option JsString :=
  argumentOrEnv env secret "GATEWAY_INTEGRITY_CHECKPOINT_SECRET"

/-- The maximum age: `undefined`, a positive safe integer, or `null`. -/
inductive MaxAge where
  | unset
  | seconds (value : Int)
  | invalid
deriving DecidableEq

def resolveMaxAgeSeconds (env : Env) : MaxAge :=
  match readCheckpointEnvString env "GATEWAY_INTEGRITY_CHECKPOINT_MAX_AGE_SECONDS" with
  | none => .unset
  | some raw =>
      match parseEnvInteger raw with
      | none => .invalid
      | some value => if value ≤ 0 then .invalid else .seconds value

/-- `maxAgeSeconds * 1000`, where `undefined` makes `NaN`. -/
def MaxAge.milliseconds : MaxAge → Double
  | .seconds value => .ofRat (value * 1000)
  | _ => .nan

/-! ### Envelopes -/

/-- A parsed envelope; its algorithm is `hmac-sha256`. -/
structure IntegrityCheckpointEnvelope where
  payload : Fields
  signature : JsString
  metadata : Option Fields

def algorithm : Json := .str (js "hmac-sha256")

def isAlgorithm : Option Json → Bool
  | some (.str name) => name == js "hmac-sha256"
  | _ => false

/-- `{ algorithm, payload, metadata }`. -/
def envelopeBody (payload metadata : Fields) : Fields :=
  [(js "algorithm", algorithm), (js "payload", .obj payload), (js "metadata", .obj metadata)]

/-- A non-negative integer. -/
def isTimestamp : Json → Bool
  | .num (.finite decimal) => decimal.isInteger && (!decimal.negative || decimal.coefficient == 0)
  | _ => false

/-- `left < right` of two timestamps. -/
def timestampBefore : Json → Json → Bool
  | .num left, .num right => left.toDouble.lt right.toDouble
  | _, _ => false

def isValidCheckpointMetadata : Json → Bool
  | .obj fields =>
      let keysKnown := fields.all fun field =>
        field.1 == js "writtenAt" || field.1 == js "expiresAt"
      match Fields.get fields (js "writtenAt") with
      | none => false
      | some writtenAt =>
          keysKnown && isTimestamp writtenAt &&
            match Fields.get fields (js "expiresAt") with
            | none => true
            | some expiresAt => isTimestamp expiresAt && !timestampBefore expiresAt writtenAt
  | _ => false

def signEnvelopeBody (platform : Platform) (payload metadata : Fields) (secret : JsString) :
    Except CanonicalJsonError JsString := do
  let text ← canonicalizeJson (.obj (envelopeBody payload metadata))
  return platform.hmacSha256 secret text

def signLegacyPayload (platform : Platform) (payload : Fields) (secret : JsString) :
    Except CanonicalJsonError JsString := do
  let text ← canonicalizeJson (.obj payload)
  return platform.hmacSha256 secret text

def safeHexCompare (left right : JsString) : Bool :=
  left.length == right.length && hexBuffer left == hexBuffer right

def checkpointInvalid {α : Type} (message : JsString) : Except IntegrityCheckpointError α :=
  .error { code := .invalid, message }

/-- `parsed.payload` of an envelope, which must be an object. -/
def envelopePayload (parsed : Fields) : Except IntegrityCheckpointError Fields :=
  match asRecord (parsed.get (js "payload")) with
  | none => checkpointInvalid (js "checkpoint payload must be an object")
  | some payload => .ok payload

/-- `parsed.signature` of an envelope, a string that is not blank. -/
def envelopeSignature (parsed : Fields) : Except IntegrityCheckpointError JsString :=
  match parsed.get (js "signature") with
  | some (.str signature) =>
      if trim signature = [] then checkpointInvalid (js "checkpoint signature is required")
      else .ok signature
  | _ => checkpointInvalid (js "checkpoint signature is required")

/-- `parsed.metadata` of an envelope, absent or valid. -/
def envelopeMetadata (parsed : Fields) : Except IntegrityCheckpointError (Option Fields) :=
  match parsed.get (js "metadata") with
  | none => .ok none
  | some metadata =>
      if isValidCheckpointMetadata metadata then .ok (asRecord (some metadata))
      else checkpointInvalid (js "checkpoint metadata is invalid")

def allowedKeys : List JsString :=
  [js "algorithm", js "payload", js "signature", js "metadata"]

def parseEnvelope (platform : Platform) (raw : JsString) :
    Except IntegrityCheckpointError IntegrityCheckpointEnvelope := do
  match platform.parseJson raw with
  | .error message => checkpointInvalid message
  | .ok (.obj parsed) =>
      if parsed.any fun field => !allowedKeys.contains field.1 then
        checkpointInvalid (js "checkpoint contains unsupported fields")
      if !isAlgorithm (Fields.get parsed (js "algorithm")) then
        checkpointInvalid (js "unsupported checkpoint algorithm")
      let payload ← envelopePayload parsed
      let signature ← envelopeSignature parsed
      let metadata ← envelopeMetadata parsed
      return { payload, signature, metadata }
  | .ok _ => checkpointInvalid (js "checkpoint must be a JSON object")

/-! ### Writing -/

/-- A call of `writeIntegrityCheckpoint` at `now` in milliseconds. -/
structure WriteCall where
  env : Env
  snapshot : Fields
  path : Option JsString := none
  secret : Option JsString := none
  now : Nat

structure WrittenFile where
  path : JsString
  content : JsString
deriving DecidableEq

def secretMissing {α : Type} : Except Failure α :=
  .error (.checkpoint
    { code := .secretMissing, message := js "GATEWAY_INTEGRITY_CHECKPOINT_SECRET is required" })

/-- `now + maxAgeSeconds * 1000`. -/
def expiryNumber (now : Nat) (maxAge : MaxAge) : Number :=
  ((Double.finite now).add maxAge.milliseconds).toNumber

def checkpointMetadata (env : Env) (now : Nat) : Fields :=
  let writtenAt := (js "writtenAt", Json.num (.ofInt now))
  match resolveMaxAgeSeconds env with
  | .seconds value => [writtenAt, (js "expiresAt", .num (expiryNumber now (.seconds value)))]
  | _ => [writtenAt]

/-- `{ payload, signature, algorithm, metadata }`. -/
def envelopeFields (payload : Fields) (signature : JsString) (metadata : Fields) : Fields :=
  [(js "payload", .obj payload), (js "signature", .str signature), (js "algorithm", algorithm),
    (js "metadata", .obj metadata)]

/-- The file a call writes; `none` when it writes none. -/
def writeIntegrityCheckpoint (platform : Platform) (call : WriteCall) :
    Except Failure (Option WrittenFile) :=
  if isDisklessCheckpointMode call.env then .ok none
  else
    match resolvePath call.env call.path, resolveSecret call.env call.secret with
    | none, _ => .ok none
    | some _, none => secretMissing
    | some path, some secret => do
        let metadata := checkpointMetadata call.env call.now
        let signature ← (signEnvelopeBody platform call.snapshot metadata secret).mapError
          .canonicalJson
        let text ← (canonicalizeJson (.obj (envelopeFields call.snapshot signature metadata))).mapError
          .canonicalJson
        return some { path, content := text ++ [10] }

/-! ### Reading -/

/-- What `readFile` finds: nothing (`ENOENT`), another error with its message,
or a text. -/
inductive FileRead where
  | missing
  | failed (message : JsString)
  | content (raw : JsString)

/-- A call of `readIntegrityCheckpoint` at `now` in milliseconds. -/
structure ReadCall where
  env : Env
  path : Option JsString := none
  secret : Option JsString := none
  file : FileRead
  now : Nat

/-- The signature an envelope must carry: over its body, or over the payload
alone when it has no metadata. -/
def expectedSignature (platform : Platform) (envelope : IntegrityCheckpointEnvelope)
    (secret : JsString) : Except CanonicalJsonError JsString :=
  match envelope.metadata with
  | some metadata => signEnvelopeBody platform envelope.payload metadata secret
  | none => signLegacyPayload platform envelope.payload secret

def metadataNumber (metadata : Fields) (key : String) : Option Double :=
  match metadata.get (js key) with
  | some (.num value) => some value.toDouble
  | _ => none

/-- The age and expiry checks of an envelope with metadata. -/
def isFresh (maxAge : MaxAge) (now : Nat) (metadata : Fields) : Bool :=
  let age := (Double.finite now).add ((metadataNumber metadata "writtenAt").getD .nan).neg
  age.isFinite && !age.lt (.finite 0) && !maxAge.milliseconds.lt age &&
    (metadataNumber metadata "expiresAt").all fun expiresAt => (Double.finite now).lt expiresAt

/-- An envelope that passed its signature is current. -/
def isCurrent (maxAge : MaxAge) (now : Nat) (envelope : IntegrityCheckpointEnvelope) : Bool :=
  match envelope.metadata with
  | some metadata => isFresh maxAge now metadata
  -- Without metadata the age cannot be bounded.
  | none => maxAge = .unset

/-- The snapshot a file gives; `none` is `null`. -/
def readContent (platform : Platform) (env : Env) (secret raw : JsString) (now : Nat) :
    Except Failure (Option Fields) :=
  match parseEnvelope platform raw with
  | .error _ => .ok none
  | .ok envelope =>
      match resolveMaxAgeSeconds env with
      | .invalid => .ok none
      | maxAge => do
          let expected ← (expectedSignature platform envelope secret).mapError .canonicalJson
          if !safeHexCompare envelope.signature expected then return none
          else if !isCurrent maxAge now envelope then return none
          else return some envelope.payload

def readIntegrityCheckpoint (platform : Platform) (call : ReadCall) :
    Except Failure (Option Fields) :=
  if isDisklessCheckpointMode call.env then .ok none
  else
    match resolvePath call.env call.path, resolveSecret call.env call.secret with
    | none, _ => .ok none
    | some _, none => secretMissing
    | some _, some secret =>
        match call.file with
        | .missing => .ok none
        | .failed message => .error (.checkpoint { code := .invalid, message })
        | .content raw => readContent platform call.env secret raw call.now

/-- The age of a write. -/
theorem age_eq {written now : Nat}
    (small : |(((now : Int) + -(written : Int) : Int) : ℚ)| < 2 ^ (53 : Int)) :
    (Double.finite now).add (Double.finite ((written : Int) : ℚ)).neg =
      .finite (((now : Int) + -(written : Int) : Int) : ℚ) := by
  have added := Double.add_intCast small
  simpa [Double.neg] using added

/-- Without a maximum age an envelope without expiry is current from its write on. -/
theorem isFresh_unlimited {written now : Nat} (ordered : written ≤ now) (small : now < 2 ^ 53) :
    isFresh .unset now [(js "writtenAt", .num (.ofInt written))] = true := by
  have writtenSmall : |((written : Int) : ℚ)| < 2 ^ (53 : Int) := by
    rw [abs_of_nonneg (by positivity)]
    have below : written < 2 ^ 53 := by omega
    exact_mod_cast below
  have number : metadataNumber [(js "writtenAt", .num (.ofInt written))] "writtenAt" =
      some (.finite ((written : Int) : ℚ)) := by
    simp [metadataNumber, Fields.get, Number.toDouble_ofInt writtenSmall]
  have noExpiry : metadataNumber [(js "writtenAt", .num (.ofInt written))] "expiresAt" = none := by
    have other : (js "expiresAt" == js "writtenAt") = false := by decide
    simp [metadataNumber, Fields.get, List.lookup_cons, other]
  have difference : |(((now : Int) + -(written : Int) : Int) : ℚ)| < 2 ^ (53 : Int) := by
    rw [abs_of_nonneg (by exact_mod_cast (by omega : (0 : Int) ≤ now + -written))]
    have below : (now : Int) + -(written : Int) < 2 ^ 53 := by omega
    exact_mod_cast below
  have age := age_eq difference
  simp only [isFresh, number, noExpiry, Option.getD_some, age, MaxAge.milliseconds]
  simp [Double.isFinite, Double.lt, ordered]

end DarkmeshGateway.Gateway.IntegrityCheckpoint
