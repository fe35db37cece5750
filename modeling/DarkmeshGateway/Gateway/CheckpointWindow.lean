import DarkmeshGateway.Foundation.Js.Parse
import DarkmeshGateway.Foundation.Js.ShortestDecimal
import DarkmeshGateway.Gateway.CheckpointAuthenticity

/-!
Contract: when a written checkpoint is read back, and what an altered one gives.

Owns the settings of a writer and a reader, the window of times in which a
written file gives its snapshot, and the altered files that give none.

Does not own the strength of HMAC-SHA256, nor the number a numeral denotes.
-/

namespace DarkmeshGateway.Gateway.CheckpointWindow

open Foundation.Js
open Foundation.Outcome
open Gateway.CanonicalJson
open Gateway.CheckpointAuthenticity
open Gateway.Environment
open Gateway.IntegrityCheckpoint

/-! ### Times -/

/-- The last millisecond of a `Date`. -/
def maxDate : Nat := 8640000000000000

/-- The times at which a file written at `written` gives its snapshot. -/
def InWindow (maxAge : MaxAge) (written now : Nat) : Prop :=
  written ≤ now ∧ ∀ seconds, maxAge = .seconds seconds → (now : Int) < written + seconds * 1000

/-- An integer of the range of dates is safe. -/
theorem small_of_date {value : Int} (low : -maxDate ≤ value) (high : value ≤ maxDate + 1) :
    |(value : ℚ)| < 2 ^ (53 : Int) := by
  unfold maxDate at low high
  have lower : -(2 : Int) ^ 53 < value := by omega
  have upper : value < (2 : Int) ^ 53 := by omega
  rw [abs_lt]
  constructor
  · exact_mod_cast lower
  · exact_mod_cast upper

/-- A number that denotes a time in milliseconds. -/
structure Denotes (number : Number) (time : Int) : Prop where
  timestamp : isTimestamp (.num number) = true
  unsigned : number.dropZeroSign = number
  value : number.toDouble = .finite time

theorem denotes_ofInt {time : Nat} (small : time ≤ maxDate) : Denotes (.ofInt time) time := by
  obtain ⟨decimal, number, -, whole, sign⟩ := Number.ofInt_eq time
  have positive : decimal.negative = false := by
    rw [sign, decide_eq_false_iff_not]
    omega
  refine ⟨?_, ?_, ?_⟩
  · rw [number]
    simp [isTimestamp, whole, positive]
  · rw [number, Number.dropZeroSign, Decimal.dropZeroSign_of_unsigned positive]
  · apply Number.toDouble_ofInt
    exact small_of_date (by omega) (by omega)

/-- Rounding does not fall below an integer of the range. -/
theorem le_rounded {bound value rounded : Int} (rounds : nearest (value : ℚ) = rounded)
    (low : -maxDate ≤ bound) (high : bound ≤ maxDate + 1) (below : bound ≤ value) :
    bound ≤ rounded := by
  have lifted : nearest (bound : ℚ) ≤ nearest (value : ℚ) :=
    nearest_mono (by exact_mod_cast below)
  rw [nearest_intCast (small_of_date low high), rounds] at lifted
  exact_mod_cast lifted

/-- An integer of the range is not rounded. -/
theorem rounded_eq {value rounded : Int} (rounds : nearest (value : ℚ) = rounded)
    (low : -maxDate ≤ value) (high : value ≤ maxDate + 1) : rounded = value := by
  rw [nearest_intCast (small_of_date low high)] at rounds
  exact_mod_cast rounds.symm

/-- A date is before a rounded end exactly when it is before the exact one. -/
theorem before_rounded_iff {span limit expires : Int} {written now : Nat}
    (limit_eq : nearest (span : ℚ) = limit)
    (expires_eq : nearest ((written + limit : Int) : ℚ) = expires) (nonneg : 0 ≤ span)
    (small : written ≤ maxDate) (inDates : now ≤ maxDate) :
    (now : Int) < expires ↔ (now : Int) < written + span := by
  constructor
  · intro before
    by_contra late
    -- An end that is no later than a date is rounded nowhere.
    have limit_exact : limit = span := rounded_eq limit_eq (by omega) (by omega)
    have expires_exact : expires = written + limit :=
      rounded_eq expires_eq (by omega) (by omega)
    omega
  · intro before
    have limitAtLeast : (now : Int) + 1 - written ≤ limit :=
      le_rounded limit_eq (by omega) (by omega) (by omega)
    have expiresAtLeast : (now : Int) + 1 ≤ expires :=
      le_rounded expires_eq (by omega) (by omega) (by omega)
    omega

/-- A maximum age in seconds: a positive safe integer. -/
structure SafeSeconds (seconds : Int) : Prop where
  positive : 0 < seconds
  safe : seconds < 2 ^ 53

theorem parseEnvInteger_lt {raw : JsString} {value : Int}
    (parsed : parseEnvInteger raw = some value) : value < 2 ^ 53 := by
  have bounded (negative : Bool) (digits : JsString)
      (read : (if digits ≠ [] ∧ digits.all isDigit = true then
          if digitsValue digits < 2 ^ 53 then
            some (if negative then -(digitsValue digits : Int) else digitsValue digits)
          else none
        else none) = some value) : value < 2 ^ 53 := by
    split at read
    next =>
      split at read
      next small =>
        have value_eq := Option.some.inj read
        split at value_eq <;> omega
      next => cases read
    next => cases read
  unfold parseEnvInteger at parsed
  simp only at parsed
  split at parsed
  next => exact bounded true _ parsed
  next => exact bounded false _ parsed
  next => exact bounded false _ parsed

theorem resolveMaxAgeSeconds_safe {env : Env} {seconds : Int}
    (resolved : resolveMaxAgeSeconds env = .seconds seconds) : SafeSeconds seconds := by
  unfold resolveMaxAgeSeconds at resolved
  split at resolved
  next => cases resolved
  next raw _ =>
    split at resolved
    next => cases resolved
    next value parsed =>
      split at resolved
      next => cases resolved
      next positive =>
        obtain rfl := MaxAge.seconds.inj resolved
        exact ⟨by omega, parseEnvInteger_lt parsed⟩

/-- The maximum age in milliseconds, rounded. -/
theorem milliseconds_eq {seconds : Int} (safe : SafeSeconds seconds) :
    ∃ limit : Int, MaxAge.milliseconds (.seconds seconds) = .finite limit ∧
      0 ≤ limit ∧ limit ≤ 2 ^ 63 ∧ nearest ((seconds * 1000 : Int) : ℚ) = limit := by
  obtain ⟨limit, rounded⟩ := nearest_integer (seconds * 1000)
  have positive := safe.positive
  have small := safe.safe
  have nonneg : (0 : ℚ) ≤ ((seconds * 1000 : Int) : ℚ) := by
    have product : (0 : Int) ≤ seconds * 1000 := by omega
    exact_mod_cast product
  have bounded : ((seconds * 1000 : Int) : ℚ) ≤ 2 ^ 63 := by
    have product : seconds * 1000 ≤ (2 : Int) ^ 63 := by omega
    exact_mod_cast product
  obtain ⟨double, low, high⟩ := Double.ofRat_of_le (by decide) nonneg bounded
  rw [rounded] at double low high
  refine ⟨limit, ?_, by exact_mod_cast low, by exact_mod_cast high, rounded⟩
  rw [← double, MaxAge.milliseconds]
  push_cast
  rfl

/-- The written expiry: a date is before it exactly when it is less than the maximum
age after the write. -/
theorem expiry_eq {seconds : Int} (safe : SafeSeconds seconds) {written : Nat}
    (small : written ≤ maxDate) :
    ∃ expires : Int, Denotes (expiryNumber written (.seconds seconds)) expires ∧
      written ≤ expires ∧
      ∀ now : Nat, now ≤ maxDate →
        ((now : Int) < expires ↔ (now : Int) < written + seconds * 1000) := by
  obtain ⟨limit, milliseconds, limitNonneg, limitSmall, rounded⟩ := milliseconds_eq safe
  obtain ⟨expires, expires_eq⟩ := nearest_integer (written + limit)
  have positive := safe.positive
  have expiresPos : 0 < expires := by
    have one : 1 ≤ limit := le_rounded rounded (by omega) (by unfold maxDate; omega) (by omega)
    have reached : 1 ≤ expires :=
      le_rounded expires_eq (by omega) (by unfold maxDate; omega) (by omega)
    omega
  have bounded : ((written + limit : Int) : ℚ) ≤ 2 ^ 64 := by
    unfold maxDate at small
    have sum : (written : Int) + limit ≤ 2 ^ 64 := by omega
    exact_mod_cast sum
  have nonneg : (0 : ℚ) ≤ ((written + limit : Int) : ℚ) := by
    have sum : (0 : Int) ≤ written + limit := by omega
    exact_mod_cast sum
  obtain ⟨double, -, high⟩ := Double.ofRat_of_le (by decide) nonneg bounded
  rw [expires_eq] at double high
  have again : nearest (expires : ℚ) = expires := by rw [← expires_eq, nearest_nearest]
  have inRange : (expires : ℚ) < 2 ^ 1024 :=
    high.trans_lt (pow_lt_pow_right₀ (by norm_num) (by decide))
  obtain ⟨decimal, number, denoted, sign, whole⟩ :=
    Double.toNumber_integer again expiresPos inRange
  have expiry : expiryNumber written (.seconds seconds) = .finite decimal := by
    rw [← number, ← double, expiryNumber, milliseconds]
    simp [Double.add]
  refine ⟨expires, ⟨?_, ?_, ?_⟩, ?_, ?_⟩
  · rw [expiry]
    simp [isTimestamp, whole, sign]
  · rw [expiry, Number.dropZeroSign, Decimal.dropZeroSign_of_unsigned sign]
  · rw [expiry, denoted]
  · exact le_rounded expires_eq (by omega) (by omega) (by omega)
  · intro now inDates
    exact before_rounded_iff rounded expires_eq (by omega) small inDates

/-! ### Freshness -/

/-- The metadata of a written file as it is read back. -/
def readMetadata (maxAge : MaxAge) (written : Nat) : Fields :=
  match maxAge with
  | .seconds seconds =>
      [(js "expiresAt", .num (expiryNumber written (.seconds seconds))),
        (js "writtenAt", .num (.ofInt written))]
  | _ => [(js "writtenAt", .num (.ofInt written))]

theorem get_writtenAt (maxAge : MaxAge) (written : Nat) :
    (readMetadata maxAge written).get (js "writtenAt") = some (.num (.ofInt written)) := by
  cases maxAge <;> rfl

theorem readMetadata_valid {maxAge : MaxAge} (safe : ∀ seconds, maxAge = .seconds seconds →
    SafeSeconds seconds) {written : Nat} (small : written ≤ maxDate) :
    isValidCheckpointMetadata (.obj (readMetadata maxAge written)) = true := by
  have start := denotes_ofInt small
  have unlimited : isValidCheckpointMetadata
      (.obj [(js "writtenAt", .num (.ofInt written))]) = true := by
    simp [isValidCheckpointMetadata, Fields.get, start.timestamp, List.lookup_cons,
      (by decide : (js "expiresAt" == js "writtenAt") = false)]
  cases maxAge with
  | unset => exact unlimited
  | invalid => exact unlimited
  | seconds seconds =>
      obtain ⟨expires, expiry, later, -⟩ := expiry_eq (safe seconds rfl) small
      have ordered : timestampBefore (.num (expiryNumber written (.seconds seconds)))
          (.num (.ofInt written)) = false := by
        rw [timestampBefore, expiry.value, start.value, ← Bool.not_eq_true, Double.finite_lt,
          not_lt]
        exact_mod_cast later
      simp [readMetadata, isValidCheckpointMetadata, Fields.get, start.timestamp,
        expiry.timestamp, List.lookup_cons, ordered,
        (by decide : (js "writtenAt" == js "expiresAt") = false)]

/-- The checks of a file that was written are passed exactly in its window. -/
theorem isFresh_iff {maxAge : MaxAge} (valid : maxAge ≠ .invalid)
    (safe : ∀ seconds, maxAge = .seconds seconds → SafeSeconds seconds) {written now : Nat}
    (small : written ≤ maxDate) (inDates : now ≤ maxDate) :
    isFresh maxAge now (readMetadata maxAge written) = true ↔ InWindow maxAge written now := by
  have start := denotes_ofInt small
  have since : metadataNumber (readMetadata maxAge written) "writtenAt" =
      some (.finite ((written : Int) : ℚ)) := by
    rw [metadataNumber, get_writtenAt, ← start.value]
  have difference : |(((now : Int) + -(written : Int) : Int) : ℚ)| < 2 ^ (53 : Int) :=
    small_of_date (by omega) (by omega)
  have age := age_eq difference
  have notBefore : (Double.finite (((now : Int) + -(written : Int) : Int) : ℚ)).lt (.finite 0) =
      false ↔ written ≤ now := by
    rw [← Bool.not_eq_true, Double.finite_lt, not_lt]
    constructor
    · intro nonneg
      have sum : (0 : Int) ≤ now + -written := by exact_mod_cast nonneg
      omega
    · intro ordered
      have sum : (0 : Int) ≤ now + -written := by omega
      exact_mod_cast sum
  have unfolded : isFresh maxAge now (readMetadata maxAge written) = true ↔ written ≤ now ∧
      maxAge.milliseconds.lt (.finite (((now : Int) + -(written : Int) : Int) : ℚ)) = false ∧
      ∀ expires ∈ metadataNumber (readMetadata maxAge written) "expiresAt",
        (Double.finite now).lt expires = true := by
    simp only [isFresh, since, Option.getD_some, age, Double.isFinite, Bool.true_and,
      Bool.and_eq_true, Bool.not_eq_true', notBefore, Option.all_eq_true, Option.mem_def,
      and_assoc]
  rw [unfolded, InWindow]
  refine and_congr_right fun ordered => ?_
  cases maxAge with
  | invalid => exact absurd rfl valid
  | unset =>
      have none : metadataNumber (readMetadata .unset written) "expiresAt" = none := rfl
      simp [none, MaxAge.milliseconds, Double.lt]
  | seconds seconds =>
      obtain ⟨limit, milliseconds, -, -, rounded⟩ := milliseconds_eq (safe seconds rfl)
      obtain ⟨expires, expiry, -, before⟩ := expiry_eq (safe seconds rfl) small
      have found : metadataNumber (readMetadata (.seconds seconds) written) "expiresAt" =
          some (.finite (expires : ℚ)) := by
        rw [← expiry.value]
        rfl
      have until_ : (Double.finite now).lt (.finite (expires : ℚ)) = true ↔
          (now : Int) < written + seconds * 1000 := by
        rw [← before now inDates, Double.finite_lt]
        exact_mod_cast Iff.rfl
      rw [found, milliseconds]
      simp only [Option.mem_some_iff, forall_eq', until_, MaxAge.seconds.injEq]
      refine and_iff_right_of_imp fun within => ?_
      have lifted : (now : Int) + -(written : Int) ≤ limit :=
        le_rounded rounded (by omega) (by omega) (by omega)
      rw [← Bool.not_eq_true, Double.finite_lt, not_lt]
      exact_mod_cast lifted

/-! ### Writing -/

/-- The settings under which checkpoints are written or read. -/
structure Settings where
  env : Env
  path : Option JsString := none
  secret : Option JsString := none

def Settings.write (settings : Settings) (snapshot : Fields) (now : Nat) : WriteCall :=
  { env := settings.env, snapshot, path := settings.path, secret := settings.secret, now }

def Settings.read (settings : Settings) (raw : JsString) (now : Nat) : ReadCall :=
  { env := settings.env, path := settings.path, secret := settings.secret, file := .content raw,
    now }

/-- Checkpoints are enabled, at a path and under a secret. -/
structure Settings.Uses (settings : Settings) (path secret : JsString) : Prop where
  enabled : isDisklessCheckpointMode settings.env = false
  path : resolvePath settings.env settings.path = some path
  secret : resolveSecret settings.env settings.secret = some secret

/-- What a file holds that a text was written into as UTF-8. -/
def stored (text : JsString) : JsString := toWellFormed text

/-- `JSON.parse` of the platform, and HMAC-SHA256 as 32 bytes in hexadecimal. -/
structure Runtime (platform : Platform) (readNumeral : JsString → Option Number) : Prop where
  parses : ∀ text value, parse readNumeral text = some value → platform.parseJson text = .ok value
  distinct : ∀ text value, platform.parseJson text = .ok value → value.Distinct = true
  digest : ∀ key text, ∃ bytes : List Nat, bytes.length = 32 ∧ (∀ byte ∈ bytes, byte < 256) ∧
    platform.hmacSha256 key text = bytesHex bytes

variable {platform : Platform} {readNumeral : JsString → Option Number}

/-- A value that is written and parsed. -/
def reread (value : Json) : Json := value.canonical.ordered

/-- What a written file is parsed as. -/
theorem parse_stored {value : Json} (finite : value.AllFinite = true)
    (distinct : value.Distinct = true) (readsBack : ReadsBack readNumeral value.numbers) :
    parse readNumeral (stored (value.canonical.stringify ++ [10])) = some (reread value) := by
  have encoded : stored (value.canonical.stringify ++ [10]) = value.canonical.stringify ++ [10] :=
    Json.toWellFormed_stringify value.canonical [10]
  have blank : ∀ unit ∈ ([10] : JsString), isJsonSpace unit = true := by
    intro unit member
    rw [List.mem_singleton.mp member]
    rfl
  rw [encoded]
  exact parse_stringify (Json.regular_canonical value finite)
    (Json.distinct_canonical value distinct) readsBack.canonical blank

/-- What is read is the value that was written. -/
theorem canonical_reread {value : Json} (distinct : value.Distinct = true) :
    (reread value).canonical = value.canonical := by
  rw [reread, Json.canonical_ordered _ (Json.distinct_canonical value distinct),
    Json.canonical_idempotent]

theorem finite_reread {value : Json} (finite : value.AllFinite = true) :
    (reread value).AllFinite = true :=
  Json.allFinite_of_regular _ (Json.regular_ordered _ (Json.regular_canonical value finite))

/-- The fields of an object that is written and parsed. -/
def rereadFields (fields : Fields) : Fields :=
  orderKeys (orderedFields (sortByKey (canonicalFields fields)))

theorem reread_obj (fields : Fields) : reread (.obj fields) = .obj (rereadFields fields) := rfl

/-- A file with the four properties of an envelope. -/
def fileFields (payload : Fields) (signature : JsString) (metadata : Fields) : Fields :=
  [(js "algorithm", algorithm), (js "metadata", .obj metadata), (js "payload", .obj payload),
    (js "signature", .str signature)]

/-- An envelope is read back with its keys in their order. -/
theorem reread_envelope (payload : Fields) (signature : JsString) (metadata : Fields) :
    reread (.obj (envelopeFields payload signature metadata)) =
      .obj (fileFields (rereadFields payload) signature (rereadFields metadata)) := rfl

theorem reread_metadata {env : Env} {written : Nat} (small : written ≤ maxDate) :
    rereadFields (checkpointMetadata env written) =
      readMetadata (resolveMaxAgeSeconds env) written := by
  have start := (denotes_ofInt small).unsigned
  have unlimited : rereadFields [(js "writtenAt", .num (.ofInt written))] =
      [(js "writtenAt", .num (Number.ofInt written).dropZeroSign)] := rfl
  unfold checkpointMetadata readMetadata
  simp only
  cases resolved : resolveMaxAgeSeconds env with
  | unset => rw [unlimited, start]
  | invalid => rw [unlimited, start]
  | seconds seconds =>
      obtain ⟨expires, expiry, -⟩ := expiry_eq (resolveMaxAgeSeconds_safe resolved) small
      have limited : rereadFields [(js "writtenAt", .num (.ofInt written)),
          (js "expiresAt", .num (expiryNumber written (.seconds seconds)))] =
          [(js "expiresAt", .num (expiryNumber written (.seconds seconds)).dropZeroSign),
            (js "writtenAt", .num (Number.ofInt written).dropZeroSign)] := rfl
      simp only [limited, start, expiry.unsigned]

theorem metadata_finite {env : Env} {written : Nat} (small : written ≤ maxDate) :
    fieldsFinite (checkpointMetadata env written) = true := by
  have start : (Number.ofInt written).isFinite = true := Number.isFinite_ofInt written
  unfold checkpointMetadata
  simp only
  cases resolved : resolveMaxAgeSeconds env with
  | unset => simp [fieldsFinite, Json.AllFinite, start]
  | invalid => simp [fieldsFinite, Json.AllFinite, start]
  | seconds seconds =>
      obtain ⟨expires, expiry, -⟩ := expiry_eq (resolveMaxAgeSeconds_safe resolved) small
      have ends : (expiryNumber written (.seconds seconds)).isFinite = true := by
        have timestamp := expiry.timestamp
        cases number : expiryNumber written (.seconds seconds) with
        | nan => simp [number, isTimestamp] at timestamp
        | infinity negative => simp [number, isTimestamp] at timestamp
        | finite decimal => rfl
      simp [fieldsFinite, Json.AllFinite, start, ends]

theorem metadata_distinct (env : Env) (written : Nat) :
    (Json.obj (checkpointMetadata env written)).Distinct = true := by
  unfold checkpointMetadata
  simp only
  split
  next => rfl
  next => rfl

/-- A snapshot: a JSON object. -/
structure Snapshot where
  fields : Fields
  finite : fieldsFinite fields = true
  distinct : (Json.obj fields).Distinct = true

/-- The text that the signature of a written snapshot covers. -/
def bodyText (snapshot metadata : Fields) : JsString :=
  (Json.obj (envelopeBody snapshot metadata)).canonical.stringify

theorem canonicalize_body {payload metadata : Fields} (payloadFinite : fieldsFinite payload = true)
    (metadataFinite : fieldsFinite metadata = true) :
    canonicalizeJson (.obj (envelopeBody payload metadata)) = .ok (bodyText payload metadata) := by
  apply canonicalizeJson_eq_ok.mpr
  refine ⟨?_, rfl⟩
  simp [envelopeBody, Json.AllFinite, fieldsFinite, algorithm, payloadFinite, metadataFinite]

/-- What is read back has the body that was signed. -/
theorem bodyText_reread {payload metadata : Fields}
    (payloadDistinct : (Json.obj payload).Distinct = true)
    (metadataDistinct : (Json.obj metadata).Distinct = true) :
    bodyText (rereadFields payload) (rereadFields metadata) = bodyText payload metadata := by
  have payloads := canonical_reread payloadDistinct
  have metadatas := canonical_reread metadataDistinct
  rw [reread_obj] at payloads metadatas
  unfold bodyText
  congr 1
  rw [Json.canonical, Json.canonical, envelopeBody, envelopeBody]
  simp only [canonicalFields, payloads, metadatas]

variable {settings : Settings} {path secret raw : JsString} {written now : Nat}

/-- The signature of a written snapshot. -/
def tagOf (platform : Platform) (secret : JsString) (snapshot metadata : Fields) : JsString :=
  platform.hmacSha256 secret (bodyText snapshot metadata)

/-- A write puts the signed envelope into the file. -/
theorem write_eq (uses : settings.Uses path secret) (snapshot : Snapshot)
    (small : written ≤ maxDate) :
    writeIntegrityCheckpoint platform (settings.write snapshot.fields written) =
      .ok (some
        { path
          content := (Json.obj (envelopeFields snapshot.fields
            (tagOf platform secret snapshot.fields (checkpointMetadata settings.env written))
            (checkpointMetadata settings.env written))).canonical.stringify ++ [10] }) := by
  have metadataFinite : fieldsFinite (checkpointMetadata settings.env written) = true :=
    metadata_finite small
  have signed : signEnvelopeBody platform snapshot.fields
      (checkpointMetadata settings.env written) secret =
        .ok (tagOf platform secret snapshot.fields (checkpointMetadata settings.env written)) := by
    rw [signEnvelopeBody, canonicalize_body snapshot.finite metadataFinite]
    rfl
  have text (signature : JsString) : canonicalizeJson (.obj (envelopeFields snapshot.fields
      signature (checkpointMetadata settings.env written))) =
        .ok (Json.obj (envelopeFields snapshot.fields signature
          (checkpointMetadata settings.env written))).canonical.stringify := by
    apply canonicalizeJson_eq_ok.mpr
    refine ⟨?_, rfl⟩
    simp [envelopeFields, Json.AllFinite, fieldsFinite, algorithm, snapshot.finite, metadataFinite]
  unfold writeIntegrityCheckpoint
  simp only [Settings.write, uses.enabled, uses.path, uses.secret, signed, text]
  rfl

/-! ### Reading -/

/-- A read of a file whose body has a text. -/
theorem readContent_eq {env : Env} {envelope : IntegrityCheckpointEnvelope} {text : JsString}
    (parsed : parseEnvelope platform raw = .ok envelope)
    (valid : resolveMaxAgeSeconds env ≠ .invalid)
    (canonical : canonicalizeJson (.obj (signedFields envelope)) = .ok text) :
    readContent platform env secret raw now =
      .ok (if safeHexCompare envelope.signature (platform.hmacSha256 secret text) = true ∧
          isCurrent (resolveMaxAgeSeconds env) now envelope = true then some envelope.payload
        else none) := by
  have expected : expectedSignature platform envelope secret =
      .ok (platform.hmacSha256 secret text) :=
    expectedSignature_eq_ok.mpr ⟨text, canonical, rfl⟩
  unfold readContent
  rw [parsed]
  dsimp only
  split
  next invalid => exact absurd invalid valid
  next =>
    rw [expected]
    by_cases matched : safeHexCompare envelope.signature (platform.hmacSha256 secret text) = true
    · by_cases current : isCurrent (resolveMaxAgeSeconds env) now envelope = true
      · simp [Except.mapError, bind, Except.bind, pure, Except.pure, matched, current]
      · simp [Except.mapError, bind, Except.bind, pure, Except.pure, matched, current]
    · simp [Except.mapError, bind, Except.bind, pure, Except.pure, matched]

/-- A read of a file whose body has no text throws. -/
theorem readContent_throws {env : Env} {envelope : IntegrityCheckpointEnvelope}
    {error : CanonicalJsonError} (parsed : parseEnvelope platform raw = .ok envelope)
    (valid : resolveMaxAgeSeconds env ≠ .invalid)
    (refused : canonicalizeJson (.obj (signedFields envelope)) = .error error) :
    readContent platform env secret raw now = .error (.canonicalJson error) := by
  have unexpected : expectedSignature platform envelope secret = .error error := by
    unfold signedFields at refused
    unfold expectedSignature
    cases carried : envelope.metadata with
    | none =>
        rw [carried] at refused
        simp only [signLegacyPayload, refused]
        rfl
    | some metadata =>
        rw [carried] at refused
        simp only [signEnvelopeBody, refused]
        rfl
  unfold readContent
  rw [parsed]
  dsimp only
  split
  next invalid => exact absurd invalid valid
  next =>
    rw [unexpected]
    rfl

theorem read_eq (uses : settings.Uses path secret) :
    readIntegrityCheckpoint platform (settings.read raw now) =
      readContent platform settings.env secret raw now := by
  unfold readIntegrityCheckpoint
  simp only [Settings.read, uses.enabled, uses.path, uses.secret]
  rfl

theorem safeHexCompare_self (text : JsString) : safeHexCompare text text = true := by
  simp [safeHexCompare]

theorem hexDigit_visible {value : Nat} (small : value < 16) :
    isWhitespace (hexDigit value) = false := by
  interval_cases value <;> decide

/-- A digest is no blank text. -/
theorem digest_visible (runtime : Runtime platform readNumeral) (key text : JsString) :
    trim (platform.hmacSha256 key text) ≠ [] := by
  obtain ⟨bytes, length, small, digest⟩ := runtime.digest key text
  have visible : (bytesHex bytes).any isWhitespace = false := by
    rw [List.any_eq_false]
    intro unit member
    obtain ⟨byte, inside, digit⟩ := List.mem_flatMap.mp member
    have range := small byte inside
    rw [Bool.not_eq_true]
    rcases List.mem_cons.mp digit with rfl | low
    · exact hexDigit_visible (by omega)
    · rw [List.mem_singleton.mp low]
      exact hexDigit_visible (Nat.mod_lt _ (by decide))
  rw [digest, trim_of_visible visible]
  intro empty
  cases bytes with
  | nil => cases length
  | cons byte rest => cases empty

/-- A file with the four properties is an envelope when its signature is not blank
and its metadata is valid. -/
theorem parseEnvelope_eq {payload metadata : Fields} {signature : JsString}
    (file : platform.parseJson raw = .ok (.obj (fileFields payload signature metadata)))
    (visible : trim signature ≠ []) (valid : isValidCheckpointMetadata (.obj metadata) = true) :
    parseEnvelope platform raw = .ok { payload, signature, metadata := some metadata } := by
  have known : ((fileFields payload signature metadata).any fun field =>
      !allowedKeys.contains field.1) = false := rfl
  have supported : isAlgorithm ((fileFields payload signature metadata).get (js "algorithm")) =
      true := rfl
  have payload_eq : envelopePayload (fileFields payload signature metadata) = .ok payload := rfl
  have signature_eq : envelopeSignature (fileFields payload signature metadata) =
      .ok signature := by
    have found : (fileFields payload signature metadata).get (js "signature") =
        some (.str signature) := rfl
    unfold envelopeSignature
    rw [found]
    exact if_neg visible
  have metadata_eq : envelopeMetadata (fileFields payload signature metadata) =
      .ok (some metadata) := by
    have found : (fileFields payload signature metadata).get (js "metadata") =
        some (.obj metadata) := rfl
    unfold envelopeMetadata
    rw [found]
    exact if_pos valid
  unfold parseEnvelope
  rw [file]
  simp only [known, supported, payload_eq, signature_eq, metadata_eq]
  rfl

/-- A written file is parsed as its envelope. -/
theorem parseEnvelope_written (runtime : Runtime platform readNumeral) {snapshot : Snapshot}
    {env : Env} (small : written ≤ maxDate)
    (readsBack : ReadsBack readNumeral
      (Json.obj (envelopeBody snapshot.fields (checkpointMetadata env written))).numbers)
    {signature : JsString} (visible : trim signature ≠ []) :
    parseEnvelope platform (stored ((Json.obj (envelopeFields snapshot.fields signature
        (checkpointMetadata env written))).canonical.stringify ++ [10])) =
      .ok
        { payload := rereadFields snapshot.fields
          signature
          metadata := some (readMetadata (resolveMaxAgeSeconds env) written) } := by
  have metadataFinite : fieldsFinite (checkpointMetadata env written) = true :=
    metadata_finite small
  have finite : (Json.obj (envelopeFields snapshot.fields signature
      (checkpointMetadata env written))).AllFinite = true := by
    simp [envelopeFields, Json.AllFinite, fieldsFinite, algorithm, snapshot.finite, metadataFinite]
  have distinct : (Json.obj (envelopeFields snapshot.fields signature
      (checkpointMetadata env written))).Distinct = true := by
    rw [distinct_obj_iff]
    have names : ([js "payload", js "signature", js "algorithm", js "metadata"] :
        List JsString).Nodup := by decide
    refine ⟨names, ?_⟩
    intro field member
    simp only [envelopeFields, List.mem_cons, List.not_mem_nil, or_false] at member
    rcases member with rfl | rfl | rfl | rfl
    · exact snapshot.distinct
    · rfl
    · rfl
    · exact metadata_distinct env written
  have numerals : ReadsBack readNumeral (Json.obj (envelopeFields snapshot.fields signature
      (checkpointMetadata env written))).numbers := by
    intro decimal member
    apply readsBack
    simpa [envelopeFields, envelopeBody, Json.numbers, fieldNumbers, algorithm] using member
  have file := runtime.parses _ _ (parse_stored finite distinct numerals)
  have valid : isValidCheckpointMetadata
      (.obj (readMetadata (resolveMaxAgeSeconds env) written)) = true :=
    readMetadata_valid (fun _ => resolveMaxAgeSeconds_safe) small
  rw [reread_envelope, reread_metadata small] at file
  exact parseEnvelope_eq file visible valid

/-! ### The window -/

theorem fieldsFinite_reread {fields : Fields} (finite : fieldsFinite fields = true) :
    fieldsFinite (rereadFields fields) = true := by
  have whole : (Json.obj fields).AllFinite = true := finite
  exact finite_reread whole

/-- The file of a write gives the snapshot in its window, and nothing outside. -/
structure GivesBack (platform : Platform) (writer reader : Settings) (snapshot : Snapshot)
    (written now : Nat) (file : WrittenFile) : Prop where
  wrote : writeIntegrityCheckpoint platform (writer.write snapshot.fields written) = .ok (some file)
  within : InWindow (resolveMaxAgeSeconds writer.env) written now →
    ∃ value, readIntegrityCheckpoint platform (reader.read (stored file.content) now) =
        .ok (some value) ∧ Json.Same (.obj value) (.obj snapshot.fields)
  outside : ¬InWindow (resolveMaxAgeSeconds writer.env) written now →
    readIntegrityCheckpoint platform (reader.read (stored file.content) now) = .ok none

theorem gives_back (runtime : Runtime platform readNumeral) {writer reader : Settings}
    (writes : writer.Uses path secret) (reads : reader.Uses path secret)
    (sameAge : resolveMaxAgeSeconds reader.env = resolveMaxAgeSeconds writer.env)
    (valid : resolveMaxAgeSeconds writer.env ≠ .invalid) (snapshot : Snapshot)
    (small : written ≤ maxDate) (inDates : now ≤ maxDate)
    (readsBack : ReadsBack readNumeral
      (Json.obj (envelopeBody snapshot.fields (checkpointMetadata writer.env written))).numbers) :
    ∃ file, GivesBack platform writer reader snapshot written now file := by
  have visible : trim (tagOf platform secret snapshot.fields
      (checkpointMetadata writer.env written)) ≠ [] := digest_visible runtime secret _
  have parsed := parseEnvelope_written runtime small readsBack visible
  have metadataFinite : fieldsFinite (checkpointMetadata writer.env written) = true :=
    metadata_finite small
  have body : canonicalizeJson (.obj (signedFields
      { payload := rereadFields snapshot.fields
        signature := tagOf platform secret snapshot.fields (checkpointMetadata writer.env written)
        metadata := some (readMetadata (resolveMaxAgeSeconds writer.env) written) })) =
      .ok (bodyText snapshot.fields (checkpointMetadata writer.env written)) := by
    simp only [signedFields]
    rw [← reread_metadata small, canonicalize_body (fieldsFinite_reread snapshot.finite)
      (fieldsFinite_reread metadataFinite),
      bodyText_reread snapshot.distinct (metadata_distinct writer.env written)]
  have readerValid : resolveMaxAgeSeconds reader.env ≠ .invalid := sameAge ▸ valid
  have fresh := isFresh_iff valid (fun _ => resolveMaxAgeSeconds_safe) small inDates
  refine ⟨_, write_eq writes snapshot small, ?_, ?_⟩
  · intro within
    refine ⟨rereadFields snapshot.fields, ?_, ?_⟩
    · rw [read_eq reads]
      dsimp only
      rw [readContent_eq parsed readerValid body, sameAge, if_pos]
      exact ⟨safeHexCompare_self _, fresh.mpr within⟩
    · exact canonical_reread snapshot.distinct
  · intro outside
    rw [read_eq reads]
    dsimp only
    rw [readContent_eq parsed readerValid body, sameAge, if_neg]
    rintro ⟨-, current⟩
    exact outside (fresh.mp current)

/-! ### Altered files -/

/-- A write of the history signed the text. -/
def Signed (platform : Platform) (secret : JsString) (history : List WriteCall)
    (text : JsString) : Prop :=
  ∃ call ∈ history, Wrote platform secret call ∧
    canonicalizeJson (.obj (writtenBody call)) = .ok text

/-- The call wrote its file under the signature that this file carries. -/
def WrittenUnder (platform : Platform) (secret : JsString) (file : Fields) (call : WriteCall) :
    Prop :=
  Wrote platform secret call ∧ ∃ signature text, file.get (js "signature") = some (.str signature) ∧
    canonicalizeJson (.obj (writtenBody call)) = .ok text ∧
      safeHexCompare signature (platform.hmacSha256 secret text) = true

/-- The file has the payload and the metadata of the call. -/
def Holds (file : Fields) (call : WriteCall) : Prop :=
  ∃ payload metadata, file.get (js "payload") = some payload ∧
    file.get (js "metadata") = some metadata ∧ Json.Same payload (.obj call.snapshot) ∧
      Json.Same metadata (.obj (checkpointMetadata call.env call.now))

/-- The file differs from what was written under its signature, if anything was. -/
def Altered (platform : Platform) (secret : JsString) (history : List WriteCall) (file : Fields) :
    Prop :=
  (∃ call ∈ history, WrittenUnder platform secret file call ∧ ¬Holds file call) ∨
    ∀ call ∈ history, ¬WrittenUnder platform secret file call

/-- HMAC-SHA256 under the secret: a file that carries the signature of its own body
has a body that was signed, and signed texts have signatures of their own. -/
structure Unforgeable (platform : Platform) (secret : JsString) (history : List WriteCall)
    (raw : JsString) : Prop where
  signed : ∀ envelope text, parseEnvelope platform raw = .ok envelope →
    canonicalizeJson (.obj (signedFields envelope)) = .ok text →
      safeHexCompare envelope.signature (platform.hmacSha256 secret text) = true →
        Signed platform secret history text
  collisionFree : ∀ left right, Signed platform secret history left →
    Signed platform secret history right →
      platform.hmacSha256 secret left = platform.hmacSha256 secret right → left = right

/-- The properties of a file that was accepted as an envelope. -/
structure Carries (file : Fields) (envelope : IntegrityCheckpointEnvelope) (metadata : Fields) :
    Prop where
  payloadField : file.get (js "payload") = some (.obj envelope.payload)
  signatureField : file.get (js "signature") = some (.str envelope.signature)
  metadataField : file.get (js "metadata") = some (.obj metadata)
  valid : isValidCheckpointMetadata (.obj metadata) = true
  carried : envelope.metadata = some metadata

theorem asRecord_eq_some {value : Option Json} {fields : Fields}
    (record : asRecord value = some fields) : value = some (.obj fields) := by
  unfold asRecord at record
  split at record
  next => rw [Option.some.inj record]
  next => cases record

theorem carries_of_parse {file : Fields} {envelope : IntegrityCheckpointEnvelope}
    (object : platform.parseJson raw = .ok (.obj file))
    (hasMetadata : (asRecord (file.get (js "metadata"))).isSome)
    (parsed : parseEnvelope platform raw = .ok envelope) :
    ∃ metadata, Carries file envelope metadata := by
  obtain ⟨same, objectToo, isPayload, isSignature, isMetadata⟩ := parseEnvelope_eq_ok parsed
  rw [object] at objectToo
  obtain rfl : file = same := Json.obj.inj (Except.ok.inj objectToo)
  obtain ⟨metadata, record⟩ := Option.isSome_iff_exists.mp hasMetadata
  have found := asRecord_eq_some record
  refine ⟨metadata, ?_, ?_, found, ?_, ?_⟩
  · unfold envelopePayload at isPayload
    split at isPayload
    next => cases isPayload
    next payload present =>
      obtain rfl := Except.ok.inj isPayload
      exact asRecord_eq_some present
  · unfold envelopeSignature at isSignature
    split at isSignature
    next signature present =>
      split at isSignature
      next => cases isSignature
      next =>
        obtain rfl := Except.ok.inj isSignature
        exact present
    next => cases isSignature
  · unfold envelopeMetadata at isMetadata
    rw [found] at isMetadata
    by_contra invalid
    simp only [invalid] at isMetadata
    cases isMetadata
  · unfold envelopeMetadata at isMetadata
    rw [found] at isMetadata
    simp only at isMetadata
    split at isMetadata
    next => exact (Except.ok.inj isMetadata).symm
    next => cases isMetadata

theorem fieldsFinite_iff (fields : Fields) :
    fieldsFinite fields = true ↔ ∀ field ∈ fields, field.2.AllFinite = true := by
  induction fields with
  | nil => simp [fieldsFinite]
  | cons field rest inductionHypothesis =>
      obtain ⟨key, value⟩ := field
      simp [fieldsFinite, inductionHypothesis]

/-- Valid metadata has no infinities. -/
theorem finite_of_valid {metadata : Fields} (distinct : (Json.obj metadata).Distinct = true)
    (valid : isValidCheckpointMetadata (.obj metadata) = true) : fieldsFinite metadata = true := by
  have finite {value : Json} (timestamp : isTimestamp value = true) : value.AllFinite = true := by
    unfold isTimestamp at timestamp
    split at timestamp
    next => rfl
    next => cases timestamp
  have keys := ((distinct_obj_iff metadata).mp distinct).1
  unfold isValidCheckpointMetadata at valid
  simp only at valid
  split at valid
  next => cases valid
  next writtenAt start =>
    simp only [Bool.and_eq_true, List.all_eq_true, Bool.or_eq_true, beq_iff_eq] at valid
    obtain ⟨⟨known, startTime⟩, ends⟩ := valid
    rw [fieldsFinite_iff]
    intro field member
    have found := Fields.get_of_mem keys member
    rcases known field member with isStart | isEnd
    · rw [isStart, start, Option.some.injEq] at found
      exact found ▸ finite startTime
    · rw [isEnd] at found
      rw [found] at ends
      simp only [Bool.and_eq_true] at ends
      exact finite ends.1

/-- The body of an envelope that carries metadata. -/
theorem signedFields_eq {file metadata : Fields} {envelope : IntegrityCheckpointEnvelope}
    (carries : Carries file envelope metadata) :
    signedFields envelope = envelopeBody envelope.payload metadata := by
  rw [signedFields, carries.carried]

/-- Tags of equal bytes are equal. -/
theorem digest_unique (runtime : Runtime platform readNumeral) {signature left right : JsString}
    (first : safeHexCompare signature (platform.hmacSha256 secret left) = true)
    (second : safeHexCompare signature (platform.hmacSha256 secret right) = true) :
    platform.hmacSha256 secret left = platform.hmacSha256 secret right := by
  obtain ⟨bytes, -, small, digest⟩ := runtime.digest secret left
  obtain ⟨others, -, smallToo, digestToo⟩ := runtime.digest secret right
  simp only [safeHexCompare, Bool.and_eq_true, beq_iff_eq] at first second
  have same : bytes = others := by
    rw [← hexBuffer_bytesHex small, ← hexBuffer_bytesHex smallToo, ← digest, ← digestToo,
      ← first.2, ← second.2]
  rw [digest, digestToo, same]

/-- A file with the body of a call holds what the call wrote. -/
theorem holds_of_text {file metadata : Fields} {envelope : IntegrityCheckpointEnvelope}
    {call : WriteCall} {text : JsString} (carries : Carries file envelope metadata)
    (body : canonicalizeJson (.obj (signedFields envelope)) = .ok text)
    (written : canonicalizeJson (.obj (writtenBody call)) = .ok text) : Holds file call := by
  rw [signedFields_eq carries] at body
  have same : Json.Same (.obj (envelopeBody envelope.payload metadata))
      (.obj (envelopeBody call.snapshot (checkpointMetadata call.env call.now))) :=
    canonicalizeJson_unique body written
  refine ⟨_, _, carries.payloadField, carries.metadataField, ?_, ?_⟩
  · exact Option.some.inj (same.get (js "payload"))
  · exact Option.some.inj (same.get (js "metadata"))

/-- No altered file is accepted. -/
theorem altered_refused (runtime : Runtime platform readNumeral) {file metadata : Fields}
    {history : List WriteCall} {envelope : IntegrityCheckpointEnvelope} {text : JsString}
    (unforgeable : Unforgeable platform secret history raw)
    (altered : Altered platform secret history file)
    (parsed : parseEnvelope platform raw = .ok envelope) (carries : Carries file envelope metadata)
    (body : canonicalizeJson (.obj (signedFields envelope)) = .ok text) :
    ¬safeHexCompare envelope.signature (platform.hmacSha256 secret text) = true := by
  intro matched
  obtain ⟨call, member, wrote, written⟩ := unforgeable.signed envelope text parsed body matched
  have under : WrittenUnder platform secret file call :=
    ⟨wrote, envelope.signature, text, carries.signatureField, written, matched⟩
  rcases altered with ⟨other, otherMember, ⟨otherWrote, signature, otherText, found, otherWritten,
    otherMatched⟩, differs⟩ | nothing
  · rw [carries.signatureField, Option.some.injEq, Json.str.injEq] at found
    subst found
    have sameText : text = otherText :=
      unforgeable.collisionFree text otherText ⟨call, member, wrote, written⟩
        ⟨other, otherMember, otherWrote, otherWritten⟩ (digest_unique runtime matched otherMatched)
    exact differs (holds_of_text carries body (sameText ▸ otherWritten))
  · exact nothing call member under

/-- The payload of a file, if it is an envelope, has no infinite number. -/
def FinitePayload (platform : Platform) (raw : JsString) : Prop :=
  ∀ envelope, parseEnvelope platform raw = .ok envelope → fieldsFinite envelope.payload = true

theorem altered_read (runtime : Runtime platform readNumeral) {reader : Settings}
    (reads : reader.Uses path secret) (valid : resolveMaxAgeSeconds reader.env ≠ .invalid)
    {file : Fields} {history : List WriteCall} (object : platform.parseJson raw = .ok (.obj file))
    (hasMetadata : (asRecord (file.get (js "metadata"))).isSome)
    (unforgeable : Unforgeable platform secret history raw)
    (altered : Altered platform secret history file) :
    readIntegrityCheckpoint platform (reader.read raw now) = .ok none ↔
      FinitePayload platform raw := by
  rw [read_eq reads]
  cases parsed : parseEnvelope platform raw with
  | error refusal =>
      refine iff_of_true ?_ ?_
      · unfold readContent
        rw [parsed]
      · intro envelope accepted
        rw [parsed] at accepted
        cases accepted
  | ok envelope =>
      obtain ⟨metadata, carries⟩ := carries_of_parse object hasMetadata parsed
      have distinct : (Json.obj metadata).Distinct = true := by
        have whole := ((distinct_obj_iff file).mp (runtime.distinct raw _ object)).2
        exact whole _ (Fields.mem_of_get carries.metadataField)
      have metadataFinite := finite_of_valid distinct carries.valid
      have only : FinitePayload platform raw ↔ fieldsFinite envelope.payload = true := by
        unfold FinitePayload
        rw [parsed]
        simp
      rw [only]
      by_cases finite : fieldsFinite envelope.payload = true
      · have body := canonicalize_body finite metadataFinite
        rw [← signedFields_eq carries] at body
        refine iff_of_true ?_ finite
        rw [readContent_eq parsed valid body, if_neg]
        rintro ⟨matched, -⟩
        exact altered_refused runtime unforgeable altered parsed carries body matched
      · refine iff_of_false ?_ finite
        cases body : canonicalizeJson (.obj (signedFields envelope)) with
        | error refusal =>
            rw [readContent_throws parsed valid body]
            intro returned
            cases returned
        | ok text =>
            rw [signedFields_eq carries] at body
            have whole := (canonicalizeJson_eq_ok.mp body).1
            simp [envelopeBody, Json.AllFinite, fieldsFinite, finite] at whole

/-- A written checkpoint gives its snapshot back in exactly its window; an altered
file with a metadata object gives nothing exactly when its payload has no infinite
number. -/
theorem checkpoint_window_and_alteration (runtime : Runtime platform readNumeral)
    {writer reader : Settings} (writes : writer.Uses path secret) (reads : reader.Uses path secret)
    (sameAge : resolveMaxAgeSeconds reader.env = resolveMaxAgeSeconds writer.env)
    (valid : resolveMaxAgeSeconds writer.env ≠ .invalid) (snapshot : Snapshot)
    (small : written ≤ maxDate) (inDates : now ≤ maxDate)
    (readsBack : ReadsBack readNumeral
      (Json.obj (envelopeBody snapshot.fields (checkpointMetadata writer.env written))).numbers)
    {file : Fields} {history : List WriteCall} (object : platform.parseJson raw = .ok (.obj file))
    (hasMetadata : (asRecord (file.get (js "metadata"))).isSome)
    (unforgeable : Unforgeable platform secret history raw)
    (altered : Altered platform secret history file) :
    (∃ writtenFile, GivesBack platform writer reader snapshot written now writtenFile) ∧
      (readIntegrityCheckpoint platform (reader.read raw now) = .ok none ↔
        FinitePayload platform raw) := by
  have readerValid : resolveMaxAgeSeconds reader.env ≠ .invalid := sameAge ▸ valid
  exact ⟨gives_back runtime writes reads sameAge valid snapshot small inDates readsBack,
    altered_read runtime reads readerValid object hasMetadata unforgeable altered⟩

/-! ### An altered payload -/

def sampleSettings : Settings where
  env := fun _ => none
  path := some (js "checkpoint.json")
  secret := some (js "secret-123")

/-- `{"paused":false}`. -/
def pausedSnapshot : Snapshot where
  fields := [(js "paused", .bool false)]
  finite := rfl
  distinct := rfl

def sampleTime : Nat := 1700000000000

def sampleMetadata : Fields := [(js "writtenAt", .num (.ofInt sampleTime))]

def signedText : JsString := bodyText pausedSnapshot.fields sampleMetadata

/-- The HMAC-SHA256 of the signed text under `secret-123`. -/
def signedBytes : List Nat :=
    [221, 107, 131, 240, 74, 254, 23, 174, 165, 135, 17, 12, 2, 13, 207, 240, 35, 93, 160, 132,
    66, 145, 175, 55, 72, 220, 237, 153, 178, 12, 15, 163]

def readSample (text : JsString) : Option Number :=
  if text = js "1700000000000" then some (.ofInt sampleTime)
  else if text = js "1e999" then some (.infinity false)
  else none

/-- A platform that knows two numerals and one tag. -/
def pausedPlatform : Platform where
  parseJson := fun text =>
    match parse readSample text with
    | some value => .ok value
    | none => .error (js "Unexpected token")
  hmacSha256 := fun _ text =>
    bytesHex (if text = signedText then signedBytes else List.replicate 32 0)

/-- The written file with another value of `paused`. -/
def alteredRaw (value : String) : JsString :=
  js "\x7b\"algorithm\":\"hmac-sha256\",\"metadata\":\x7b\"writtenAt\":1700000000000\x7d," ++
    js "\"payload\":\x7b\"paused\":" ++ js value ++ js "\x7d,\"signature\":\"" ++
      bytesHex signedBytes ++ js "\"\x7d"

def alteredFile (value : Json) : Fields :=
  fileFields [(js "paused", value)] (bytesHex signedBytes) sampleMetadata

private theorem paused_runtime : Runtime pausedPlatform readSample where
  parses text value parsed := by
    simp only [pausedPlatform, parsed]
  distinct text value read := by
    simp only [pausedPlatform] at read
    split at read
    next result parsed =>
      obtain rfl := Except.ok.inj read
      exact parse_distinct parsed
    next => cases read
  digest key text := by
    refine ⟨_, ?_, ?_, rfl⟩
    · split <;> rfl
    · split
      next => decide
      next => decide

private theorem sample_uses : sampleSettings.Uses (js "checkpoint.json") (js "secret-123") :=
  ⟨rfl, rfl, rfl⟩

private theorem paused_parsed : pausedPlatform.parseJson (alteredRaw "true") =
    .ok (.obj (alteredFile (.bool true))) := by
  have parsed : parse readSample (alteredRaw "true") =
      some (.obj (alteredFile (.bool true))) := by decide +kernel
  exact paused_runtime.parses _ _ parsed

private theorem infinite_parsed : pausedPlatform.parseJson (alteredRaw "1e999") =
    .ok (.obj (alteredFile (.num (.infinity false)))) := by
  have parsed : parse readSample (alteredRaw "1e999") =
      some (.obj (alteredFile (.num (.infinity false)))) := by decide +kernel
  exact paused_runtime.parses _ _ parsed

private theorem paused_readsBack : ReadsBack readSample (Json.obj (envelopeBody
    pausedSnapshot.fields (checkpointMetadata sampleSettings.env sampleTime))).numbers := by
  have numbers : (Json.obj (envelopeBody pausedSnapshot.fields (checkpointMetadata
      sampleSettings.env sampleTime))).numbers = [⟨false, 17, 11, by decide⟩] := by
    decide +kernel
  intro decimal member
  rw [numbers, List.mem_singleton] at member
  subst member
  decide +kernel

/-- The one write of the paused snapshot. -/
def pausedWrite : WriteCall := sampleSettings.write pausedSnapshot.fields sampleTime

private theorem paused_wrote : Wrote pausedPlatform (js "secret-123") pausedWrite :=
  ⟨rfl, _, write_eq sample_uses pausedSnapshot (by decide)⟩

private theorem paused_text :
    canonicalizeJson (.obj (writtenBody pausedWrite)) = .ok signedText :=
  canonicalize_body pausedSnapshot.finite rfl

private theorem signed_iff {text : JsString} :
    Signed pausedPlatform (js "secret-123") [pausedWrite] text ↔ text = signedText := by
  constructor
  · rintro ⟨call, member, -, written⟩
    rw [List.mem_singleton.mp member, paused_text] at written
    exact (Except.ok.inj written).symm
  · rintro rfl
    exact ⟨pausedWrite, List.mem_singleton_self _, paused_wrote, paused_text⟩

private theorem tag_matches {text : JsString} (matched : safeHexCompare (bytesHex signedBytes)
    (pausedPlatform.hmacSha256 (js "secret-123") text) = true) : text = signedText := by
  by_contra different
  have tag : pausedPlatform.hmacSha256 (js "secret-123") text =
      bytesHex (List.replicate 32 0) := congrArg bytesHex (if_neg different)
  rw [tag] at matched
  exact absurd matched (by decide +kernel)

/-- A file under the one tag is unforged. -/
private theorem paused_unforgeable {value : Json}
    (object : pausedPlatform.parseJson raw = .ok (.obj (alteredFile value))) :
    Unforgeable pausedPlatform (js "secret-123") [pausedWrite] raw where
  signed envelope text parsed _ matched := by
    obtain ⟨file, objectToo, -, isSignature, -⟩ := parseEnvelope_eq_ok parsed
    rw [object] at objectToo
    obtain rfl := Json.obj.inj (Except.ok.inj objectToo)
    have signature : envelopeSignature (alteredFile value) = .ok (bytesHex signedBytes) := rfl
    rw [signature] at isSignature
    rw [← Except.ok.inj isSignature] at matched
    exact signed_iff.mpr (tag_matches matched)
  collisionFree left right leftSigned rightSigned _ := by
    rw [signed_iff.mp leftSigned, signed_iff.mp rightSigned]

/-- A file with another value than the written one is altered. -/
private theorem paused_altered {value : Json} (different : ¬Json.Same value (.bool false)) :
    Altered pausedPlatform (js "secret-123") [pausedWrite] (alteredFile value) := by
  have tag : pausedPlatform.hmacSha256 (js "secret-123") signedText = bytesHex signedBytes :=
    congrArg bytesHex (if_pos rfl)
  have matched : safeHexCompare (bytesHex signedBytes)
      (pausedPlatform.hmacSha256 (js "secret-123") signedText) = true := by
    rw [tag]
    exact safeHexCompare_self _
  refine Or.inl ⟨pausedWrite, List.mem_singleton_self _,
    ⟨paused_wrote, bytesHex signedBytes, signedText, rfl, paused_text, matched⟩, ?_⟩
  rintro ⟨payload, metadata, found, -, same, -⟩
  obtain rfl : Json.obj [(js "paused", value)] = payload := Option.some.inj found
  exact different (Option.some.inj (same.get (js "paused")))

theorem paused_checkpoint_window :
    (∃ writtenFile, GivesBack pausedPlatform sampleSettings sampleSettings pausedSnapshot
        sampleTime sampleTime writtenFile) ∧
      (readIntegrityCheckpoint pausedPlatform (sampleSettings.read (alteredRaw "true") sampleTime) =
          .ok none ↔
        FinitePayload pausedPlatform (alteredRaw "true")) :=
  checkpoint_window_and_alteration paused_runtime sample_uses sample_uses rfl (by decide)
    pausedSnapshot (by decide) (by decide) paused_readsBack paused_parsed rfl
    (paused_unforgeable paused_parsed) (paused_altered (by decide))

/-- An altered payload that holds an infinite number is not read as no checkpoint. -/
theorem infinite_payload_throws :
    ¬∀ (raw : JsString) (file : Fields) (history : List WriteCall),
      pausedPlatform.parseJson raw = .ok (.obj file) →
      (asRecord (file.get (js "metadata"))).isSome →
      Unforgeable pausedPlatform (js "secret-123") history raw →
      Altered pausedPlatform (js "secret-123") history file →
      readIntegrityCheckpoint pausedPlatform (sampleSettings.read raw sampleTime) = .ok none := by
  intro claimed
  have returned := claimed (alteredRaw "1e999") (alteredFile (.num (.infinity false)))
    [pausedWrite] infinite_parsed rfl (paused_unforgeable infinite_parsed)
    (paused_altered (by decide))
  have accepted : parseEnvelope pausedPlatform (alteredRaw "1e999") = .ok
      { payload := [(js "paused", .num (.infinity false))]
        signature := bytesHex signedBytes
        metadata := some sampleMetadata } :=
    parseEnvelope_eq infinite_parsed (by decide +kernel) rfl
  rw [read_eq sample_uses, readContent_throws accepted (by decide) rfl] at returned
  cases returned

end DarkmeshGateway.Gateway.CheckpointWindow
