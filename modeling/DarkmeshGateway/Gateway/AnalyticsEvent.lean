import DarkmeshGateway.Foundation.Js.Double
import DarkmeshGateway.Foundation.Js.Parse

/-!
Contract: the envelope of an analytics event.

Owns the values of a payload, the normalisation of an event's tags and metadata
with their keys trimmed and cut, its name and its timestamp.

The texts that the engine makes of values and of dates are parameters.

Does not own the policy that an event is checked against.
-/

namespace DarkmeshGateway.Gateway.AnalyticsEvent

open Foundation.Js

/-! ### Values -/

/-- A value of a payload. A record holds its own enumerable properties in the
order of `Object.entries`; a date holds its time, `NaN` when it is invalid. -/
inductive Raw where
  | undefined
  | null
  | bool (value : Bool)
  | number (value : Number)
  | bigint (value : Int)
  | text (value : JsString)
  | date (time : Number)
  | array (elements : List Raw)
  | record (fields : List (JsString × Raw))
  | callable

/-- The key is one of an object at some depth inside the value. -/
inductive Raw.HasKey : Raw → JsString → Prop
  | own {fields : List (JsString × Raw)} {key : JsString} {value : Raw}
      (held : (key, value) ∈ fields) : HasKey (.record fields) key
  | field {fields : List (JsString × Raw)} {name key : JsString} {value : Raw}
      (held : (name, value) ∈ fields) (below : HasKey value key) : HasKey (.record fields) key
  | element {elements : List Raw} {key : JsString} {value : Raw} (held : value ∈ elements)
      (below : HasKey value key) : HasKey (.array elements) key

/-- `JSON.stringify` (`none` is `undefined` or an error), `String` (`none` is a
`TypeError`), `Date.parse` (`none` is `NaN`), `toISOString` of a time (`none` is
a `RangeError`), and `Date.now`. -/
structure Platform where
  stringify : Raw → Option JsString
  string : Raw → Option JsString
  dateParse : JsString → Option Int
  toISOString : Number → Option JsString
  now : Int

/-- The entries of a value that `isRecord` accepts, and none of another. -/
def Raw.entries : Raw → List (JsString × Raw)
  | .record fields => fields
  | _ => []

def Raw.isRecord : Raw → Bool
  | .record _ => true
  | .date _ => true
  | _ => false

/-- `value[key]` of a record. -/
def Raw.read (value : Raw) (key : String) : Raw :=
  (value.entries.lookup (js key)).getD .undefined

/-! ### Fields -/

/-- An absent option stands for one that is not a number. -/
def clampInteger (value : Option Number) (fallback min max : Int) : Int :=
  let numeric := match value with
    | some (.finite decimal) => ⌊decimal.toRat⌋
    | _ => fallback
  if numeric < min then min else if numeric > max then max else numeric

def truncate (value : JsString) (maxLength : Int) : JsString := value.take maxLength.toNat

def safeStringify (platform : Platform) (value : Raw) : Option JsString := platform.stringify value

/-- `value.toString()` of a `bigint`. -/
def bigintText (value : Int) : JsString :=
  if value < 0 then 45 :: decimalDigits value.natAbs else decimalDigits value.natAbs

/-- The primitive that a value is normalised to; `none` is a thrown error. -/
def normalizeFieldValue (platform : Platform) (value : Raw) (maxValueLength : Int) : Option Json :=
  match value with
  | .null => some .null
  | .text value => some (.str (truncate value maxValueLength))
  | .number value =>
      some (if value.isFinite then .num value else .str (truncate value.toString maxValueLength))
  | .bool value => some (.bool value)
  | .date time =>
      if time.isFinite then (platform.toISOString time).map .str else some .null
  | .bigint value => some (.str (truncate (bigintText value) maxValueLength))
  | value =>
      match safeStringify platform value with
      | some serialized => some (.str (truncate serialized maxValueLength))
      | none => (platform.string value).map fun text => .str (truncate text maxValueLength)

structure AnalyticsEventNormalizationOptions where
  /-- The number given, or the finite number that the function given computed. -/
  now : Option Number := none
  maxFieldKeyLength : Option Number := none
  maxFieldValueLength : Option Number := none

def AnalyticsEventNormalizationOptions.maxKeyLength (options : AnalyticsEventNormalizationOptions) :
    Int :=
  clampInteger options.maxFieldKeyLength 64 1 256

def AnalyticsEventNormalizationOptions.maxValueLength
    (options : AnalyticsEventNormalizationOptions) : Int :=
  clampInteger options.maxFieldValueLength 256 1 4096

/-- The object that is filled, and whether its prototype is gone. -/
structure Target where
  own : Fields
  bare : Bool

/-- `target[key] = value` of a primitive: the `__proto__` setter takes `null` as
the prototype and ignores another. -/
def Target.assign (target : Target) (key : JsString) (value : Json) : Target :=
  if key = js "__proto__" ∧ target.bare = false then
    match value with
    | .null => { target with bare := true }
    | _ => target
  else { target with own := target.own.set key value }

/-- One turn of the loop: a key that is empty once trimmed is left out. -/
def normalizeField (platform : Platform) (options : AnalyticsEventNormalizationOptions)
    (target : Target) (entry : JsString × Raw) : Option Target :=
  let key := truncate (trim entry.1) options.maxKeyLength
  if key = [] then some target
  else (normalizeFieldValue platform entry.2 options.maxValueLength).map (target.assign key)

/-- The fields in the order of `Object.keys`. -/
def normalizeAnalyticsFields (platform : Platform) (options : AnalyticsEventNormalizationOptions)
    (input : Raw) : Option Fields :=
  (input.entries.foldlM (normalizeField platform options) ⟨[], false⟩).map fun target =>
    orderKeys target.own

/-! ### Envelopes -/

structure NormalizedAnalyticsEvent where
  name : JsString
  timestamp : JsString
  tags : Fields
  metadata : Fields
deriving DecidableEq

def NormalizedAnalyticsEvent.toJson (event : NormalizedAnalyticsEvent) : Json :=
  .obj [(js "name", .str event.name), (js "timestamp", .str event.timestamp),
    (js "tags", .obj event.tags), (js "metadata", .obj event.metadata)]

def resolveNow (platform : Platform) (now : Option Number) : Number :=
  (now.filter Number.isFinite).getD (.ofInt platform.now)

def normalizeTimestampMillis (platform : Platform) : Raw → Option Number
  | .date time => if time.isFinite then some time else none
  | .number value => if value.isFinite then some value else none
  | .text value => if trim value = [] then none else (platform.dateParse value).map .ofInt
  | _ => none

def normalizeAnalyticsTimestamp (platform : Platform) (value : Raw) (now : Option Number) :
    Option JsString :=
  platform.toISOString ((normalizeTimestampMillis platform value).getD (resolveNow platform now))

def resolveEventName (payload : Raw) : Option JsString :=
  let candidate := match payload.read "event" with
    | .text event => event
    | _ =>
        match payload.read "name" with
        | .text name => name
        | _ => []
  if trim candidate = [] then none else some (trim candidate)

def isNameUnit (unit : CodeUnit) : Bool :=
  (97 ≤ unit.toNat && unit.toNat ≤ 122) || isDigit unit

/-- `/^[a-z0-9][a-z0-9._:-]*$/`. -/
def isValidAnalyticsEventName : JsString → Bool
  | [] => false
  | first :: rest =>
      isNameUnit first &&
        rest.all fun unit => isNameUnit unit || unit == 46 || unit == 95 || unit == 58 || unit == 45

/-- `payload.timestamp`, or else `payload.ts`, or else `payload.time`. -/
def timestampSource (payload : Raw) : Raw :=
  match payload.read "timestamp" with
  | .undefined =>
      match payload.read "ts" with
      | .undefined => payload.read "time"
      | found => found
  | found => found

/-- `none` is a thrown error. -/
def parseAnalyticsEventEnvelope (platform : Platform) (payload : Raw)
    (options : AnalyticsEventNormalizationOptions) :
    Option (Except JsString NormalizedAnalyticsEvent) :=
  if !payload.isRecord then some (.error (js "payload must be an object"))
  else
    match resolveEventName payload with
    | none => some (.error (js "event name is required"))
    | some name =>
        if !isValidAnalyticsEventName name then
          some (.error (js "event name must be lowercase and use [a-z0-9._:-]"))
        else do
          let timestamp ← normalizeAnalyticsTimestamp platform (timestampSource payload) options.now
          let tags ← normalizeAnalyticsFields platform options (payload.read "tags")
          let metadata ← normalizeAnalyticsFields platform options (payload.read "metadata")
          return .ok { name, timestamp, tags, metadata }

/-! ### The keys of the fields -/

theorem mem_keys_orderKeys (fields : Fields) (key : JsString) :
    key ∈ (orderKeys fields).map Prod.fst ↔ key ∈ fields.map Prod.fst :=
  ((orderKeys_perm fields).map Prod.fst).mem_iff

/-- The key an entry is stored under. -/
def storedKey (options : AnalyticsEventNormalizationOptions) (rawKey : JsString) : JsString :=
  truncate (trim rawKey) options.maxKeyLength

/-- An assignment keeps the keys, and adds its own unless it is the setter's. -/
theorem Target.mem_keys_assign (target : Target) {key name : JsString} (value : Json)
    (kept : name ∈ target.own.map Prod.fst ∨ (name = key ∧ key ≠ js "__proto__")) :
    name ∈ (target.assign key value).own.map Prod.fst := by
  unfold Target.assign
  split
  next setter =>
    have held : name ∈ target.own.map Prod.fst := by
      rcases kept with held | ⟨-, plain⟩
      · exact held
      · exact absurd setter.1 plain
    split
    next => exact held
    next => exact held
  next =>
    show name ∈ (target.own.set key value).map Prod.fst
    rw [Fields.keys_set]
    split
    next present =>
      rcases kept with held | ⟨rfl, -⟩
      · exact held
      · exact present
    next =>
      apply List.mem_append.mpr
      rcases kept with held | ⟨rfl, -⟩
      · exact .inl held
      · exact .inr (List.mem_singleton_self _)

/-- One turn keeps the keys, and adds the one that its entry is stored under. -/
theorem mem_keys_normalizeField {platform : Platform}
    {options : AnalyticsEventNormalizationOptions} {target next : Target}
    {entry : JsString × Raw} (turned : normalizeField platform options target entry = some next)
    {name : JsString}
    (kept : name ∈ target.own.map Prod.fst ∨
      (name = storedKey options entry.1 ∧ name ≠ [] ∧ name ≠ js "__proto__")) :
    name ∈ next.own.map Prod.fst := by
  unfold normalizeField at turned
  simp only at turned
  split at turned
  next empty =>
    obtain rfl := Option.some.inj turned
    rcases kept with held | ⟨isKey, nonempty, -⟩
    · exact held
    · exact absurd (isKey.trans empty) nonempty
  next =>
    obtain ⟨value, -, rfl⟩ := Option.map_eq_some_iff.mp turned
    apply Target.mem_keys_assign
    rcases kept with held | ⟨rfl, -, plain⟩
    · exact .inl held
    · exact .inr ⟨rfl, plain⟩

theorem mem_keys_normalizeFields {platform : Platform}
    {options : AnalyticsEventNormalizationOptions} {entries : List (JsString × Raw)}
    {target final : Target}
    (filled : entries.foldlM (normalizeField platform options) target = some final)
    {name : JsString}
    (kept : name ∈ target.own.map Prod.fst ∨
      ((∃ entry ∈ entries, name = storedKey options entry.1) ∧ name ≠ [] ∧
        name ≠ js "__proto__")) :
    name ∈ final.own.map Prod.fst := by
  induction entries generalizing target with
  | nil =>
      obtain rfl := Option.some.inj filled
      rcases kept with held | ⟨⟨entry, impossible, -⟩, -⟩
      · exact held
      · cases impossible
  | cons entry rest inductionHypothesis =>
      rw [List.foldlM_cons] at filled
      obtain ⟨next, turned, remaining⟩ := Option.bind_eq_some_iff.mp filled
      apply inductionHypothesis remaining
      rcases kept with held | ⟨⟨source, member, isKey⟩, nonempty, plain⟩
      · exact .inl (mem_keys_normalizeField turned (.inl held))
      · rcases List.mem_cons.mp member with rfl | later
        · exact .inl (mem_keys_normalizeField turned (.inr ⟨isKey, nonempty, plain⟩))
        · exact .inr ⟨⟨source, later, isKey⟩, nonempty, plain⟩

/-- Every entry is stored under its trimmed and cut key, but for an empty key
and the setter's. -/
theorem storedKey_mem {platform : Platform} {options : AnalyticsEventNormalizationOptions}
    {input : Raw} {fields : Fields}
    (normalized : normalizeAnalyticsFields platform options input = some fields)
    {entry : JsString × Raw} (member : entry ∈ input.entries)
    (nonempty : storedKey options entry.1 ≠ [])
    (plain : storedKey options entry.1 ≠ js "__proto__") :
    storedKey options entry.1 ∈ fields.map Prod.fst := by
  obtain ⟨target, filled, rfl⟩ := Option.map_eq_some_iff.mp normalized
  rw [mem_keys_orderKeys]
  exact mem_keys_normalizeFields filled (.inr ⟨⟨entry, member, rfl⟩, nonempty, plain⟩)

/-- What an accepted envelope is made of. -/
structure Enveloped (platform : Platform) (payload : Raw)
    (options : AnalyticsEventNormalizationOptions) (event : NormalizedAnalyticsEvent) : Prop where
  tags : normalizeAnalyticsFields platform options (payload.read "tags") = some event.tags
  metadata : normalizeAnalyticsFields platform options (payload.read "metadata") =
    some event.metadata

theorem enveloped {platform : Platform} {payload : Raw}
    {options : AnalyticsEventNormalizationOptions} {event : NormalizedAnalyticsEvent}
    (parsed : parseAnalyticsEventEnvelope platform payload options = some (.ok event)) :
    Enveloped platform payload options event := by
  unfold parseAnalyticsEventEnvelope at parsed
  split at parsed
  next => cases parsed
  next =>
    split at parsed
    next => cases parsed
    next =>
      split at parsed
      next => cases parsed
      next =>
        obtain ⟨timestamp, -, afterTime⟩ := Option.bind_eq_some_iff.mp parsed
        obtain ⟨tags, tagged, afterTags⟩ := Option.bind_eq_some_iff.mp afterTime
        obtain ⟨metadata, described, made⟩ := Option.bind_eq_some_iff.mp afterTags
        obtain rfl := Except.ok.inj (Option.some.inj made)
        exact ⟨tagged, described⟩

end DarkmeshGateway.Gateway.AnalyticsEvent
