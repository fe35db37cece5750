import Mathlib.Logic.Function.Basic
import DarkmeshGateway.Foundation.Js.Double
import DarkmeshGateway.Foundation.Outcome

/-!
Contract: the records of the domain map.

Owns the fields of an entry, the normalisation of its host, the JSON record it
is persisted as, and the reading of an arbitrary persisted record, which
normalises the host of the record twice.

A persisted text is represented by the JSON value it denotes.

Does not own the transitions of an entry or the store's failures.
-/

namespace DarkmeshGateway.AsyncWorker.DomainMap

open Foundation.Js
open Foundation.Outcome

/-! ### Entries -/

inductive DomainMapStatus where
  | valid
  | stale
  | invalid
deriving DecidableEq

structure DomainMapError where
  code : JsString
  message : JsString
  at_ : Number
deriving DecidableEq

structure DomainMapEntry where
  schemaVersion : Nat
  host : JsString
  status : DomainMapStatus
  cfgTx : Option JsString
  resolvedTarget : Option JsString
  writeProcess : Option JsString
  configHash : Option JsString
  verifiedAt : Option Number
  expiresAt : Option Number
  hbVerifiedAt : Option Number
  hardExpiresAt : Option Number
  lastError : Option DomainMapError
  lastSuccessAt : Option Number
  lastErrorAt : Option Number
  lastErrorCode : Option JsString
  refreshAttempts : Nat
  updatedAt : Number
deriving DecidableEq

def domainMapSchemaVersion : Nat := 2

def domainMapFallbackHost : JsString := js "invalid.local"

/-- `text.replace(/\.$/, '')`. -/
def dropFinalDot (text : JsString) : JsString :=
  if text.getLast? = some 46 then text.dropLast else text

/-- `none` is the error `domain_host_required`. -/
def normalizeDomainHost (host : JsString) : Option JsString :=
  let normalized := dropFinalDot (toLowerCase (trim host))
  if normalized = [] then none else some normalized

def domainMapKey (host : JsString) : Option JsString :=
  (normalizeDomainHost host).map (js "domain:" ++ ·)

theorem dropFinalDot_sublist (text : JsString) : (dropFinalDot text).Sublist text := by
  unfold dropFinalDot
  split
  next => exact List.dropLast_sublist text
  next => exact List.Sublist.refl text

/-- The normal form of a normal form is what is left of it. -/
theorem normalizeDomainHost_sublist {host domain again : JsString}
    (normal : normalizeDomainHost host = some domain)
    (normalAgain : normalizeDomainHost domain = some again) : again.Sublist domain := by
  simp only [normalizeDomainHost, Option.ite_none_left_eq_some, Option.some.injEq]
    at normal normalAgain
  obtain ⟨-, isDomain⟩ := normal
  obtain ⟨-, isAgain⟩ := normalAgain
  have lower : toLowerCase (trim domain) = trim domain := by
    apply toLowerCase_of_units
    intro unit member
    have inDomain := (trim_sublist domain).mem member
    rw [← isDomain] at inDomain
    exact lowerUnit_of_mem_toLowerCase ((dropFinalDot_sublist _).mem inDomain)
  rw [← isAgain, lower]
  exact (dropFinalDot_sublist _).trans (trim_sublist domain)

/-- So a host that two steps lead back to is its own normal form. -/
theorem normalizeDomainHost_cycle {host domain : JsString}
    (normal : normalizeDomainHost host = some domain)
    (back : normalizeDomainHost domain = some host) : domain = host := by
  have left := normalizeDomainHost_sublist normal back
  have right := normalizeDomainHost_sublist back normal
  exact right.eq_of_length (le_antisymm right.length_le left.length_le)

def emptyEntry (host : JsString) (nowMs : Int) : DomainMapEntry where
  schemaVersion := domainMapSchemaVersion
  host := host
  status := .invalid
  cfgTx := none
  resolvedTarget := none
  writeProcess := none
  configHash := none
  verifiedAt := none
  expiresAt := none
  hbVerifiedAt := none
  hardExpiresAt := none
  lastError := none
  lastSuccessAt := none
  lastErrorAt := none
  lastErrorCode := none
  refreshAttempts := 0
  updatedAt := .ofInt nowMs

def createEmptyDomainMapEntry (host : JsString) (nowMs : Int) : Option DomainMapEntry :=
  (normalizeDomainHost host).map (emptyEntry · nowMs)

/-! ### Persisted records -/

def optionalText (value : Option JsString) : Json := value.elim .null .str

def optionalNumber (value : Option Number) : Json := value.elim .null .num

def DomainMapStatus.name : DomainMapStatus → JsString
  | .valid => js "valid"
  | .stale => js "stale"
  | .invalid => js "invalid"

def DomainMapError.toJson (error : DomainMapError) : Json :=
  .obj [(js "code", .str error.code), (js "message", .str error.message),
    (js "at", .num error.at_)]

/-- The object `JSON.stringify(entry)` prints. -/
def DomainMapEntry.toFields (entry : DomainMapEntry) : Fields :=
  [(js "schemaVersion", .num (.ofInt entry.schemaVersion)), (js "host", .str entry.host),
    (js "status", .str entry.status.name), (js "cfgTx", optionalText entry.cfgTx),
    (js "resolvedTarget", optionalText entry.resolvedTarget),
    (js "writeProcess", optionalText entry.writeProcess),
    (js "configHash", optionalText entry.configHash),
    (js "verifiedAt", optionalNumber entry.verifiedAt),
    (js "expiresAt", optionalNumber entry.expiresAt),
    (js "hbVerifiedAt", optionalNumber entry.hbVerifiedAt),
    (js "hardExpiresAt", optionalNumber entry.hardExpiresAt),
    (js "lastError", entry.lastError.elim .null DomainMapError.toJson),
    (js "lastSuccessAt", optionalNumber entry.lastSuccessAt),
    (js "lastErrorAt", optionalNumber entry.lastErrorAt),
    (js "lastErrorCode", optionalText entry.lastErrorCode),
    (js "refreshAttempts", .num (.ofInt entry.refreshAttempts)),
    (js "updatedAt", .num entry.updatedAt)]

def asNullableString : Option Json → Option JsString
  | some (.str value) => some value
  | _ => none

def asNullableNumber : Option Json → Option Number
  | some (.num (.finite decimal)) => some (.finite decimal)
  | _ => none

/-- `Math.floor` of a finite non-negative number. -/
def asNonNegativeInt : Option Json → Option Nat
  | some (.num (.finite decimal)) =>
      if decimal.negative ∧ decimal.coefficient ≠ 0 then none else some decimal.trunc.toNat
  | _ => none

def asStatus : Option Json → DomainMapStatus
  | some (.str value) =>
      if value = js "valid" then .valid else if value = js "stale" then .stale else .invalid
  | _ => .invalid

def safeNormalizeDomainHost (host : Option Json) (hostHint : JsString) : JsString :=
  let candidate := (asNullableString host).getD hostHint
  (normalizeDomainHost candidate).getD domainMapFallbackHost

def parseDomainMapError (value : Option Json) (nowMs : Int) : Option DomainMapError :=
  match value with
  | some (.obj fields) => some {
      code := (asNullableString (Fields.get fields (js "code"))).getD (js "error")
      message := (asNullableString (Fields.get fields (js "message"))).getD (js "unknown_error")
      at_ := (asNullableNumber (Fields.get fields (js "at"))).getD (.ofInt nowMs) }
  | _ => none

/-- The host hint is normalised without a fallback, so the entry may be refused. -/
def makeCorruptedDomainMapEntry (hostHint : JsString) (nowMs : Int) (code message : JsString) :
    Option DomainMapEntry :=
  (createEmptyDomainMapEntry hostHint nowMs).map fun entry =>
    { entry with
      lastError := some ⟨code, message, .ofInt nowMs⟩
      lastErrorAt := some (.ofInt nowMs)
      lastErrorCode := some code }

/-- An entry with the fields of a record. -/
def migratedEntry (parsed : Fields) (version : Nat) (nowMs : Int) (entry : DomainMapEntry) :
    DomainMapEntry :=
  let verifiedAt := asNullableNumber (parsed.get (js "verifiedAt"))
  let lastError := parseDomainMapError (parsed.get (js "lastError")) nowMs
  let lastSuccessAt := asNullableNumber (parsed.get (js "lastSuccessAt"))
  { entry with
    schemaVersion := domainMapSchemaVersion
    status := asStatus (parsed.get (js "status"))
    cfgTx := asNullableString (parsed.get (js "cfgTx"))
    resolvedTarget := asNullableString (parsed.get (js "resolvedTarget"))
    writeProcess := asNullableString (parsed.get (js "writeProcess"))
    configHash := asNullableString (parsed.get (js "configHash"))
    verifiedAt
    expiresAt := asNullableNumber (parsed.get (js "expiresAt"))
    hbVerifiedAt := asNullableNumber (parsed.get (js "hbVerifiedAt"))
    hardExpiresAt := asNullableNumber (parsed.get (js "hardExpiresAt"))
    lastError
    -- Records before version 2 can miss the audit fields.
    lastSuccessAt := if version ≤ 1 then lastSuccessAt.or verifiedAt else lastSuccessAt
    lastErrorAt := (asNullableNumber (parsed.get (js "lastErrorAt"))).or
      (lastError.map DomainMapError.at_)
    lastErrorCode := (asNullableString (parsed.get (js "lastErrorCode"))).or
      (lastError.map DomainMapError.code)
    refreshAttempts := (asNonNegativeInt (parsed.get (js "refreshAttempts"))).getD 0
    updatedAt := (asNullableNumber (parsed.get (js "updatedAt"))).getD (.ofInt nowMs) }

/-- The host is normalised once more when the entry is created, and may be
refused then. -/
def migratePersistedRecord (parsed : Fields) (version : Nat) (hostHint : JsString) (nowMs : Int) :
    Option DomainMapEntry :=
  (createEmptyDomainMapEntry (safeNormalizeDomainHost (parsed.get (js "host")) hostHint) nowMs).map
    (migratedEntry parsed version nowMs)

/-- A persisted text: the value it denotes, or a text that is not JSON. -/
inductive Persisted where
  | json (value : Json)
  | corrupt

def parseDomainMapEntry (raw : Persisted) (hostHint : JsString) (nowMs : Int) :
    Option DomainMapEntry :=
  match raw with
  | .corrupt =>
      makeCorruptedDomainMapEntry hostHint nowMs (js "corrupt_json")
        (js "Failed to parse persisted domain record JSON.")
  | .json (.obj parsed) =>
      let version := match Fields.get parsed (js "schemaVersion") with
        | none => some 0
        | some versionRaw => asNonNegativeInt (some versionRaw)
      match version with
      | none =>
          makeCorruptedDomainMapEntry hostHint nowMs (js "invalid_schema_version")
            (js "Persisted domain record has invalid schemaVersion.")
      | some version =>
          if version > domainMapSchemaVersion then
            makeCorruptedDomainMapEntry
              (safeNormalizeDomainHost (Fields.get parsed (js "host")) hostHint) nowMs
              (js "unsupported_schema_version")
              (js "Persisted domain record schemaVersion " ++ (Number.ofInt version).toString ++
                js " is newer than supported 2.")
          else migratePersistedRecord parsed version hostHint nowMs
  | .json _ =>
      makeCorruptedDomainMapEntry hostHint nowMs (js "invalid_shape")
        (js "Persisted domain record is not an object.")

/-! ### The store -/

/-- The map from keys to persisted texts. An empty text counts as absent. -/
abbrev Store := JsString → Option Persisted

def Store.empty : Store := fun _ => none

/-- `getDomainMapEntry`; the outer `none` is a thrown error. -/
def getDomainMapEntry (store : Store) (host : JsString) (nowMs : Int) :
    Option (Option DomainMapEntry) := do
  let key ← domainMapKey host
  match store key with
  | none => return none
  | some raw => return some (← parseDomainMapEntry raw host nowMs)

/-- The store after an entry was put under its key. -/
def Store.put (store : Store) (key : JsString) (entry : DomainMapEntry) : Store :=
  Function.update store key (some (.json (.obj entry.toFields)))

/-! ### Reading back -/

/-- A record of the current version is read field by field. -/
theorem parse_toFields {entry : DomainMapEntry} (version : entry.schemaVersion = 2)
    (hostHint : JsString) (nowMs : Int) :
    parseDomainMapEntry (.json (.obj entry.toFields)) hostHint nowMs =
      migratePersistedRecord entry.toFields 2 hostHint nowMs := by
  have written : Fields.get entry.toFields (js "schemaVersion") = some (.num (.ofInt 2)) := by
    rw [← Nat.cast_ofNat, ← version]
    rfl
  have current : asNonNegativeInt (some (.num (.ofInt 2))) = some 2 := by decide
  simp only [parseDomainMapEntry, written, current]
  rfl

private theorem asNullableString_optionalText (value : Option JsString) :
    asNullableString (some (optionalText value)) = value := by
  cases value <;> rfl

/-- The routing fields of a record survive being written and read. -/
theorem migrated_routing (entry : DomainMapEntry) (version : Nat) (nowMs : Int)
    (created : DomainMapEntry) :
    let read := migratedEntry entry.toFields version nowMs created
    read.cfgTx = entry.cfgTx ∧ read.resolvedTarget = entry.resolvedTarget ∧
      read.writeProcess = entry.writeProcess ∧ read.configHash = entry.configHash :=
  ⟨asNullableString_optionalText _, asNullableString_optionalText _,
    asNullableString_optionalText _, asNullableString_optionalText _⟩

/-- So does a time that is finite. -/
theorem asNullableNumber_optionalNumber {value : Option Number}
    (finite : ∀ number ∈ value, number.isFinite = true) :
    asNullableNumber (some (optionalNumber value)) = value := by
  cases value with
  | none => rfl
  | some number =>
      cases number with
      | finite decimal => rfl
      | nan => simp [Number.isFinite] at finite
      | infinity negative => simp [Number.isFinite] at finite

/-- A record with a host that is already normal is migrated to an entry of it. -/
theorem migrate_normal {record : Fields} {hostHint host : JsString}
    (safe : safeNormalizeDomainHost (record.get (js "host")) hostHint = host)
    (normal : normalizeDomainHost host = some host) (version : Nat) (nowMs : Int) :
    migratePersistedRecord record version hostHint nowMs =
      some (migratedEntry record version nowMs (emptyEntry host nowMs)) := by
  rw [migratePersistedRecord, safe, createEmptyDomainMapEntry, normal, Option.map_some,
    Option.map_some]

/-- So is the record of an entry of such a host. -/
theorem migrate_toFields {entry : DomainMapEntry}
    (normal : normalizeDomainHost entry.host = some entry.host) (version : Nat)
    (hostHint : JsString) (nowMs : Int) :
    migratePersistedRecord entry.toFields version hostHint nowMs =
      some (migratedEntry entry.toFields version nowMs (emptyEntry entry.host nowMs)) := by
  have safe : safeNormalizeDomainHost (Fields.get entry.toFields (js "host")) hostHint =
      entry.host := by
    change (normalizeDomainHost entry.host).getD domainMapFallbackHost = entry.host
    rw [normal, Option.getD_some]
  exact migrate_normal safe normal version nowMs

end DarkmeshGateway.AsyncWorker.DomainMap
