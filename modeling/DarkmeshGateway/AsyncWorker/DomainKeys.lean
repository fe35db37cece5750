import DarkmeshGateway.AsyncWorker.DomainText

/-!
Contract: the keys of the domain map.

Owns the store of texts with its reads, writes and deletes, the update of the
status metadata of a host, and the hosts whose entries are found again under
the host they were stored for.

The number of a numeral is a parameter. A theorem assumes that it reads back the
numerals of the entry that is stored.

Does not own the text of an entry.
-/

namespace DarkmeshGateway.AsyncWorker.DomainKeys

open Foundation.Js
open AsyncWorker.DomainMap
open AsyncWorker.DomainText

/-! ### The store -/

/-- The texts of the store, by key. -/
abbrev Texts := JsString → Option JsString

/-- An entry as an object, whose count of attempts may be any number. -/
structure Draft where
  entry : DomainMapEntry
  refreshAttempts : Number
deriving DecidableEq

def Draft.ofEntry (entry : DomainMapEntry) : Draft := ⟨entry, .ofInt entry.refreshAttempts⟩

def Draft.toFields (draft : Draft) : Fields := countedFields draft.entry draft.refreshAttempts

/-- The object is the entry. -/
def Draft.Is (draft : Draft) (entry : DomainMapEntry) : Prop :=
  entry = { draft.entry with refreshAttempts := entry.refreshAttempts } ∧
    draft.refreshAttempts = .ofInt entry.refreshAttempts

/-- `none` is a thrown error. -/
def putDomainMapEntry (texts : Texts) (draft : Draft) : Option Texts :=
  (domainMapKey draft.entry.host).map fun key =>
    Function.update texts key (some (Json.obj draft.toFields).stringify)

def deleteDomainMapEntry (texts : Texts) (host : JsString) : Option Texts :=
  (domainMapKey host).map fun key => Function.update texts key none

section

variable (readNumeral : JsString → Option Number)

/-- The records of the texts. An empty text counts as absent. -/
def records (texts : Texts) : Store :=
  fun key => ((texts key).filter (· ≠ [])).map (persisted readNumeral)

/-! ### Updates -/

/-- A property of a patch that is present may still be `null` or `undefined`. -/
structure DomainStatusMetadataPatch where
  status : Option (Option DomainMapStatus) := none
  verifiedAt : Option (Option Number) := none
  expiresAt : Option (Option Number) := none
  hbVerifiedAt : Option (Option Number) := none
  hardExpiresAt : Option (Option Number) := none
  lastError : Option (Option DomainMapError) := none
  lastSuccessAt : Option (Option Number) := none
  lastErrorAt : Option (Option Number) := none
  lastErrorCode : Option (Option JsString) := none
  refreshAttempts : Option (Option Number) := none
  nowMs : Option Number := none

/-- `if (key in patch) next[key] = patch[key] ?? null`. -/
def patched {α : Type*} (change : Option (Option α)) (held : Option α) : Option α :=
  change.getD held

/-- The entry with the properties of a patch. -/
def DomainStatusMetadataPatch.apply (patch : DomainStatusMetadataPatch) (next : DomainMapEntry)
    (nowMs : Number) : Draft where
  entry := { next with
    status := (patch.status.map fun status => status.getD .invalid).getD next.status
    verifiedAt := patched patch.verifiedAt next.verifiedAt
    expiresAt := patched patch.expiresAt next.expiresAt
    hbVerifiedAt := patched patch.hbVerifiedAt next.hbVerifiedAt
    hardExpiresAt := patched patch.hardExpiresAt next.hardExpiresAt
    lastError := patched patch.lastError next.lastError
    lastSuccessAt := patched patch.lastSuccessAt next.lastSuccessAt
    -- An error that is set dates and names itself.
    lastErrorAt := (patch.lastError.join.map DomainMapError.at_).or
      (patched patch.lastErrorAt next.lastErrorAt)
    lastErrorCode := (patch.lastError.join.map DomainMapError.code).or
      (patched patch.lastErrorCode next.lastErrorCode)
    updatedAt := nowMs }
  refreshAttempts :=
    (patch.refreshAttempts.map fun attempts => attempts.getD (.ofInt 0)).getD
      (.ofInt next.refreshAttempts)

/-- The entry that an update starts from, at the two readings of the clock. -/
def heldEntry (texts : Texts) (normalizedHost key : JsString) (startMs readMs : Int) :
    Option DomainMapEntry :=
  match records readNumeral texts key with
  | some raw => parseDomainMapEntry raw normalizedHost readMs
  | none => createEmptyDomainMapEntry normalizedHost startMs

/-- The updated entry and the store it was put into. -/
def upsertDomainStatusMetadata (texts : Texts) (host : JsString)
    (patch : DomainStatusMetadataPatch) (startMs readMs : Int) : Option (Draft × Texts) := do
  let normalizedHost ← normalizeDomainHost host
  let key ← domainMapKey normalizedHost
  let nowMs := patch.nowMs.getD (.ofInt startMs)
  let held ← heldEntry readNumeral texts normalizedHost key startMs readMs
  let next := patch.apply held nowMs
  return (next, Function.update texts key (some (Json.obj next.toFields).stringify))

/-! ### Consistent keys -/

/-- A stored entry is found under its host, a delete under that host removes it,
and neither touches the entry of a host with another normal form. -/
def Keyed (before stored : Texts) (host : JsString) (draft : Draft) : Prop :=
  ∃ cleared, deleteDomainMapEntry stored host = some cleared ∧ ∀ nowMs,
    (∃ entry, getDomainMapEntry (records readNumeral stored) host nowMs = some (some entry) ∧
      draft.Is entry) ∧
    getDomainMapEntry (records readNumeral cleared) host nowMs = some none ∧
    getDomainMapEntry (records readNumeral cleared) draft.entry.host nowMs = some none ∧
    ∀ other, normalizeDomainHost other ≠ normalizeDomainHost host →
      getDomainMapEntry (records readNumeral stored) other nowMs =
          getDomainMapEntry (records readNumeral before) other nowMs ∧
        getDomainMapEntry (records readNumeral cleared) other nowMs =
          getDomainMapEntry (records readNumeral before) other nowMs

/-- A put of the entry in the store has this effect, against the store before. -/
def StoresFor (before texts : Texts) (host : JsString) (draft : Draft) : Prop :=
  ∃ stored, putDomainMapEntry texts draft = some stored ∧ Keyed readNumeral before stored host draft

end

variable {readNumeral : JsString → Option Number}

/-! ### One key -/

theorem domainMapKey_of_normal {host domain : JsString}
    (normal : normalizeDomainHost host = some domain) :
    domainMapKey host = some (js "domain:" ++ domain) := by
  rw [domainMapKey, normal, Option.map_some]

theorem putDomainMapEntry_of_normal {draft : Draft} {domain : JsString}
    (normal : normalizeDomainHost draft.entry.host = some domain) (texts : Texts) :
    putDomainMapEntry texts draft =
      some (Function.update texts (js "domain:" ++ domain)
        (some (Json.obj draft.toFields).stringify)) := by
  rw [putDomainMapEntry, domainMapKey_of_normal normal, Option.map_some]

theorem deleteDomainMapEntry_of_normal {host domain : JsString}
    (normal : normalizeDomainHost host = some domain) (texts : Texts) :
    deleteDomainMapEntry texts host =
      some (Function.update texts (js "domain:" ++ domain) none) := by
  rw [deleteDomainMapEntry, domainMapKey_of_normal normal, Option.map_some]

/-- Hosts with other normal forms have other keys. -/
theorem getDomainMapEntry_frame {left right : Texts} {domain other : JsString}
    (agree : ∀ key, key ≠ js "domain:" ++ domain → left key = right key)
    (differs : normalizeDomainHost other ≠ some domain) (nowMs : Int) :
    getDomainMapEntry (records readNumeral left) other nowMs =
      getDomainMapEntry (records readNumeral right) other nowMs := by
  cases normal : normalizeDomainHost other with
  | none => simp [getDomainMapEntry, domainMapKey, normal]
  | some name =>
      have key : js "domain:" ++ name ≠ js "domain:" ++ domain := by
        intro same
        rw [normal] at differs
        exact differs (congrArg some (List.append_cancel_left same))
      have text : records readNumeral left (js "domain:" ++ name) =
          records readNumeral right (js "domain:" ++ name) := by
        rw [records, records, agree _ key]
      simp only [getDomainMapEntry, domainMapKey_of_normal normal, Option.bind_eq_bind,
        Option.bind_some, text]

theorem getDomainMapEntry_absent {texts : Texts} {host domain : JsString}
    (normal : normalizeDomainHost host = some domain) (absent : texts (js "domain:" ++ domain) = none)
    (nowMs : Int) : getDomainMapEntry (records readNumeral texts) host nowMs = some none := by
  simp [getDomainMapEntry, domainMapKey_of_normal normal, records, absent]

theorem getDomainMapEntry_present {texts : Texts} {host domain text : JsString}
    (normal : normalizeDomainHost host = some domain)
    (present : texts (js "domain:" ++ domain) = some text) (written : text ≠ []) (nowMs : Int) :
    getDomainMapEntry (records readNumeral texts) host nowMs =
      (parseDomainMapEntry (persisted readNumeral text) host nowMs).map some := by
  simp only [getDomainMapEntry, domainMapKey_of_normal normal, records, present, Option.bind_eq_bind,
    Option.bind_some, Option.filter_some, written, ne_eq, not_false_eq_true, decide_true, if_true,
    Option.map_some]
  cases parseDomainMapEntry (persisted readNumeral text) host nowMs with
  | none => rfl
  | some entry => rfl

/-- The object that an entry is read back as is the one that was written. -/
theorem is_readBack_iff (draft : Draft) (nowMs : Int) :
    (∃ entry, readBack { draft.entry with
        refreshAttempts := readAttempts draft.refreshAttempts } nowMs = some entry ∧
      draft.Is entry) ↔
      Persistable Plain draft.entry ∧ ∃ count : Nat, draft.refreshAttempts = .ofInt count := by
  constructor
  · rintro ⟨entry, read, same, count⟩
    have attempts : entry.refreshAttempts = readAttempts draft.refreshAttempts := by
      rw [count, readAttempts_ofInt]
    rw [attempts] at same
    have persistable := readBack_eq_self_iff.mp (read.trans (congrArg some same))
    exact ⟨{ persistable with }, _, count⟩
  · rintro ⟨persistable, count, isCount⟩
    have same : Persistable Plain
        { draft.entry with refreshAttempts := readAttempts draft.refreshAttempts } :=
      { persistable with }
    refine ⟨_, readBack_eq_self_iff.mpr same, rfl, ?_⟩
    show draft.refreshAttempts = .ofInt (readAttempts draft.refreshAttempts)
    rw [isCount, readAttempts_ofInt]

private theorem getDomainMapEntry_ne_absent {texts : Texts} {host domain text : JsString}
    (normal : normalizeDomainHost host = some domain)
    (present : texts (js "domain:" ++ domain) = some text) (written : text ≠ []) (nowMs : Int) :
    getDomainMapEntry (records readNumeral texts) host nowMs ≠ some none := by
  rw [getDomainMapEntry_present normal present written]
  cases parseDomainMapEntry (persisted readNumeral text) host nowMs with
  | none => simp
  | some entry => simp

private theorem stringify_ne_nil (draft : Draft) : (Json.obj draft.toFields).stringify ≠ [] := by
  rw [Json.stringify]
  exact List.cons_ne_nil _ _

/-- An entry that a delete under the host removes was put under the host's key. -/
theorem key_of_removed {texts : Texts} {draft : Draft} {stem domain text : JsString}
    (normal : normalizeDomainHost draft.entry.host = some stem) (written : text ≠ []) {nowMs : Int}
    (gone : getDomainMapEntry (records readNumeral (Function.update
      (Function.update texts (js "domain:" ++ stem) (some text)) (js "domain:" ++ domain) none))
      draft.entry.host nowMs = some none) : stem = domain := by
  by_contra other
  have otherKey : js "domain:" ++ stem ≠ js "domain:" ++ domain := fun same =>
    other (List.append_cancel_left same)
  apply getDomainMapEntry_ne_absent normal _ written nowMs gone
  rw [Function.update_of_ne otherKey, Function.update_self]

section Storing

variable {before texts : Texts} {host domain : JsString} {draft : Draft}
  (normal : normalizeDomainHost host = some domain)
  (version : draft.entry.schemaVersion = domainMapSchemaVersion)
  (readsBack : ReadsBack readNumeral (Json.obj draft.toFields).numbers)

include normal version readsBack

/-- What is found under a host where an entry was put is the entry as read back. -/
theorem getDomainMapEntry_put (nowMs : Int) :
    getDomainMapEntry (records readNumeral (Function.update texts (js "domain:" ++ domain)
        (some (Json.obj draft.toFields).stringify))) host nowMs =
      (readBack { draft.entry with
        refreshAttempts := readAttempts draft.refreshAttempts } nowMs).map some := by
  rw [getDomainMapEntry_present normal (Function.update_self _ _ _) (stringify_ne_nil draft),
    Draft.toFields, parse_counted version readsBack]

theorem StoresFor.survives (stores : StoresFor readNumeral before texts host draft) :
    draft.entry.host = domain ∧ Persistable Plain draft.entry ∧
      ∃ count : Nat, draft.refreshAttempts = .ofInt count := by
  obtain ⟨stored, put, cleared, deleted, holds⟩ := stores
  obtain ⟨name, isKey, rfl⟩ := Option.map_eq_some_iff.mp put
  obtain ⟨stem, isNormal, rfl⟩ := Option.map_eq_some_iff.mp isKey
  rw [deleteDomainMapEntry_of_normal normal] at deleted
  obtain rfl := Option.some.inj deleted
  obtain ⟨⟨entry, found, isEntry⟩, -, gone, -⟩ := holds 0
  obtain rfl := key_of_removed isNormal (stringify_ne_nil draft) gone
  rw [getDomainMapEntry_put normal version readsBack] at found
  obtain ⟨read, isRead, same⟩ := Option.map_eq_some_iff.mp found
  obtain rfl := Option.some.inj same
  have survives := (is_readBack_iff draft 0).mp ⟨read, isRead, isEntry⟩
  exact ⟨Option.some.inj (survives.1.host.symm.trans isNormal), survives⟩

theorem storesFor_of_survives
    (agree : normalizeDomainHost domain = some domain →
      ∀ key, key ≠ js "domain:" ++ domain → texts key = before key)
    (sameHost : draft.entry.host = domain) (persistable : Persistable Plain draft.entry)
    (count : ∃ count : Nat, draft.refreshAttempts = .ofInt count) :
    StoresFor readNumeral before texts host draft := by
  subst sameHost
  have fixed := persistable.host
  have others := agree fixed
  refine ⟨_, putDomainMapEntry_of_normal fixed texts, _,
    deleteDomainMapEntry_of_normal normal _, fun nowMs => ?_⟩
  obtain ⟨entry, read, isEntry⟩ := (is_readBack_iff draft nowMs).mpr ⟨persistable, count⟩
  refine ⟨⟨entry, ?_, isEntry⟩, ?_, ?_, ?_⟩
  · rw [getDomainMapEntry_put normal version readsBack, read, Option.map_some]
  · exact getDomainMapEntry_absent normal (Function.update_self _ _ _) nowMs
  · exact getDomainMapEntry_absent fixed (Function.update_self _ _ _) nowMs
  · intro other differs
    rw [normal] at differs
    constructor
    · apply getDomainMapEntry_frame _ differs
      intro name otherKey
      rw [Function.update_of_ne otherKey, others name otherKey]
    · apply getDomainMapEntry_frame _ differs
      intro name otherKey
      rw [Function.update_of_ne otherKey, Function.update_of_ne otherKey, others name otherKey]

/-- Exactly the entries that survive their text under the host's own normal form
are stored for a host. -/
theorem storesFor_iff
    (agree : normalizeDomainHost domain = some domain →
      ∀ key, key ≠ js "domain:" ++ domain → texts key = before key) :
    StoresFor readNumeral before texts host draft ↔ draft.entry.host = domain ∧
      Persistable Plain draft.entry ∧ ∃ count : Nat, draft.refreshAttempts = .ofInt count := by
  constructor
  · intro stores
    exact stores.survives normal version readsBack
  · rintro ⟨sameHost, persistable, count⟩
    exact storesFor_of_survives normal version readsBack agree sameHost persistable count

end Storing

/-! ### What an update leaves -/

theorem audited_held {texts : Texts} {normalizedHost key : JsString} {startMs readMs : Int}
    {held : DomainMapEntry}
    (read : heldEntry readNumeral texts normalizedHost key startMs readMs = some held) :
    Audited held := by
  unfold heldEntry at read
  split at read
  next => exact audited_parse read
  next =>
    obtain ⟨domain, -, rfl⟩ := Option.map_eq_some_iff.mp read
    exact ⟨rfl, by simp [emptyEntry], by simp [emptyEntry]⟩

/-- What a patch leaves in force survives a text: the numbers of the patch and
those that it keeps, the count, and the time and the code of a kept error. -/
structure Readable (patch : DomainStatusMetadataPatch) (held : DomainMapEntry) (nowMs : Number) :
    Prop where
  verifiedAt : ∀ time ∈ patched patch.verifiedAt held.verifiedAt, Plain time
  expiresAt : ∀ time ∈ patched patch.expiresAt held.expiresAt, Plain time
  hbVerifiedAt : ∀ time ∈ patched patch.hbVerifiedAt held.hbVerifiedAt, Plain time
  hardExpiresAt : ∀ time ∈ patched patch.hardExpiresAt held.hardExpiresAt, Plain time
  lastError : ∀ error ∈ patched patch.lastError held.lastError, Plain error.at_
  lastSuccessAt : ∀ time ∈ patched patch.lastSuccessAt held.lastSuccessAt, Plain time
  lastErrorAt : patch.lastError.join = none →
    ∀ time ∈ patched patch.lastErrorAt held.lastErrorAt, Plain time
  dated : patch.lastError = none → held.lastError.isSome → patch.lastErrorAt ≠ some none
  named : patch.lastError = none → held.lastError.isSome → patch.lastErrorCode ≠ some none
  refreshAttempts : ∀ attempts ∈ patch.refreshAttempts.join, ∃ count : Nat,
    attempts = .ofInt count
  nowMs : Plain nowMs

private theorem count_iff (patch : DomainStatusMetadataPatch) (held : DomainMapEntry)
    (nowMs : Number) :
    (∃ count : Nat, (patch.apply held nowMs).refreshAttempts = .ofInt count) ↔
      ∀ attempts ∈ patch.refreshAttempts.join, ∃ count : Nat, attempts = .ofInt count := by
  simp only [DomainStatusMetadataPatch.apply]
  cases patch.refreshAttempts with
  | none => simpa using ⟨held.refreshAttempts, rfl⟩
  | some change =>
      cases change with
      | none => simpa using ⟨0, rfl⟩
      | some attempts => simp

/-- A field that an error may repair is present when it is not taken away. -/
private theorem patched_isSome_iff {α : Type*} (change : Option (Option α)) {held : Option α}
    (present : held.isSome) : (patched change held).isSome ↔ change ≠ some none := by
  cases change with
  | none => simpa [patched] using present
  | some value =>
      cases value with
      | none => simp [patched]
      | some inner => simp [patched]

private theorem repaired_iff {α β : Type*} (error : Option (Option β)) {heldError : Option β}
    (change : Option (Option α)) {held : Option α} (part : β → α)
    (present : heldError.isSome → held.isSome) :
    ((patched error heldError).isSome → ((error.join.map part).or (patched change held)).isSome) ↔
      (error = none → heldError.isSome → change ≠ some none) := by
  cases error with
  | none =>
      cases heldError with
      | none => simp [patched]
      | some inner =>
          have isHeld := patched_isSome_iff change (present rfl)
          simpa [patched] using isHeld
  | some value =>
      cases value with
      | none => simp [patched]
      | some inner => simp [patched]

/-- An update leaves an entry that survives its text exactly when its patch is
readable. -/
theorem survives_iff {held : DomainMapEntry} (audited : Audited held)
    (patch : DomainStatusMetadataPatch) (nowMs : Number) :
    (Persistable Plain (patch.apply held nowMs).entry ∧
        ∃ count : Nat, (patch.apply held nowMs).refreshAttempts = .ofInt count) ↔
      normalizeDomainHost held.host = some held.host ∧ Readable patch held nowMs := by
  rw [count_iff]
  have dated := repaired_iff patch.lastError patch.lastErrorAt DomainMapError.at_ audited.dated
  have named := repaired_iff patch.lastError patch.lastErrorCode DomainMapError.code audited.named
  constructor
  · rintro ⟨persistable, count⟩
    refine ⟨persistable.host, ?_⟩
    exact {
      verifiedAt := persistable.verifiedAt
      expiresAt := persistable.expiresAt
      hbVerifiedAt := persistable.hbVerifiedAt
      hardExpiresAt := persistable.hardExpiresAt
      lastError := persistable.lastError
      lastSuccessAt := persistable.lastSuccessAt
      lastErrorAt := by
        intro unset time member
        apply persistable.lastErrorAt time
        show time ∈ (patch.lastError.join.map DomainMapError.at_).or _
        rw [unset]
        exact member
      dated := dated.mp persistable.dated
      named := named.mp persistable.named
      refreshAttempts := count
      nowMs := persistable.updatedAt }
  · rintro ⟨host, readable⟩
    refine ⟨?_, readable.refreshAttempts⟩
    exact {
      schemaVersion := audited.schemaVersion
      host
      verifiedAt := readable.verifiedAt
      expiresAt := readable.expiresAt
      hbVerifiedAt := readable.hbVerifiedAt
      hardExpiresAt := readable.hardExpiresAt
      lastError := readable.lastError
      lastSuccessAt := readable.lastSuccessAt
      lastErrorAt := by
        intro time member
        cases isSet : patch.lastError.join with
        | none =>
            apply readable.lastErrorAt isSet time
            simpa [DomainStatusMetadataPatch.apply, isSet] using member
        | some error =>
            have given : patched patch.lastError held.lastError = some error := by
              rw [patched, Option.join_eq_some_iff.mp isSet, Option.getD_some]
            have isTime : error.at_ = time := by
              simpa [DomainStatusMetadataPatch.apply, isSet] using member
            rw [← isTime]
            exact readable.lastError error given
      updatedAt := readable.nowMs
      dated := dated.mpr readable.dated
      named := named.mpr readable.named }

/-! ### Created and updated entries -/

/-- A created entry is stored for its host exactly when the normal form of the
host is normal. -/
theorem create_iff {host domain : JsString} (accepted : normalizeDomainHost host = some domain)
    (texts : Texts) {nowMs : Int}
    (readsBack : NumeralsReadBack readNumeral (emptyEntry domain nowMs)) :
    (∃ entry, createEmptyDomainMapEntry host nowMs = some entry ∧
        StoresFor readNumeral texts texts host (.ofEntry entry)) ↔
      normalizeDomainHost domain = some domain := by
  have created : createEmptyDomainMapEntry host nowMs = some (emptyEntry domain nowMs) := by
    rw [createEmptyDomainMapEntry, accepted, Option.map_some]
  have stores := @storesFor_iff readNumeral texts texts host domain
    (.ofEntry (emptyEntry domain nowMs)) accepted rfl readsBack fun _ _ _ => rfl
  constructor
  · rintro ⟨entry, isEntry, stored⟩
    obtain rfl := Option.some.inj (created.symm.trans isEntry)
    exact (stores.mp stored).2.1.host
  · intro fixed
    exact ⟨_, created, stores.mpr ⟨rfl, persistable_empty fixed nowMs, 0, rfl⟩⟩

/-- The held entry of a host has that host, and the patch is readable over it. -/
def Updates (readNumeral : JsString → Option Number) (texts : Texts) (domain : JsString)
    (patch : DomainStatusMetadataPatch) (startMs readMs : Int) : Prop :=
  ∃ held, heldEntry readNumeral texts domain (js "domain:" ++ domain) startMs readMs = some held ∧
    held.host = domain ∧ Readable patch held (patch.nowMs.getD (.ofInt startMs))

/-- An update that is not refused puts the patched entry under a key of its own. -/
theorem upsert_eq_some_iff {host domain : JsString}
    (accepted : normalizeDomainHost host = some domain) (texts : Texts)
    (patch : DomainStatusMetadataPatch) (startMs readMs : Int) (next : Draft) (updated : Texts) :
    upsertDomainStatusMetadata readNumeral texts host patch startMs readMs = some (next, updated) ↔
      ∃ name held, normalizeDomainHost domain = some name ∧
        heldEntry readNumeral texts domain (js "domain:" ++ name) startMs readMs = some held ∧
        next = patch.apply held (patch.nowMs.getD (.ofInt startMs)) ∧
        updated = Function.update texts (js "domain:" ++ name)
          (some (Json.obj next.toFields).stringify) := by
  rw [upsertDomainStatusMetadata, accepted]
  constructor
  · intro upserted
    obtain ⟨normalizedHost, isDomain, keyed⟩ := Option.bind_eq_some_iff.mp upserted
    obtain rfl := Option.some.inj isDomain
    obtain ⟨key, isKey, rest⟩ := Option.bind_eq_some_iff.mp keyed
    obtain ⟨held, read, stored⟩ := Option.bind_eq_some_iff.mp rest
    obtain ⟨name, isName, rfl⟩ := Option.map_eq_some_iff.mp isKey
    obtain ⟨rfl, rfl⟩ := Prod.mk.inj (Option.some.inj stored)
    exact ⟨name, held, isName, read, rfl, rfl⟩
  · rintro ⟨name, held, isName, read, rfl, rfl⟩
    apply Option.bind_eq_some_iff.mpr
    refine ⟨domain, rfl, Option.bind_eq_some_iff.mpr ?_⟩
    refine ⟨_, domainMapKey_of_normal isName, Option.bind_eq_some_iff.mpr ?_⟩
    exact ⟨held, read, rfl⟩

/-- So is an updated entry, if also the store holds no entry of another host for
it, and the patch is readable. -/
theorem upsert_iff {host domain : JsString} (accepted : normalizeDomainHost host = some domain)
    (texts : Texts) (patch : DomainStatusMetadataPatch) (startMs readMs : Int)
    (readsBack : ∀ next updated,
      upsertDomainStatusMetadata readNumeral texts host patch startMs readMs = some (next, updated) →
      ReadsBack readNumeral (Json.obj next.toFields).numbers) :
    (∃ next updated,
        upsertDomainStatusMetadata readNumeral texts host patch startMs readMs =
          some (next, updated) ∧
        StoresFor readNumeral texts updated host next) ↔
      normalizeDomainHost domain = some domain ∧
        Updates readNumeral texts domain patch startMs readMs := by
  constructor
  · rintro ⟨next, updated, upserted, stored⟩
    have numerals := readsBack next updated upserted
    obtain ⟨name, held, isName, read, rfl, rfl⟩ :=
      (upsert_eq_some_iff accepted texts patch startMs readMs next updated).mp upserted
    have audited := audited_held read
    have agree : normalizeDomainHost domain = some domain → ∀ key, key ≠ js "domain:" ++ domain →
        Function.update texts (js "domain:" ++ name) (some (Json.obj (patch.apply held
          (patch.nowMs.getD (.ofInt startMs))).toFields).stringify) key = texts key := by
      intro fixed key otherKey
      obtain rfl := Option.some.inj (fixed.symm.trans isName)
      exact Function.update_of_ne otherKey _ _
    obtain ⟨isHost, survives⟩ :=
      (storesFor_iff accepted audited.schemaVersion numerals agree).mp stored
    obtain ⟨normal, readable⟩ := (survives_iff audited patch _).mp survives
    have heldHost : held.host = domain := isHost
    rw [heldHost] at normal
    obtain rfl := Option.some.inj (normal.symm.trans isName)
    exact ⟨normal, held, read, heldHost, readable⟩
  · rintro ⟨fixed, held, read, heldHost, readable⟩
    have audited := audited_held read
    have upserted := (upsert_eq_some_iff accepted texts patch startMs readMs _ _).mpr
      ⟨domain, held, fixed, read, rfl, rfl⟩
    have survives := (survives_iff audited patch (patch.nowMs.getD (.ofInt startMs))).mpr
      ⟨by rw [heldHost, fixed], readable⟩
    refine ⟨_, _, upserted, ?_⟩
    apply (storesFor_iff accepted audited.schemaVersion (readsBack _ _ upserted) _).mpr
      ⟨heldHost, survives⟩
    intro _ key otherKey
    exact Function.update_of_ne otherKey _ _

/-- A host that is accepted is a consistent key of what is created for it
exactly when its normal form is normal. For what is updated, the entry that the
store holds and the patch count too. -/
theorem domain_map_keyed_iff (readNumeral : JsString → Option Number) {host domain : JsString}
    (accepted : normalizeDomainHost host = some domain) (texts : Texts) :
    (∀ nowMs, NumeralsReadBack readNumeral (emptyEntry domain nowMs) →
      ((∃ entry, createEmptyDomainMapEntry host nowMs = some entry ∧
          StoresFor readNumeral texts texts host (.ofEntry entry)) ↔
        normalizeDomainHost domain = some domain)) ∧
    ∀ patch startMs readMs,
      (∀ next updated,
        upsertDomainStatusMetadata readNumeral texts host patch startMs readMs =
          some (next, updated) →
        ReadsBack readNumeral (Json.obj next.toFields).numbers) →
      ((∃ next updated,
          upsertDomainStatusMetadata readNumeral texts host patch startMs readMs =
            some (next, updated) ∧
          StoresFor readNumeral texts updated host next) ↔
        normalizeDomainHost domain = some domain ∧
          Updates readNumeral texts domain patch startMs readMs) := by
  constructor
  · intro nowMs readsBack
    exact create_iff accepted texts readsBack
  · intro patch startMs readMs readsBack
    exact upsert_iff accepted texts patch startMs readMs readsBack

/-! ### Hosts in the wild -/

def noTexts : Texts := fun _ => none

/-- A patch with an error. -/
def failurePatch : DomainStatusMetadataPatch where
  status := some (some .stale)
  lastError := some (some ⟨js "late", js "timeout", .ofInt 1700000000000⟩)
  lastErrorCode := some none
  refreshAttempts := some (some (.ofInt 1))
  nowMs := some (.ofInt 1700000000000)

/-- The entry that it leaves of none. -/
def failureDraft : Draft where
  entry := { emptyEntry (js "example.com") 1700000000000 with
    status := .stale
    lastError := some ⟨js "late", js "timeout", .ofInt 1700000000000⟩
    lastErrorAt := some (.ofInt 1700000000000)
    lastErrorCode := some (js "late") }
  refreshAttempts := .ofInt 1

private theorem example_accepted :
    normalizeDomainHost (js " Example.COM. ") = some (js "example.com") := by
  decide +kernel

private theorem example_fixed :
    normalizeDomainHost (js "example.com") = some (js "example.com") := by
  decide +kernel

private theorem failure_readable : Readable failurePatch (emptyEntry (js "example.com") 0)
    (.ofInt 1700000000000) where
  verifiedAt := by simp [patched, failurePatch, emptyEntry]
  expiresAt := by simp [patched, failurePatch, emptyEntry]
  hbVerifiedAt := by simp [patched, failurePatch, emptyEntry]
  hardExpiresAt := by simp [patched, failurePatch, emptyEntry]
  lastError := by
    rintro _ ⟨⟩
    exact plain_ofInt 1700000000000
  lastSuccessAt := by simp [patched, failurePatch, emptyEntry]
  lastErrorAt := by simp [failurePatch]
  dated := by simp [failurePatch]
  named := by simp [failurePatch]
  refreshAttempts := by
    rintro _ ⟨⟩
    exact ⟨1, rfl⟩
  nowMs := plain_ofInt _

theorem example_stored_and_updated :
    (∃ entry, createEmptyDomainMapEntry (js " Example.COM. ") 0 = some entry ∧
      StoresFor readSample noTexts noTexts (js " Example.COM. ") (.ofEntry entry)) ∧
    ∃ next updated, upsertDomainStatusMetadata readSample noTexts (js " Example.COM. ")
        failurePatch 0 0 = some (next, updated) ∧
      StoresFor readSample noTexts updated (js " Example.COM. ") next := by
  obtain ⟨created, updated⟩ := domain_map_keyed_iff readSample example_accepted noTexts
  constructor
  · exact (created 0 (readsBack_of_all (by decide +kernel))).mpr example_fixed
  · apply (updated failurePatch 0 0 _).mpr
    · refine ⟨example_fixed, emptyEntry (js "example.com") 0, ?_, rfl, ?_⟩
      · show createEmptyDomainMapEntry (js "example.com") 0 = _
        rw [createEmptyDomainMapEntry, example_fixed, Option.map_some]
      · exact failure_readable
    · intro next stored upserted
      have draft : (upsertDomainStatusMetadata readSample noTexts (js " Example.COM. ")
          failurePatch 0 0).map Prod.fst = some failureDraft := by decide +kernel
      rw [upserted] at draft
      obtain rfl : next = failureDraft := Option.some.inj draft
      exact readsBack_of_all (by decide +kernel)

/-- The entry of a host with two final dots is put under another key, where a
host with another normal form finds it. -/
theorem double_dot_not_found :
    ∃ domain entry stored, normalizeDomainHost (js "a..") = some domain ∧
      createEmptyDomainMapEntry (js "a..") 0 = some entry ∧
      putDomainMapEntry noTexts (.ofEntry entry) = some stored ∧
      getDomainMapEntry (records readSample stored) (js "a..") 0 = some none ∧
      normalizeDomainHost (js "a") ≠ some domain ∧
      getDomainMapEntry (records readSample noTexts) (js "a") 0 = some none ∧
      getDomainMapEntry (records readSample stored) (js "a") 0 ≠ some none := by
  have created : createEmptyDomainMapEntry (js "a..") 0 = some (emptyEntry (js "a.") 0) := by
    decide +kernel
  have normal : normalizeDomainHost (Draft.ofEntry (emptyEntry (js "a.") 0)).entry.host =
      some (js "a") := by
    decide +kernel
  refine ⟨js "a.", emptyEntry (js "a.") 0, _, by decide +kernel, created,
    putDomainMapEntry_of_normal normal noTexts, ?_, by decide +kernel, by decide +kernel, ?_⟩
  · decide +kernel
  · decide +kernel

end DarkmeshGateway.AsyncWorker.DomainKeys
