import DarkmeshGateway.AsyncWorker.DomainInvariant
import DarkmeshGateway.AsyncWorker.Refresh
import DarkmeshGateway.Foundation.Js.Reread
import DarkmeshGateway.Foundation.Js.ShortestDecimal

/-!
Contract: the texts that entries of the domain map are persisted as.

Owns the text of an entry, the entry it is read as, and that an entry of the
state machine or of a migrated record is read back, with negative zero as zero.

The number of a numeral is a parameter. A theorem assumes that it reads back the
numerals of the entry it is about.

Does not own the keys that texts are stored under.
-/

namespace DarkmeshGateway.AsyncWorker.DomainText

open Foundation.Js
open AsyncWorker.DomainMap
open AsyncWorker.DomainState
open AsyncWorker.DomainInvariant
open AsyncWorker.Refresh

/-! ### Texts -/

/-- What `JSON.parse` makes of a persisted text. -/
def persisted (readNumeral : JsString → Option Number) (raw : JsString) : Persisted :=
  (parse readNumeral raw).elim .corrupt .json

/-- The numerals of the text of an entry are read back. -/
def NumeralsReadBack (readNumeral : JsString → Option Number) (entry : DomainMapEntry) : Prop :=
  ReadsBack readNumeral (Json.obj entry.toFields).numbers

/-- The object of an entry whose count of attempts may be any number. -/
def countedFields (entry : DomainMapEntry) (attempts : Number) : Fields :=
  entry.toFields.set (js "refreshAttempts") (.num attempts)

/-- A number that is lost was written as `null`. -/
def readTime (time : Option Number) : Option Number :=
  (time.filter Number.isFinite).map Number.dropZeroSign

/-- The entry of a host with what the text of an entry is read as. -/
def readAs (entry : DomainMapEntry) (nowMs : Int) (host : JsString) : DomainMapEntry :=
  let lastError := entry.lastError.map fun error =>
    { error with at_ := (readTime (some error.at_)).getD (.ofInt nowMs) }
  { entry with
    schemaVersion := domainMapSchemaVersion
    host
    verifiedAt := readTime entry.verifiedAt
    expiresAt := readTime entry.expiresAt
    hbVerifiedAt := readTime entry.hbVerifiedAt
    hardExpiresAt := readTime entry.hardExpiresAt
    lastError
    lastSuccessAt := readTime entry.lastSuccessAt
    lastErrorAt := (readTime entry.lastErrorAt).or (lastError.map DomainMapError.at_)
    lastErrorCode := entry.lastErrorCode.or (lastError.map DomainMapError.code)
    updatedAt := (readTime (some entry.updatedAt)).getD (.ofInt nowMs) }

/-- The host that the text of an entry is read with. It is normalised twice, the
first time with a fallback. -/
def readHost (host : JsString) : Option JsString :=
  normalizeDomainHost ((normalizeDomainHost host).getD domainMapFallbackHost)

/-- The entry that the text of an entry is read as. -/
def readBack (entry : DomainMapEntry) (nowMs : Int) : Option DomainMapEntry :=
  (readHost entry.host).map (readAs entry nowMs)

/-- The property names of an entry. -/
def entryKeys : List JsString :=
  [js "schemaVersion", js "host", js "status", js "cfgTx", js "resolvedTarget",
    js "writeProcess", js "configHash", js "verifiedAt", js "expiresAt", js "hbVerifiedAt",
    js "hardExpiresAt", js "lastError", js "lastSuccessAt", js "lastErrorAt",
    js "lastErrorCode", js "refreshAttempts", js "updatedAt"]

theorem keys_countedFields (entry : DomainMapEntry) (attempts : Number) :
    (countedFields entry attempts).map Prod.fst = entryKeys := rfl

private theorem entryKeys_named : ∀ key ∈ entryKeys, keyIndex key = none := by
  have named : (entryKeys.all fun key => (keyIndex key).isNone) = true := by decide +kernel
  intro key member
  exact Option.isNone_iff_eq_none.mp (List.all_eq_true.mp named key member)

private theorem entryKeys_nodup : entryKeys.Nodup := by decide +kernel

/-! ### The values of a record -/

/-- A value whose keys are distinct and stay in their order. -/
structure Flat (value : Json) : Prop where
  distinct : value.Distinct = true
  ordered : value.reread.ordered = value.reread

theorem flat_text (value : Option JsString) : Flat (optionalText value) := by
  cases value with
  | none => exact ⟨rfl, rfl⟩
  | some text => exact ⟨rfl, rfl⟩

theorem flat_number (number : Number) : Flat (.num number) := by
  cases number with
  | finite decimal => exact ⟨rfl, rfl⟩
  | nan => exact ⟨rfl, rfl⟩
  | infinity negative => exact ⟨rfl, rfl⟩

theorem flat_time (value : Option Number) : Flat (optionalNumber value) := by
  cases value with
  | none => exact ⟨rfl, rfl⟩
  | some number => exact flat_number number

theorem flat_error (value : Option DomainMapError) :
    Flat (value.elim .null DomainMapError.toJson) := by
  cases value with
  | none => exact ⟨rfl, rfl⟩
  | some error =>
      have keys : (keyIndex (js "code")).isNone && (keyIndex (js "message")).isNone &&
          (keyIndex (js "at")).isNone := by decide +kernel
      simp only [Bool.and_eq_true, Option.isNone_iff_eq_none] at keys
      constructor
      · rfl
      · apply ordered_obj_of_named
        · intro key member
          simp only [rereadFields, List.map_cons, List.map_nil, List.mem_cons,
            List.not_mem_nil, or_false] at member
          rcases member with rfl | rfl | rfl
          · exact keys.1.1
          · exact keys.1.2
          · exact keys.2
        · intro field member
          simp only [rereadFields, List.mem_cons, List.not_mem_nil, or_false] at member
          rcases member with rfl | rfl | rfl
          · rfl
          · rfl
          · exact (flat_number error.at_).ordered

theorem flat_toFields (entry : DomainMapEntry) : ∀ field ∈ entry.toFields, Flat field.2 := by
  simp only [DomainMapEntry.toFields, List.forall_mem_cons]
  refine ⟨flat_number _, ⟨rfl, rfl⟩, ⟨rfl, rfl⟩, flat_text _, flat_text _, flat_text _,
    flat_text _, flat_time _, flat_time _, flat_time _, flat_time _, flat_error _, flat_time _,
    flat_time _, flat_text _, flat_number _, flat_number _, ?_⟩
  simp

theorem flat_countedFields (entry : DomainMapEntry) (attempts : Number) :
    ∀ field ∈ countedFields entry attempts, Flat field.2 := by
  intro field member
  rcases Fields.mem_set member with rfl | kept
  · exact flat_number attempts
  · exact flat_toFields entry field kept

theorem distinct_countedFields (entry : DomainMapEntry) (attempts : Number) :
    (Json.obj (countedFields entry attempts)).Distinct = true := by
  rw [distinct_obj_iff]
  constructor
  · rw [keys_countedFields]
    exact entryKeys_nodup
  · intro field member
    exact (flat_countedFields entry attempts field member).distinct

theorem mem_rereadFields {fields : Fields} {field : JsString × Json}
    (member : field ∈ rereadFields fields) :
    ∃ original ∈ fields, field = (original.1, original.2.reread) := by
  induction fields with
  | nil => cases member
  | cons head rest inductionHypothesis =>
      rw [rereadFields] at member
      rcases List.mem_cons.mp member with here | later
      · exact ⟨head, List.mem_cons_self, here⟩
      · obtain ⟨original, inRest, same⟩ := inductionHypothesis later
        exact ⟨original, List.mem_cons_of_mem _ inRest, same⟩

theorem ordered_countedFields (entry : DomainMapEntry) (attempts : Number) :
    (Json.obj (countedFields entry attempts)).reread.ordered =
      .obj (rereadFields (countedFields entry attempts)) := by
  apply ordered_obj_of_named
  · rw [keys_rereadFields, keys_countedFields]
    exact entryKeys_named
  · intro field member
    obtain ⟨original, inRecord, rfl⟩ := mem_rereadFields member
    exact (flat_countedFields entry attempts original inRecord).ordered

/-- The text of an entry is read as its record, field by field. -/
theorem persisted_counted {readNumeral : JsString → Option Number} {entry : DomainMapEntry}
    {attempts : Number}
    (readsBack : ReadsBack readNumeral (Json.obj (countedFields entry attempts)).numbers) :
    persisted readNumeral (Json.obj (countedFields entry attempts)).stringify =
      .json (.obj (rereadFields (countedFields entry attempts))) := by
  have read := parse_reread (distinct_countedFields entry attempts) readsBack
  rw [persisted, read, ordered_countedFields, Option.elim_some]

/-! ### The readers -/

private theorem readText (value : Option JsString) :
    asNullableString (some (optionalText value).reread) = value := by
  cases value with
  | none => rfl
  | some text => rfl

private theorem readNumber (value : Option Number) :
    asNullableNumber (some (optionalNumber value).reread) = readTime value := by
  cases value with
  | none => rfl
  | some number =>
      cases number with
      | finite decimal => rfl
      | nan => rfl
      | infinity negative => rfl

private theorem readStatus (status : DomainMapStatus) :
    asStatus (some (Json.str status.name).reread) = status := by
  cases status with
  | valid => decide
  | stale => decide
  | invalid => decide

private theorem readError (value : Option DomainMapError) (nowMs : Int) :
    parseDomainMapError (some (value.elim Json.null DomainMapError.toJson).reread) nowMs =
      value.map fun error =>
        { error with at_ := (readTime (some error.at_)).getD (.ofInt nowMs) } := by
  cases value with
  | none => rfl
  | some error =>
      have time := readNumber (some error.at_)
      show some (DomainMapError.mk error.code error.message
        ((asNullableNumber (some (optionalNumber (some error.at_)).reread)).getD _)) = _
      rw [time]
      rfl

/-- The truncation of a whole decimal is its value. -/
theorem trunc_of_whole {decimal : Decimal} (whole : decimal.isInteger = true) {value : Int}
    (exact : decimal.toRat = value) : decimal.trunc = value := by
  have nonneg : 0 ≤ decimal.exponent := of_decide_eq_true whole
  have power : (10 : ℚ) ^ decimal.exponent = (10 : ℚ) ^ decimal.exponent.toNat := by
    rw [← zpow_natCast, Int.toNat_of_nonneg nonneg]
  have same : (decimal.trunc : ℚ) = decimal.toRat := by
    rw [Decimal.trunc, Decimal.toRat, power]
    simp only [if_pos nonneg]
    split
    next => push_cast; ring
    next => push_cast; ring
  rw [exact] at same
  exact_mod_cast same

private theorem ofInt_unsigned (value : Int) :
    (Number.ofInt value).dropZeroSign = .ofInt value := by
  by_cases zero : value = 0
  · subst zero
    rfl
  · obtain ⟨decimal, number, exact, -, -⟩ := Number.ofInt_eq value
    have nonzero : decimal.coefficient ≠ 0 := by
      intro none
      rw [Decimal.toRat, none] at exact
      apply zero
      have same : (0 : ℚ) = value := by simpa using exact
      exact_mod_cast same.symm
    rw [number, Number.dropZeroSign, Decimal.dropZeroSign, if_neg nonzero]

private theorem readCount (count : Nat) :
    asNonNegativeInt (some (Json.num (.ofInt count)).reread) = some count := by
  obtain ⟨decimal, number, exact, whole, sign⟩ := Number.ofInt_eq count
  have unsigned := ofInt_unsigned count
  rw [number] at unsigned ⊢
  have kept : decimal.dropZeroSign = decimal := Number.finite.inj unsigned
  have nonneg : ¬(decimal.negative = true ∧ decimal.coefficient ≠ 0) := by
    rw [sign]
    simp
  rw [Json.reread, kept, asNonNegativeInt, if_neg nonneg, trunc_of_whole whole exact,
    Int.toNat_natCast]

/-! ### Reading an entry back -/

/-- The count that a number is read as. -/
def readAttempts (attempts : Number) : Nat :=
  (asNonNegativeInt (some (Json.num attempts).reread)).getD 0

theorem readAttempts_ofInt (count : Nat) : readAttempts (.ofInt count) = count := by
  rw [readAttempts, readCount, Option.getD_some]

/-- The record of an entry is read as the entry. -/
theorem migrate_reread (entry : DomainMapEntry) (attempts : Number) (hostHint : JsString)
    (nowMs : Int) :
    migratePersistedRecord (rereadFields (countedFields entry attempts)) 2 hostHint nowMs =
      readBack { entry with refreshAttempts := readAttempts attempts } nowMs := by
  have error := readError entry.lastError nowMs
  have errorAt := congrArg₂ Option.or (readNumber entry.lastErrorAt)
    (congrArg (Option.map DomainMapError.at_) error)
  have errorCode := congrArg₂ Option.or (readText entry.lastErrorCode)
    (congrArg (Option.map DomainMapError.code) error)
  have updated := congrArg (Option.getD · (.ofInt nowMs)) (readNumber (some entry.updatedAt))
  have each (host : JsString) :
      migratedEntry (rereadFields (countedFields entry attempts)) 2 nowMs (emptyEntry host nowMs) =
        readAs { entry with refreshAttempts := readAttempts attempts } nowMs host := by
    refine (DomainMapEntry.mk.injEq ..).mpr ?_
    exact ⟨rfl, rfl, readStatus _, readText _, readText _, readText _, readText _, readNumber _,
      readNumber _, readNumber _, readNumber _, error, readNumber _, errorAt, errorCode, rfl,
      updated⟩
  rw [migratePersistedRecord, createEmptyDomainMapEntry, Option.map_map, readBack]
  exact congrArg (Option.map · _) (funext each)

/-- The text of a current entry is read as one entry, whatever the hint. -/
theorem parse_counted {readNumeral : JsString → Option Number} {entry : DomainMapEntry}
    {attempts : Number} (version : entry.schemaVersion = domainMapSchemaVersion)
    (readsBack : ReadsBack readNumeral (Json.obj (countedFields entry attempts)).numbers)
    (hostHint : JsString) (nowMs : Int) :
    parseDomainMapEntry
        (persisted readNumeral (Json.obj (countedFields entry attempts)).stringify) hostHint nowMs =
      readBack { entry with refreshAttempts := readAttempts attempts } nowMs := by
  have written : Fields.get (rereadFields (countedFields entry attempts)) (js "schemaVersion") =
      some (Json.num (.ofInt entry.schemaVersion)).reread := rfl
  have current := readCount entry.schemaVersion
  have known : ¬entry.schemaVersion > domainMapSchemaVersion := by
    rw [version]
    exact lt_irrefl _
  rw [persisted_counted readsBack]
  simp only [parseDomainMapEntry, written, current, if_neg known]
  rw [version]
  exact migrate_reread entry attempts hostHint nowMs

/-- A current entry whose error is dated and named. -/
structure Audited (entry : DomainMapEntry) : Prop where
  schemaVersion : entry.schemaVersion = domainMapSchemaVersion
  dated : entry.lastError.isSome → entry.lastErrorAt.isSome
  named : entry.lastError.isSome → entry.lastErrorCode.isSome

/-- What survives a text: such an entry under a normal host, whose numbers are
among those allowed. -/
structure Persistable (allowed : Number → Prop) (entry : DomainMapEntry) : Prop
    extends Audited entry where
  host : normalizeDomainHost entry.host = some entry.host
  verifiedAt : ∀ time ∈ entry.verifiedAt, allowed time
  expiresAt : ∀ time ∈ entry.expiresAt, allowed time
  hbVerifiedAt : ∀ time ∈ entry.hbVerifiedAt, allowed time
  hardExpiresAt : ∀ time ∈ entry.hardExpiresAt, allowed time
  lastError : ∀ error ∈ entry.lastError, allowed error.at_
  lastSuccessAt : ∀ time ∈ entry.lastSuccessAt, allowed time
  lastErrorAt : ∀ time ∈ entry.lastErrorAt, allowed time
  updatedAt : allowed entry.updatedAt

def Finite (number : Number) : Prop := number.isFinite = true

/-- Finite and not negative zero. -/
def Plain (number : Number) : Prop := number.isFinite = true ∧ number.dropZeroSign = number

/-- The entry with negative zero as zero. -/
def unsigned (entry : DomainMapEntry) : DomainMapEntry :=
  { entry with
    verifiedAt := entry.verifiedAt.map Number.dropZeroSign
    expiresAt := entry.expiresAt.map Number.dropZeroSign
    hbVerifiedAt := entry.hbVerifiedAt.map Number.dropZeroSign
    hardExpiresAt := entry.hardExpiresAt.map Number.dropZeroSign
    lastError := entry.lastError.map fun error => { error with at_ := error.at_.dropZeroSign }
    lastSuccessAt := entry.lastSuccessAt.map Number.dropZeroSign
    lastErrorAt := entry.lastErrorAt.map Number.dropZeroSign
    updatedAt := entry.updatedAt.dropZeroSign }

private theorem readTime_finite {time : Option Number} (finite : ∀ number ∈ time, Finite number) :
    readTime time = time.map Number.dropZeroSign := by
  have kept : time.filter Number.isFinite = time := by
    cases time with
    | none => rfl
    | some number =>
        have here : number.isFinite = true := finite number rfl
        simp [here]
  rw [readTime, kept]

private theorem readTime_some {number : Number} (finite : Finite number) :
    readTime (some number) = some number.dropZeroSign := by
  apply readTime_finite
  rintro _ ⟨⟩
  exact finite

private theorem or_of_isSome {α : Type*} {first second : Option α}
    (present : second.isSome → first.isSome) : first.or second = first := by
  cases first with
  | some value => rfl
  | none =>
      cases second with
      | none => rfl
      | some value => exact absurd (present rfl) (by simp)

/-- Such an entry is read back up to the sign of zero. -/
theorem Persistable.readBack_eq {entry : DomainMapEntry} (persistable : Persistable Finite entry)
    (nowMs : Int) : readBack entry nowMs = some (unsigned entry) := by
  have error : (entry.lastError.map fun error =>
      { error with at_ := (readTime (some error.at_)).getD (.ofInt nowMs) }) =
      entry.lastError.map fun error => { error with at_ := error.at_.dropZeroSign } := by
    cases last : entry.lastError with
    | none => rfl
    | some error => simp [readTime_some (persistable.lastError error last)]
  have errorAt := readTime_finite persistable.lastErrorAt
  have host : readHost entry.host = some entry.host := by
    rw [readHost, persistable.host, Option.getD_some, persistable.host]
  rw [readBack, host, Option.map_some, Option.some.injEq]
  refine (DomainMapEntry.mk.injEq ..).mpr ⟨persistable.schemaVersion.symm, rfl, rfl, rfl, rfl,
    rfl, rfl, readTime_finite persistable.verifiedAt, readTime_finite persistable.expiresAt,
    readTime_finite persistable.hbVerifiedAt, readTime_finite persistable.hardExpiresAt, error,
    readTime_finite persistable.lastSuccessAt, ?_, ?_, rfl, ?_⟩
  · rw [errorAt]
    apply or_of_isSome
    simpa using persistable.dated
  · apply or_of_isSome
    simpa using persistable.named
  · rw [readTime_some persistable.updatedAt, Option.getD_some]

theorem Persistable.mono {allowed more : Number → Prop} {entry : DomainMapEntry}
    (persistable : Persistable allowed entry) (weaker : ∀ number, allowed number → more number) :
    Persistable more entry where
  schemaVersion := persistable.schemaVersion
  host := persistable.host
  verifiedAt time member := weaker time (persistable.verifiedAt time member)
  expiresAt time member := weaker time (persistable.expiresAt time member)
  hbVerifiedAt time member := weaker time (persistable.hbVerifiedAt time member)
  hardExpiresAt time member := weaker time (persistable.hardExpiresAt time member)
  lastError error member := weaker error.at_ (persistable.lastError error member)
  lastSuccessAt time member := weaker time (persistable.lastSuccessAt time member)
  lastErrorAt time member := weaker time (persistable.lastErrorAt time member)
  updatedAt := weaker entry.updatedAt persistable.updatedAt
  dated := persistable.dated
  named := persistable.named

private theorem map_eq_self {α : Type*} {change : α → α} {value : Option α}
    (fixed : ∀ inner ∈ value, change inner = inner) : value.map change = value := by
  cases value with
  | none => rfl
  | some inner => exact congrArg some (fixed inner rfl)

/-- Without negative zeros, there is no sign to lose. -/
theorem Persistable.unsigned_eq {entry : DomainMapEntry} (persistable : Persistable Plain entry) :
    unsigned entry = entry := by
  have error : ∀ error ∈ entry.lastError,
      { error with at_ := error.at_.dropZeroSign } = error := by
    intro error member
    rw [(persistable.lastError error member).2]
  have plain {time : Option Number} (each : ∀ number ∈ time, Plain number) :
      time.map Number.dropZeroSign = time :=
    map_eq_self fun number member => (each number member).2
  exact (DomainMapEntry.mk.injEq ..).mpr ⟨rfl, rfl, rfl, rfl, rfl, rfl, rfl,
    plain persistable.verifiedAt, plain persistable.expiresAt, plain persistable.hbVerifiedAt,
    plain persistable.hardExpiresAt, map_eq_self error, plain persistable.lastSuccessAt,
    plain persistable.lastErrorAt, rfl, rfl, persistable.updatedAt.2⟩

private theorem readTime_lost {number : Number} (lost : ¬Finite number) :
    readTime (some number) = none := by
  have isLost : number.isFinite = false := Bool.eq_false_iff.mpr lost
  simp [readTime, isLost]

private theorem plain_of_readTime {time : Option Number} (same : readTime time = time) :
    ∀ number ∈ time, Plain number := by
  rintro number ⟨⟩
  by_cases finite : Finite number
  · rw [readTime_some finite] at same
    exact ⟨finite, Option.some.inj same⟩
  · rw [readTime_lost finite] at same
    cases same

private theorem plain_of_getD {number : Number} {nowMs : Int}
    (same : (readTime (some number)).getD (.ofInt nowMs) = number) : Plain number := by
  by_cases finite : Finite number
  · rw [readTime_some finite] at same
    exact ⟨finite, same⟩
  · rw [readTime_lost finite, Option.getD_none] at same
    rw [← same] at finite
    exact absurd (Number.isFinite_ofInt nowMs) finite

private theorem fallback_normal :
    normalizeDomainHost domainMapFallbackHost = some domainMapFallbackHost := by
  decide +kernel

/-- A host is read as itself exactly when it is normal. -/
theorem readHost_eq_self_iff {host : JsString} :
    readHost host = some host ↔ normalizeDomainHost host = some host := by
  constructor
  · intro same
    rw [readHost] at same
    cases normal : normalizeDomainHost host with
    | none =>
        rw [normal, Option.getD_none, fallback_normal] at same
        rw [← Option.some.inj same, fallback_normal] at normal
        cases normal
    | some domain =>
        rw [normal, Option.getD_some] at same
        rw [normalizeDomainHost_cycle normal same]
  · intro normal
    rw [readHost, normal, Option.getD_some, normal]

/-- Exactly these entries are read back as they are. -/
theorem readBack_eq_self_iff {entry : DomainMapEntry} {nowMs : Int} :
    readBack entry nowMs = some entry ↔ Persistable Plain entry := by
  constructor
  · intro readsItself
    obtain ⟨domain, isRead, same⟩ := Option.map_eq_some_iff.mp readsItself
    obtain ⟨version, host, -, -, -, -, -, verifiedAt, expiresAt, hbVerifiedAt, hardExpiresAt, error,
      lastSuccessAt, errorAt, errorCode, -, updatedAt⟩ := (DomainMapEntry.mk.injEq ..).mp same
    have errors : ∀ error ∈ entry.lastError, Plain error.at_ := by
      intro held present
      rw [Option.mem_def.mp present, Option.map_some, Option.some.injEq] at error
      exact plain_of_getD (congrArg DomainMapError.at_ error)
    rw [error] at errorAt errorCode
    exact {
      schemaVersion := version.symm
      host := readHost_eq_self_iff.mp (isRead.trans (congrArg some host))
      verifiedAt := plain_of_readTime verifiedAt
      expiresAt := plain_of_readTime expiresAt
      hbVerifiedAt := plain_of_readTime hbVerifiedAt
      hardExpiresAt := plain_of_readTime hardExpiresAt
      lastError := errors
      lastSuccessAt := plain_of_readTime lastSuccessAt
      lastErrorAt := by
        intro time present
        rw [Option.mem_def.mp present] at errorAt
        rcases Option.or_eq_some_iff.mp errorAt with kept | ⟨-, repaired⟩
        · exact plain_of_readTime kept time rfl
        · obtain ⟨held, isHeld, rfl⟩ := Option.map_eq_some_iff.mp repaired
          exact errors held isHeld
      updatedAt := plain_of_getD updatedAt
      dated := by
        intro present
        rw [← errorAt, Option.isSome_or, Option.isSome_map, present, Bool.or_true]
      named := by
        intro present
        rw [← errorCode, Option.isSome_or, Option.isSome_map, present, Bool.or_true] }
  · intro persistable
    have finite : Persistable Finite entry := persistable.mono fun number plain => plain.1
    rw [finite.readBack_eq, persistable.unsigned_eq]

/-! ### Entries of the state machine -/

/-- A host that `normalizeDomain` accepts. -/
def Accepted (host : JsString) : Prop :=
  ∃ domain, normalizeDomain (some (.str host)) = .ok domain

theorem Accepted.normal {host : JsString} (accepted : Accepted host) :
    ∃ domain, normalizeDomainHost host = some domain ∧ normalizeDomainHost domain = some domain := by
  obtain ⟨domain, normalized⟩ := accepted
  have fixed := normalizeDomain_host normalized
  refine ⟨domain, ?_, fixed⟩
  simp only [normalizeDomain] at normalized
  split at normalized
  next =>
    obtain rfl := Except.ok.inj normalized
    have same : normalizeDomainHost (toLowerCase (trim host)) = normalizeDomainHost host := by
      simp only [normalizeDomainHost, trim_toLowerCase_trim, toLowerCase_toLowerCase]
    rw [← same, fixed]
  next => exact absurd normalized (by simp [refuse])

theorem plain_ofInt (value : Int) : Plain (.ofInt value) :=
  ⟨Number.isFinite_ofInt value, ofInt_unsigned value⟩

theorem persistable_empty {host : JsString} (normal : normalizeDomainHost host = some host)
    (nowMs : Int) : Persistable Plain (emptyEntry host nowMs) where
  schemaVersion := rfl
  host := normal
  verifiedAt := by simp [emptyEntry]
  expiresAt := by simp [emptyEntry]
  hbVerifiedAt := by simp [emptyEntry]
  hardExpiresAt := by simp [emptyEntry]
  lastError := by simp [emptyEntry]
  lastSuccessAt := by simp [emptyEntry]
  lastErrorAt := by simp [emptyEntry]
  updatedAt := plain_ofInt nowMs
  dated := by simp [emptyEntry]
  named := by simp [emptyEntry]

theorem audited_migrated (record : Fields) (version : Nat) (nowMs : Int)
    (created : DomainMapEntry) : Audited (migratedEntry record version nowMs created) where
  schemaVersion := rfl
  dated present := by
    simp only [migratedEntry, Option.isSome_or, Option.isSome_map] at present ⊢
    rw [present, Bool.or_true]
  named present := by
    simp only [migratedEntry, Option.isSome_or, Option.isSome_map] at present ⊢
    rw [present, Bool.or_true]

private theorem audited_corrupted {hostHint code message : JsString} {nowMs : Int}
    {entry : DomainMapEntry}
    (made : makeCorruptedDomainMapEntry hostHint nowMs code message = some entry) :
    Audited entry := by
  obtain ⟨empty, created, rfl⟩ := Option.map_eq_some_iff.mp made
  obtain ⟨domain, -, rfl⟩ := Option.map_eq_some_iff.mp created
  exact ⟨rfl, fun _ => rfl, fun _ => rfl⟩

/-- Whatever text is read, its entry is audited. -/
theorem audited_parse {raw : Persisted} {hostHint : JsString} {nowMs : Int}
    {entry : DomainMapEntry} (read : parseDomainMapEntry raw hostHint nowMs = some entry) :
    Audited entry := by
  unfold parseDomainMapEntry at read
  split at read
  next => exact audited_corrupted read
  next =>
    simp only at read
    split at read
    next => exact audited_corrupted read
    next =>
      split at read
      next => exact audited_corrupted read
      next =>
        obtain ⟨created, -, rfl⟩ := Option.map_eq_some_iff.mp read
        exact audited_migrated _ _ _ _
  next => exact audited_corrupted read

/-- The numerals `0`, `1`, `2` and the time of the sample. -/
def readSample (text : JsString) : Option Number :=
  if text = js "0" then some (.ofInt 0)
  else if text = js "1" then some (.ofInt 1)
  else if text = js "2" then some (.ofInt 2)
  else if text = js "1700000000000" then some (.ofInt 1700000000000)
  else none

end DarkmeshGateway.AsyncWorker.DomainText
