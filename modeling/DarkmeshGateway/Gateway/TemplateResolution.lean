import DarkmeshGateway.Gateway.FrontController

/-!
Contract: which entry a template record comes from.

Owns the entry that a template map holds for a host, what a read of the parsed
map gives, names that the map inherits included, the origin of every record
that a resolution ends with, and everything that a request can do.

Does not own which of this a deployment means to allow.
-/

namespace DarkmeshGateway.Gateway.TemplateResolution

open Foundation
open Foundation.Js
open Gateway.Environment
open Gateway.SiteResolver
open Gateway.FrontController

/-! ### The entries of a map -/

/-- The field of a map under a name: the last one whose key names it. -/
def namedField (fields : Fields) (name : JsString) : Option Json :=
  ((fields.filter fun field => normalizeHost field.1 = name).getLast?).map Prod.snd

def mapEntry (fields : Fields) (name : JsString) : Option TemplateEntry :=
  (namedField fields name).bind parseEntry

/-- A later field decides. -/
theorem namedField_cons (key : JsString) (value : Json) (rest : Fields) (name : JsString) :
    namedField ((key, value) :: rest) name =
      (namedField rest name).or (if normalizeHost key = name then some value else none) := by
  unfold namedField
  rw [List.filter_cons]
  by_cases named : normalizeHost key = name
  · rw [if_pos (by simpa using named), if_pos named, List.getLast?_cons]
    cases (rest.filter fun field => normalizeHost field.1 = name).getLast? <;> rfl
  · rw [if_neg (by simpa using named), if_neg named, Option.or_none]

/-- Every field of a valid map holds an entry. -/
theorem fillTemplateMap_parsed {fields : Fields} {start map : Value}
    (filled : fillTemplateMap start fields = some map) :
    ∀ field ∈ fields, (parseEntry field.2).isSome := by
  induction fields generalizing start with
  | nil => simp
  | cons field rest inductionHypothesis =>
      unfold fillTemplateMap at filled
      simp only at filled
      split at filled
      next => cases filled
      next =>
        split at filled
        next => cases filled
        next entry parsed =>
          intro other member
          rcases List.mem_cons.mp member with rfl | later
          · rw [parsed]
            rfl
          · exact inductionHypothesis filled other later

theorem namedField_mem {fields : Fields} {name : JsString} {value : Json}
    (named : namedField fields name = some value) : ∃ key, (key, value) ∈ fields := by
  obtain ⟨field, last, rfl⟩ := Option.map_eq_some_iff.mp named
  exact ⟨field.1, (List.mem_filter.mp (List.mem_of_getLast? last)).1⟩

theorem mapEntry_cons {key : JsString} {value : Json} {rest : Fields}
    (parsed : ∀ field ∈ rest, (parseEntry field.2).isSome) (name : JsString) :
    mapEntry ((key, value) :: rest) name =
      (mapEntry rest name).or (if normalizeHost key = name then parseEntry value else none) := by
  unfold mapEntry
  rw [namedField_cons]
  cases found : namedField rest name with
  | none => split <;> rfl
  | some later =>
      obtain ⟨laterKey, member⟩ := namedField_mem found
      obtain ⟨entry, isEntry⟩ := Option.isSome_iff_exists.mp (parsed _ member)
      simp [isEntry]

/-- What filling a map leaves under each name, and as its prototype. -/
theorem fillTemplateMap_eq {fields : Fields} {own : List (JsString × Value)} {proto map : Value}
    (filled : fillTemplateMap (.object own proto) fields = some map) :
    ∃ after, map = .object after
        (((mapEntry fields (js "__proto__")).map entryValue).getD proto) ∧
      ∀ name, after.lookup name =
        if name = js "__proto__" then own.lookup name
        else ((mapEntry fields name).map entryValue).or (own.lookup name) := by
  induction fields generalizing own proto with
  | nil =>
      obtain rfl := Option.some.inj filled
      exact ⟨own, rfl, fun name => by split <;> rfl⟩
  | cons field rest inductionHypothesis =>
      obtain ⟨key, value⟩ := field
      unfold fillTemplateMap at filled
      simp only at filled
      split at filled
      next => cases filled
      next =>
        split at filled
        next => cases filled
        next entry parsed =>
          have parsedRest := fillTemplateMap_parsed filled
          by_cases setter : normalizeHost key = js "__proto__"
          · -- The setter replaces the prototype, and no own property.
            have assigned : (Value.object own proto).assign (normalizeHost key) (entryValue entry) =
                .object own (entryValue entry) := by
              rw [setter]
              rfl
            rw [assigned] at filled
            obtain ⟨after, rfl, lookups⟩ := inductionHypothesis filled
            refine ⟨after, ?_, ?_⟩
            · rw [mapEntry_cons parsedRest, if_pos setter, parsed]
              cases mapEntry rest (js "__proto__") <;> rfl
            · intro name
              rw [lookups, mapEntry_cons parsedRest]
              split
              next => rfl
              next other =>
                have unnamed : normalizeHost key ≠ name := fun same => other (same ▸ setter)
                rw [if_neg unnamed, Option.or_none]
          · have assigned : (Value.object own proto).assign (normalizeHost key) (entryValue entry) =
                .object (setOwn own (normalizeHost key) (entryValue entry)) proto := if_neg setter
            rw [assigned] at filled
            obtain ⟨after, rfl, lookups⟩ := inductionHypothesis filled
            refine ⟨after, ?_, ?_⟩
            · rw [mapEntry_cons parsedRest, if_neg setter, Option.or_none]
            · intro name
              rw [lookups, mapEntry_cons parsedRest, lookup_setOwn]
              split
              next isProto =>
                have unnamed : name ≠ normalizeHost key := fun same => setter (same ▸ isProto)
                rw [if_neg unnamed]
              next =>
                by_cases named : normalizeHost key = name
                · rw [if_pos named, if_pos named.symm, parsed]
                  cases mapEntry rest name <;> rfl
                · rw [if_neg named, if_neg (Ne.symm named), Option.or_none]

/-! ### Reads of a map -/

/-- The own properties of a parsed map, and the map. -/
def parsedMap (fields : Fields) (own : List (JsString × Value)) : Value :=
  .object own (((mapEntry fields (js "__proto__")).map entryValue).getD (.prototype .object))

/-- The own properties hold the entries of the fields. -/
def HoldsEntries (fields : Fields) (own : List (JsString × Value)) : Prop :=
  ∀ name, own.lookup name =
    if name = js "__proto__" then none else (mapEntry fields name).map entryValue

/-- A valid map is made of entries, and holds them under their names. -/
theorem parseTemplateMap_eq {platform : Platform} {raw : JsString} {map : Value}
    (parsed : parseTemplateMap platform raw = some map) :
    ∃ fields own, platform.parseJson raw = some (.obj fields) ∧ map = parsedMap fields own ∧
      HoldsEntries fields own ∧ ∀ field ∈ fields, (parseEntry field.2).isSome := by
  obtain ⟨fields, record, filled⟩ := Option.bind_eq_some_iff.mp parsed
  have object : platform.parseJson raw = some (.obj fields) := by
    unfold asRecord at record
    split at record
    next json => rw [json, Option.some.inj record]
    next => cases record
  have fromEmpty : fillTemplateMap (.object [] (.prototype .object)) fields = some map := filled
  obtain ⟨own, shape, lookups⟩ := fillTemplateMap_eq fromEmpty
  refine ⟨fields, own, object, shape, ?_, fillTemplateMap_parsed filled⟩
  intro name
  rw [lookups]
  simp

/-- A name that an object without capitals in its properties inherits. -/
def Inherited (name : JsString) : Prop := name = js "constructor" ∨ name = js "__proto__"

instance (name : JsString) : Decidable (Inherited name) :=
  inferInstanceAs (Decidable (name = js "constructor" ∨ name = js "__proto__"))

/-- The properties of an entry have capitals. -/
theorem entryValue_lookup (entry : TemplateEntry) {name : JsString} (lowered : Lowered name) :
    ∃ own, entryValue entry = .object own (.prototype .object) ∧ own.lookup name = none := by
  refine ⟨_, rfl, ?_⟩
  rw [List.lookup_eq_none_iff]
  intro property member
  have names : property.1 ∈ [js "txId", js "templateSha256", js "manifestTxId"] := by
    simp only [List.mem_append, List.mem_singleton, List.mem_map] at member
    rcases member with (rfl | ⟨_, -, rfl⟩) | ⟨_, -, rfl⟩ <;> simp
  have capitals : ∀ name ∈ [js "txId", js "templateSha256", js "manifestTxId"], ¬Lowered name := by
    decide
  by_contra same
  have isName : name = property.1 := by simpa using same
  exact capitals property.1 names (isName ▸ lowered)

/-- What a plain object inherits under a name without capitals. -/
theorem standardRead_lowered (receiver : Value) {name : JsString} (lowered : Lowered name) :
    standardRead receiver .object name =
      if name = js "constructor" then some (.function (js "Object") 1)
      else if name = js "__proto__" then some receiver.proto else some .undefined := by
  unfold standardRead
  by_cases isConstructor : name = js "constructor"
  · subst isConstructor
    rfl
  · rw [object_property_lowered lowered isConstructor, if_neg isConstructor]
    simp only [reduceCtorEq, false_and, if_false]
    split <;> rfl

/-- A read that finds no own property ends at `Object.prototype`. -/
theorem read_inherited {fields : Fields} {own : List (JsString × Value)} {name : JsString}
    (lowered : Lowered name) (absent : own.lookup name = none) :
    (parsedMap fields own).read name = standardRead (parsedMap fields own) .object name := by
  show Value.readFrom (parsedMap fields own) (.object own _) name = _
  unfold Value.readFrom
  rw [absent]
  cases mapEntry fields (js "__proto__") with
  | none => rfl
  | some entry =>
      obtain ⟨properties, shape, missing⟩ := entryValue_lookup entry lowered
      show Value.readFrom (parsedMap fields own) (entryValue entry) name = _
      rw [shape]
      unfold Value.readFrom
      rw [missing]
      rfl

/-- A named entry is read, `__proto__` included. -/
theorem readPlain_entry {fields : Fields} {own : List (JsString × Value)} {name : JsString}
    {entry : TemplateEntry} (holds : HoldsEntries fields own) (lowered : Lowered name)
    (found : mapEntry fields name = some entry) :
    readPlain (parsedMap fields own) name = entryValue entry := by
  unfold readPlain
  by_cases isProto : name = js "__proto__"
  · have absent : own.lookup name = none := by rw [holds, if_pos isProto]
    rw [read_inherited lowered absent, standardRead_lowered _ lowered]
    subst isProto
    rw [parsedMap, found]
    rfl
  · have present : own.lookup name = some (entryValue entry) := by
      rw [holds, if_neg isProto, found]
      rfl
    rw [parsedMap, Value.read_own _ present]
    rfl

/-- A name without an entry reads what every object inherits. -/
theorem readPlain_absent {fields : Fields} {own : List (JsString × Value)} {name : JsString}
    (holds : HoldsEntries fields own) (lowered : Lowered name)
    (missing : mapEntry fields name = none) :
    readPlain (parsedMap fields own) name =
      if name = js "constructor" then .function (js "Object") 1
      else if name = js "__proto__" then .prototype .object else .undefined := by
  have absent : own.lookup name = none := by
    rw [holds, missing]
    split <;> rfl
  unfold readPlain
  rw [read_inherited lowered absent, standardRead_lowered _ lowered]
  split
  next => rfl
  next =>
    split
    next isProto =>
      rw [parsedMap, ← isProto, missing]
      rfl
    next => rfl

/-! ### Records -/

theorem parseTxId_ne_nil {value : Option Json} {txId : JsString}
    (parsed : parseTxId value = some txId) : txId ≠ [] := by
  rintro rfl
  obtain ⟨-, safe⟩ := Option.filter_eq_some_iff.mp parsed
  exact absurd safe (by decide)

theorem parseSha256_ne_nil {value : Option Json} {sha : JsString}
    (parsed : parseSha256 value = some sha) : sha ≠ [] := by
  obtain ⟨raw, -, digest⟩ := Option.bind_eq_some_iff.mp parsed
  unfold parseDigest at digest
  simp only at digest
  split at digest
  next hex =>
    have length : (toLowerCase (withoutStart (withoutStart raw (js "sha256-")) (js "0x"))) ≠ [] := by
      intro blank
      cases shape : withoutStart (withoutStart raw (js "sha256-")) (js "0x") with
      | nil =>
          rw [shape] at hex
          exact absurd hex.1 (by decide)
      | cons first rest =>
          rw [shape, toLowerCase, List.flatMap_cons] at blank
          have folded := (List.append_eq_nil_iff.mp blank).1
          unfold lowerUnit at folded
          repeat' split at folded
          all_goals cases folded
    exact Option.some.inj digest ▸ length
  next => cases digest

/-- The record of an entry. -/
def entryRecord (entry : TemplateEntry) (source : TemplateSource) : TemplateIndexRecord :=
  ⟨some entry.txId, entry.templateSha256, entry.manifestTxId, source⟩

/-- The record without an id that a host gets for a name the map inherits. -/
def inheritedRecord : TemplateIndexRecord := ⟨none, none, none, .hostMap⟩

theorem textProperty_entry (entry : TemplateEntry) :
    textProperty (entryValue entry) "txId" = some entry.txId ∧
      textProperty (entryValue entry) "templateSha256" = entry.templateSha256 ∧
        textProperty (entryValue entry) "manifestTxId" = entry.manifestTxId := by
  obtain ⟨txId, sha, manifest⟩ := entry
  cases sha <;> cases manifest <;> exact ⟨rfl, rfl, rfl⟩

private theorem filter_of_nonempty {value : Option JsString}
    (nonempty : ∀ text, value = some text → text ≠ []) : value.filter (· ≠ []) = value := by
  cases value with
  | none => rfl
  | some text => simp [nonempty text rfl]

theorem mappedRecord_entry {value : Json} {entry : TemplateEntry}
    (parsed : parseEntry value = some entry) :
    mappedRecord (entryValue entry) = entryRecord entry .hostMap := by
  obtain ⟨txId, sha, manifest⟩ := textProperty_entry entry
  obtain ⟨id, -, rfl⟩ := Option.map_eq_some_iff.mp parsed
  have shaNonempty : ∀ text, pinNames.findSome? (fun name => parseSha256 (property value name)) =
      some text → text ≠ [] := by
    intro text found
    obtain ⟨name, -, read⟩ := List.exists_of_findSome?_eq_some found
    exact parseSha256_ne_nil read
  unfold mappedRecord entryRecord
  rw [txId, sha, manifest, filter_of_nonempty shaNonempty,
    filter_of_nonempty fun text read => parseTxId_ne_nil read]

/-- The entry of a map that decides for a host: its own, or the one under `*`
unless the map inherits the name of the host. -/
def decidingField (fields : Fields) (host : JsString) : Option Json :=
  (namedField fields host).or (if Inherited host then none else namedField fields (js "*"))

theorem mapEntry_named {fields : Fields} {name : JsString} {value : Json}
    (entries : ∀ field ∈ fields, (parseEntry field.2).isSome)
    (named : namedField fields name = some value) :
    ∃ entry, parseEntry value = some entry ∧ mapEntry fields name = some entry := by
  obtain ⟨key, member⟩ := namedField_mem named
  obtain ⟨entry, parsed⟩ := Option.isSome_iff_exists.mp (entries _ member)
  exact ⟨entry, parsed, by rw [mapEntry, named, Option.bind_some, parsed]⟩

theorem mapEntry_unnamed {fields : Fields} {name : JsString}
    (unnamed : namedField fields name = none) : mapEntry fields name = none := by
  rw [mapEntry, unnamed, Option.bind_none]

/-- What a parsed map answers for a host: the record of the deciding entry, the
record without an id, or nothing. -/
theorem mappedTemplate_cases {fields : Fields} {own : List (JsString × Value)} {host : JsString}
    (holds : HoldsEntries fields own) (entries : ∀ field ∈ fields, (parseEntry field.2).isSome)
    (lowered : Lowered host) :
    let mapped := mappedTemplate (parsedMap fields own) host
    (∃ value entry, decidingField fields host = some value ∧ parseEntry value = some entry ∧
        mapped = entryValue entry) ∨
      (Inherited host ∧ namedField fields host = none ∧ mappedRecord mapped = inheritedRecord) ∨
        mapped.truthy = false := by
  unfold mappedTemplate decidingField
  cases named : namedField fields host with
  | some value =>
      obtain ⟨entry, parsed, found⟩ := mapEntry_named entries named
      rw [readPlain_entry holds lowered found]
      exact Or.inl ⟨value, entry, rfl, parsed, rfl⟩
  | none =>
      rw [readPlain_absent holds lowered (mapEntry_unnamed named)]
      by_cases isConstructor : host = js "constructor"
      · rw [if_pos isConstructor]
        exact Or.inr (Or.inl ⟨Or.inl isConstructor, rfl, rfl⟩)
      · rw [if_neg isConstructor]
        by_cases isProto : host = js "__proto__"
        · rw [if_pos isProto]
          exact Or.inr (Or.inl ⟨Or.inr isProto, rfl, rfl⟩)
        · rw [if_neg isProto]
          have uninherited : ¬Inherited host := not_or.mpr ⟨isConstructor, isProto⟩
          have starLowered : Lowered (js "*") := by decide
          rw [if_neg uninherited, if_neg (by decide), Option.none_or]
          cases wildcard : namedField fields (js "*") with
          | some value =>
              obtain ⟨entry, parsed, found⟩ := mapEntry_named entries wildcard
              rw [readPlain_entry holds starLowered found]
              exact Or.inl ⟨value, entry, rfl, parsed, rfl⟩
          | none =>
              rw [readPlain_absent holds starLowered (mapEntry_unnamed wildcard)]
              exact Or.inr (Or.inr rfl)

/-- The record of a host that the template map answers. -/
theorem resolveFromMap_ok {platform : Platform} {env : Env} {host : JsString}
    {record : TemplateIndexRecord} (lowered : Lowered host)
    (resolved : resolveFromMap platform env host = .ok (some record)) :
    ∃ raw fields, readTemplateMap env = some raw ∧ platform.parseJson raw = some (.obj fields) ∧
      ((∃ value entry, decidingField fields host = some value ∧ parseEntry value = some entry ∧
          record = entryRecord entry .hostMap) ∨
        (Inherited host ∧ namedField fields host = none ∧ record = inheritedRecord)) := by
  unfold resolveFromMap at resolved
  split at resolved
  next => cases resolved
  next raw configured =>
    split at resolved
    next => cases resolved
    next map parsed =>
      obtain ⟨fields, own, object, rfl, holds, entries⟩ := parseTemplateMap_eq parsed
      refine ⟨raw, fields, configured, object, ?_⟩
      simp only [Except.ok.injEq, Option.ite_none_right_eq_some, Option.some.injEq] at resolved
      obtain ⟨truthy, rfl⟩ := resolved
      rcases mappedTemplate_cases holds entries lowered with
        ⟨value, entry, deciding, isEntry, mapped⟩ | inherited | falsy
      · exact Or.inl ⟨value, entry, deciding, isEntry, by rw [mapped, mappedRecord_entry isEntry]⟩
      · exact Or.inr inherited
      · rw [truthy] at falsy
        cases falsy

/-! ### The origin of a record -/

theorem runtime_source {runtimeHints : Option RuntimeRoutingHints} {record : TemplateIndexRecord}
    (named : resolveTemplateRecordFromRuntimeHints runtimeHints = .ok (some record)) :
    record.source = .runtime := by
  unfold resolveTemplateRecordFromRuntimeHints at named
  simp only at named
  repeat' split at named
  all_goals simp only [reduceCtorEq, Except.ok.injEq, Option.some.injEq] at named
  rw [← named]

/-- The entry of the index that decides for a host. -/
def decidingIndexField (platform : Platform) (env : Env) (fetch : JsString → FetchResult)
    (host : JsString) : Option Json :=
  match (readIndexUrl env).map fetch with
  | some (.response _ _ body) =>
      (asRecord (body.toOption.bind platform.parseJson)).bind fun fields => indexEntry fields host
  | _ => none

/-- Where a record comes from, by the precedence of the sources. -/
inductive Origin (platform : Platform) (env : Env) (request : Request)
    (record : TemplateIndexRecord) : Prop where
  | runtime
      (named : resolveTemplateRecordFromRuntimeHints request.runtimeHints = .ok (some record))
  | mapped (raw : JsString) (fields : Fields) (value : Json) (entry : TemplateEntry)
      (configured : readTemplateMap env = some raw)
      (object : platform.parseJson raw = some (.obj fields))
      (decides : decidingField fields (normalizeHost request.host) = some value)
      (parsed : parseEntry value = some entry)
      (isRecord : record = entryRecord entry .hostMap)
  | inherited (raw : JsString) (fields : Fields)
      (unhinted : resolveTemplateRecordFromRuntimeHints request.runtimeHints = .ok none)
      (configured : readTemplateMap env = some raw)
      (object : platform.parseJson raw = some (.obj fields))
      (isInherited : Inherited (normalizeHost request.host))
      (unnamed : namedField fields (normalizeHost request.host) = none)
      (isRecord : record = inheritedRecord)
  | indexed (value : Json) (entry : TemplateEntry)
      (configured : readIndexUrl env ≠ none)
      (decides : decidingIndexField platform env request.fetch (normalizeHost request.host) =
        some value)
      (parsed : parseEntry value = some entry)
      (isRecord : record = entryRecord entry .index)
  | fallback (txId : JsString)
      (configured : parseTxId ((readTemplateTxId env).map .str) = some txId)
      (isRecord : record = ⟨some txId, readFallbackExpectedHash env, none, .default⟩)

theorem resolveFromIndex_ok {platform : Platform} {env : Env} {fetch : JsString → FetchResult}
    {host url : JsString} {record : TemplateIndexRecord} (configured : readIndexUrl env = some url)
    (resolved : resolveFromIndex platform host (fetch url) = .ok (some record)) :
    ∃ value entry, decidingIndexField platform env fetch host = some value ∧
      parseEntry value = some entry ∧ record = entryRecord entry .index := by
  unfold resolveFromIndex at resolved
  split at resolved
  next => cases resolved
  next status contentType body answered =>
    split at resolved
    next => cases resolved
    next =>
      have found := Except.ok.inj resolved
      unfold resolveTemplateFromIndexPayload at found
      obtain ⟨fields, object, mapped⟩ := Option.bind_eq_some_iff.mp found
      obtain ⟨entry, bound, rfl⟩ := Option.map_eq_some_iff.mp mapped
      obtain ⟨value, decides, parsed⟩ := Option.bind_eq_some_iff.mp bound
      refine ⟨value, entry, ?_, parsed, rfl⟩
      unfold decidingIndexField
      rw [configured, Option.map_some, answered]
      simp only [object, Option.bind_some, decides]

/-- Every record that a resolution ends with has an origin. -/
theorem resolveTemplateRecord_origin {platform : Platform} {env : Env} {request : Request}
    {record : TemplateIndexRecord}
    (resolved : resolveTemplateRecord platform env request.fetch (normalizeHost request.host)
      request.runtimeHints = .ok (some record)) : Origin platform env request record := by
  have fallback (none : resolveFallback env = some record) :
      Origin platform env request record := by
    obtain ⟨txId, configured, rfl⟩ := Option.map_eq_some_iff.mp none
    exact .fallback txId configured rfl
  unfold resolveTemplateRecord at resolved
  obtain ⟨hinted, hints, afterHints⟩ := Outcome.bind_eq_ok.mp resolved
  cases hinted with
  | some named =>
    obtain rfl := Option.some.inj (Outcome.pure_eq_ok.mp afterHints)
    exact .runtime hints
  | none =>
    simp only at afterHints
    obtain ⟨mapped, map, afterMap⟩ := Outcome.bind_eq_ok.mp afterHints
    split at afterMap
    next =>
      obtain rfl := Option.some.inj (Outcome.pure_eq_ok.mp afterMap)
      obtain ⟨raw, fields, configured, object, origin⟩ :=
        resolveFromMap_ok (normalizeHost_lowered request.host) map
      rcases origin with ⟨value, entry, decides, parsed, isRecord⟩ | ⟨inherited, unnamed, isRecord⟩
      · exact .mapped raw fields value entry configured object decides parsed isRecord
      · exact .inherited raw fields hints configured object inherited unnamed isRecord
    next =>
      split at afterMap
      next => exact fallback (Outcome.pure_eq_ok.mp afterMap)
      next url configured =>
        obtain ⟨indexed, index, afterIndex⟩ := Outcome.bind_eq_ok.mp afterMap
        split at afterIndex
        next =>
          obtain rfl := Option.some.inj (Outcome.pure_eq_ok.mp afterIndex)
          obtain ⟨value, entry, decides, parsed, isRecord⟩ := resolveFromIndex_ok configured index
          exact .indexed value entry (by simp [configured]) decides parsed isRecord
        next => exact fallback (Outcome.pure_eq_ok.mp afterIndex)

/-! ### What a request does -/

/-- The resolution of a request. -/
def resolution (platform : Platform) (env : Env) (request : Request) :
    Except String (Option TemplateIndexRecord) :=
  resolveTemplateRecord platform env request.fetch (normalizeHost request.host) request.runtimeHints

/-- The shortcut for a record with the id of the cached page. -/
def SamePage (request : Request) (resolved : TemplateIndexRecord) (cached : CachedTemplate) : Prop :=
  cached.txId = resolved.txId ∧ request.refresh = false

/-- The request passes the checks, and no fresh page answers it. -/
structure Reaches (env : Env) (pages : PageCache) (request : Request) : Prop where
  method : request.method = js "GET" ∨ request.method = js "HEAD"
  enabled : isFrontControllerEnabled env = true
  valid : validateFrontControllerRuntimeConfig env = none
  stale : freshPage pages request = none

/-- The answer to a request and the pages behind it: no page, a fresh or a stale
one from the cache, the cached one that the record asks for, or a loaded one. -/
inductive Answered (platform : Platform) (env : Env) (pages : PageCache) (request : Request) :
    Response × PageCache → Prop where
  | refused (response : Response) (noPage : ∀ page, response ≠ .page page) :
      Answered platform env pages request (response, pages)
  | cached (cached : CachedTemplate) (status : CacheStatus)
      (found : pages.find (normalizeHost request.host) = some cached) :
      Answered platform env pages request (cachedPage cached status none, pages)
  | same (cached : CachedTemplate) (resolved : TemplateIndexRecord) (expiresAt : Int)
      (reaches : Reaches env pages request)
      (resolves : resolution platform env request = .ok (some resolved))
      (found : pages.find (normalizeHost request.host) = some cached)
      (samePage : SamePage request resolved cached) :
      Answered platform env pages request
        (cachedPage { cached with expiresAt } .hit (some resolved.source),
          pages.set (normalizeHost request.host) { cached with expiresAt })
  | loaded (template : CachedTemplate) (resolved : TemplateIndexRecord) (expiresAt : Int)
      (fetched : FetchResult) (reaches : Reaches env pages request)
      (resolves : resolution platform env request = .ok (some resolved))
      (accepted : acceptTemplate platform (readRequireHash env) resolved expiresAt fetched =
        .ok template) :
      Answered platform env pages request
        (cachedPage template .miss (some resolved.source),
          pages.set (normalizeHost request.host) template)

variable {platform : Platform} {env : Env} {pages : PageCache} {request : Request}

theorem staleOr_answered {failure : Response} (noPage : ∀ page, failure ≠ .page page) :
    Answered platform env pages request
      (staleOr (pages.find (normalizeHost request.host)) failure, pages) := by
  unfold staleOr
  split
  next cached found => exact .cached cached .stale found
  next => exact .refused failure noPage

theorem serveResolved_answered {resolved : TemplateIndexRecord}
    (reaches : Reaches env pages request)
    (resolves : resolution platform env request = .ok (some resolved)) :
    Answered platform env pages request (serveResolved platform env pages request resolved) := by
  unfold serveResolved
  simp only
  split
  next cached filtered =>
    obtain ⟨found, same⟩ := Option.filter_eq_some_iff.mp filtered
    have samePage : SamePage request resolved cached := by
      simpa [SamePage] using same
    exact .same cached resolved _ reaches resolves found samePage
  next =>
    split
    next => exact staleOr_answered (by simp)
    next template accepted => exact .loaded template resolved _ _ reaches resolves accepted

theorem serveUncached_answered (reaches : Reaches env pages request) :
    Answered platform env pages request (serveUncached platform env pages request) := by
  unfold serveUncached
  simp only
  split
  next => exact staleOr_answered (by simp)
  next => exact staleOr_answered (by simp)
  next resolved resolves => exact serveResolved_answered reaches resolves

theorem handle_of_reaches (reaches : Reaches env pages request) :
    handleFrontControllerRequest platform env pages request =
      serveUncached platform env pages request := by
  have allowed : ¬(request.method ≠ js "GET" ∧ request.method ≠ js "HEAD") := by
    intro other
    rcases reaches.method with isGet | isHead
    · exact other.1 isGet
    · exact other.2 isHead
  unfold handleFrontControllerRequest
  rw [if_neg allowed]
  simp only [reaches.enabled, reaches.valid, reaches.stale, Bool.not_true, Bool.false_eq_true,
    if_false]

theorem handle_answered (platform : Platform) (env : Env) (pages : PageCache) (request : Request) :
    Answered platform env pages request
      (handleFrontControllerRequest platform env pages request) := by
  by_cases reaches : Reaches env pages request
  · rw [handle_of_reaches reaches]
    exact serveUncached_answered reaches
  · unfold handleFrontControllerRequest
    split
    next => exact .refused _ (by simp)
    next allowed =>
      split
      next => exact .refused _ (by simp)
      next enabled =>
        split
        next => exact .refused _ (by simp)
        next valid =>
          split
          next cached fresh => exact .cached cached .hit (Option.filter_eq_some_iff.mp fresh).1
          next stale =>
            apply absurd _ reaches
            refine ⟨?_, by simpa using enabled, valid, stale⟩
            by_contra neither
            exact allowed (not_or.mp neither)

/-- What an accepted template is: a text with the digest the record asks for. -/
theorem acceptTemplate_ok {requireHash : Bool} {resolved : TemplateIndexRecord} {expiresAt : Int}
    {fetched : FetchResult} {template : CachedTemplate}
    (accepted : acceptTemplate platform requireHash resolved expiresAt fetched = .ok template) :
    template.txId = resolved.txId ∧ template.templateSha256 = platform.sha256Hex template.html ∧
      (∀ sha, resolved.templateSha256 = some sha → template.templateSha256 = sha) ∧
      (requireHash = true → resolved.templateSha256 ≠ none) := by
  unfold acceptTemplate at accepted
  split at accepted
  next => cases accepted
  next =>
    split at accepted
    next => cases accepted
    next =>
      split at accepted
      next => cases accepted
      next html =>
        simp only at accepted
        split at accepted
        next => cases accepted
        next =>
          split at accepted
          next => cases accepted
          next agrees =>
            split at accepted
            next => cases accepted
            next pinned =>
              obtain rfl := Except.ok.inj accepted
              refine ⟨rfl, rfl, ?_, ?_⟩
              · intro sha given
                rw [given, Option.any_some] at agrees
                have same : sha = platform.sha256Hex html := by simpa using agrees
                exact same.symm
              · intro required unpinned
                exact pinned ⟨required, unpinned⟩

end DarkmeshGateway.Gateway.TemplateResolution
