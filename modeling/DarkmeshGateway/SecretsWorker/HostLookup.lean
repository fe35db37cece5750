import DarkmeshGateway.Foundation.Js.Reread
import DarkmeshGateway.Gateway.SiteLookup
import DarkmeshGateway.SecretsWorker.SiteByHost

/-!
Contract: the lookup of a host across gateway, worker and registry.

Owns what the registry says about a host, the request of the gateway as the
worker receives it, the answer of the worker as the gateway receives it, and
the law that the gateway acts on what the registry said.

Does not own the transport: a body arrives as the text it was sent as.
-/

namespace DarkmeshGateway.SecretsWorker.HostLookup

open Foundation
open Foundation.Js
open SecretsWorker.Fields
open SecretsWorker.ReadAction
open SecretsWorker.SiteByHost
open Gateway.SiteLookup
open Gateway.SiteResolver (RuntimeRoutingHints AoLookupResult)

variable {readNumeral : JsString → Option Number}

/-! ### Values sent as text -/

/-- The value as the receiver of its text has it. -/
def sent (value : Json) : Json := value.reread.ordered

/-- The properties of an object as the receiver of its text has them. -/
def sentFields (fields : Fields) : Fields := orderKeys (orderedFields (rereadFields fields))

theorem sent_obj (fields : Fields) : sent (.obj fields) = .obj (sentFields fields) := rfl

/-- Under names that are no indices every property is sent on its own. -/
theorem sentFields_of_named {fields : Fields}
    (named : ∀ field ∈ fields, keyIndex field.1 = none) :
    sentFields fields = fields.map fun field => (field.1, sent field.2) := by
  have inner : orderedFields (rereadFields fields) =
      fields.map fun field => (field.1, sent field.2) := by
    clear named
    induction fields with
    | nil => rfl
    | cons field rest inductionHypothesis =>
        rw [rereadFields, orderedFields, inductionHypothesis]
        rfl
  rw [sentFields, inner]
  apply orderKeys_of_named
  intro field member
  obtain ⟨original, listed, rfl⟩ := List.mem_map.mp member
  exact named original listed

/-- The keys of sent properties differ when those of the properties do. -/
theorem nodup_sentFields {fields : Fields} (distinct : (Json.obj fields).Distinct = true) :
    ((sentFields fields).map Prod.fst).Nodup := by
  have keys : (orderedFields (rereadFields fields)).map Prod.fst = fields.map Prod.fst := by
    clear distinct
    induction fields with
    | nil => rfl
    | cons field rest inductionHypothesis =>
        rw [rereadFields, orderedFields, List.map_cons, List.map_cons, inductionHypothesis]
  rw [sentFields, ((orderKeys_perm _).map Prod.fst).nodup_iff, keys]
  exact ((distinct_obj_iff fields).mp distinct).1

/-- Merging properties into nothing copies them. -/
theorem mergeFields_nil {fields : Fields} (distinct : (fields.map Prod.fst).Nodup) :
    mergeFields [] fields = fields := by
  have onto (done : Fields) (disjoint : ((done ++ fields).map Prod.fst).Nodup) :
      mergeFields done fields = done ++ fields := by
    induction fields generalizing done with
    | nil => simp [mergeFields]
    | cons field rest inductionHypothesis =>
        have absent : field.1 ∉ done.map Prod.fst := by
          rw [List.map_append, List.nodup_append] at disjoint
          intro member
          exact disjoint.2.2 _ member _ List.mem_cons_self rfl
        have step : mergeFields done (field :: rest) = mergeFields (done ++ [field]) rest := by
          rw [mergeFields, List.foldl_cons, Fields.set_of_absent absent, mergeFields]
        rw [step, inductionHypothesis]
        · simp
        · exact (List.nodup_cons.mp distinct).2
        · simpa using disjoint
  exact onto [] distinct

/-! ### Objects without repeated keys -/

theorem distinct_get {fields : Fields} (distinct : (Json.obj fields).Distinct = true)
    {key : JsString} {value : Json} (found : fields.get key = some value) :
    value.Distinct = true :=
  ((distinct_obj_iff fields).mp distinct).2 (key, value) (Fields.mem_of_get found)

theorem distinct_asRecord {value : Option Json} (distinct : ∀ one ∈ value, one.Distinct = true)
    {fields : Fields} (record : asRecord value = some fields) :
    (Json.obj fields).Distinct = true := by
  match value, record with
  | some (.obj _), rfl => exact distinct _ rfl

theorem distinct_member {value : Option Json} (distinct : ∀ one ∈ value, one.Distinct = true)
    (name : String) : ∀ found ∈ member value name, found.Distinct = true := by
  intro found present
  obtain ⟨fields, record, lookup⟩ := Option.bind_eq_some_iff.mp present
  exact distinct_get (distinct_asRecord distinct record) lookup

/-- Defining properties one by one keeps the keys of an object distinct. -/
theorem distinct_setAll {ι : Type} (key : ι → JsString) (value : ι → Json) {entries : List ι}
    (each : ∀ entry ∈ entries, (value entry).Distinct = true) {base : Fields}
    (distinct : (Json.obj base).Distinct = true) :
    (Json.obj (entries.foldl (fun out entry => Fields.set out (key entry) (value entry))
      base)).Distinct = true := by
  induction entries generalizing base with
  | nil => exact distinct
  | cons entry rest inductionHypothesis =>
      exact inductionHypothesis (fun other member => each other (List.mem_cons_of_mem _ member))
        (distinct_set distinct (each entry List.mem_cons_self))

theorem distinct_collect (sources : List (Option Fields)) :
    (Json.obj (collectRuntimePointerFields sources)).Distinct = true :=
  distinct_setAll (fun pointer : String × JsString => js pointer.1) (fun pointer => .str pointer.2)
    (fun _ _ => rfl) rfl

theorem distinct_spread {base extra : Fields} (baseDistinct : (Json.obj base).Distinct = true)
    (extraDistinct : (Json.obj extra).Distinct = true) :
    (Json.obj (spreadFields base extra)).Distinct = true :=
  distinct_setAll Prod.fst Prod.snd ((distinct_obj_iff extra).mp extraDistinct).2 baseDistinct

theorem distinct_firstTruthy {fallback : Json} (fallbackDistinct : fallback.Distinct = true)
    {values : List (Option Json)} (each : ∀ value ∈ values, ∀ one ∈ value, one.Distinct = true) :
    (firstTruthy fallback values).Distinct = true := by
  rw [firstTruthy_eq]
  cases first : firstTruthyAlias values with
  | none => exact fallbackDistinct
  | some value =>
      have listed := List.mem_of_find?_eq_some first
      obtain ⟨read, member, same⟩ := List.mem_filterMap.mp listed
      exact each read member value same

theorem firstPresent_mem {values : List (Option Json)} {value : Json}
    (first : firstPresent values = some value) : some value ∈ values := by
  fun_induction firstPresent values with
  | case1 => cases first
  | case2 rest inductionHypothesis => exact List.mem_cons_of_mem _ (inductionHypothesis first)
  | case3 rest inductionHypothesis => exact List.mem_cons_of_mem _ (inductionHypothesis first)
  | case4 value rest present =>
      rw [← first]
      exact List.mem_cons_self

theorem distinct_replyRoot {raw : Option Json} (distinct : ∀ one ∈ raw, one.Distinct = true) :
    (replyRoot raw).Distinct = true := by
  apply distinct_firstTruthy rfl
  intro value listed
  simp only [List.mem_cons, List.not_mem_nil, or_false] at listed
  rcases listed with rfl | rfl | rfl
  · exact distinct_member (distinct_member distinct "results") "raw"
  · exact distinct_member distinct "raw"
  · exact distinct

theorem distinct_outputCandidate {raw : Option Json}
    (distinct : ∀ one ∈ raw, one.Distinct = true) :
    ∀ one ∈ outputCandidate raw, one.Distinct = true := by
  intro one chosen
  have root : ∀ found ∈ some (replyRoot raw), found.Distinct = true := by
    rintro _ ⟨⟩
    exact distinct_replyRoot distinct
  have listed := firstPresent_mem chosen
  simp only [List.mem_cons, List.not_mem_nil, or_false] at listed
  rcases listed with found | found | found | found | found | found
  · exact distinct_member root "Output" one found.symm
  · exact distinct_member root "output" one found.symm
  · exact distinct_member root "Data" one found.symm
  · exact distinct_member root "data" one found.symm
  · exact distinct_member distinct "Output" one found.symm
  · exact distinct_member distinct "output" one found.symm

/-- The envelope of a reply has no repeated keys, since no JavaScript value has. -/
theorem distinct_replyEnvelope {raw : Option Json} (distinct : ∀ one ∈ raw, one.Distinct = true)
    {envelope : Json}
    (found : replyEnvelope (parse readNumeral) invalidOutput raw = some envelope) :
    envelope.Distinct = true := by
  have candidates := distinct_outputCandidate distinct
  unfold replyEnvelope at found
  extract_lets chosen at found
  obtain ⟨present, -⟩ := Option.filter_eq_some_iff.mp found
  simp only [chosen] at present
  split at present
  next text candidate =>
    split at present
    · cases present
    · rcases Option.or_eq_some_iff.mp present with parsed | ⟨-, invalid⟩
      · exact parse_distinct parsed
      · obtain rfl := Option.some.inj invalid
        rfl
  next fields candidate =>
    obtain rfl := Option.some.inj present
    exact candidates _ candidate
  next elements candidate =>
    obtain rfl := Option.some.inj present
    exact candidates _ candidate
  next =>
    split at present
    · obtain rfl := Option.some.inj present
      exact distinct_replyRoot distinct
    · cases present

/-- What an envelope says about its runtime has no repeated keys. -/
structure DistinctPointers (pointers : RuntimePointerProjection) : Prop where
  runtime : ∀ fields ∈ pointers.runtime, (Json.obj fields).Distinct = true
  runtimePointers : ∀ fields ∈ pointers.runtimePointers, (Json.obj fields).Distinct = true

theorem distinct_firstRecord {names : List String} {sources : List (Option Fields)}
    (each : ∀ source ∈ sources, ∀ fields ∈ source, (Json.obj fields).Distinct = true)
    {found : Fields} (first : firstRecord (acrossSources names sources) = some found) :
    (Json.obj found).Distinct = true := by
  obtain ⟨value, listed, record⟩ := List.exists_of_findSome?_eq_some first
  obtain ⟨name, -, listed⟩ := List.mem_flatMap.mp listed
  obtain ⟨source, member, rfl⟩ := List.mem_map.mp listed
  refine distinct_asRecord ?_ record
  intro one present
  obtain ⟨fields, known, lookup⟩ := Option.bind_eq_some_iff.mp present
  exact distinct_get (each source member fields known) lookup

theorem distinct_projection {sources : List (Option Fields)}
    (each : ∀ source ∈ sources, ∀ fields ∈ source, (Json.obj fields).Distinct = true) :
    DistinctPointers (extractRuntimePointerProjection sources) := by
  constructor
  · intro fields present
    exact distinct_firstRecord each present
  · intro fields present
    simp only [extractRuntimePointerProjection, Option.mem_def, Option.ite_none_right_eq_some,
      Option.some.injEq] at present
    obtain ⟨-, rfl⟩ := present
    refine distinct_spread ?_ (distinct_collect sources)
    cases pointers : firstRecord (acrossSources
      ["runtimePointers", "RuntimePointers", "runtimePointer", "RuntimePointer"] sources) with
    | none => rfl
    | some fields => exact distinct_firstRecord each pointers

theorem distinct_siteProjection {envelope : Json} (distinct : envelope.Distinct = true) :
    DistinctPointers (siteProjection envelope).pointers := by
  have here : ∀ one ∈ some envelope, one.Distinct = true := by
    rintro _ ⟨⟩
    exact distinct
  apply distinct_projection
  intro source listed fields known
  simp only [List.mem_cons, List.not_mem_nil, or_false] at listed
  rcases listed with rfl | rfl
  · obtain rfl := Option.some.inj known
    cases record : asRecord (member (some envelope) "data") with
    | none => rfl
    | some payload => exact distinct_asRecord (distinct_member here "data") record
  · exact distinct_asRecord here known

/-! ### The answer as the gateway reads it -/

/-- The hints the gateway makes of what it was sent. -/
def hintsOf (pointers : RuntimePointerProjection) : Option RuntimeRoutingHints :=
  if pointers.runtime.isNone && pointers.runtimePointers.isNone then none
  else some ⟨pointers.runtime.map sentFields, pointers.runtimePointers.map sentFields⟩

/-- The names the gateway looks for beside those the worker writes. -/
def otherNames : List String :=
  ["payload", "runtime", "Runtime", "runtimePointers", "RuntimePointers", "runtimePointer",
    "RuntimePointer"] ++ runtimePointerFields

theorem collectScalarRuntimePointers_none {source : Fields}
    (absent : ∀ name ∈ runtimePointerFields, source.get (js name) = none) :
    collectScalarRuntimePointers source = none := by
  have empty : (runtimePointerFields.filterMap fun key =>
      let value := Gateway.SiteResolver.trimString (source.get (js key))
      if value = [] then none else some (js key, Json.str value)) = [] := by
    rw [List.filterMap_eq_nil_iff]
    intro name listed
    rw [absent name listed]
    rfl
  rw [collectScalarRuntimePointers, empty]
  rfl

/-- A record without hints. -/
theorem collectRuntimeHints_none {source : Fields}
    (absent : ∀ name ∈ otherNames, source.get (js name) = none) :
    collectRuntimeHintsFromRecord (some source) = none := by
  have scalars := collectScalarRuntimePointers_none fun name listed =>
    absent name (List.mem_append_right _ listed)
  have first (names : List String) (listed : ∀ name ∈ names, name ∈ otherNames) :
      firstRecordOf source names = none := by
    rw [firstRecordOf, List.findSome?_eq_none_iff]
    intro name member
    rw [absent name (listed name member)]
    rfl
  simp [collectRuntimeHintsFromRecord, scalars, first ["runtime", "Runtime"] (by decide),
    first ["runtimePointers", "RuntimePointers", "runtimePointer", "RuntimePointer"] (by decide)]

/-- The hints in a record that has them under their first names. -/
theorem collectRuntimeHints_first {data : Fields} {runtime runtimePointers : Option Fields}
    (runtimeField : data.get (js "runtime") = runtime.map .obj)
    (pointersField : data.get (js "runtimePointers") = runtimePointers.map .obj)
    (absent : ∀ name ∈ otherNames, name ≠ "runtime" → name ≠ "runtimePointers" →
      data.get (js name) = none) :
    collectRuntimeHintsFromRecord (some data) =
      if runtime.isNone && runtimePointers.isNone then none
      else some ⟨runtime, runtimePointers⟩ := by
  have scalars := collectScalarRuntimePointers_none fun name listed =>
    absent name (List.mem_append_right _ listed)
      (by rintro rfl; revert listed; decide) (by rintro rfl; revert listed; decide)
  have firstRuntime : firstRecordOf data ["runtime", "Runtime"] = runtime := by
    have second := absent "Runtime" (by decide) (by decide) (by decide)
    cases runtime <;> simp [firstRecordOf, runtimeField, second, asRecord]
  have firstPointers : firstRecordOf data
      ["runtimePointers", "RuntimePointers", "runtimePointer", "RuntimePointer"] =
        runtimePointers := by
    have second := absent "RuntimePointers" (by decide) (by decide) (by decide)
    have third := absent "runtimePointer" (by decide) (by decide) (by decide)
    have fourth := absent "RuntimePointer" (by decide) (by decide) (by decide)
    cases runtimePointers <;>
      simp [firstRecordOf, pointersField, second, third, fourth, asRecord]
  simp only [collectRuntimeHintsFromRecord, Option.bind_some, firstRuntime, firstPointers, scalars]
  cases runtime <;> cases runtimePointers <;> simp [mergeFields]

/-- Hints merged over none stay as they are. -/
theorem mergeRuntimeHints_none {runtime runtimePointers : Option Fields}
    (runtimeDistinct : ∀ fields ∈ runtime, (fields.map Prod.fst).Nodup)
    (pointersDistinct : ∀ fields ∈ runtimePointers, (fields.map Prod.fst).Nodup) :
    mergeRuntimeHints (if runtime.isNone && runtimePointers.isNone then none
      else some ⟨runtime, runtimePointers⟩) none =
        if runtime.isNone && runtimePointers.isNone then none
        else some ⟨runtime, runtimePointers⟩ := by
  have part {primary : Option Fields} (distinct : ∀ fields ∈ primary, (fields.map Prod.fst).Nodup) :
      mergePart primary none = primary := by
    cases primary with
    | none => rfl
    | some fields => exact congrArg some (mergeFields_nil (distinct fields rfl))
  cases runtime <;> cases runtimePointers <;>
    simp_all [mergeRuntimeHints, part runtimeDistinct, part pointersDistinct]

/-- The names the worker writes into `data`. -/
def dataNames : List JsString :=
  [js "siteId", js "activeVersion", js "runtime", js "runtimePointers"]

theorem data_keys (site : SiteProjection) : (site.data.map Prod.fst).Sublist dataNames := by
  have optional (name : String) (value : Option Json) :
      ((presentField name value).map Prod.fst).Sublist [js name] := by
    cases value with
    | none => exact List.nil_sublist _
    | some value => exact List.Sublist.refl _
  simp only [SiteProjection.data, List.cons_append, List.map_cons, List.map_append]
  exact (((optional "activeVersion" _).append (optional "runtime" _)).append
    (optional "runtimePointers" _)).cons_cons (js "siteId")

theorem data_named (site : SiteProjection) : ∀ field ∈ site.data, field.1 ∈ dataNames :=
  fun _ listed => (data_keys site).subset (List.mem_map_of_mem listed)

/-- What the gateway finds in the `data` it was sent. -/
def sentData (site : SiteProjection) : Fields := site.data.map fun field => (field.1, sent field.2)

theorem get_of_absent {fields : Fields} {key : JsString} (absent : key ∉ fields.map Prod.fst) :
    fields.get key = none := by
  rw [Fields.get, List.lookup_eq_none_iff]
  intro field listed
  rw [bne_iff_ne]
  rintro rfl
  exact absent (List.mem_map_of_mem listed)

theorem get_sentData_none (site : SiteProjection) {key : JsString} (other : key ∉ dataNames) :
    (sentData site).get key = none := by
  apply get_of_absent
  intro member
  obtain ⟨field, listed, rfl⟩ := List.mem_map.mp member
  obtain ⟨original, present, rfl⟩ := List.mem_map.mp listed
  exact other (data_named site original present)

theorem get_sentData (site : SiteProjection) :
    (sentData site).get (js "siteId") = some (.str site.siteId) ∧
      (sentData site).get (js "runtime") = (site.pointers.runtime.map sentFields).map .obj ∧
      (sentData site).get (js "runtimePointers") =
        (site.pointers.runtimePointers.map sentFields).map .obj := by
  obtain ⟨siteId, activeVersion, runtime, runtimePointers⟩ := site
  by_cases version : activeVersion = [] <;> cases runtime <;> cases runtimePointers <;>
    simp only [sentData, SiteProjection.data, version, if_true, if_false] <;>
    exact ⟨rfl, rfl, rfl⟩

theorem sent_siteReply {site : SiteProjection} (named : site.siteId ≠ []) :
    sent (.obj (siteReply site).body) =
      .obj [(js "status", .str (js "OK")), (js "data", .obj (sentData site)),
        (js "source", .str (js "registry"))] := by
  have dataKeys : ∀ field ∈ site.data, keyIndex field.1 = none := by
    intro field listed
    have noIndex : ∀ name ∈ dataNames, keyIndex name = none := by decide
    exact noIndex field.1 (data_named site field listed)
  rw [siteReply, if_neg named, sent_obj, sentFields_of_named]
  · simp only [List.map_cons, List.map_nil, sent_obj, sentFields_of_named dataKeys]
    rfl
  · simp only [List.mem_cons, List.not_mem_nil, or_false]
    rintro field (rfl | rfl | rfl) <;> rfl

/-- The gateway reads the site and the hints of a found site as the worker sent them. -/
theorem parseResolverBody_siteReply {site : SiteProjection} (named : site.siteId ≠ [])
    (trimmed : trim site.siteId = site.siteId) (distinct : DistinctPointers site.pointers) :
    parseResolverBody (some (sent (.obj (siteReply site).body))) =
      ⟨some site.siteId, hintsOf site.pointers⟩ := by
  obtain ⟨siteField, runtimeField, pointersField⟩ := get_sentData site
  have outer : ∀ name ∈ "siteId" :: otherNames,
      Fields.get [(js "status", Json.str (js "OK")), (js "data", .obj (sentData site)),
        (js "source", .str (js "registry"))] (js name) = none := by
    intro name listed
    apply get_of_absent
    show js name ∉ [js "status", js "data", js "source"]
    revert name
    decide
  have inner : ∀ name ∈ otherNames, name ≠ "runtime" → name ≠ "runtimePointers" →
      (sentData site).get (js name) = none := by
    intro name listed notRuntime notPointers
    apply get_sentData_none
    revert name
    decide
  have dataField : asRecord (Fields.get [(js "status", Json.str (js "OK")),
      (js "data", .obj (sentData site)), (js "source", .str (js "registry"))] (js "data")) =
        some (sentData site) := rfl
  have noHints := collectRuntimeHints_none fun name listed => outer name (List.mem_cons_of_mem _ listed)
  have hints := collectRuntimeHints_first runtimeField pointersField inner
  have sentDistinct {fields : Option Fields}
      (each : ∀ one ∈ fields, (Json.obj one).Distinct = true) :
      ∀ one ∈ fields.map sentFields, (one.map Prod.fst).Nodup := by
    intro one present
    obtain ⟨original, listed, rfl⟩ := Option.map_eq_some_iff.mp present
    exact nodup_sentFields (each original listed)
  have siteNames : firstSite [Gateway.SiteResolver.trimString none, Gateway.SiteResolver.trimString none,
      Gateway.SiteResolver.trimString (some (.str site.siteId))] = some site.siteId := by
    simp [firstSite, Gateway.SiteResolver.trimString, trimmed, named]
  rw [sent_siteReply named]
  unfold parseResolverBody
  simp only [asRecord] at dataField ⊢
  simp only [outer "siteId" (by decide), outer "payload" (by decide), dataField, Option.bind_none,
    Option.none_or, Option.bind_some, siteField, siteNames, hints, noHints,
    mergeRuntimeHints_none (sentDistinct distinct.runtime) (sentDistinct distinct.runtimePointers)]
  simp only [hintsOf, Option.isNone_map]

/-! ### What the registry says -/

/-- The meaning of a reply of the registry. -/
inductive SiteAnswer where
  | found (site : SiteProjection)
  | missing
  | broken

/-- The reply means that there is no such site. -/
def meansMissing (envelope : Json) : Bool :=
  if envelopeStatus envelope = [] then
    trimString (member (some envelope) "ao-types") ≠ [] ∧
      trimString (member (some envelope) "data") = [] ∧
      trimString (member (some envelope) "prompt") = []
  else toUpperCase (trimString (member (some envelope) "code")) = js "NOT_FOUND"

/-- Only an `OK` envelope that names a site and is no output of a shell finds one. -/
def siteAnswer (parseJson : JsString → Option Json) (raw : Option Json) : SiteAnswer :=
  match replyEnvelope parseJson invalidOutput raw with
  | none => if hasRuntimeError raw then .broken else .missing
  | some envelope =>
      if isShellPromptOutput (some envelope) then .broken
      else if envelopeStatus envelope = js "OK" then
        if (siteProjection envelope).siteId = [] then .broken else .found (siteProjection envelope)
      else if meansMissing envelope then .missing
      else .broken

/-- A status that is neither a success nor `404`. -/
def Failing (status : Nat) : Prop := status ≠ 404 ∧ 300 ≤ status

theorem codeReply_status (envelope : Json) :
    if toUpperCase (trimString (member (some envelope) "code")) = js "NOT_FOUND" then
      (codeReply envelope).status = 404
    else Failing (codeReply envelope).status := by
  unfold codeReply Failing
  dsimp only
  split_ifs <;> simp_all

/-- What the worker makes of each meaning. -/
def Conveys (reply : Reply) : SiteAnswer → Prop
  | .found site => reply = siteReply site ∧ site.siteId ≠ [] ∧ trim site.siteId = site.siteId ∧
      DistinctPointers site.pointers
  | .missing => reply.status = 404
  | .broken => Failing reply.status

theorem normalizeSiteByHostEnvelope_conveys {raw : Option Json}
    (distinct : ∀ one ∈ raw, one.Distinct = true) :
    Conveys (normalizeSiteByHostEnvelope (parse readNumeral) raw)
      (siteAnswer (parse readNumeral) raw) := by
  unfold normalizeSiteByHostEnvelope siteAnswer
  cases found : replyEnvelope (parse readNumeral) invalidOutput raw with
  | none =>
      dsimp only
      split
      · exact ⟨by decide, by decide⟩
      · rfl
  | some envelope =>
      dsimp only
      by_cases prompt : isShellPromptOutput (some envelope) = true
      · rw [if_pos prompt, if_pos prompt]
        exact ⟨by decide, by decide⟩
      rw [if_neg prompt, if_neg prompt]
      by_cases ok : envelopeStatus envelope = js "OK"
      · have present : envelopeStatus envelope ≠ [] := by
          rw [ok]
          decide
        rw [if_neg present, if_pos ok, if_pos ok]
        by_cases named : (siteProjection envelope).siteId = []
        · rw [if_pos named, siteReply, if_pos named]
          exact ⟨by decide, by decide⟩
        · rw [if_neg named]
          exact ⟨rfl, named, trim_firstNonEmptyString _,
            distinct_siteProjection (distinct_replyEnvelope distinct found)⟩
      · rw [if_neg ok, if_neg ok]
        by_cases blank : envelopeStatus envelope = []
        · simp only [meansMissing, blank, if_true]
          split
          · next empty =>
              rw [if_pos (by simpa using empty)]
              rfl
          · next other =>
              rw [if_neg (by simpa using other)]
              exact ⟨by decide, by decide⟩
        · simp only [meansMissing, blank, if_false, decide_eq_true_eq]
          have status := codeReply_status envelope
          split
          · next code =>
              rw [if_pos code] at status
              exact status
          · next code =>
              rw [if_neg code] at status
              exact status

/-! ### The request of the gateway -/

/-- The request for a host as the worker receives it. -/
def gatewayCall (readNumeral : JsString → Option Number) (host nowIso : JsString)
    (random : String → JsString) : BridgeCall where
  body := parse readNumeral (Json.obj [(js "host", .str host)]).stringify
  nowIso := nowIso
  random := random

theorem gatewayCall_body (host nowIso : JsString) (random : String → JsString) :
    (gatewayCall readNumeral host nowIso random).body = some (.obj [(js "host", .str host)]) := by
  have read := @parse_reread readNumeral (.obj [(js "host", .str host)]) rfl fun _ member => by
    cases member
  rw [gatewayCall, read]
  rfl

theorem normalizeLookupHost_trim (host : JsString) :
    normalizeLookupHost (some (.str (trim host))) = normalizeLookupHost (some (.str host)) := by
  have same : trimString (some (.str (trim host))) = trimString (some (.str host)) := trim_trim host
  rw [normalizeLookupHost, same, normalizeLookupHost]

/-- A field without an alias is its trimmed text. -/
theorem canonicalFieldValue_single (text : JsString) (message : String) :
    canonicalFieldValue [some (.str text), none] message = .ok (trim text) := by
  by_cases blank : trim text = []
  · simp [canonicalFieldValue, blank]
  · simp [canonicalFieldValue, blank, List.eraseDups_cons]

/-- The worker reads the host of the gateway, and no ids. -/
theorem parseSiteByHostInput_gatewayCall (host nowIso : JsString) (random : String → JsString) :
    parseSiteByHostInput (gatewayCall readNumeral host nowIso random).body =
      (normalizeLookupHost (some (.str host))).map fun name => ⟨name, [], []⟩ := by
  have empty (message : String) : canonicalFieldValue [none, none] message = .ok [] := rfl
  have hostField : Fields.get [(js "host", .str host)] (js "host") = some (.str host) := rfl
  have absent (name : JsString) (other : name ≠ js "host") :
      Fields.get [(js "host", .str host)] name = none := by
    apply get_of_absent
    simpa using other
  rw [gatewayCall_body]
  simp only [parseSiteByHostInput, asRecord]
  rw [if_neg (by simp [siteByHostFields])]
  simp only [hostField, absent (js "Host") (by decide), absent (js "requestId") (by decide),
    absent (js "Request-Id") (by decide), absent (js "traceId") (by decide),
    absent (js "Trace-Id") (by decide), canonicalFieldValue_single, empty, bind, Except.bind,
    normalizeLookupHost_trim]
  cases normalizeLookupHost (some (.str host)) with
  | error failure => rfl
  | ok name => rfl

/-- The answer with a found site has no repeated keys. -/
theorem distinct_siteReply {site : SiteProjection} (named : site.siteId ≠ [])
    (pointers : DistinctPointers site.pointers) :
    (Json.obj (siteReply site).body).Distinct = true := by
  have optional {value : Option Fields} (each : ∀ fields ∈ value, (Json.obj fields).Distinct = true)
      {name : String} : ∀ field ∈ presentField name (value.map .obj), field.2.Distinct = true := by
    cases value with
    | none => simp [presentField]
    | some fields =>
        intro field listed
        rw [List.mem_singleton.mp listed]
        exact each fields rfl
  have data : (Json.obj site.data).Distinct = true := by
    rw [distinct_obj_iff]
    constructor
    · exact (data_keys site).nodup (by decide)
    · intro field listed
      simp only [SiteProjection.data, List.cons_append, List.mem_cons, List.mem_append] at listed
      rcases listed with rfl | ((version | runtime) | runtimePointers)
      · rfl
      · split at version
        · cases version
        · rw [List.mem_singleton.mp version]
          rfl
      · exact optional pointers.runtime field runtime
      · exact optional pointers.runtimePointers field runtimePointers
  rw [siteReply, if_neg named, distinct_obj_iff]
  constructor
  · show [js "status", js "data", js "source"].Nodup
    decide
  · simp only [List.mem_cons, List.not_mem_nil, or_false]
    rintro field (rfl | rfl | rfl)
    · rfl
    · exact data
    · rfl

theorem failing_normalizeLookupHost {value : Option Json} {failure : HttpException}
    (refused : normalizeLookupHost value = .error failure) : Failing failure.status := by
  have status : failure.status = 400 := by
    unfold normalizeLookupHost at refused
    dsimp only at refused
    split_ifs at refused <;> (cases refused; rfl)
  rw [status]
  exact ⟨by decide, by decide⟩

/-! ### The whole lookup -/

/-- The answer of the worker as the gateway receives it; an exception is sent as
a text that is no JSON. -/
def workerResponse (readNumeral : JsString → Option Number)
    (outcome : Except HttpException Reply) : ResolverResponse :=
  match outcome with
  | .error exception => .answered exception.status none
  | .ok reply => .answered reply.status (parse readNumeral (Json.obj reply.body).stringify)

def unavailable : AoLookupResult := .unavailable "site_resolver_unavailable" 503

/-- What the gateway should make of what the registry says. -/
def answerResult : SiteAnswer → AoLookupResult
  | .found site => .resolved site.siteId (hintsOf site.pointers)
  | .missing => .notFound
  | .broken => unavailable

def registryResult (parseJson : JsString → Option Json) : AoReply → AoLookupResult
  | .failed _ => unavailable
  | .answered raw => answerResult (siteAnswer parseJson raw)

/-- The replies of the registry: JavaScript values, whose numbers survive being
written and read. -/
structure Faithful (readNumeral : JsString → Option Number) (registry : AoMessage → AoReply) :
    Prop where
  distinct : ∀ message raw, registry message = .answered raw →
    ∀ one ∈ raw, one.Distinct = true
  readsBack : ∀ message raw, registry message = .answered raw →
    ReadsBack readNumeral
      (Json.obj (normalizeSiteByHostEnvelope (parse readNumeral) raw).body).numbers

section Lookup

variable {gatewayEnv : Gateway.Environment.Env} {state : ResolverState} {host : JsString} {now : Int}

theorem finishLookup_failing {status : Nat} (failing : Failing status) (body : Option Json) :
    (finishLookup gatewayEnv state host (.answered status body) now).2 = unavailable := by
  have outside : status < 200 ∨ 300 ≤ status := Or.inr failing.2
  simp only [finishLookup, if_neg failing.1, if_pos outside]
  rfl

/-- The gateway acts on a reply as the registry meant it. -/
theorem finishLookup_conveyed {reply : Reply} {answer : SiteAnswer}
    (conveys : Conveys reply answer)
    (readsBack : ReadsBack readNumeral (Json.obj reply.body).numbers) :
    (finishLookup gatewayEnv state host (workerResponse readNumeral (.ok reply)) now).2 =
      answerResult answer := by
  cases answer with
  | broken => exact finishLookup_failing conveys _
  | missing =>
      rw [workerResponse, show reply.status = 404 from conveys]
      rfl
  | found site =>
      obtain ⟨rfl, named, trimmed, pointers⟩ := conveys
      have status : (siteReply site).status = 200 := by rw [siteReply, if_neg named]
      have distinct := distinct_siteReply named pointers
      have body := parseResolverBody_siteReply named trimmed pointers
      rw [workerResponse, parse_reread distinct readsBack, status]
      simp only [sent] at body
      simp [finishLookup, body, answerResult]

end Lookup

/-- Whatever the registry replies, the gateway ends a lookup through the worker
as the registry meant it, for the normal form of the host it asked for: it
resolves the site and the hints of a found one, knows a missing one as missing,
and takes everything else for an unavailable resolver. -/
theorem lookup_through_worker (gatewayEnv : Gateway.Environment.Env) (state : ResolverState)
    (now : Int) (env : BridgeEnv) (host nowIso : JsString) (random : String → JsString)
    {registry : AoMessage → AoReply} (faithful : Faithful readNumeral registry)
    (journal : List BridgeEvent) :
    (finishLookup gatewayEnv state host (workerResponse readNumeral
        (siteByHostRoute (parse readNumeral) env (gatewayCall readNumeral host nowIso random)
          registry journal).1) now).2 =
      match normalizeLookupHost (some (.str host)) with
      | .error _ => unavailable
      | .ok name =>
          if cleanEnv env.aoRegistryProcessId = [] then unavailable
          else registryResult (parse readNumeral) (registry (siteByHostMessage env
            (gatewayCall readNumeral host nowIso random) ⟨name, [], []⟩)) := by
  unfold siteByHostRoute
  rw [parseSiteByHostInput_gatewayCall]
  cases normalized : normalizeLookupHost (some (.str host)) with
  | error failure =>
      rw [Except.map, Stateful.lift_bind_of_error rfl]
      exact finishLookup_failing (failing_normalizeLookupHost normalized) none
  | ok name =>
      rw [Except.map, Stateful.lift_bind_of_ok rfl]
      dsimp only
      by_cases unconfigured : cleanEnv env.aoRegistryProcessId = []
      · rw [if_pos unconfigured, if_pos unconfigured]
        exact finishLookup_failing ⟨by decide, by decide⟩ none
      rw [if_neg unconfigured, if_neg unconfigured]
      generalize asked : siteByHostMessage env (gatewayCall readNumeral host nowIso random)
        ⟨name, [], []⟩ = message
      have recorded : (Stateful.record (.read message) : Bridge Unit) journal =
          (.ok (), journal ++ [.read message]) := rfl
      rw [Stateful.bind_of_ok recorded]
      cases replied : registry message with
      | failed text =>
          have failing : Failing (upstreamReply text).status := by
            unfold upstreamReply Failing
            cases isAoReadTimeoutErrorMessage text <;> simp
          exact finishLookup_failing failing _
      | answered raw =>
          exact finishLookup_conveyed
            (normalizeSiteByHostEnvelope_conveys (faithful.distinct message raw replied))
            (faithful.readsBack message raw replied)

/-- A reply that finds one site. -/
def shopReply : Json :=
  .obj [(js "Output", .obj [(js "status", .str (js "ok")),
    (js "data", .obj [(js "siteId", .str (js "shop")), (js "processId", .str (js "p1"))])])]

def shopRegistry (_ : AoMessage) : AoReply := .answered (some shopReply)

theorem shopRegistry_faithful : Faithful (fun _ => none) shopRegistry where
  distinct message raw answered := by
    cases answered
    rintro _ ⟨⟩
    rfl
  readsBack message raw answered := by
    cases answered
    have none : (Json.obj (normalizeSiteByHostEnvelope (parse fun _ => Option.none)
      (some shopReply)).body).numbers = [] := rfl
    rw [none]
    intro decimal member
    cases member

theorem shop_resolved :
    (finishLookup (fun _ => none) .initial (js "Shop.Example.") (workerResponse (fun _ => none)
        (siteByHostRoute (parse fun _ => none) { aoRegistryProcessId := some (js "registry") }
          (gatewayCall (fun _ => none) (js "Shop.Example.") [] fun _ => []) shopRegistry []).1)
        0).2 =
      .resolved (js "shop") (some ⟨none, some [(js "processId", .str (js "p1"))]⟩) :=
  (lookup_through_worker (fun _ => none) .initial 0 { aoRegistryProcessId := some (js "registry") }
    (js "Shop.Example.") [] (fun _ => []) shopRegistry_faithful []).trans (by
      have name : normalizeLookupHost (some (.str (js "Shop.Example."))) =
          .ok (js "shop.example") := by decide
      rw [name]
      rfl)

end DarkmeshGateway.SecretsWorker.HostLookup
