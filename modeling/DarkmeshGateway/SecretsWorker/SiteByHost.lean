import DarkmeshGateway.SecretsWorker.ReadAction

/-!
Contract: the worker's lookup of a host in the registry.

Owns the hosts and ids a lookup accepts, the message it sends, the envelope in
a reply of an AO process, the runtime pointers and the process id an envelope
names, and the three answers made of an envelope.

Does not own the AO client: a lookup is given the reply of the registry.
-/

namespace DarkmeshGateway.SecretsWorker.SiteByHost

open Foundation
open Foundation.Js
open Foundation.Stateful
open SecretsWorker.Fields
open SecretsWorker.ReadAction

/-! ### Input -/

/-- `[a-z0-9-]` -/
def isLabelUnit (unit : CodeUnit) : Bool :=
  (97 ≤ unit.toNat && unit.toNat ≤ 122) || isDigit unit || unit == 45

def labelOk (label : JsString) : Bool :=
  label != [] && label.length ≤ 63 && label.all isLabelUnit && label.head? != some 45 &&
    label.getLast? != some 45

/-- The host without one dot at its end. -/
def dropFinalDot (raw : JsString) : JsString := if raw.getLast? = some 46 then raw.dropLast else raw

/-- The checks on a host in front of those on its labels. -/
def hostShapeOk (host : JsString) : Bool :=
  !includes host (js "://") && !host.any (fun unit => (js "/?#:").contains unit) &&
    !host.any isWhitespace && host.head? != some 46 && host.getLast? != some 46 &&
    !includes host (js "..")

def normalizeLookupHost (value : Option Json) : Except HttpException JsString :=
  let raw := toLowerCase (trimString value)
  if raw = [] then .error ⟨400, "host_required"⟩
  else
    let host := dropFinalDot raw
    if host = [] ∨ 255 < host.length then .error ⟨400, "invalid_host"⟩
    else if !hostShapeOk host then .error ⟨400, "invalid_host"⟩
    else
      let labels := host.splitOn 46
      if labels.length < 2 then .error ⟨400, "invalid_host"⟩
      else if labels.all labelOk then .ok host
      else .error ⟨400, "invalid_host"⟩

structure SiteByHostLookupInput where
  host : JsString
  requestId : JsString
  traceId : JsString

def siteByHostFields : List JsString :=
  [js "host", js "Host", js "requestId", js "Request-Id", js "traceId", js "Trace-Id"]

/-- `SAFE_REQUEST_ID_RE`. -/
def requestIdOk (requestId : JsString) : Bool :=
  requestId.all isTraceUnit && 6 ≤ requestId.length && requestId.length ≤ 128

def parseSiteByHostInput (raw : Option Json) : Except HttpException SiteByHostLookupInput :=
  match asRecord raw with
  | none => .error ⟨400, "invalid_body"⟩
  | some body =>
      if body.any fun field => !siteByHostFields.contains field.1 then
        .error ⟨400, "unknown_field"⟩
      else do
        let hostRaw ← canonicalFieldValue [body.get (js "host"), body.get (js "Host")] "host_mismatch"
        let host ← normalizeLookupHost (some (.str hostRaw))
        let requestId ← canonicalFieldValue [body.get (js "requestId"), body.get (js "Request-Id")]
          "request_id_mismatch"
        if requestId ≠ [] ∧ !requestIdOk requestId then .error ⟨400, "invalid_request_id"⟩
        else
          let traceRaw ← canonicalFieldValue [body.get (js "traceId"), body.get (js "Trace-Id")]
            "trace_id_mismatch"
          let traceId := resolveTraceId traceRaw
          if traceRaw ≠ [] ∧ traceId = [] then .error ⟨400, "invalid_trace_id"⟩
          else .ok ⟨host, requestId, traceId⟩

/-! ### Message -/

def buildSiteByHostTags (requestId registryPid host traceId : JsString) : List Tag :=
  [(js "Action", js "GetSiteByHost"), (js "Request-Id", requestId),
    (js "Reply-To", registryPid), (js "Host", host)] ++ transportTags ++
    presentText "Trace-Id" traceId

def buildSiteByHostData (requestId host : JsString) : Fields :=
  [(js "Action", .str (js "GetSiteByHost")), (js "Request-Id", .str requestId),
    (js "Host", .str host)]

/-! ### The envelope of a reply -/

/-- `value?.name`. -/
def member (value : Option Json) (name : String) : Option Json :=
  (asRecord value).bind fun fields => fields.get (js name)

/-- `a ?? b ?? ...`. -/
def firstPresent : List (Option Json) → Option Json
  | [] => none
  | none :: rest => firstPresent rest
  | some .null :: rest => firstPresent rest
  | some value :: _ => some value

/-- `raw?.results?.raw || raw?.raw || raw || {}`. -/
def replyRoot (raw : Option Json) : Json :=
  firstTruthy (.obj []) [member (member raw "results") "raw", member raw "raw", raw]

def outputCandidate (raw : Option Json) : Option Json :=
  let normalized := some (replyRoot raw)
  firstPresent [member normalized "Output", member normalized "output", member normalized "Data",
    member normalized "data", member raw "Output", member raw "output"]

def isText : Option Json → Bool
  | some (.str _) => true
  | _ => false

/-- The truthy envelope in a reply; a text that is not JSON is replaced. -/
def replyEnvelope (parseJson : JsString → Option Json) (invalid : JsString → Option Json)
    (raw : Option Json) : Option Json :=
  let envelope := match outputCandidate raw with
    | some (.str text) => if trim text = [] then none else (parseJson text).or (invalid text)
    | some (.obj fields) => some (.obj fields)
    | some (.arr elements) => some (.arr elements)
    | _ => if isText (member (some (replyRoot raw)) "status") then some (replyRoot raw) else none
  envelope.filter Json.truthy

/-- `{ status: 'ERROR', code: 'INVALID_OUTPUT', message: output }`. -/
def invalidOutput (text : JsString) : Option Json :=
  some (.obj [(js "status", .str (js "ERROR")), (js "code", .str (js "INVALID_OUTPUT")),
    (js "message", .str text)])

/-- The reply names an error of the runtime. -/
def hasRuntimeError (raw : Option Json) : Bool :=
  match member (some (replyRoot raw)) "Error" with
  | some (.obj fields) => !fields.isEmpty
  | some (.arr elements) => !elements.isEmpty
  | _ => false

def isShellPromptOutput (value : Option Json) : Bool :=
  match asRecord value with
  | none => false
  | some record =>
      if trimString (record.get (js "prompt")) = [] then false
      else if trimString (record.get (js "ao-types")) ≠ [] then true
      else includes (trimString (record.get (js "data"))) (js "New Message From")

def envelopeStatus (envelope : Json) : JsString :=
  toUpperCase (trimString (member (some envelope) "status"))

/-! ### Runtime pointers -/

def runtimePointerFieldKeys : List String :=
  ["siteProcessId", "readProcessId", "processId", "writeProcessId", "catalogProcessId",
    "accessProcessId", "ingestProcessId", "registryProcessId", "workerId", "workerUrl",
    "updatedAt", "sitePid", "readPid", "writePid", "catalogPid", "accessPid", "ingestPid",
    "registryPid", "workerPid", "site_process_id", "read_process_id", "write_process_id",
    "catalog_process_id", "access_process_id", "ingest_process_id", "registry_process_id",
    "worker_id", "worker_url", "ProcessId", "Process-Id", "process_id", "UpdatedAt",
    "Updated-At", "moduleId", "ModuleId", "Module-Id", "module_id", "scheduler", "Scheduler",
    "Scheduler-Id", "schedulerId", "scheduler_id", "updated_at"]

/-- The properties of some names that are non-blank texts, source by source. -/
def scalarFields (names : List String) (sources : List (Option Fields)) :
    List (String × JsString) :=
  (sources.filterMap id).flatMap fun source => names.filterMap fun name =>
    let value := trimString (source.get (js name))
    if value = [] then none else some (name, value)

def collectRuntimePointerFields (sources : List (Option Fields)) : Fields :=
  (scalarFields runtimePointerFieldKeys sources).foldl
    (fun out pointer => out.set (js pointer.1) (.str pointer.2)) []

def firstRecord (values : List (Option Json)) : Option Fields := values.findSome? asRecord

/-- `...sources.map((source) => source?.name)` for one name after another. -/
def acrossSources (names : List String) (sources : List (Option Fields)) : List (Option Json) :=
  names.flatMap fun name => sources.map fun source => source.bind fun fields => fields.get (js name)

structure RuntimePointerProjection where
  runtime : Option Fields
  runtimePointers : Option Fields

/-- `{ ...base, ...extra }`. -/
def spreadFields (base extra : Fields) : Fields :=
  extra.foldl (fun merged property => merged.set property.1 property.2) base

def extractRuntimePointerProjection (sources : List (Option Fields)) : RuntimePointerProjection :=
  let runtimePointers := firstRecord
    (acrossSources ["runtimePointers", "RuntimePointers", "runtimePointer", "RuntimePointer"] sources)
  let scalarPointers := collectRuntimePointerFields sources
  { runtime := firstRecord (acrossSources ["runtime", "Runtime"] sources)
    runtimePointers :=
      if runtimePointers.isSome ∨ scalarPointers ≠ [] then
        some (spreadFields (runtimePointers.getD []) scalarPointers)
      else none }

/-! ### The process of a site -/

def siteRuntimeProcessFieldKeys : List String :=
  ["siteProcessId", "readProcessId", "processId", "sitePid", "readPid", "site_process_id",
    "read_process_id", "ProcessId", "Process-Id", "process_id"]

def readKeys : List String :=
  ["siteProcessId", "readProcessId", "sitePid", "readPid", "site_process_id", "read_process_id"]

def genericKeys : List String := ["processId", "ProcessId", "Process-Id", "process_id"]

/-- The message of the `Error` a conflict throws. -/
def pidConflict (values : List (String × JsString)) : JsString :=
  js "site_runtime_pid_conflict:" ++
    List.intercalate [44] (values.map fun entry => js entry.1 ++ 61 :: entry.2)

/-- The one value of some entries. -/
def uniqueProcess (values : List (String × JsString)) : Except JsString JsString :=
  match (values.map Prod.snd).eraseDups with
  | [] => .ok []
  | [value] => .ok value
  | _ => .error (pidConflict values)

def resolveSiteRuntimeProcessId (sources : List (Option Fields)) : Except JsString JsString :=
  let values := scalarFields siteRuntimeProcessFieldKeys sources
  let readValues := values.filter fun entry => readKeys.contains entry.1
  let genericValues := values.filter fun entry =>
    !readKeys.contains entry.1 && genericKeys.contains entry.1
  if readValues ≠ [] then uniqueProcess readValues else uniqueProcess genericValues

/-! ### Answers -/

/-- The status and the body an endpoint answers. -/
structure Reply where
  status : Nat
  body : Fields

/-- `{ status: 'ERROR', code, message }` -/
def errorReply (status : Nat) (code message : String) : Reply :=
  ⟨status, [(js "status", .str (js "ERROR")), (js "code", .str (js code)),
    (js "message", .str (js message))]⟩

def notFoundReply : Reply := errorReply 404 "NOT_FOUND" "not_found_or_empty_result"

def invalidUpstream (message : String) : Reply := errorReply 502 "INVALID_UPSTREAM_RESPONSE" message

/-- The answer to an envelope whose status is not `OK`: its code as a status,
and the envelope. -/
def codeReply (envelope : Json) : Reply :=
  let code := toUpperCase (trimString (member (some envelope) "code"))
  let status :=
    if code = js "NOT_FOUND" then 404
    else if code = js "INVALID_INPUT" ∨ code = js "UNSUPPORTED_FIELD" ∨ code = js "MISSING_TAGS" then
      400
    else if code = js "FORBIDDEN" then 403
    else if code = js "UNAUTHORIZED" then 401
    else if code ≠ [] then 422
    else 502
  ⟨status, (asRecord (some envelope)).getD []⟩

/-- A property that is left out when its value is. -/
def presentField (name : String) (value : Option Json) : Fields :=
  value.elim [] fun value => [(js name, value)]

/-- The site an envelope names, and what it says about its runtime. -/
structure SiteProjection where
  siteId : JsString
  activeVersion : JsString
  pointers : RuntimePointerProjection

def siteProjection (envelope : Json) : SiteProjection :=
  let payload := (asRecord (member (some envelope) "data")).getD []
  { siteId := firstNonEmptyString [payload.get (js "siteId"), member (some envelope) "siteId"]
    activeVersion := firstNonEmptyString
      [payload.get (js "activeVersion"), member (some envelope) "activeVersion"]
    pointers := extractRuntimePointerProjection [some payload, asRecord (some envelope)] }

/-- The `data` of a found site. -/
def SiteProjection.data (site : SiteProjection) : Fields :=
  (js "siteId", .str site.siteId) ::
    presentField "activeVersion"
      (if site.activeVersion = [] then none else some (.str site.activeVersion)) ++
    presentField "runtime" (site.pointers.runtime.map .obj) ++
    presentField "runtimePointers" (site.pointers.runtimePointers.map .obj)

def siteReply (site : SiteProjection) : Reply :=
  if site.siteId = [] then invalidUpstream "missing_site_id"
  else ⟨200, [(js "status", .str (js "OK")), (js "data", .obj site.data),
    (js "source", .str (js "registry"))]⟩

def normalizeSiteByHostEnvelope (parseJson : JsString → Option Json) (raw : Option Json) : Reply :=
  match replyEnvelope parseJson invalidOutput raw with
  | none =>
      if hasRuntimeError raw then invalidUpstream "invalid_registry_response" else notFoundReply
  | some envelope =>
      if isShellPromptOutput (some envelope) then
        invalidUpstream "registry_shell_output_without_envelope"
      else if envelopeStatus envelope = [] then
        if trimString (member (some envelope) "ao-types") ≠ [] ∧
            trimString (member (some envelope) "data") = [] ∧
            trimString (member (some envelope) "prompt") = [] then notFoundReply
        else invalidUpstream "missing_status_field"
      else if envelopeStatus envelope = js "OK" then siteReply (siteProjection envelope)
      else codeReply envelope

/-- The process id and the runtime pointers of a site. -/
structure SiteRuntime where
  siteProcessId : JsString
  pointers : RuntimePointerProjection

def SiteRuntime.unknown : SiteRuntime := ⟨[], none, none⟩

/-- `payload`, `config` and the envelope. -/
def runtimeRecords (envelope : Json) : List (Option Fields) :=
  let payload := (asRecord (member (some envelope) "data")).getD []
  [some payload, asRecord (payload.get (js "config")), asRecord (some envelope)]

/-- The records a process id is looked for in. -/
def processSources (envelope : Json) : List (Option Fields) :=
  let pointers := extractRuntimePointerProjection (runtimeRecords envelope)
  [pointers.runtime, pointers.runtimePointers] ++ runtimeRecords envelope

/-- What a reply to `GetSiteRuntime` says; the error is the message of the one thrown. -/
def normalizeSiteRuntimeLookupEnvelope (parseJson : JsString → Option Json) (raw : Option Json) :
    Except JsString SiteRuntime :=
  match replyEnvelope parseJson (fun _ => none) raw with
  | none => .ok .unknown
  | some envelope =>
      if isShellPromptOutput (some envelope) ∨ envelopeStatus envelope ≠ js "OK" then .ok .unknown
      else (resolveSiteRuntimeProcessId (processSources envelope)).map fun siteProcessId =>
        ⟨siteProcessId, extractRuntimePointerProjection (runtimeRecords envelope)⟩

/-! ### The endpoint -/

/-- How reading from a process ends; a failure throws an error with this message. -/
inductive AoReply where
  | answered (raw : Option Json)
  | failed (message : JsString)

def isAoReadTimeoutErrorMessage (message : JsString) : Bool :=
  let normalized := toLowerCase message
  startsWith normalized (js "timeout_") || includes normalized (js "operation was aborted")

/-- The message that asks the registry for the site of a host. -/
def siteByHostMessage (env : BridgeEnv) (call : BridgeCall) (input : SiteByHostLookupInput) :
    AoMessage :=
  let registryPid := cleanEnv env.aoRegistryProcessId
  let requestId := firstNonEmptyString [some (.str input.requestId), call.requestId.map .str,
    some (.str (freshId call "gw-host-read"))]
  let traceId := resolveTraceId
    (firstNonEmptyString [call.traceId.map .str, some (.str input.traceId)])
  ⟨registryPid, buildSiteByHostTags requestId registryPid input.host traceId,
    buildSiteByHostData requestId input.host⟩

/-- The answer when reading from the registry throws. -/
def upstreamReply (text : JsString) : Reply :=
  let timeout := isAoReadTimeoutErrorMessage text
  ⟨if timeout then 504 else 502,
    [(js "status", .str (js "ERROR")),
      (js "code", .str (js (if timeout then "UPSTREAM_TIMEOUT" else "UPSTREAM_FAILURE"))),
      (js "message", .str text)]⟩

/-- `POST /api/public/site-by-host` -/
def siteByHostRoute (parseJson : JsString → Option Json) (env : BridgeEnv) (call : BridgeCall)
    (registry : AoMessage → AoReply) : Bridge Reply := do
  let input ← lift (parseSiteByHostInput call.body)
  if cleanEnv env.aoRegistryProcessId = [] then fail ⟨500, "missing_ao_registry_process_id"⟩
  else
    let message := siteByHostMessage env call input
    record (.read message)
    match registry message with
    | .answered raw => return normalizeSiteByHostEnvelope parseJson raw
    | .failed text => return upstreamReply text

/-! ### Ambiguous processes -/

theorem mem_scalarFields {names : List String} {sources : List (Option Fields)}
    {entry : String × JsString} :
    entry ∈ scalarFields names sources ↔ ∃ source ∈ sources.filterMap id, entry.1 ∈ names ∧
      trimString (source.get (js entry.1)) = entry.2 ∧ entry.2 ≠ [] := by
  simp only [scalarFields, List.mem_flatMap, List.mem_filterMap (f := fun name => _),
    Option.ite_none_left_eq_some, Option.some.injEq]
  constructor
  · rintro ⟨source, listed, name, known, present, rfl⟩
    exact ⟨source, listed, known, rfl, present⟩
  · rintro ⟨source, listed, known, same, present⟩
    exact ⟨source, listed, entry.1, known, same ▸ present, by rw [same]⟩

/-- A source has the value under one of the names. -/
def Names (names : List String) (sources : List (Option Fields)) (value : JsString) : Prop :=
  value ≠ [] ∧ ∃ source ∈ sources.filterMap id, ∃ name ∈ names,
    trimString (source.get (js name)) = value

/-- The values that count: those under the read names, or under the generic ones
where no read name has a value. -/
def Preferred (sources : List (Option Fields)) (value : JsString) : Prop :=
  Names readKeys sources value ∨
    (∀ other, ¬Names readKeys sources other) ∧ Names genericKeys sources value

/-- The entries under some of the names have the values these names have. -/
theorem mem_values_iff {names : List String} {keep : String → Bool}
    (kept : siteRuntimeProcessFieldKeys.filter keep = names) (sources : List (Option Fields))
    (value : JsString) :
    value ∈ ((scalarFields siteRuntimeProcessFieldKeys sources).filter
      fun entry => keep entry.1).map Prod.snd ↔ Names names sources value := by
  subst kept
  simp only [List.mem_map, List.mem_filter, mem_scalarFields, Names]
  constructor
  · rintro ⟨entry, ⟨⟨source, listed, known, same, present⟩, chosen⟩, rfl⟩
    exact ⟨present, source, listed, entry.1, ⟨known, chosen⟩, same⟩
  · rintro ⟨present, source, listed, name, ⟨known, chosen⟩, same⟩
    exact ⟨(name, value), ⟨⟨source, listed, known, same, present⟩, chosen⟩, rfl⟩

/-- The entries agree on a process exactly when it is their only value. -/
theorem uniqueProcess_eq_ok_iff {values : List (String × JsString)}
    (present : [] ∉ values.map Prod.snd) (pid : JsString) :
    uniqueProcess values = .ok pid ↔
      ∀ value, value ∈ values.map Prod.snd ↔ value = pid ∧ value ≠ [] := by
  unfold uniqueProcess
  cases texts : values.map Prod.snd with
  | nil =>
      simp only [List.eraseDups_nil, Except.ok.injEq, List.not_mem_nil, false_iff, not_and, not_not]
      exact ⟨fun same value equal => equal.trans same.symm, fun none => (none pid rfl).symm⟩
  | cons found rest =>
      rw [texts] at present
      have named : found ≠ [] := fun empty => present (empty ▸ List.mem_cons_self)
      rw [List.eraseDups_cons]
      cases others : (rest.filter fun other => !other == found).eraseDups with
      | nil =>
          have same : ∀ other ∈ rest, other = found := by
            intro other member
            by_contra different
            have kept : other ∈ (rest.filter fun other => !other == found).eraseDups := by
              simp [List.mem_eraseDups, List.mem_filter, member, different]
            rw [others] at kept
            cases kept
          simp only [Except.ok.injEq]
          constructor
          · rintro rfl value
            constructor
            · intro member
              rcases List.mem_cons.mp member with here | later
              · exact ⟨here, here ▸ named⟩
              · exact ⟨same value later, same value later ▸ named⟩
            · rintro ⟨rfl, -⟩
              exact List.mem_cons_self
          · intro only
            exact ((only found).mp List.mem_cons_self).1
      | cons second more =>
          have kept : second ∈ (rest.filter fun other => !other == found).eraseDups := by
            rw [others]
            exact List.mem_cons_self
          simp only [List.mem_eraseDups, List.mem_filter, Bool.not_eq_true', beq_eq_false_iff_ne]
            at kept
          simp only [reduceCtorEq, false_iff]
          intro only
          have one := ((only found).mp List.mem_cons_self).1
          have two := ((only second).mp (List.mem_cons_of_mem _ kept.1)).1
          exact kept.2 (two.trans one.symm)

/-- A process is resolved exactly when it is the only value that counts, and
the empty one when no value counts; two values are a conflict. -/
theorem resolveSiteRuntimeProcessId_eq_ok_iff (sources : List (Option Fields)) (pid : JsString) :
    resolveSiteRuntimeProcessId sources = .ok pid ↔
      ∀ value, Preferred sources value ↔ value = pid ∧ value ≠ [] := by
  have readNames : siteRuntimeProcessFieldKeys.filter readKeys.contains = readKeys := by decide
  have genericNames : siteRuntimeProcessFieldKeys.filter (fun name =>
      !readKeys.contains name && genericKeys.contains name) = genericKeys := by decide
  have reads := mem_values_iff readNames sources
  have generics := mem_values_iff genericNames sources
  unfold resolveSiteRuntimeProcessId
  extract_lets values readValues genericValues
  have named {names : List String} (entries : List (String × JsString))
      (listed : ∀ value, value ∈ entries.map Prod.snd ↔ Names names sources value) :
      [] ∉ entries.map Prod.snd := fun member => ((listed []).mp member).1 rfl
  by_cases present : readValues ≠ []
  · obtain ⟨entry, rest, split⟩ := List.exists_cons_of_ne_nil present
    have one : Names readKeys sources entry.2 := by
      rw [← reads]
      show entry.2 ∈ readValues.map Prod.snd
      rw [split]
      exact List.mem_cons_self
    have preferred (value : JsString) : Preferred sources value ↔ Names readKeys sources value :=
      ⟨fun counts => counts.elim id fun none => absurd one (none.1 entry.2), Or.inl⟩
    rw [if_pos present, uniqueProcess_eq_ok_iff (named readValues reads)]
    simp only [preferred, ← reads]
    rfl
  · have none (value : JsString) : ¬Names readKeys sources value := by
      rw [← reads]
      show value ∉ readValues.map Prod.snd
      simp [not_not.mp present]
    have preferred (value : JsString) : Preferred sources value ↔ Names genericKeys sources value :=
      ⟨fun counts => counts.elim (fun read => absurd read (none value)) And.right,
        fun generic => Or.inr ⟨none, generic⟩⟩
    rw [if_neg present, uniqueProcess_eq_ok_iff (named genericValues generics)]
    simp only [preferred, ← generics]
    rfl

theorem Preferred.ne_nil {sources : List (Option Fields)} {value : JsString}
    (counts : Preferred sources value) : value ≠ [] :=
  counts.elim And.left fun generic => generic.2.1

/-- Resolving fails exactly when two values count. -/
theorem resolveSiteRuntimeProcessId_eq_error_iff (sources : List (Option Fields)) :
    (∃ message, resolveSiteRuntimeProcessId sources = .error message) ↔
      ∃ left right, Preferred sources left ∧ Preferred sources right ∧ left ≠ right := by
  constructor
  · rintro ⟨message, conflict⟩
    by_contra agreed
    push Not at agreed
    have unresolved (pid : JsString) :
        ¬∀ value, Preferred sources value ↔ value = pid ∧ value ≠ [] := by
      rw [← resolveSiteRuntimeProcessId_eq_ok_iff, conflict]
      simp
    by_cases counted : ∃ pid, Preferred sources pid
    · obtain ⟨pid, counts⟩ := counted
      refine unresolved pid fun value =>
        ⟨fun other => ⟨agreed value pid other counts, other.ne_nil⟩, ?_⟩
      rintro ⟨rfl, -⟩
      exact counts
    · refine unresolved [] fun value => ⟨fun counts => absurd ⟨value, counts⟩ counted, ?_⟩
      rintro ⟨blank, named⟩
      exact absurd blank named
  · rintro ⟨left, right, first, second, differ⟩
    cases resolved : resolveSiteRuntimeProcessId sources with
    | error message => exact ⟨message, rfl⟩
    | ok pid =>
        have only := (resolveSiteRuntimeProcessId_eq_ok_iff sources pid).mp resolved
        exact absurd (((only left).mp first).1.trans ((only right).mp second).1.symm) differ

/-- The envelope of a reply that says something about the runtime of a site. -/
def Answers (parseJson : JsString → Option Json) (raw : Option Json) (envelope : Json) : Prop :=
  replyEnvelope parseJson (fun _ => none) raw = some envelope ∧
    isShellPromptOutput (some envelope) = false ∧ envelopeStatus envelope = js "OK"

/-- A lookup of a reply whose envelope does not answer is silent. -/
theorem normalizeSiteRuntimeLookupEnvelope_silent {parseJson : JsString → Option Json}
    {raw : Option Json} (silent : ∀ envelope, ¬Answers parseJson raw envelope) :
    normalizeSiteRuntimeLookupEnvelope parseJson raw = .ok .unknown := by
  unfold normalizeSiteRuntimeLookupEnvelope
  split
  next => rfl
  next envelope found =>
    refine if_pos ?_
    by_contra answers
    rw [not_or, not_not, Bool.not_eq_true] at answers
    exact silent envelope ⟨found, answers⟩

theorem normalizeSiteRuntimeLookupEnvelope_answers {parseJson : JsString → Option Json}
    {raw : Option Json} {envelope : Json} (answers : Answers parseJson raw envelope) :
    normalizeSiteRuntimeLookupEnvelope parseJson raw =
      (resolveSiteRuntimeProcessId (processSources envelope)).map fun siteProcessId =>
        ⟨siteProcessId, extractRuntimePointerProjection (runtimeRecords envelope)⟩ := by
  obtain ⟨found, prompt, status⟩ := answers
  simp [normalizeSiteRuntimeLookupEnvelope, found, prompt, status]

/-- A reply names a process for a site exactly when its envelope answers, and
all the process ids that count in its runtime, its pointers, its data, its
configuration and the envelope itself are that one. The lookup throws exactly
when its envelope answers and two different ids count. -/
theorem site_process_named_iff (parseJson : JsString → Option Json) (raw : Option Json)
    {pid : JsString} (named : pid ≠ []) :
    ((∃ runtime, normalizeSiteRuntimeLookupEnvelope parseJson raw = .ok runtime ∧
        runtime.siteProcessId = pid) ↔
      ∃ envelope, Answers parseJson raw envelope ∧
        ∀ value, Preferred (processSources envelope) value ↔ value = pid) ∧
    ((∃ message, normalizeSiteRuntimeLookupEnvelope parseJson raw = .error message) ↔
      ∃ envelope, Answers parseJson raw envelope ∧
        ∃ left right, Preferred (processSources envelope) left ∧
          Preferred (processSources envelope) right ∧ left ≠ right) := by
  by_cases answered : ∃ envelope, Answers parseJson raw envelope
  case neg =>
    have unnamed : SiteRuntime.unknown.siteProcessId ≠ pid := named.symm
    rw [not_exists] at answered
    rw [normalizeSiteRuntimeLookupEnvelope_silent answered]
    simp [answered, unnamed]
  obtain ⟨envelope, answers⟩ := answered
  have unique {other : Json} (same : Answers parseJson raw other) : other = envelope :=
    Option.some.inj (same.1.symm.trans answers.1)
  have exact := resolveSiteRuntimeProcessId_eq_ok_iff (processSources envelope) pid
  have conflict := resolveSiteRuntimeProcessId_eq_error_iff (processSources envelope)
  have nonblank (value : JsString) : value = pid ∧ value ≠ [] ↔ value = pid :=
    ⟨And.left, fun same => ⟨same, same ▸ named⟩⟩
  simp only [nonblank] at exact
  rw [normalizeSiteRuntimeLookupEnvelope_answers answers]
  constructor
  · constructor
    · rintro ⟨runtime, resolved, rfl⟩
      refine ⟨envelope, answers, exact.mp ?_⟩
      cases process : resolveSiteRuntimeProcessId (processSources envelope) with
      | error message => simp [process, Except.map] at resolved
      | ok pid =>
          simp only [process, Except.map, Except.ok.injEq] at resolved
          rw [← resolved]
    · rintro ⟨other, same, only⟩
      obtain rfl := unique same
      rw [exact.mpr only]
      exact ⟨_, rfl, rfl⟩
  · constructor
    · rintro ⟨message, thrown⟩
      refine ⟨envelope, answers, conflict.mp ?_⟩
      cases process : resolveSiteRuntimeProcessId (processSources envelope) with
      | error other => exact ⟨other, rfl⟩
      | ok pid => simp [process, Except.map] at thrown
    · rintro ⟨other, same, counted⟩
      obtain rfl := unique same
      obtain ⟨message, process⟩ := conflict.mpr counted
      exact ⟨message, by rw [process]; rfl⟩

/-- A reply whose data names a read process and another generic one. -/
def alphaRuntime : Json :=
  .obj [(js "Output", .obj [(js "status", .str (js "OK")),
    (js "data", .obj [(js "readProcessId", .str (js "alpha")), (js "processId", .str (js "beta")),
      (js "runtime", .obj [(js "siteProcessId", .str (js "alpha "))])])])]

/-- One whose data names two read processes. -/
def dividedRuntime : Json :=
  .obj [(js "Output", .obj [(js "status", .str (js "OK")),
    (js "data", .obj [(js "readProcessId", .str (js "alpha")), (js "sitePid", .str (js "beta"))])])]

theorem alpha_process_named :
    (∃ envelope, Answers (fun _ => none) (some alphaRuntime) envelope ∧
      ∀ value, Preferred (processSources envelope) value ↔ value = js "alpha") ∧
    ∃ envelope, Answers (fun _ => none) (some dividedRuntime) envelope ∧
      ∃ left right, Preferred (processSources envelope) left ∧
        Preferred (processSources envelope) right ∧ left ≠ right :=
  ⟨(site_process_named_iff (fun _ => none) (some alphaRuntime) (by decide)).1.mp ⟨_, rfl, rfl⟩,
    (@site_process_named_iff (fun _ => none) (some dividedRuntime) (js "alpha") (by decide)).2.mp
      ⟨_, rfl⟩⟩

end DarkmeshGateway.SecretsWorker.SiteByHost
