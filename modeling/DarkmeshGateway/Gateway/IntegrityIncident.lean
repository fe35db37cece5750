import DarkmeshGateway.Foundation.Js.Json
import DarkmeshGateway.Foundation.OrderedMap
import DarkmeshGateway.Gateway.Environment

/-!
Contract: `POST /integrity/incident` between its body and its notification.

Owns the checks of an incident, who may act, the incident replay map, and what
an accepted incident does to the policy cell.

Does not own policy refreshes or how requests interleave.
-/

namespace DarkmeshGateway.Gateway.IntegrityIncident

open Foundation
open Foundation.Js
open Gateway.Environment

/-! ### Policy -/

inductive IntegrityRole where
  | root
  | upgrade
  | emergency
  | reporter
deriving DecidableEq, Repr

/-- The part of an integrity snapshot that the policy and the incidents read. -/
structure IntegritySnapshot where
  policyPaused : Bool
  authority : IntegrityRole → Option JsString

inductive PolicySource where
  | env
  | ao
  | checkpoint
deriving DecidableEq, Repr

structure IntegrityPolicyState where
  paused : Bool
  source : PolicySource
deriving DecidableEq, Repr

/-- `integrityRuntime`. -/
structure IntegrityRuntimeCache where
  expiresAt : Int
  state : IntegrityPolicyState
  snapshot : Option IntegritySnapshot

/-- The policy a request is handled under. -/
structure IntegrityContext where
  state : IntegrityPolicyState
  snapshot : Option IntegritySnapshot

def readIntegrityCacheTtlMs (env : Env) : Nat :=
  readPositiveIntEnv env "GATEWAY_INTEGRITY_CACHE_TTL_MS" 10000

/-! ### Requests -/

inductive IncidentAction where
  | report
  | ack
  | pause
  | resume
deriving DecidableEq, Repr

inductive IncidentSeverity where
  | low
  | medium
  | high
  | critical
deriving DecidableEq, Repr

def parseAction (text : JsString) : Option IncidentAction :=
  if text = js "report" then some .report
  else if text = js "ack" then some .ack
  else if text = js "pause" then some .pause
  else if text = js "resume" then some .resume
  else none

def parseSeverity (text : JsString) : Option IncidentSeverity :=
  if text = js "low" then some .low
  else if text = js "medium" then some .medium
  else if text = js "high" then some .high
  else if text = js "critical" then some .critical
  else none

/-- An incident request: its body, and the bearer token, incident token and
signature reference headers as they are read. -/
structure IncidentRequest where
  isPost : Bool
  bodyText : JsString
  bearerToken : JsString
  incidentToken : JsString
  signatureRefHeader : JsString

/-- A checked incident; an id is present when the body provides one. -/
structure Incident where
  event : JsString
  source : JsString
  severity : IncidentSeverity
  action : IncidentAction
  incidentId : Option JsString
deriving DecidableEq

/-- How a request is turned away; `exception` is a rejected handler. -/
inductive Refusal where
  | response (status : Nat) (error : String)
  | exception
deriving DecidableEq

/-- `String(value || fallback)`. -/
def textOr (value : Option Json) (fallback : String) : Except Refusal JsString :=
  match (value.filter Json.truthy).elim (some (js fallback)) Json.toText with
  | some text => .ok text
  | none => .error .exception

def tokenEquals (expected presented : JsString) : Bool :=
  expected ≠ [] && presented ≠ [] && expected == presented

def checkToken (request : IncidentRequest) (expectedToken : JsString) : Bool :=
  tokenEquals expectedToken request.bearerToken || tokenEquals expectedToken request.incidentToken

/-! ### Who may act -/

def incidentActionRoles : IncidentAction → List IntegrityRole
  | .report => [.reporter, .emergency, .root]
  | .ack => [.reporter, .emergency, .root]
  | .pause => [.emergency, .root]
  | .resume => [.emergency, .root]

def roleRefsVariable : IntegrityRole → String
  | .root => "GATEWAY_INTEGRITY_ROLE_ROOT_REFS"
  | .upgrade => "GATEWAY_INTEGRITY_ROLE_UPGRADE_REFS"
  | .emergency => "GATEWAY_INTEGRITY_ROLE_EMERGENCY_REFS"
  | .reporter => "GATEWAY_INTEGRITY_ROLE_REPORTER_REFS"

def readRoleRefsFromEnv (env : Env) (role : IntegrityRole) : List JsString :=
  splitRefsCsv (readHandlerEnvString env (roleRefsVariable role))

/-- The references that may act for a role: the authority's and the configured ones. -/
def collectRoleRefs (env : Env) (integrity : IntegrityContext) (role : IntegrityRole) :
    List JsString :=
  let active := (integrity.snapshot.bind fun snapshot => snapshot.authority role).map trim
  (active.filter (· ≠ [])).toList ++ readRoleRefsFromEnv env role

def collectAllowedIncidentRefs (env : Env) (integrity : IntegrityContext)
    (action : IncidentAction) : List JsString :=
  (incidentActionRoles action).flatMap (collectRoleRefs env integrity)

def readIncidentSignatureRef (request : IncidentRequest) (body : Fields) : JsString :=
  if request.signatureRefHeader ≠ [] then request.signatureRefHeader
  else match Fields.get body (js "signatureRef") with
    | some (.str reference) => trim reference
    | _ => []

def requireAuthorizedSignatureRef (presentedRef : JsString) (refs : List JsString) : Bool :=
  trim presentedRef ≠ [] && (refs.map trim).contains (trim presentedRef)

def requireIncidentRef (env : Env) (request : IncidentRequest) (body : Fields)
    (integrity : IntegrityContext) (action : IncidentAction) : Except Refusal Unit :=
  if readHandlerEnvString env "GATEWAY_INTEGRITY_INCIDENT_REQUIRE_SIGNATURE_REF" = some (js "1") then
    let refs := collectAllowedIncidentRefs env integrity action
    if refs = [] then .error (.response 500 "incident_ref_policy_not_configured")
    else if requireAuthorizedSignatureRef (readIncidentSignatureRef request body) refs then .ok ()
    else .error (.response 403 "forbidden_signature_ref")
  else .ok ()

/-! ### Checks -/

/-- The trimmed incident id of a body that provides one. -/
def providedIncidentId (body : Fields) : Option JsString :=
  match Fields.get body (js "incidentId") with
  | some (.str id) => if trim id = [] then none else some (trim id)
  | _ => none

/-- The authenticated body of a request. -/
def readIncidentBody (parseJson : JsString → Option Json) (env : Env)
    (request : IncidentRequest) : Except Refusal Fields :=
  let maxBodyBytes := readPositiveIntEnv env "GATEWAY_INTEGRITY_INCIDENT_MAX_BODY_BYTES" 16384
  if request.isPost = false then .error (.response 405 "method")
  else if maxBodyBytes < utf8Length request.bodyText then
    .error (.response 413 "payload_too_large")
  else match readHandlerEnvString env "GATEWAY_INTEGRITY_INCIDENT_TOKEN" with
    | none => .error (.response 500 "incident_auth_not_configured")
    | some token =>
        if checkToken request token = false then .error (.response 401 "unauthorized")
        else match parseJson request.bodyText with
          | some (.obj body) => .ok body
          | _ => .error (.response 400 "invalid_json")

/-- The fields of an incident body, checked in order. -/
def checkIncident (env : Env) (request : IncidentRequest) (body : Fields)
    (integrity : IntegrityContext) : Except Refusal Incident := do
  let event ← textOr (Fields.get body (js "event")) ""
  let source ← textOr (Fields.get body (js "source")) "gateway"
  let severityInput ← textOr (Fields.get body (js "severity")) "medium"
  let actionInput ← textOr (Fields.get body (js "action")) "report"
  let incidentId := providedIncidentId body
  if trim event = [] ∨ 128 < (trim event).length then throw (.response 400 "event_required")
  if trim source = [] ∨ 128 < (trim source).length then throw (.response 400 "invalid_source")
  let severity ← (parseSeverity (toLowerCase severityInput)).elim
    (throw (.response 400 "invalid_severity")) pure
  let action ← (parseAction (toLowerCase actionInput)).elim
    (throw (.response 400 "invalid_action")) pure
  requireIncidentRef env request body integrity action
  if 128 < (incidentId.getD []).length then throw (.response 400 "invalid_incident_id")
  return ⟨trim event, trim source, severity, action, incidentId⟩

def readIncident (parseJson : JsString → Option Json) (env : Env) (request : IncidentRequest)
    (integrity : IntegrityContext) : Except Refusal Incident := do
  let body ← readIncidentBody parseJson env request
  checkIncident env request body integrity

/-! ### Effects -/

/-- A processed incident with an id, as the replay map keeps it. -/
structure IncidentRecord where
  incident : Incident
  paused : Bool
  seenAt : Int

abbrev IncidentReplay := OrderedMap JsString IncidentRecord

def pruneIntegrityIncidentReplay (env : Env) (replay : IncidentReplay) (now : Int) :
    IncidentReplay :=
  let ttlMs := readPositiveIntEnv env "GATEWAY_INTEGRITY_INCIDENT_REPLAY_TTL_MS" 1800000
  let cap := readPositiveIntEnv env "GATEWAY_INTEGRITY_INCIDENT_REPLAY_CAP" 256
  (replay.filter fun _ record => now - record.seenAt ≤ ttlMs).shrink (cap + 1)

/-- The policy cell and the replay map. -/
structure Shared where
  cell : IntegrityRuntimeCache
  replay : IncidentReplay

/-- What an accepted incident does to the policy cell. -/
def applyAction (env : Env) (cell : IntegrityRuntimeCache) (now : Int) :
    IncidentAction → IntegrityRuntimeCache
  | .pause =>
      { cell with state := ⟨true, .env⟩, expiresAt := now + readIntegrityCacheTtlMs env }
  | .resume =>
      { cell with state := ⟨false, .env⟩, expiresAt := now + readIntegrityCacheTtlMs env }
  | .report => cell
  | .ack => cell

/-- The replay map after an accepted incident. -/
def recordIncident (env : Env) (replay : IncidentReplay) (now : Int) (incident : Incident)
    (paused : Bool) : IncidentReplay :=
  match incident.incidentId with
  | none => replay
  | some id => pruneIntegrityIncidentReplay env (replay.set id ⟨incident, paused, now⟩) now

/-- What becomes of a checked incident. -/
inductive Processed where
  | duplicate (record : IncidentRecord)
  | accepted

/-- The synchronous part of the handler behind its checks. -/
def processIncident (env : Env) (shared : Shared) (now : Int) (incident : Incident) :
    Shared × Processed :=
  let replay := pruneIntegrityIncidentReplay env shared.replay now
  match incident.incidentId.bind replay.find with
  | some record => ({ shared with replay }, .duplicate record)
  | none =>
      let cell := applyAction env shared.cell now incident.action
      (⟨cell, recordIncident env replay now incident cell.state.paused⟩, .accepted)

/-- A duplicate leaves the policy cell as it is; an accepted incident applies its action. -/
theorem processIncident_cell {env : Env} {shared processed : Shared} {now : Int}
    {incident : Incident} {outcome : Processed}
    (result : processIncident env shared now incident = (processed, outcome)) :
    (∃ record, outcome = .duplicate record ∧ processed.cell = shared.cell) ∨
      outcome = .accepted ∧ processed.cell = applyAction env shared.cell now incident.action := by
  unfold processIncident at result
  cases found : incident.incidentId.bind
      (pruneIntegrityIncidentReplay env shared.replay now).find with
  | some record =>
      simp only [found, Prod.mk.injEq] at result
      exact Or.inl ⟨record, result.2.symm, by rw [← result.1]⟩
  | none =>
      simp only [found, Prod.mk.injEq] at result
      exact Or.inr ⟨result.2.symm, by rw [← result.1]⟩

end DarkmeshGateway.Gateway.IntegrityIncident
