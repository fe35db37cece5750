import DarkmeshGateway.Gateway.IncidentFold

/-!
Contract: the notification behind an incident request.

Owns the answer of a request with its notification, the notifications that were
delivered over a run, and when every 200 for an id has one behind it.

Does not own the text, the headers and the signature of a notification.
-/

namespace DarkmeshGateway.Gateway.IncidentNotify

open Foundation
open Foundation.Js
open Foundation.Machine
open Gateway.Environment
open Gateway.IntegrityIncident
open Gateway.IntegrityPolicy (Deployment)
open Gateway.IncidentFold hiding step

/-! ### Answers -/

/-- How the request to the notify URL ends. -/
inductive NotifyResult where
  | answered (status : Nat)
  | unreachable

/-- `res.ok`. -/
def NotifyResult.ok : NotifyResult → Bool
  | .answered status => 200 ≤ status && status < 300
  | .unreachable => false

/-- The answer of a request; an accepted one and a duplicate are 200. -/
inductive Answer where
  | refused (refusal : Refusal)
  | duplicate (action : IncidentAction) (paused : Bool)
  | notifyFailed
  | accepted (action : IncidentAction) (paused : Bool)

def Answer.ok : Answer → Bool
  | .refused _ => false
  | .duplicate _ _ => true
  | .notifyFailed => false
  | .accepted _ _ => true

/-- The gateway and the ids of which a notification was delivered. -/
structure System where
  shared : Shared
  delivered : List JsString

/-- A request, and how its notification ends when there is one. -/
structure Event where
  call : IncidentCall
  notify : NotifyResult

def notifyUrl (env : Env) : Option JsString :=
  readHandlerEnvString env "GATEWAY_INTEGRITY_INCIDENT_NOTIFY_URL"

/-- The whole handler. -/
def handleIntegrityIncident (deployment : Deployment) (system : System) (event : Event) :
    System × Answer :=
  match handleIncident deployment system.shared event.call with
  | (shared, .rejected refusal) => ({ system with shared }, .refused refusal)
  | (shared, .duplicate record) =>
      ({ system with shared }, .duplicate record.incident.action record.paused)
  | (shared, .applied incident) =>
      let accepted : Answer := .accepted incident.action shared.cell.state.paused
      if (notifyUrl deployment.env).isNone then ({ system with shared }, accepted)
      else if event.notify.ok then
        (⟨shared, incident.incidentId.toList ++ system.delivered⟩, accepted)
      else ({ system with shared }, .notifyFailed)

def step (deployment : Deployment) (system : System) (event : Event) : Option System :=
  some (handleIntegrityIncident deployment system event).1

/-! ### Delivered notifications -/

/-- The request is answered 200 for an id. -/
def AnswersFor (deployment : Deployment) (system : System) (event : Event) (id : JsString) : Prop :=
  (handleIntegrityIncident deployment system event).2.ok = true ∧
    ∃ incident, readCall deployment system.shared event.call = .ok incident ∧
      incident.incidentId = some id

/-- Whenever a request of the run is answered 200 for an id, a notification for
the id has been delivered. -/
def NotifiedAnswers (deployment : Deployment) (initial : System) (events : List Event) : Prop :=
  ∀ before event after system id, events = before ++ event :: after →
    run (step deployment) initial before = some system →
    AnswersFor deployment system event id →
    id ∈ (handleIntegrityIncident deployment system event).1.delivered

/-- A request that passes the checks with a recorded id repeats a delivered
notification. -/
def RetriesDelivered (deployment : Deployment) (system : System) (event : Event) : Prop :=
  ∀ incident id, readCall deployment system.shared event.call = .ok incident →
    incident.incidentId = some id →
    ((pruned deployment system.shared event.call).find id).isSome = true → id ∈ system.delivered

variable {deployment : Deployment} {system : System} {event : Event}

/-- A recorded id is answered as a duplicate, and nothing is delivered. -/
theorem handle_recorded {incident : Incident} {id : JsString} {record : IncidentRecord}
    (read : readCall deployment system.shared event.call = .ok incident)
    (named : incident.incidentId = some id)
    (recorded : (pruned deployment system.shared event.call).find id = some record) :
    (handleIntegrityIncident deployment system event).2.ok = true ∧
      (handleIntegrityIncident deployment system event).1.delivered = system.delivered := by
  unfold handleIntegrityIncident
  cases handled : handleIncident deployment system.shared event.call with
  | mk shared outcome =>
      rcases handleIncident_cases handled with ⟨_, -, -, refused⟩ |
        ⟨_, _, found, rfl, -⟩ | ⟨other, -, -, readOther, absent⟩
      · rw [read] at refused
        exact absurd refused (by simp)
      · exact ⟨rfl, rfl⟩
      · obtain rfl : incident = other := Except.ok.inj (read.symm.trans readOther)
        rw [absent id named] at recorded
        exact absurd recorded (by simp)

/-- A request with a new id is answered 200 only when its notification is delivered. -/
theorem handle_new (configured : (notifyUrl deployment.env).isSome = true) {incident : Incident}
    {id : JsString} (read : readCall deployment system.shared event.call = .ok incident)
    (named : incident.incidentId = some id)
    (absent : (pruned deployment system.shared event.call).find id = none)
    (ok : (handleIntegrityIncident deployment system event).2.ok = true) :
    id ∈ (handleIntegrityIncident deployment system event).1.delivered := by
  unfold handleIntegrityIncident at ok ⊢
  have url : (notifyUrl deployment.env).isNone = false := by
    rw [← Option.not_isSome, configured]
    rfl
  cases handled : handleIncident deployment system.shared event.call with
  | mk shared outcome =>
      rcases handleIncident_cases handled with ⟨_, -, -, refused⟩ |
        ⟨other, name, _, -, -, readOther, namedOther, found⟩ | ⟨other, rfl, -, readOther, -⟩
      · rw [read] at refused
        exact absurd refused (by simp)
      · obtain rfl : incident = other := Except.ok.inj (read.symm.trans readOther)
        obtain rfl : id = name := Option.some.inj (named.symm.trans namedOther)
        rw [absent] at found
        exact absurd found (by simp)
      · obtain rfl : incident = other := Except.ok.inj (read.symm.trans readOther)
        simp only [handled, url] at ok ⊢
        split
        next => exact absurd ‹_› (by simp)
        next =>
          split
          next => simp [named]
          next failed =>
            simp only [Bool.false_eq_true, if_false] at ok
            rw [if_neg failed] at ok
            exact absurd ok (by simp [Answer.ok])

/-- One request has a delivered notification behind its 200 exactly when it does
not reuse a recorded id without one. -/
theorem answer_notified_iff (configured : (notifyUrl deployment.env).isSome = true) :
    (∀ id, AnswersFor deployment system event id →
        id ∈ (handleIntegrityIncident deployment system event).1.delivered) ↔
      RetriesDelivered deployment system event := by
  constructor
  · intro notified incident id read named recorded
    obtain ⟨record, found⟩ := Option.isSome_iff_exists.mp recorded
    obtain ⟨ok, undelivered⟩ := handle_recorded read named found
    rw [← undelivered]
    exact notified id ⟨ok, incident, read, named⟩
  · rintro retries id ⟨ok, incident, read, named⟩
    cases found : (pruned deployment system.shared event.call).find id with
    | none => exact handle_new configured read named found ok
    | some record =>
        rw [(handle_recorded read named found).2]
        exact retries incident id read named (by rw [found, Option.isSome_some])

/-- Every 200 for an id of a run has a delivered notification behind it exactly
when no request of the run reuses a recorded id none of whose notifications was
delivered. -/
theorem notified_answers_iff (configured : (notifyUrl deployment.env).isSome = true)
    {initial : System} {events : List Event} :
    NotifiedAnswers deployment initial events ↔
      Meets (step deployment) (RetriesDelivered deployment) initial events := by
  rw [meets_iff_forall]
  constructor
  · intro notified before event after system split reached
    rw [← answer_notified_iff configured]
    intro id answers
    exact notified before event after system id split reached answers
  · intro retries before event after system id split reached answers
    have delivered := (answer_notified_iff configured).mpr
      (retries before event after system split reached)
    exact delivered id answers

/-- The sample deployment with a notify URL. -/
def notifyingDeployment : Deployment where
  env name :=
    if name = "GATEWAY_INTEGRITY_INCIDENT_NOTIFY_URL" then some (js "https://n.example")
    else sampleDeployment.env name
  parseJson := sampleDeployment.parseJson

/-- A gateway that has seen no incident. -/
def freshSystem (cell : IntegrityRuntimeCache) : System := ⟨⟨cell, .empty⟩, []⟩

def sampleSystem : System := freshSystem sampleShared.cell

/-- A pause whose notification ends as given, and then its retry. -/
def retriedPause (first : NotifyResult) : List Event :=
  [⟨sampleCall "pause" 1000, first⟩, ⟨sampleCall "pause" 2000, .answered 204⟩]

theorem notified_answers_delivered :
    NotifiedAnswers notifyingDeployment sampleSystem (retriedPause (.answered 204)) ↔
      Meets (step notifyingDeployment) (RetriesDelivered notifyingDeployment) sampleSystem
        (retriedPause (.answered 204)) :=
  notified_answers_iff (by decide)

/-- The retry of a pause whose notification failed is answered 200 without any
delivered notification. -/
theorem failed_notification_answered :
    ¬∀ (deployment : Deployment) (cell : IntegrityRuntimeCache) (events : List Event),
      (notifyUrl deployment.env).isSome = true →
      NotifiedAnswers deployment (freshSystem cell) events := by
  intro claim
  have notified := claim notifyingDeployment sampleShared.cell (retriedPause .unreachable)
    (by decide)
  have delivered := notified [⟨sampleCall "pause" 1000, .unreachable⟩]
    ⟨sampleCall "pause" 2000, .answered 204⟩ [] _ (js "i") rfl rfl ⟨rfl, _, rfl, rfl⟩
  exact absurd delivered (by decide)

end DarkmeshGateway.Gateway.IncidentNotify
