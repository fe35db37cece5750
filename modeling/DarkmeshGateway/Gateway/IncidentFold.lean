import DarkmeshGateway.Foundation.Machine
import DarkmeshGateway.Gateway.IntegrityPolicy

/-!
Contract: sequences of incident requests, one at a time.

Owns the whole handler of an incident request under a policy that is not
refreshed, what a sequence of requests does to the paused flag and to the
replay map, and when a notification stands behind an answer.

Does not own the headers and the retries of a notification, and interleavings
of requests with refreshes.
-/

namespace DarkmeshGateway.Gateway.IncidentFold

open Foundation
open Foundation.Js
open Foundation.Machine
open Gateway.Environment
open Gateway.IntegrityIncident
open Gateway.IntegrityPolicy (Deployment)

/-! ### The handler -/

/-- A request and the time it is handled at. -/
structure IncidentCall where
  request : IncidentRequest
  now : Int

/-- What becomes of a request before its notification. -/
inductive Outcome where
  | rejected (refusal : Refusal)
  | duplicate (record : IncidentRecord)
  | applied (incident : Incident)

/-- The policy of the cell. -/
def currentContext (shared : Shared) : IntegrityContext := ⟨shared.cell.state, shared.cell.snapshot⟩

def readCall (deployment : Deployment) (shared : Shared) (call : IncidentCall) :
    Except Refusal Incident :=
  readIncident deployment.parseJson deployment.env call.request (currentContext shared)

/-- The handler up to its notification. -/
def handleIncident (deployment : Deployment) (shared : Shared) (call : IncidentCall) :
    Shared × Outcome :=
  match readCall deployment shared call with
  | .error refusal => (shared, .rejected refusal)
  | .ok incident =>
      match processIncident deployment.env shared call.now incident with
      | (processed, .duplicate record) => (processed, .duplicate record)
      | (processed, .accepted) => (processed, .applied incident)

def step (deployment : Deployment) (shared : Shared) (call : IncidentCall) : Option Shared :=
  some (handleIncident deployment shared call).1

/-- The outcomes of a sequence of requests. -/
def outcomes (deployment : Deployment) (shared : Shared) : List IncidentCall → List Outcome
  | [] => []
  | call :: rest =>
      let handled := handleIncident deployment shared call
      handled.2 :: outcomes deployment handled.1 rest

/-! ### What one request does -/

def replayTtlMs (env : Env) : Nat :=
  readPositiveIntEnv env "GATEWAY_INTEGRITY_INCIDENT_REPLAY_TTL_MS" 1800000

def replayCap (env : Env) : Nat :=
  readPositiveIntEnv env "GATEWAY_INTEGRITY_INCIDENT_REPLAY_CAP" 256

/-- The flag an outcome sets. -/
def flag : Outcome → Option Bool
  | .applied incident =>
      match incident.action with
      | .pause => some true
      | .resume => some false
      | .report => none
      | .ack => none
  | .rejected _ => none
  | .duplicate _ => none

/-- No record is too old, and a new id finds room. -/
structure Steady (deployment : Deployment) (shared : Shared) (call : IncidentCall) : Prop where
  unexpired : ∀ id record, shared.replay.find id = some record →
    call.now - record.seenAt ≤ replayTtlMs deployment.env
  room : ∀ incident id, readCall deployment shared call = .ok incident →
    incident.incidentId = some id → shared.replay.find id = none →
    shared.replay.size < replayCap deployment.env

/-- The replay map within its cap. -/
def WithinCap (deployment : Deployment) (shared : Shared) : Prop :=
  shared.replay.size ≤ replayCap deployment.env

theorem prune_withinCap (env : Env) (replay : IncidentReplay) (now : Int) :
    (pruneIntegrityIncidentReplay env replay now).size ≤ replayCap env :=
  Nat.lt_succ_iff.mp (OrderedMap.size_shrink (Nat.succ_pos _) _)

/-- A map within its cap without old records is not pruned. -/
theorem prune_eq_self {env : Env} {replay : IncidentReplay} {now : Int}
    (unexpired : ∀ id record, replay.find id = some record → now - record.seenAt ≤ replayTtlMs env)
    (within : replay.size ≤ replayCap env) :
    pruneIntegrityIncidentReplay env replay now = replay := by
  have kept : replay.filter (fun _ record => decide (now - record.seenAt ≤ replayTtlMs env)) =
      replay := by
    apply OrderedMap.filter_eq_self
    intro id record found
    exact decide_eq_true (unexpired id record found)
  show (replay.filter fun _ record => decide (now - record.seenAt ≤ replayTtlMs env)).shrink
    (replayCap env + 1) = replay
  rw [kept]
  exact OrderedMap.shrink_eq_self (Nat.lt_succ_of_le within)

variable {deployment : Deployment}

/-- The replay map a request looks its id up in. -/
def pruned (deployment : Deployment) (shared : Shared) (call : IncidentCall) : IncidentReplay :=
  pruneIntegrityIncidentReplay deployment.env shared.replay call.now

/-- The state behind an applied incident. -/
def applied (deployment : Deployment) (shared : Shared) (call : IncidentCall)
    (incident : Incident) : Shared :=
  let cell := applyAction deployment.env shared.cell call.now incident.action
  ⟨cell, recordIncident deployment.env (pruned deployment shared call) call.now incident
    cell.state.paused⟩

/-- A request is rejected, or finds the record of its id, or is applied. -/
theorem handleIncident_cases {shared next : Shared} {call : IncidentCall} {outcome : Outcome}
    (handled : handleIncident deployment shared call = (next, outcome)) :
    (∃ refusal, outcome = .rejected refusal ∧ next = shared ∧
        readCall deployment shared call = .error refusal) ∨
      (∃ incident id record, outcome = .duplicate record ∧
        next = { shared with replay := pruned deployment shared call } ∧
        readCall deployment shared call = .ok incident ∧ incident.incidentId = some id ∧
        (pruned deployment shared call).find id = some record) ∨
      ∃ incident, outcome = .applied incident ∧ next = applied deployment shared call incident ∧
        readCall deployment shared call = .ok incident ∧
        ∀ id, incident.incidentId = some id → (pruned deployment shared call).find id = none := by
  unfold handleIncident at handled
  cases read : readCall deployment shared call with
  | error refusal =>
      rw [read] at handled
      left
      exact ⟨refusal, (congrArg Prod.snd handled).symm, (congrArg Prod.fst handled).symm, rfl⟩
  | ok incident =>
      right
      simp only [read, processIncident] at handled
      cases found : incident.incidentId.bind (pruned deployment shared call).find with
      | some record =>
          obtain ⟨id, named, recorded⟩ := Option.bind_eq_some_iff.mp found
          unfold pruned at found
          simp only [found] at handled
          left
          exact ⟨incident, id, record, (congrArg Prod.snd handled).symm,
            (congrArg Prod.fst handled).symm, rfl, named, recorded⟩
      | none =>
          right
          have absent (id : JsString) (named : incident.incidentId = some id) :
              (pruned deployment shared call).find id = none := by
            rwa [named, Option.bind_some] at found
          unfold pruned at found
          simp only [found] at handled
          exact ⟨incident, (congrArg Prod.snd handled).symm, (congrArg Prod.fst handled).symm, rfl,
            absent⟩

/-- The outcome of a request says what it does to the flag. -/
theorem handleIncident_paused {shared next : Shared} {call : IncidentCall} {outcome : Outcome}
    (handled : handleIncident deployment shared call = (next, outcome)) :
    next.cell.state.paused = (flag outcome).getD shared.cell.state.paused := by
  rcases handleIncident_cases handled with ⟨refusal, rfl, rfl, -⟩ | ⟨_, _, record, rfl, rfl, -⟩ |
    ⟨incident, rfl, rfl, -⟩
  · rfl
  · rfl
  · cases action : incident.action <;> simp [applied, applyAction, flag, action]

/-- A request leaves the replay map within its cap. -/
theorem handleIncident_withinCap {shared next : Shared} {call : IncidentCall} {outcome : Outcome}
    (within : WithinCap deployment shared)
    (handled : handleIncident deployment shared call = (next, outcome)) :
    WithinCap deployment next := by
  rcases handleIncident_cases handled with ⟨refusal, -, rfl, -⟩ | ⟨_, _, record, -, rfl, -⟩ |
    ⟨incident, -, rfl, -⟩
  · exact within
  · exact prune_withinCap ..
  · show (recordIncident deployment.env (pruned deployment shared call) call.now incident _).size ≤ _
    unfold recordIncident
    split
    · exact prune_withinCap ..
    · exact prune_withinCap ..

/-! ### Steady requests -/

variable {shared : Shared} {call : IncidentCall}

theorem Steady.pruned_eq (steady : Steady deployment shared call)
    (within : WithinCap deployment shared) : pruned deployment shared call = shared.replay :=
  prune_eq_self steady.unexpired within

/-- A steady request whose id is recorded gets the record, and changes nothing. -/
theorem Steady.duplicate (steady : Steady deployment shared call)
    (within : WithinCap deployment shared) {incident : Incident} {id : JsString}
    {record : IncidentRecord} (read : readCall deployment shared call = .ok incident)
    (named : incident.incidentId = some id) (recorded : shared.replay.find id = some record) :
    handleIncident deployment shared call = (shared, .duplicate record) := by
  cases handled : handleIncident deployment shared call with
  | mk next outcome =>
      rcases handleIncident_cases handled with ⟨_, -, -, refused⟩ |
        ⟨other, name, found, rfl, rfl, readOther, namedOther, lookedUp⟩ |
        ⟨other, -, -, readOther, absent⟩
      · rw [read] at refused
        exact absurd refused (by simp)
      · obtain rfl : incident = other := Except.ok.inj (read.symm.trans readOther)
        obtain rfl : id = name := Option.some.inj (named.symm.trans namedOther)
        rw [steady.pruned_eq within] at lookedUp ⊢
        have same : record = found := Option.some.inj (recorded.symm.trans lookedUp)
        rw [same]
      · obtain rfl : incident = other := Except.ok.inj (read.symm.trans readOther)
        have missing := absent id named
        rw [steady.pruned_eq within, recorded] at missing
        exact absurd missing (by simp)

/-- A steady request that is applied adds at most the record of its id. -/
theorem Steady.applied_replay (steady : Steady deployment shared call)
    (within : WithinCap deployment shared) {incident : Incident}
    (read : readCall deployment shared call = .ok incident)
    (absent : ∀ id, incident.incidentId = some id → shared.replay.find id = none) :
    let next := applied deployment shared call incident
    next.replay = incident.incidentId.elim shared.replay fun id =>
      shared.replay.set id ⟨incident, next.cell.state.paused, call.now⟩ := by
  intro next
  show recordIncident deployment.env (pruned deployment shared call) call.now incident
    next.cell.state.paused = _
  rw [steady.pruned_eq within]
  unfold recordIncident
  cases named : incident.incidentId with
  | none => rfl
  | some id =>
      apply prune_eq_self
      · intro other record found
        by_cases same : other = id
        · rw [same, OrderedMap.find_set_self] at found
          rw [← Option.some.inj found, Int.sub_self]
          exact Int.natCast_nonneg _
        · rw [OrderedMap.find_set_other _ same] at found
          exact steady.unexpired other record found
      · rw [OrderedMap.size_set_of_absent (absent id named)]
        exact steady.room incident id read named (absent id named)

/-- A steady request that is applied finds no record of its id. -/
theorem Steady.applied (steady : Steady deployment shared call)
    (within : WithinCap deployment shared) {next : Shared} {incident : Incident}
    (handled : handleIncident deployment shared call = (next, .applied incident)) :
    next.replay = incident.incidentId.elim shared.replay (fun id =>
        shared.replay.set id ⟨incident, next.cell.state.paused, call.now⟩) ∧
      ∀ id, incident.incidentId = some id → shared.replay.find id = none := by
  rcases handleIncident_cases handled with ⟨_, impossible, -⟩ | ⟨_, _, _, impossible, -⟩ |
    ⟨other, same, rfl, read, absent⟩
  · exact absurd impossible (by simp)
  · exact absurd impossible (by simp)
  · obtain rfl : incident = other := Outcome.applied.inj same
    rw [steady.pruned_eq within] at absent
    exact ⟨steady.applied_replay within read absent, absent⟩

/-- A steady request that is applied records what it did. -/
theorem Steady.records (steady : Steady deployment shared call)
    (within : WithinCap deployment shared) {next : Shared} {incident : Incident} {id : JsString}
    (handled : handleIncident deployment shared call = (next, .applied incident))
    (named : incident.incidentId = some id) :
    next.replay.find id = some ⟨incident, next.cell.state.paused, call.now⟩ := by
  have replay := (steady.applied within handled).1
  rw [named] at replay
  rw [replay]
  exact OrderedMap.find_set_self ..

/-- A steady request keeps the records there are. -/
theorem Steady.keeps (steady : Steady deployment shared call)
    (within : WithinCap deployment shared) {next : Shared} {outcome : Outcome}
    (handled : handleIncident deployment shared call = (next, outcome)) {id : JsString}
    {record : IncidentRecord} (recorded : shared.replay.find id = some record) :
    next.replay.find id = some record := by
  rcases handleIncident_cases handled with ⟨_, -, rfl, -⟩ | ⟨_, _, _, -, rfl, -⟩ |
    ⟨incident, rfl, -⟩
  · exact recorded
  · rw [steady.pruned_eq within]
    exact recorded
  · obtain ⟨replay, absent⟩ := steady.applied within handled
    rw [replay]
    cases named : incident.incidentId with
    | none => exact recorded
    | some other =>
        have different : id ≠ other := by
          rintro rfl
          rw [absent id named] at recorded
          exact absurd recorded (by simp)
        rw [Option.elim_some, OrderedMap.find_set_other _ different]
        exact recorded

/-! ### Sequences of requests -/

theorem step_eq_some {next : Shared} (stepped : step deployment shared call = some next) :
    ∃ outcome, handleIncident deployment shared call = (next, outcome) :=
  ⟨(handleIncident deployment shared call).2, by rw [← Option.some.inj stepped]⟩

theorem run_withinCap {initial final : Shared} {calls : List IncidentCall}
    (within : WithinCap deployment initial)
    (reached : run (step deployment) initial calls = some final) : WithinCap deployment final := by
  apply run_invariant_always (WithinCap deployment) _ within reached
  intro state next call held stepped
  obtain ⟨outcome, handled⟩ := step_eq_some stepped
  exact handleIncident_withinCap held handled

/-- A record stays as it is along a steady run. -/
theorem run_keeps {initial final : Shared} {calls : List IncidentCall}
    (within : WithinCap deployment initial)
    (steady : Meets (step deployment) (Steady deployment) initial calls)
    (reached : run (step deployment) initial calls = some final) {id : JsString}
    {record : IncidentRecord} (recorded : initial.replay.find id = some record) :
    final.replay.find id = some record := by
  have kept : WithinCap deployment final ∧ final.replay.find id = some record := by
    apply run_invariant (fun state => WithinCap deployment state ∧
      state.replay.find id = some record) _ ⟨within, recorded⟩ steady reached
    intro state next call held meets stepped
    obtain ⟨outcome, handled⟩ := step_eq_some stepped
    exact ⟨handleIncident_withinCap held.1 handled, meets.keeps held.1 handled held.2⟩
  exact kept.2

/-- The flag after a run is the one the last outcome set that sets one. -/
theorem run_paused {initial final : Shared} {calls : List IncidentCall}
    (reached : run (step deployment) initial calls = some final) :
    final.cell.state.paused =
      ((outcomes deployment initial calls).filterMap flag).getLast?.getD
        initial.cell.state.paused := by
  induction calls generalizing initial with
  | nil =>
      obtain rfl : initial = final := by simpa using reached
      rfl
  | cons call rest inductionHypothesis =>
      obtain ⟨next, stepped, continued⟩ := run_cons_eq_some.mp reached
      obtain ⟨outcome, handled⟩ := step_eq_some stepped
      rw [inductionHypothesis continued, handleIncident_paused handled, outcomes, handled]
      simp only [List.filterMap_cons]
      cases flag outcome with
      | none => rfl
      | some paused =>
          cases later : ((outcomes deployment next rest).filterMap flag).getLast? with
          | none => simp [List.getLast?_cons, later]
          | some last => simp [List.getLast?_cons, later]

/-! ### The fold of a run -/

/-- What a sequence of incident requests amounts to: the flag is the last one set
by an applied pause or resume; an applied incident is recorded with its action
and the flag behind it; a request that reuses a recorded id gets this record and
changes nothing; a rejected request changes nothing; and the replay map stays
within its cap. -/
structure Folds (deployment : Deployment) (initial : Shared) (calls : List IncidentCall) :
    Prop where
  paused : ∀ final, run (step deployment) initial calls = some final →
    final.cell.state.paused =
      ((outcomes deployment initial calls).filterMap flag).getLast?.getD initial.cell.state.paused
  recorded : ∀ before call after early next incident id, calls = before ++ call :: after →
    run (step deployment) initial before = some early →
    handleIncident deployment early call = (next, .applied incident) →
    incident.incidentId = some id →
    next.replay.find id = some ⟨incident, next.cell.state.paused, call.now⟩
  reused : ∀ before between call after early late id record incident,
    calls = before ++ (between ++ call :: after) →
    run (step deployment) initial before = some early → early.replay.find id = some record →
    run (step deployment) early between = some late →
    readCall deployment late call = .ok incident → incident.incidentId = some id →
    handleIncident deployment late call = (late, .duplicate record)
  rejected : ∀ before call after early next refusal, calls = before ++ call :: after →
    run (step deployment) initial before = some early →
    handleIncident deployment early call = (next, .rejected refusal) → next = early
  bounded : ∀ before after state, calls = before ++ after →
    run (step deployment) initial before = some state → WithinCap deployment state

/-- Incident requests that run while no record expires and the cap leaves room
fold to the flag, the records and the answers of the accepted ones. -/
theorem incident_fold {initial : Shared} {calls : List IncidentCall}
    (within : WithinCap deployment initial)
    (steady : Meets (step deployment) (Steady deployment) initial calls) :
    Folds deployment initial calls where
  paused := fun _ reached => run_paused reached
  recorded := by
    rintro before call after early next incident id rfl reached handled named
    have here := (steady.after reached).1
    exact here.records (run_withinCap within reached) handled named
  reused := by
    rintro before between call after early late id record incident rfl reached recorded continued
      read named
    have withinEarly := run_withinCap within reached
    have steadyEarly := steady.after reached
    have kept := run_keeps withinEarly steadyEarly.before continued recorded
    have here := (steadyEarly.after continued).1
    exact here.duplicate (run_withinCap withinEarly continued) read named kept
  rejected := by
    intro before call after early next refusal _ _ handled
    rcases handleIncident_cases handled with ⟨_, -, same, -⟩ | ⟨_, _, _, impossible, -⟩ |
      ⟨_, impossible, -⟩
    · exact same
    · exact absurd impossible (by simp)
    · exact absurd impossible (by simp)
  bounded := fun _ _ _ _ reached => run_withinCap within reached

/-- A deployment that reads two bodies: a pause and a resume with one id. -/
def sampleDeployment : Deployment where
  env name := if name = "GATEWAY_INTEGRITY_INCIDENT_TOKEN" then some (js "t") else none
  parseJson text :=
    if text = js "pause" then
      some (.obj [(js "event", .str (js "e")), (js "action", .str (js "pause")),
        (js "incidentId", .str (js "i"))])
    else if text = js "resume" then
      some (.obj [(js "event", .str (js "e")), (js "action", .str (js "resume")),
        (js "incidentId", .str (js "i"))])
    else none

def sampleCall (body : String) (now : Int) : IncidentCall :=
  ⟨⟨true, js body, js "t", [], []⟩, now⟩

/-- An unpaused cell and no records. -/
def sampleShared : Shared := ⟨⟨0, ⟨false, .env⟩, none⟩, .empty⟩

/-- A pause, and a resume that reuses its id. -/
def sampleCalls : List IncidentCall := [sampleCall "pause" 1000, sampleCall "resume" 2000]

set_option maxRecDepth 20000 in
theorem incident_fold_pause : Folds sampleDeployment sampleShared sampleCalls := by
  apply incident_fold
  · exact Nat.zero_le _
  · refine ⟨⟨?_, ?_⟩, ?_⟩
    · intro id record found
      exact absurd found (by simp [sampleShared])
    · intro _ _ _ _ _
      decide
    · intro next stepped
      obtain rfl := Option.some.inj stepped
      refine ⟨⟨?_, ?_⟩, fun _ _ => trivial⟩
      · intro id record found
        have entries : (handleIncident sampleDeployment sampleShared
            (sampleCall "pause" 1000)).1.replay.entries =
              [(js "i", ⟨⟨js "e", js "gateway", .medium, .pause, some (js "i")⟩, true, 1000⟩)] := rfl
        have listed := (OrderedMap.mem_entries_iff _ id record).mpr found
        rw [entries, List.mem_singleton] at listed
        rw [(Prod.mk.inj listed).2]
        decide
      · intro _ _ _ _ _
        decide

end DarkmeshGateway.Gateway.IncidentFold
