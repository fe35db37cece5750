import DarkmeshGateway.Foundation.Machine
import DarkmeshGateway.Gateway.IntegrityIncident
import Mathlib.Logic.Function.Basic

/-!
Contract: the integrity policy cell, as a machine over interleaved requests.

Owns the read of the cell at the start of a request, the refresh behind an
expired cell, the incidents that write the cell, their notification, and how
long an accepted pause holds.

Does not own the upstream fetch, its mirrors or the checkpoint file: the end of
a refresh carries what they gave.
-/

namespace DarkmeshGateway.Gateway.IntegrityPolicy

open Foundation
open Foundation.Js
open Foundation.Machine
open Gateway.Environment
open Gateway.IntegrityIncident

/-! ### Refreshes -/

/-- The environment of the gateway and `JSON.parse` (`none` is a `SyntaxError`). -/
structure Deployment where
  env : Env
  parseJson : JsString → Option Json

/-- What a refresh found: the upstream snapshot, or after a failed fetch the
checkpoint, if there is a usable one. -/
inductive RefreshResult where
  | fetched (snapshot : IntegritySnapshot)
  | failed (checkpoint : Option IntegritySnapshot)

def readEnvIntegrityPolicyState (deployment : Deployment) : IntegrityPolicyState :=
  let fallbackPaused := readHandlerStrictEnabledFlag deployment.env "GATEWAY_INTEGRITY_POLICY_PAUSED"
  match (readHandlerEnvString deployment.env "GATEWAY_INTEGRITY_POLICY_JSON").bind
      deployment.parseJson with
  | some (.obj policy) =>
      match Fields.get policy (js "paused") with
      | some (.bool paused) => ⟨paused, .env⟩
      | _ => ⟨fallbackPaused, .env⟩
  | _ => ⟨fallbackPaused, .env⟩

/-- The policy a refresh resolves to, and the snapshot it keeps. -/
def refreshedContext (deployment : Deployment) : RefreshResult → IntegrityContext
  | .fetched snapshot => ⟨⟨snapshot.policyPaused, .ao⟩, some snapshot⟩
  | .failed (some snapshot) => ⟨⟨snapshot.policyPaused, .checkpoint⟩, some snapshot⟩
  | .failed none => ⟨readEnvIntegrityPolicyState deployment, none⟩

/-! ### The machine -/

/-- What the last answer of an incident request says. -/
inductive IncidentReply where
  | refused (refusal : Refusal)
  | duplicate (record : IncidentRecord)
  | notifyFailed
  | accepted (paused : Bool)

inductive Progress where
  | refreshing (startedAt : Int)
  | resolved (context : IntegrityContext)
  | notifying (incident : Incident)
  | answered (reply : IncidentReply)

/-- The history of the policy, newest observation first. -/
inductive Observation where
  | started (id : Nat) (now : Int)
  | handled (id : Nat) (paused : Bool)
  | paused (now : Int)
  | resumed (now : Int)

structure System where
  clock : Int
  shared : Shared
  requests : Nat → Option Progress
  history : List Observation

def initial : System where
  clock := 0
  shared := ⟨⟨0, ⟨false, .env⟩, none⟩, .empty⟩
  requests := fun _ => none
  history := []

/-- The start of a request, the end of its refresh, the processing of an
incident, and the end of its notification. -/
inductive Event where
  | start (id : Nat) (now : Int)
  | refreshDone (id : Nat) (now : Int) (result : RefreshResult)
  | incident (id : Nat) (now : Int) (request : IncidentRequest)
  | notifyDone (id : Nat) (now : Int) (ok : Bool)

def Event.now : Event → Int
  | .start _ now => now
  | .refreshDone _ now _ => now
  | .incident _ now _ => now
  | .notifyDone _ now _ => now

def System.put (system : System) (id : Nat) (progress : Progress) : System :=
  { system with requests := Function.update system.requests id (some progress) }

def System.observe (system : System) (observation : Observation) : System :=
  { system with history := observation :: system.history }

/-- The request is handled under the given policy. -/
def resolve (system : System) (id : Nat) (context : IntegrityContext) : System :=
  (system.put id (.resolved context)).observe (.handled id context.state.paused)

/-- `resolveIntegrityPolicyState` up to its fetch. -/
def start (system : System) (id : Nat) (now : Int) : System :=
  let begun := system.observe (.started id now)
  let cell := system.shared.cell
  if now < cell.expiresAt then resolve begun id ⟨cell.state, cell.snapshot⟩
  else begun.put id (.refreshing now)

/-- `resolveIntegrityPolicyState` behind its fetch. -/
def finishRefresh (deployment : Deployment) (system : System) (id : Nat) (startedAt : Int)
    (result : RefreshResult) : System :=
  let context := refreshedContext deployment result
  let cell : IntegrityRuntimeCache :=
    ⟨startedAt + readIntegrityCacheTtlMs deployment.env, context.state, context.snapshot⟩
  resolve { system with shared := { system.shared with cell } } id context

/-- The observation of an accepted action. -/
def observeAction (system : System) (now : Int) : IncidentAction → System
  | .pause => system.observe (.paused now)
  | .resume => system.observe (.resumed now)
  | .report => system
  | .ack => system

/-- `handleIntegrityIncident` up to its notification. -/
def handleIncident (deployment : Deployment) (system : System) (id : Nat) (now : Int)
    (request : IncidentRequest) (context : IntegrityContext) : System :=
  match readIncident deployment.parseJson deployment.env request context with
  | .error refusal => system.put id (.answered (.refused refusal))
  | .ok incident =>
      match processIncident deployment.env system.shared now incident with
      | (shared, .duplicate record) =>
          { system.put id (.answered (.duplicate record)) with shared }
      | (shared, .accepted) =>
          let next := observeAction { system with shared } now incident.action
          match readHandlerEnvString deployment.env "GATEWAY_INTEGRITY_INCIDENT_NOTIFY_URL" with
          | some _ => next.put id (.notifying incident)
          | none => next.put id (.answered (.accepted shared.cell.state.paused))

def finishNotify (system : System) (id : Nat) (ok : Bool) : System :=
  if ok then system.put id (.answered (.accepted system.shared.cell.state.paused))
  else system.put id (.answered .notifyFailed)

/-- One event at its time; an event of a request is enabled in its turn only. -/
def act (deployment : Deployment) (system : System) : Event → Option System
  | .start id now =>
      match system.requests id with
      | none => some (start system id now)
      | some _ => none
  | .refreshDone id _ result =>
      match system.requests id with
      | some (.refreshing startedAt) => some (finishRefresh deployment system id startedAt result)
      | _ => none
  | .incident id now request =>
      match system.requests id with
      | some (.resolved context) => some (handleIncident deployment system id now request context)
      | _ => none
  | .notifyDone id _ ok =>
      match system.requests id with
      | some (.notifying _) => some (finishNotify system id ok)
      | _ => none

/-- The clock does not run backwards. -/
def step (deployment : Deployment) (system : System) (event : Event) : Option System :=
  if system.clock ≤ event.now then act deployment { system with clock := event.now } event else none

/-! ### How long a pause holds -/

/-- A pause was accepted less than `ttl` before `now`, and no resume since. -/
def InForce (ttl : Int) (history : List Observation) (now : Int) : Prop :=
  ∃ since acceptedAt earlier, history = since ++ .paused acceptedAt :: earlier ∧
    (∀ resumedAt, Observation.resumed resumedAt ∉ since) ∧ now < acceptedAt + ttl

/-- The request started under a pause. -/
def Covered (ttl : Int) (history : List Observation) (id : Nat) : Prop :=
  ∃ later startedAt before, history = later ++ .started id startedAt :: before ∧
    InForce ttl before startedAt

/-- Every request that started under a pause and was handled since was handled
as paused. -/
def PausesHold (ttl : Int) (history : List Observation) : Prop :=
  ∀ later id startedAt before, history = later ++ .started id startedAt :: before →
    InForce ttl before startedAt → ∀ paused, .handled id paused ∈ later → paused = true

/-- No refresh ends while an accepted pause is in force. -/
def RefreshesClear (deployment : Deployment) (system : System) : Event → Prop
  | .refreshDone _ now _ =>
      ¬InForce (readIntegrityCacheTtlMs deployment.env) system.history now
  | _ => True

/-! ### Histories -/

section Histories

variable {ttl : Int} {observation : Observation} {history : List Observation}

/-- A pause in force was accepted just now, or was in force before and no
resume came since. -/
theorem inForce_cons {now : Int} (force : InForce ttl (observation :: history) now) :
    (∃ acceptedAt, observation = .paused acceptedAt ∧ now < acceptedAt + ttl) ∨
      (∀ resumedAt, observation ≠ .resumed resumedAt) ∧ InForce ttl history now := by
  rcases force with ⟨since, acceptedAt, earlier, same, free, within⟩
  cases since with
  | nil =>
      rw [List.nil_append, List.cons.injEq] at same
      exact Or.inl ⟨acceptedAt, same.1, within⟩
  | cons head tail =>
      rw [List.cons_append, List.cons.injEq] at same
      right
      constructor
      · intro resumedAt resumed
        apply free resumedAt
        rw [← resumed, same.1]
        exact List.mem_cons_self
      · exact ⟨tail, acceptedAt, earlier, same.2,
          fun resumedAt member => free resumedAt (List.mem_cons_of_mem head member), within⟩

/-- Only a pause brings one into force. -/
theorem inForce_of_cons {now : Int} (notPaused : ∀ acceptedAt, observation ≠ .paused acceptedAt)
    (force : InForce ttl (observation :: history) now) : InForce ttl history now := by
  rcases inForce_cons force with ⟨acceptedAt, accepted, -⟩ | ⟨-, earlier⟩
  · exact absurd accepted (notPaused acceptedAt)
  · exact earlier

theorem InForce.earlier {now later : Int} (force : InForce ttl history later) (order : now ≤ later) :
    InForce ttl history now := by
  rcases force with ⟨since, acceptedAt, earlier, same, free, within⟩
  exact ⟨since, acceptedAt, earlier, same, free, by omega⟩

/-- A covered request started just now, or was covered before. -/
theorem covered_cons {id : Nat} (covered : Covered ttl (observation :: history) id) :
    (∃ startedAt, observation = .started id startedAt ∧ InForce ttl history startedAt) ∨
      Covered ttl history id := by
  rcases covered with ⟨later, startedAt, before, same, force⟩
  cases later with
  | nil =>
      rw [List.nil_append, List.cons.injEq] at same
      rw [same.2]
      exact Or.inl ⟨startedAt, same.1, force⟩
  | cons head tail =>
      rw [List.cons_append, List.cons.injEq] at same
      exact Or.inr ⟨tail, startedAt, before, same.2, force⟩

/-- Only the start of a request covers it. -/
theorem covered_of_cons {id : Nat} (notStarted : ∀ startedAt, observation ≠ .started id startedAt)
    (covered : Covered ttl (observation :: history) id) : Covered ttl history id := by
  rcases covered_cons covered with ⟨startedAt, started, -⟩ | earlier
  · exact absurd started (notStarted startedAt)
  · exact earlier

theorem Covered.started {id : Nat} (covered : Covered ttl history id) :
    ∃ startedAt, Observation.started id startedAt ∈ history := by
  rcases covered with ⟨later, startedAt, before, same, -⟩
  refine ⟨startedAt, ?_⟩
  rw [same]
  exact List.mem_append_right later List.mem_cons_self

/-- A history that keeps its pauses goes on to, when a covered request is only
handled as paused. -/
theorem PausesHold.cons (holds : PausesHold ttl history)
    (handled : ∀ id paused, observation = .handled id paused → Covered ttl history id →
      paused = true) : PausesHold ttl (observation :: history) := by
  intro later id startedAt before same force paused member
  cases later with
  | nil => simp at member
  | cons head tail =>
      rw [List.cons_append, List.cons.injEq] at same
      rcases List.mem_cons.mp member with newest | older
      · exact handled id paused (same.1.trans newest.symm) ⟨tail, startedAt, before, same.2, force⟩
      · exact holds tail id startedAt before same.2 force paused older

theorem PausesHold.cons_other (holds : PausesHold ttl history)
    (notHandled : ∀ id paused, observation ≠ .handled id paused) :
    PausesHold ttl (observation :: history) :=
  holds.cons fun id paused handled => absurd handled (notHandled id paused)

end Histories

/-! ### Steps -/

/-- What a step can do. -/
inductive Effect (deployment : Deployment) (system next : System) : Event → Prop where
  | cached (id : Nat) (now : Int) (context : IntegrityContext) (fresh : system.requests id = none)
      (unexpired : now < system.shared.cell.expiresAt)
      (cell : next.shared.cell = system.shared.cell)
      (requests : next.requests = Function.update system.requests id (some (.resolved context)))
      (history : next.history = .handled id system.shared.cell.state.paused ::
        .started id now :: system.history) : Effect deployment system next (.start id now)
  | refreshing (id : Nat) (now : Int) (fresh : system.requests id = none)
      (expired : system.shared.cell.expiresAt ≤ now)
      (cell : next.shared.cell = system.shared.cell)
      (requests : next.requests = Function.update system.requests id (some (.refreshing now)))
      (history : next.history = .started id now :: system.history) :
      Effect deployment system next (.start id now)
  | refreshed (id : Nat) (now startedAt : Int) (result : RefreshResult) (context : IntegrityContext)
      (present : system.requests id = some (.refreshing startedAt))
      (requests : next.requests = Function.update system.requests id (some (.resolved context)))
      (history : next.history = .handled id context.state.paused :: system.history) :
      Effect deployment system next (.refreshDone id now result)
  | quiet (event : Event) (id : Nat) (before progress : Progress)
      (present : system.requests id = some before)
      (settled : ∀ startedAt, progress ≠ .refreshing startedAt)
      (cell : next.shared.cell = system.shared.cell)
      (requests : next.requests = Function.update system.requests id (some progress))
      (history : next.history = system.history) : Effect deployment system next event
  | paused (id : Nat) (now : Int) (request : IncidentRequest) (before progress : Progress)
      (present : system.requests id = some before)
      (settled : ∀ startedAt, progress ≠ .refreshing startedAt)
      (state : next.shared.cell.state.paused = true)
      (expires : next.shared.cell.expiresAt = now + readIntegrityCacheTtlMs deployment.env)
      (requests : next.requests = Function.update system.requests id (some progress))
      (history : next.history = .paused now :: system.history) :
      Effect deployment system next (.incident id now request)
  | resumed (id : Nat) (now : Int) (request : IncidentRequest) (before progress : Progress)
      (present : system.requests id = some before)
      (settled : ∀ startedAt, progress ≠ .refreshing startedAt)
      (requests : next.requests = Function.update system.requests id (some progress))
      (history : next.history = .resumed now :: system.history) :
      Effect deployment system next (.incident id now request)

/-- What the processing of an incident can do. -/
private theorem handleIncident_effect (deployment : Deployment) {system : System} {id : Nat}
    {now : Int} (request : IncidentRequest) {context : IntegrityContext} {before : Progress}
    (present : system.requests id = some before) :
    Effect deployment system (handleIncident deployment system id now request context)
      (.incident id now request) := by
  unfold handleIncident
  cases checked : readIncident deployment.parseJson deployment.env request context with
  | error refusal => exact .quiet _ id before _ present (by simp) rfl rfl rfl
  | ok incident =>
      cases result : processIncident deployment.env system.shared now incident with
      | mk shared outcome =>
          rcases processIncident_cell result with ⟨record, rfl, same⟩ | ⟨rfl, applied⟩
          · simp only [result]
            exact .quiet _ id before _ present (by simp) same rfl rfl
          · simp only [result]
            cases action : incident.action with
            | report =>
                rw [action] at applied
                split
                · exact .quiet _ id before _ present (by simp) applied rfl rfl
                · exact .quiet _ id before _ present (by simp) applied rfl rfl
            | ack =>
                rw [action] at applied
                split
                · exact .quiet _ id before _ present (by simp) applied rfl rfl
                · exact .quiet _ id before _ present (by simp) applied rfl rfl
            | pause =>
                rw [action] at applied
                have state : shared.cell.state.paused = true := by rw [applied]; rfl
                have expires : shared.cell.expiresAt =
                    now + readIntegrityCacheTtlMs deployment.env := by rw [applied]; rfl
                split
                · exact .paused id now request before _ present (by simp) state expires rfl rfl
                · exact .paused id now request before _ present (by simp) state expires rfl rfl
            | resume =>
                split
                · exact .resumed id now request before _ present (by simp) rfl rfl
                · exact .resumed id now request before _ present (by simp) rfl rfl

private theorem act_effect {deployment : Deployment} {system next : System} {event : Event}
    (acted : act deployment system event = some next) : Effect deployment system next event := by
  cases event with
  | start id now =>
      cases fresh : system.requests id with
      | some progress => simp [act, fresh] at acted
      | none =>
          simp only [act, fresh, Option.some.injEq] at acted
          rw [← acted]
          by_cases unexpired : now < system.shared.cell.expiresAt
          · rw [start, if_pos unexpired]
            exact .cached id now _ fresh unexpired rfl rfl rfl
          · rw [start, if_neg unexpired]
            exact .refreshing id now fresh (by omega) rfl rfl rfl
  | refreshDone id now result =>
      cases present : system.requests id with
      | none => simp [act, present] at acted
      | some progress =>
          cases progress with
          | refreshing startedAt =>
              simp only [act, present, Option.some.injEq] at acted
              rw [← acted]
              exact .refreshed id now startedAt result _ present rfl rfl
          | _ => simp [act, present] at acted
  | incident id now request =>
      cases present : system.requests id with
      | none => simp [act, present] at acted
      | some progress =>
          cases progress with
          | resolved context =>
              simp only [act, present, Option.some.injEq] at acted
              rw [← acted]
              exact handleIncident_effect deployment request present
          | _ => simp [act, present] at acted
  | notifyDone id now ok =>
      cases present : system.requests id with
      | none => simp [act, present] at acted
      | some progress =>
          cases progress with
          | notifying incident =>
              simp only [act, present, Option.some.injEq] at acted
              rw [← acted]
              unfold finishNotify
              split
              · exact .quiet _ id _ _ present (by simp) rfl rfl rfl
              · exact .quiet _ id _ _ present (by simp) rfl rfl rfl
          | _ => simp [act, present] at acted

@[simp] theorem put_clock (system : System) (id : Nat) (progress : Progress) :
    (system.put id progress).clock = system.clock := rfl

@[simp] theorem observeAction_clock (system : System) (now : Int) (action : IncidentAction) :
    (observeAction system now action).clock = system.clock := by
  cases action <;> rfl

private theorem handleIncident_clock (deployment : Deployment) (system : System) (id : Nat)
    (now : Int) (request : IncidentRequest) (context : IntegrityContext) :
    (handleIncident deployment system id now request context).clock = system.clock := by
  unfold handleIncident
  split
  · rfl
  · split
    · rfl
    · dsimp only
      split
      · rw [put_clock, observeAction_clock]
      · rw [put_clock, observeAction_clock]

private theorem act_clock {deployment : Deployment} {system next : System} {event : Event}
    (acted : act deployment system event = some next) : next.clock = system.clock := by
  unfold act at acted
  split at acted
  · split at acted
    · rw [← Option.some.inj acted, start]
      split <;> rfl
    · contradiction
  · split at acted
    · rw [← Option.some.inj acted]
      rfl
    · contradiction
  · split at acted
    · rw [← Option.some.inj acted]
      exact handleIncident_clock ..
    · contradiction
  · split at acted
    · rw [← Option.some.inj acted, finishNotify]
      split <;> rfl
    · contradiction

/-! ### Runs -/

/-- A pause in force is in the cell and outlives every request that starts under
it, so no such request refreshes, and each is handled as paused. -/
structure Holding (deployment : Deployment) (system : System) : Prop where
  accepted : ∀ acceptedAt, .paused acceptedAt ∈ system.history → acceptedAt ≤ system.clock
  started : ∀ id startedAt, .started id startedAt ∈ system.history → system.requests id ≠ none
  live : ∀ now, system.clock ≤ now →
    InForce (readIntegrityCacheTtlMs deployment.env) system.history now →
    system.shared.cell.state.paused = true ∧ now < system.shared.cell.expiresAt
  uncovered : ∀ id startedAt, system.requests id = some (.refreshing startedAt) →
    ¬Covered (readIntegrityCacheTtlMs deployment.env) system.history id
  holds : PausesHold (readIntegrityCacheTtlMs deployment.env) system.history

theorem holding_initial (deployment : Deployment) : Holding deployment initial := by
  constructor
  · intro acceptedAt member
    simp [initial] at member
  · intro id startedAt member
    simp [initial] at member
  · intro now _ force
    rcases force with ⟨since, acceptedAt, earlier, same, -⟩
    simp [initial] at same
  · intro id startedAt present
    simp [initial] at present
  · intro later id startedAt before same
    simp [initial] at same

theorem Holding.advance {deployment : Deployment} {system : System} {now : Int}
    (holding : Holding deployment system) (order : system.clock ≤ now) :
    Holding deployment { system with clock := now } where
  accepted acceptedAt member := le_trans (holding.accepted acceptedAt member) order
  started := holding.started
  live later after force := holding.live later (le_trans order after) force
  uncovered := holding.uncovered
  holds := holding.holds

/-- A request that has begun is neither new nor, once settled, refreshing. -/
private theorem begun_kept {requests : Nat → Option Progress} {id : Nat} (progress : Progress)
    {other : Nat} (begun : requests other ≠ none) :
    Function.update requests id (some progress) other ≠ none := by
  by_cases same : other = id
  · rw [same, Function.update_self]
    simp
  · rw [Function.update_of_ne same]
    exact begun

private theorem refreshing_kept {requests : Nat → Option Progress} {id other : Nat}
    {progress : Progress} {startedAt : Int} (settled : ∀ time, progress ≠ .refreshing time)
    (present : Function.update requests id (some progress) other = some (.refreshing startedAt)) :
    requests other = some (.refreshing startedAt) := by
  rcases update_eq_some present with ⟨-, same⟩ | ⟨-, before⟩
  · exact absurd same.symm (settled startedAt)
  · exact before

section Preservation

variable {deployment : Deployment} {system next : System}

private theorem Holding.accepted_cons (holding : Holding deployment system)
    (clock : next.clock = system.clock) {observation : Observation}
    (notPaused : ∀ acceptedAt, observation ≠ .paused acceptedAt)
    (history : next.history = observation :: system.history) (acceptedAt : Int)
    (member : .paused acceptedAt ∈ next.history) : acceptedAt ≤ next.clock := by
  rw [history] at member
  rw [clock]
  rcases List.mem_cons.mp member with newest | older
  · exact absurd newest.symm (notPaused acceptedAt)
  · exact holding.accepted acceptedAt older

private theorem Holding.started_cons (holding : Holding deployment system) {id : Nat}
    {progress : Progress} {observation : Observation}
    (notStarted : ∀ other startedAt, observation = .started other startedAt → other = id)
    (requests : next.requests = Function.update system.requests id (some progress))
    (history : next.history = observation :: system.history) (other : Nat) (startedAt : Int)
    (member : .started other startedAt ∈ next.history) : next.requests other ≠ none := by
  rw [requests]
  rw [history] at member
  rcases List.mem_cons.mp member with newest | older
  · rw [notStarted other startedAt newest.symm, Function.update_self]
    simp
  · exact begun_kept progress (holding.started other startedAt older)

private theorem Holding.uncovered_cons (holding : Holding deployment system) {id : Nat}
    {progress : Progress} (settled : ∀ startedAt, progress ≠ .refreshing startedAt)
    {observation : Observation} (notStarted : ∀ other time, observation ≠ .started other time)
    (requests : next.requests = Function.update system.requests id (some progress))
    (history : next.history = observation :: system.history) (other : Nat) (startedAt : Int)
    (present : next.requests other = some (.refreshing startedAt)) :
    ¬Covered (readIntegrityCacheTtlMs deployment.env) next.history other := by
  intro covered
  rw [requests] at present
  rw [history] at covered
  have earlier := covered_of_cons (notStarted other) covered
  exact holding.uncovered other startedAt (refreshing_kept settled present) earlier

private theorem Holding.quiet (holding : Holding deployment system)
    (clock : next.clock = system.clock) {id : Nat} {progress : Progress}
    (settled : ∀ startedAt, progress ≠ .refreshing startedAt)
    (cell : next.shared.cell = system.shared.cell)
    (requests : next.requests = Function.update system.requests id (some progress))
    (history : next.history = system.history) : Holding deployment next := by
  constructor
  · rw [history, clock]
    exact holding.accepted
  · intro other startedAt member
    rw [history] at member
    rw [requests]
    exact begun_kept progress (holding.started other startedAt member)
  · rw [history, clock, cell]
    exact holding.live
  · intro other startedAt present
    rw [requests] at present
    rw [history]
    exact holding.uncovered other startedAt (refreshing_kept settled present)
  · rw [history]
    exact holding.holds

/-- A request begins, and refreshes only when the cell has expired. -/
private theorem Holding.begun (holding : Holding deployment system)
    (clock : next.clock = system.clock) {id : Nat} {progress : Progress}
    (fresh : system.requests id = none) (cell : next.shared.cell = system.shared.cell)
    (expired : ∀ startedAt, progress = .refreshing startedAt →
      system.shared.cell.expiresAt ≤ system.clock)
    (requests : next.requests = Function.update system.requests id (some progress))
    (history : next.history = .started id system.clock :: system.history) :
    Holding deployment next := by
  constructor
  · exact holding.accepted_cons clock (by simp) history
  · apply holding.started_cons _ requests history
    intro other startedAt same
    cases same
    rfl
  · intro now after force
    rw [history] at force
    rw [cell]
    rw [clock] at after
    exact holding.live now after (inForce_of_cons (by simp) force)
  · intro other startedAt present covered
    rw [history] at covered
    rw [requests] at present
    by_cases same : other = id
    · rw [same, Function.update_self, Option.some.injEq] at present
      rw [same] at covered
      rcases covered_cons covered with ⟨time, begun, force⟩ | covered
      · cases begun
        have unexpired := (holding.live system.clock (le_refl _) force).2
        have ended := expired startedAt present
        omega
      · rcases covered.started with ⟨earlier, member⟩
        exact holding.started id earlier member fresh
    · rw [Function.update_of_ne same] at present
      have notThis : ∀ time, Observation.started id system.clock ≠ .started other time := by
        intro time begun
        cases begun
        exact same rfl
      exact holding.uncovered other startedAt present (covered_of_cons notThis covered)
  · rw [history]
    exact holding.holds.cons_other (by simp)

/-- A request is handled, as paused if it is covered. -/
private theorem Holding.handled (holding : Holding deployment system)
    (clock : next.clock = system.clock) {id : Nat} {context : IntegrityContext} {paused : Bool}
    (live : ∀ now, system.clock ≤ now →
      InForce (readIntegrityCacheTtlMs deployment.env) system.history now →
      next.shared.cell.state.paused = true ∧ now < next.shared.cell.expiresAt)
    (covered : Covered (readIntegrityCacheTtlMs deployment.env) system.history id → paused = true)
    (requests : next.requests = Function.update system.requests id (some (.resolved context)))
    (history : next.history = .handled id paused :: system.history) :
    Holding deployment next := by
  constructor
  · exact holding.accepted_cons clock (by simp) history
  · exact holding.started_cons (by simp) requests history
  · intro now after force
    rw [history] at force
    rw [clock] at after
    exact live now after (inForce_of_cons (by simp) force)
  · exact holding.uncovered_cons (by simp) (by simp) requests history
  · rw [history]
    apply holding.holds.cons
    intro other answer same present
    cases same
    exact covered present

private theorem Holding.cached (holding : Holding deployment system)
    (clock : next.clock = system.clock) {id : Nat} {context : IntegrityContext}
    (fresh : system.requests id = none) (cell : next.shared.cell = system.shared.cell)
    (requests : next.requests = Function.update system.requests id (some (.resolved context)))
    (history : next.history = .handled id system.shared.cell.state.paused ::
      .started id system.clock :: system.history) : Holding deployment next := by
  have begun : Holding deployment
      ((system.put id (.resolved context)).observe (.started id system.clock)) :=
    holding.begun rfl fresh rfl (by simp) rfl rfl
  have live : ∀ now, system.clock ≤ now →
      InForce (readIntegrityCacheTtlMs deployment.env) (.started id system.clock :: system.history)
        now → next.shared.cell.state.paused = true ∧ now < next.shared.cell.expiresAt := by
    rw [cell]
    exact begun.live
  have answer : Covered (readIntegrityCacheTtlMs deployment.env)
      (.started id system.clock :: system.history) id →
      system.shared.cell.state.paused = true := by
    intro covered
    rcases covered_cons covered with ⟨time, same, force⟩ | earlier
    · cases same
      exact (holding.live system.clock (le_refl _) force).1
    · rcases earlier.started with ⟨startedAt, member⟩
      exact absurd fresh (holding.started id startedAt member)
  have settled : next.requests = Function.update
      (Function.update system.requests id (some (.resolved context))) id
      (some (.resolved context)) := by
    rw [requests, Function.update_idem]
  exact begun.handled clock live answer settled history

private theorem Holding.refreshed (holding : Holding deployment system)
    (clock : next.clock = system.clock) {id : Nat} {startedAt : Int} {context : IntegrityContext}
    (present : system.requests id = some (.refreshing startedAt))
    (clear : ¬InForce (readIntegrityCacheTtlMs deployment.env) system.history system.clock)
    (requests : next.requests = Function.update system.requests id (some (.resolved context)))
    (history : next.history = .handled id context.state.paused :: system.history) :
    Holding deployment next := by
  apply holding.handled clock (fun now after force => ?_) (fun covered => ?_) requests history
  · exact absurd (force.earlier after) clear
  · exact absurd covered (holding.uncovered id startedAt present)

private theorem Holding.paused (holding : Holding deployment system)
    (clock : next.clock = system.clock) {id : Nat} {progress : Progress}
    (settled : ∀ startedAt, progress ≠ .refreshing startedAt)
    (state : next.shared.cell.state.paused = true)
    (expires : next.shared.cell.expiresAt =
      system.clock + readIntegrityCacheTtlMs deployment.env)
    (requests : next.requests = Function.update system.requests id (some progress))
    (history : next.history = .paused system.clock :: system.history) :
    Holding deployment next := by
  have accepted : ∀ acceptedAt, Observation.paused acceptedAt ∈ next.history →
      acceptedAt ≤ system.clock := by
    intro acceptedAt member
    rw [history] at member
    rcases List.mem_cons.mp member with newest | older
    · cases newest
      exact le_refl _
    · exact holding.accepted acceptedAt older
  constructor
  · rw [clock]
    exact accepted
  · exact holding.started_cons (by simp) requests history
  · intro now after force
    refine ⟨state, ?_⟩
    rw [expires]
    rcases force with ⟨since, acceptedAt, earlier, same, -, within⟩
    have order : acceptedAt ≤ system.clock := by
      apply accepted
      rw [same]
      exact List.mem_append_right since List.mem_cons_self
    omega
  · exact holding.uncovered_cons settled (by simp) requests history
  · rw [history]
    exact holding.holds.cons_other (by simp)

private theorem Holding.resumed (holding : Holding deployment system)
    (clock : next.clock = system.clock) {id : Nat} {now : Int} {progress : Progress}
    (settled : ∀ startedAt, progress ≠ .refreshing startedAt)
    (requests : next.requests = Function.update system.requests id (some progress))
    (history : next.history = .resumed now :: system.history) : Holding deployment next := by
  constructor
  · exact holding.accepted_cons clock (by simp) history
  · exact holding.started_cons (by simp) requests history
  · intro later _ force
    rw [history] at force
    rcases inForce_cons force with ⟨acceptedAt, impossible, -⟩ | ⟨free, -⟩
    · cases impossible
    · exact absurd rfl (free now)
  · exact holding.uncovered_cons settled (by simp) requests history
  · rw [history]
    exact holding.holds.cons_other (by simp)

/-- A step in which no refresh ends under a pause keeps the pauses holding. -/
theorem Holding.step {event : Event} (holding : Holding deployment system)
    (clear : RefreshesClear deployment system event)
    (stepped : IntegrityPolicy.step deployment system event = some next) :
    Holding deployment next := by
  unfold IntegrityPolicy.step at stepped
  split at stepped
  · next order =>
      have ready := holding.advance order
      have clock := act_clock stepped
      cases act_effect stepped with
      | cached id now context fresh unexpired cell requests history =>
          exact ready.cached clock fresh cell requests history
      | refreshing id now fresh expired cell requests history =>
          exact ready.begun clock fresh cell (fun _ _ => expired) requests history
      | refreshed id now startedAt result context present requests history =>
          exact ready.refreshed clock present clear requests history
      | quiet event id before progress present settled cell requests history =>
          exact ready.quiet clock settled cell requests history
      | paused id now request before progress present settled state expires requests history =>
          exact ready.paused clock settled state expires requests history
      | resumed id now request before progress present settled requests history =>
          exact ready.resumed clock settled requests history
  · contradiction

end Preservation

/-- In every run in which no refresh ends while an accepted pause is in force,
every request that starts under a pause is handled as paused. -/
theorem accepted_pause_holds {deployment : Deployment} {events : List Event} {final : System}
    (reached : run (step deployment) initial events = some final)
    (meets : Meets (step deployment) (RefreshesClear deployment) initial events) :
    PausesHold (readIntegrityCacheTtlMs deployment.env) final.history := by
  have holding : Holding deployment final :=
    run_invariant (Holding deployment) Holding.step (holding_initial deployment) meets reached
  exact holding.holds

/-- The body of a pause incident. -/
def pauseBody : JsString := js "\x7b\"event\":\"manual-freeze\",\"action\":\"pause\"\x7d"

/-- A gateway with an incident token, and how it parses that body. -/
def pausableGateway : Deployment where
  env name := if name = "GATEWAY_INTEGRITY_INCIDENT_TOKEN" then some (js "incident-token") else none
  parseJson text :=
    if text = pauseBody then
      some (.obj [(js "event", .str (js "manual-freeze")), (js "action", .str (js "pause"))])
    else none

/-- An authenticated pause incident. -/
def pauseRequest : IncidentRequest where
  isPost := true
  bodyText := pauseBody
  bearerToken := js "incident-token"
  incidentToken := []
  signatureRefHeader := []

/-- The upstream policy is not paused. -/
def unpausedSnapshot : IntegritySnapshot := ⟨false, fun _ => none⟩

/-- A pause accepted with no refresh in flight, and a request under it. -/
def quietPauseRun : List Event :=
  [.start 0 1000, .refreshDone 0 1001 (.fetched unpausedSnapshot), .incident 0 1002 pauseRequest,
    .start 1 2000]

set_option maxRecDepth 20000 in
theorem accepted_pause_holds_quiet :
    ∃ final, run (step pausableGateway) initial quietPauseRun = some final ∧
      PausesHold (readIntegrityCacheTtlMs pausableGateway.env) final.history := by
  refine ⟨_, rfl, @accepted_pause_holds pausableGateway quietPauseRun _ rfl ?_⟩
  apply Meets.cons rfl trivial
  apply Meets.cons rfl
  · intro force
    rcases inForce_cons force with ⟨acceptedAt, impossible, -⟩ | ⟨-, force⟩
    · cases impossible
    · rcases force with ⟨since, acceptedAt, earlier, same, -⟩
      simp [initial] at same
  apply Meets.cons rfl trivial
  apply Meets.cons rfl trivial
  trivial

/-- A refresh that was in flight when the pause was accepted ends after it. -/
def overtakenPauseRun : List Event :=
  [.start 0 1000, .start 1 1001, .refreshDone 1 1002 (.fetched unpausedSnapshot),
    .incident 1 1003 pauseRequest, .refreshDone 0 1500 (.fetched unpausedSnapshot), .start 2 1600]

set_option maxRecDepth 20000 in
/-- A request under a pause is handled as not paused, after a refresh that began
before the pause has overwritten it. -/
theorem accepted_pause_lost :
    ¬∀ (deployment : Deployment) (events : List Event) (final : System),
      run (step deployment) initial events = some final →
      PausesHold (readIntegrityCacheTtlMs deployment.env) final.history := by
  intro claim
  have holds := claim pausableGateway overtakenPauseRun _ rfl
  have handled := holds [.handled 2 false] 2 1600 _ rfl
    ⟨[.handled 0 false], 1003, _, rfl, by simp, by decide⟩ false (by simp)
  contradiction

end DarkmeshGateway.Gateway.IntegrityPolicy
