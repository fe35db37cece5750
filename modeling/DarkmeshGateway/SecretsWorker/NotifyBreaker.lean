import DarkmeshGateway.Foundation.ExpiringStore
import DarkmeshGateway.Foundation.Machine
import DarkmeshGateway.SecretsWorker.Inbox

/-!
Contract: the circuit breaker of `POST /notify`.

Owns the breaker key of a request, the stored count of failures with the end of
an opening, the admission check and the note of an outcome, and when a breaker
admits a request after its opening.

Does not own the checks in front of the breaker or the delivery: a run carries
when deliveries end and how.
-/

namespace DarkmeshGateway.SecretsWorker.NotifyBreaker

open Foundation
open Foundation.Js
open SecretsWorker.Fields (envNumber)
open SecretsWorker.Inbox (atLimit expirationTtl)

/-! ### Configuration -/

structure BreakerEnv where
  notifyBreakerThreshold : Option JsString := none
  notifyBreakerCooldown : Option JsString := none

/-- `none` is `NaN`, which no count reaches. -/
def breakerThreshold (env : BreakerEnv) : Option Int :=
  (envNumber [env.notifyBreakerThreshold] "5").filter isFiniteInt

def breakerCooldown (env : BreakerEnv) : Option Int :=
  (envNumber [env.notifyBreakerCooldown] "300").filter isFiniteInt

/-- What the breaker key of a request depends on: its `x-breaker-key` header, and
whether it has a webhook and a recipient. -/
structure NotifyCall where
  headerBreakerKey : Option JsString
  webhook : Bool
  addressed : Bool

def allowedBreakerKeys : List JsString :=
  [js "stripe", js "paypal", js "gopay", js "webhook", js "sendgrid", js "notify"]

def breakerKey (call : NotifyCall) : JsString :=
  match (call.headerBreakerKey.map trim).filter (allowedBreakerKeys.contains ·) with
  | some header => header
  | none =>
      if call.webhook then js "webhook" else if call.addressed then js "sendgrid" else js "notify"

/-! ### The stored state -/

/-- Zero is no opening. -/
structure BreakerState where
  count : Nat
  openUntil : Int

abbrev Kv := ExpiringStore JsString BreakerState

def recordKey (key : JsString) : JsString := js "notify:breaker:" ++ key

def breakerState (kv : Kv) (now : Nat) (key : JsString) : BreakerState :=
  (ExpiringStore.get kv now (recordKey key)).getD ⟨0, 0⟩

def saveState (env : BreakerEnv) (kv : Kv) (now : Nat) (key : JsString) (state : BreakerState) :
    Kv :=
  ExpiringStore.put kv (recordKey key) state
    (expirationTtl now ((breakerCooldown env).map (· * 2)))

/-- `now + breakerCooldown`; a sum that is no number is stored as `null`. -/
def cooledDown (env : BreakerEnv) (now : Nat) : Int :=
  ((breakerCooldown env).map ((now : Int) + ·)).getD 0

inductive Verdict where
  | admitted
  | blocked
  /-- Blocked by an opening that begins with this request. -/
  | reopened
deriving DecidableEq

/-- The opening lies ahead. -/
def BreakerState.isOpen (state : BreakerState) (now : Nat) : Bool :=
  state.openUntil ≠ 0 && (now : Int) < state.openUntil

def breakerAllows (env : BreakerEnv) (kv : Kv) (now : Nat) (key : JsString) : Verdict × Kv :=
  let st := breakerState kv now key
  if st.isOpen now then (.blocked, kv)
  else if atLimit (breakerThreshold env) st.count then
    let openUntil := if st.isOpen now then st.openUntil else cooledDown env now
    (.reopened, saveState env kv now key ⟨st.count, openUntil⟩)
  else (.admitted, kv)

def breakerNote (env : BreakerEnv) (kv : Kv) (now : Nat) (key : JsString) (success : Bool) : Kv :=
  let st := breakerState kv now key
  if success then saveState env kv now key ⟨0, 0⟩
  else
    let openUntil :=
      if atLimit (breakerThreshold env) (st.count + 1) then cooledDown env now
      else if st.isOpen now then st.openUntil else 0
    saveState env kv now key ⟨st.count + 1, openUntil⟩

/-! ### Requests -/

structure System where
  kv : Kv
  clock : Nat
  /-- The breaker keys of the deliveries that have not ended. -/
  deliveries : List JsString

def initial : System := ⟨.empty, 0, []⟩

inductive Event where
  | request (now : Nat) (call : NotifyCall)
  /-- A delivery is noted as a success or a failure. -/
  | outcome (now : Nat) (index : Nat) (success : Bool)
  /-- A delivery ends with an exception, which is not noted. -/
  | abandoned (now : Nat) (index : Nat)

def Event.now : Event → Nat
  | .request now _ => now
  | .outcome now _ _ => now
  | .abandoned now _ => now

def System.request (env : BreakerEnv) (system : System) (now : Nat) (key : JsString) : System :=
  match breakerAllows env system.kv now key with
  | (.admitted, kv) => { system with kv := kv, deliveries := system.deliveries ++ [key] }
  | (_, kv) => { system with kv := kv }

def System.outcome (env : BreakerEnv) (system : System) (now index : Nat) (success : Bool) :
    Option System :=
  system.deliveries[index]?.map fun key =>
    { system with
      kv := breakerNote env system.kv now key success
      deliveries := system.deliveries.eraseIdx index }

def step (env : BreakerEnv) (system : System) (event : Event) : Option System :=
  if event.now < system.clock then none
  else
    let timely := { system with clock := event.now }
    match event with
    | .request now call => some (timely.request env now (breakerKey call))
    | .outcome now index success => timely.outcome env now index success
    | .abandoned _ index => some { timely with deliveries := system.deliveries.eraseIdx index }

/-- Once the stored opening has passed, a request is admitted. -/
def Recovers (env : BreakerEnv) (system : System) (now : Nat) (key : JsString) : Prop :=
  (breakerState system.kv now key).openUntil ≤ now →
    (breakerAllows env system.kv now key).1 = .admitted

/-- The last opening that was stored lies ahead, or passed more than a further
cooldown ago. -/
def Settled (cooldown : Int) (system : System) (now : Nat) (key : JsString) : Prop :=
  ∀ entry, system.kv.find (recordKey key) = some entry → entry.value.openUntil ≠ 0 →
    now < entry.value.openUntil ∨ entry.value.openUntil + cooldown < now

/-- A request meets a settled breaker. -/
def RequestSettled (cooldown : Int) (system : System) : Event → Prop
  | .request now call => Settled cooldown system now (breakerKey call)
  | _ => True

instance (cooldown : Int) (system : System) (now : Nat) (key : JsString) :
    Decidable (Settled cooldown system now key) :=
  match found : system.kv.find (recordKey key) with
  | none => isTrue (by simp [Settled, found])
  | some entry =>
      decidable_of_iff (entry.value.openUntil ≠ 0 → now < entry.value.openUntil ∨
        entry.value.openUntil + cooldown < now) (by simp [Settled, found])

instance (cooldown : Int) (system : System) :
    (event : Event) → Decidable (RequestSettled cooldown system event)
  | .request now call => inferInstanceAs (Decidable (Settled _ _ now (breakerKey call)))
  | .outcome _ _ _ => isTrue trivial
  | .abandoned _ _ => isTrue trivial

/-! ### Invariant -/

/-- A record has reached the threshold exactly when it has an opening, and lives
for a cooldown beyond it. -/
structure Sound (threshold cooldown : Int) (entry : Expiring BreakerState) : Prop where
  nonnegative : 0 ≤ entry.value.openUntil
  reached : entry.value.openUntil ≠ 0 ↔ threshold ≤ entry.value.count
  lives : entry.value.openUntil ≠ 0 →
    entry.expires = some (entry.value.openUntil + cooldown).toNat

def Invariant (threshold cooldown : Int) (system : System) : Prop :=
  ∀ key entry, system.kv.find key = some entry → Sound threshold cooldown entry

variable {env : BreakerEnv} {threshold cooldown : Int}

/-- What a lookup finds is sound, or it is the state of an unused breaker. -/
theorem breakerState_sound {system : System} (invariant : Invariant threshold cooldown system)
    (positive : 1 ≤ threshold) (now : Nat) (key : JsString) :
    let st := breakerState system.kv now key
    0 ≤ st.openUntil ∧ (st.openUntil ≠ 0 ↔ threshold ≤ st.count) := by
  intro st
  cases found : ExpiringStore.get system.kv now (recordKey key) with
  | none =>
      have unused : st = ⟨0, 0⟩ := by simp [st, breakerState, found]
      rw [unused]
      simp
      omega
  | some state =>
      have loaded : st = state := by simp [st, breakerState, found]
      obtain ⟨entry, held, alive⟩ := Option.bind_eq_some_iff.mp found
      have stored := Option.some.inj (Option.ite_none_right_eq_some.mp alive).2
      have sound := invariant _ entry held
      rw [loaded, ← stored]
      exact ⟨sound.nonnegative, sound.reached⟩

/-- Saving a state that is consistent with the threshold, with an opening that
ends a cooldown from now. -/
theorem Invariant.save {system : System} (invariant : Invariant threshold cooldown system)
    (configured : breakerCooldown env = some cooldown) (longer : 0 < cooldown) {now : Nat}
    {key : JsString} {state : BreakerState}
    (reached : state.openUntil ≠ 0 ↔ threshold ≤ state.count)
    (opening : state.openUntil ≠ 0 → state.openUntil = now + cooldown) :
    ∀ other entry, (saveState env system.kv now key state).find other = some entry →
      Sound threshold cooldown entry := by
  intro other entry found
  by_cases same : other = recordKey key
  · rw [same] at found
    have written := (OrderedMap.find_set_self _ _ _).symm.trans found
    obtain rfl := Option.some.inj written
    refine ⟨?_, reached, ?_⟩
    · by_cases closed : state.openUntil = 0
      · exact Int.le_of_eq closed.symm
      · rw [opening closed]
        omega
    · intro opened
      have expiry : expirationTtl now ((breakerCooldown env).map (· * 2)) =
          some ((now : Int) + cooldown * 2).toNat := by
        rw [configured, Option.map_some, expirationTtl, if_neg (by omega)]
      show expirationTtl now _ = _
      rw [expiry, opening opened]
      congr 2
      omega
  · exact invariant other entry ((OrderedMap.find_set_other _ same _).symm.trans found)

private theorem atLimit_some {max : Int} {count : Nat} :
    atLimit (some max) count = true ↔ max ≤ count := by
  simp [atLimit]

/-- What the admission check does: it blocks an open breaker, opens one again
whose count is at the threshold, or admits. -/
theorem breakerAllows_cases (env : BreakerEnv) (kv : Kv) (now : Nat) (key : JsString) :
    let st := breakerState kv now key
    (st.isOpen now = true ∧ breakerAllows env kv now key = (.blocked, kv)) ∨
      (st.isOpen now = false ∧ atLimit (breakerThreshold env) st.count = true ∧
        breakerAllows env kv now key =
          (.reopened, saveState env kv now key ⟨st.count, cooledDown env now⟩)) ∨
      (st.isOpen now = false ∧ atLimit (breakerThreshold env) st.count = false ∧
        breakerAllows env kv now key = (.admitted, kv)) := by
  intro st
  unfold breakerAllows
  cases opened : st.isOpen now with
  | true => simp [st, opened]
  | false =>
      cases limit : atLimit (breakerThreshold env) st.count with
      | true => simp [st, opened, limit]
      | false => simp [st, opened, limit]

theorem Invariant.request {system : System} (invariant : Invariant threshold cooldown system)
    (threshold_eq : breakerThreshold env = some threshold)
    (cooldown_eq : breakerCooldown env = some cooldown) (longer : 0 < cooldown) (now : Nat)
    (key : JsString) : Invariant threshold cooldown (system.request env now key) := by
  unfold System.request
  rcases breakerAllows_cases env system.kv now key with
    ⟨-, blocked⟩ | ⟨-, limit, reopened⟩ | ⟨-, -, admitted⟩
  · rw [blocked]
    exact invariant
  · rw [reopened]
    have fresh : cooledDown env now = now + cooldown := by simp [cooledDown, cooldown_eq]
    have reached : threshold ≤ (breakerState system.kv now key).count :=
      atLimit_some.mp (threshold_eq ▸ limit)
    refine invariant.save cooldown_eq longer ?_ fun _ => fresh
    simp only [fresh, reached, iff_true]
    omega
  · rw [admitted]
    exact invariant

theorem Invariant.outcome {system next : System} (invariant : Invariant threshold cooldown system)
    (threshold_eq : breakerThreshold env = some threshold)
    (cooldown_eq : breakerCooldown env = some cooldown) (positive : 1 ≤ threshold)
    (longer : 0 < cooldown) {now index : Nat} {success : Bool}
    (noted : system.outcome env now index success = some next) :
    Invariant threshold cooldown next := by
  obtain ⟨key, -, rfl⟩ := Option.map_eq_some_iff.mp noted
  have fresh : cooledDown env now = now + cooldown := by simp [cooledDown, cooldown_eq]
  obtain ⟨-, loaded⟩ := breakerState_sound invariant positive now key
  show ∀ other entry, (breakerNote env system.kv now key success).find other = some entry → _
  cases success with
  | true => exact invariant.save cooldown_eq longer (by simp; omega) (by simp)
  | false =>
      by_cases reached : threshold ≤ ((breakerState system.kv now key).count + 1 : Nat)
      · have limit : atLimit (breakerThreshold env) ((breakerState system.kv now key).count + 1) =
            true := by
          rw [threshold_eq]
          exact atLimit_some.mpr reached
        simp only [breakerNote, limit, if_true]
        refine invariant.save cooldown_eq longer ?_ fun _ => fresh
        simp only [fresh, reached, iff_true]
        omega
      · -- Below the threshold there was no opening to keep.
        have closed : (breakerState system.kv now key).openUntil = 0 := by
          by_contra opened
          have counted := loaded.mp opened
          omega
        have under : atLimit (breakerThreshold env) ((breakerState system.kv now key).count + 1) =
            false := by
          rw [threshold_eq, ← Bool.not_eq_true, atLimit_some]
          exact reached
        simp only [breakerNote, under, closed, ite_self, Bool.false_eq_true, if_false]
        refine invariant.save cooldown_eq longer ?_ fun opened => absurd rfl opened
        simp only [ne_eq, not_true_eq_false, reached]

theorem Invariant.step {system next : System} (threshold_eq : breakerThreshold env = some threshold)
    (cooldown_eq : breakerCooldown env = some cooldown) (positive : 1 ≤ threshold)
    (longer : 0 < cooldown) {event : Event} (invariant : Invariant threshold cooldown system)
    (stepped : step env system event = some next) : Invariant threshold cooldown next := by
  unfold NotifyBreaker.step at stepped
  split at stepped
  next early => cases stepped
  next late =>
    have timely : Invariant threshold cooldown { system with clock := event.now } := invariant
    cases event with
    | request now call =>
        rw [← Option.some.inj stepped]
        exact timely.request threshold_eq cooldown_eq longer now _
    | outcome now index success =>
        exact timely.outcome threshold_eq cooldown_eq positive longer stepped
    | abandoned now index =>
        rw [← Option.some.inj stepped]
        exact invariant

/-- A request is admitted when the stored opening has passed exactly when the
record of the opening has run out. -/
theorem recovers_iff_settled {system : System} (invariant : Invariant threshold cooldown system)
    (threshold_eq : breakerThreshold env = some threshold) (positive : 1 ≤ threshold)
    (longer : 0 < cooldown) (now : Nat) (key : JsString) :
    Recovers env system now key ↔ Settled cooldown system now key := by
  have sound := breakerState_sound invariant positive now key
  have admitted_iff : Recovers env system now key ↔
      (breakerState system.kv now key).openUntil = 0 ∨
        now < (breakerState system.kv now key).openUntil := by
    unfold Recovers
    rcases breakerAllows_cases env system.kv now key with
      ⟨opened, blocked⟩ | ⟨passed, limit, reopened⟩ | ⟨passed, limit, admitted⟩
    · rw [blocked]
      simp only [BreakerState.isOpen, Bool.and_eq_true, decide_eq_true_eq] at opened
      simp only [reduceCtorEq, imp_false]
      omega
    · rw [reopened]
      have counted := sound.2.mpr (atLimit_some.mp (threshold_eq ▸ limit))
      simp only [reduceCtorEq, imp_false]
      omega
    · rw [admitted]
      have under : ¬threshold ≤ (breakerState system.kv now key).count := by
        rw [← atLimit_some, ← threshold_eq, limit]
        decide
      simp only [implies_true, true_iff]
      omega
  rw [admitted_iff]
  unfold Settled
  cases found : system.kv.find (recordKey key) with
  | none => simp [breakerState, ExpiringStore.get, found]
  | some entry =>
      have record := invariant _ entry found
      simp only [Option.some.injEq, forall_eq']
      cases alive : entry.alive now with
      | true =>
          have loaded : breakerState system.kv now key = entry.value := by
            simp [breakerState, ExpiringStore.get, found, alive]
          rw [loaded]
          by_cases opened : entry.value.openUntil = 0
          · simp [opened]
          · have last : (now : Int) ≤ entry.value.openUntil + cooldown := by
              have nonnegative := record.nonnegative
              rw [Expiring.alive, record.lives opened] at alive
              simp at alive
              omega
            omega
      | false =>
          have loaded : breakerState system.kv now key = ⟨0, 0⟩ := by
            simp [breakerState, ExpiringStore.get, found, alive]
          have gone : entry.value.openUntil ≠ 0 → entry.value.openUntil + cooldown < now := by
            intro opened
            rw [Expiring.alive, record.lives opened] at alive
            simp at alive
            omega
          rw [loaded]
          simp only [true_or, true_iff]
          exact fun opened => Or.inr (gone opened)

/-- Along every run: whenever a request comes when the stored opening has passed
it is admitted, if and only if every request comes before the end of the last
opening or more than a further cooldown after it. -/
theorem recovers_iff (threshold_eq : breakerThreshold env = some threshold)
    (positive : 1 ≤ threshold) (cooldown_eq : breakerCooldown env = some cooldown)
    (longer : 0 < cooldown) {events : List Event} :
    (∀ before now call after middle, events = before ++ .request now call :: after →
      Machine.run (step env) initial before = some middle →
        Recovers env middle now (breakerKey call)) ↔
      Machine.Meets (step env) (RequestSettled cooldown) initial events := by
  have kept {before : List Event} {middle : System}
      (passed : Machine.run (step env) initial before = some middle) :
      Invariant threshold cooldown middle := by
    refine Machine.run_invariant_always (Invariant threshold cooldown)
      (Invariant.step threshold_eq cooldown_eq positive longer) ?_ passed
    intro key entry found
    cases found
  rw [Machine.meets_iff_forall]
  constructor
  · intro recovers before event after middle split passed
    cases event with
    | request now call =>
        have holds := recovers before now call after middle split passed
        exact (recovers_iff_settled (kept passed) threshold_eq positive longer now _).mp holds
    | outcome now index success => trivial
    | abandoned now index => trivial
  · intro settled before now call after middle split passed
    have holds := settled before (.request now call) after middle split passed
    exact (recovers_iff_settled (kept passed) threshold_eq positive longer now _).mpr holds

/-- A worker whose breaker opens at the first failure, with the default cooldown. -/
def oneFailure : BreakerEnv where
  notifyBreakerThreshold := some (js "1")

def webhookCall : NotifyCall := ⟨none, true, false⟩

/-- A failure at second 1000, a request while the breaker is open, and one after
its record ran out. -/
def patient : List Event :=
  [.request 1000 webhookCall, .outcome 1000 0 false, .request 1299 webhookCall,
    .request 1601 webhookCall]

/-- The last request of the run is admitted. -/
theorem patient_recovers :
    ∃ middle, Machine.run (step oneFailure) initial (patient.take 3) = some middle ∧
      Recovers oneFailure middle 1601 (js "webhook") := by
  have settled : Machine.Meets (step oneFailure) (RequestSettled 300) initial patient := by
    decide +kernel
  have threshold : breakerThreshold oneFailure = some 1 := by decide
  have cooldown : breakerCooldown oneFailure = some 300 := by decide
  have recovers := (recovers_iff threshold (by decide) cooldown (by decide)).mpr settled
  exact ⟨_, rfl, recovers (patient.take 3) 1601 webhookCall [] _ rfl rfl⟩

/-- The first request after the opening opens the breaker again. -/
theorem reopened_without_attempt :
    ∃ middle, Machine.run (step oneFailure) initial
        [.request 1000 webhookCall, .outcome 1000 0 false] = some middle ∧
      (breakerState middle.kv 1300 (js "webhook")).openUntil = 1300 ∧
      (breakerAllows oneFailure middle.kv 1300 (js "webhook")).1 = .reopened ∧
      ¬Recovers oneFailure middle 1300 (js "webhook") := by
  refine ⟨_, rfl, by decide +kernel, by decide +kernel, ?_⟩
  intro recovers
  have admitted := recovers (by decide +kernel)
  revert admitted
  decide +kernel

end DarkmeshGateway.SecretsWorker.NotifyBreaker
