import DarkmeshGateway.Foundation.Machine
import DarkmeshGateway.SecretsWorker.ReplayCheck

/-!
Contract: `checkReplay` with a durable lock, as a machine over the calls of any
number of isolates.

Owns the claim of a call in its isolate, the claim at the lock object, the
answer, the marker with its retries and the release of the lock, in any order
with those of other calls, with alarms and with `/forget`, and how far apart the
claims of successful calls are.

A lock object handles one request or alarm at a time; an alarm may fire at any
second.

Does not own a check without the lock.
-/

namespace DarkmeshGateway.SecretsWorker.LockedReplay

open Foundation
open Foundation.Js
open Foundation.Machine
open SecretsWorker.Fields
open SecretsWorker.Inbox (replayWindow replayWindow_pos)
open SecretsWorker.ReplayCheck
open SecretsWorker.ReplayGuard (Fault replayKey)
open SecretsWorker.ReplayLock

/-! ### Calls -/

/-- The calls of a run, and a worker whose replay window is set: with any other
one every call fails at once. -/
structure Deployment where
  env : Env
  ttl : Int
  window : replayWindow env = .ok ttl
  isolate : Nat → Nat
  subject : Nat → JsString
  nonce : Nat → JsString

def Deployment.key (deployment : Deployment) (call : Nat) : JsString :=
  replayKey (deployment.subject call) (deployment.nonce call)

theorem Deployment.ttl_pos (deployment : Deployment) : 0 < deployment.ttl :=
  replayWindow_pos deployment.window

/-- The isolate of a call at a second. -/
def Deployment.answers (deployment : Deployment) (call now : Nat) : Answers where
  isolate := deployment.isolate call
  now := now
  random := fun _ => []

/-- The point a call has reached, with the second its claim was handled by the
lock object. -/
inductive Phase where
  | waiting
  | locking
  | answered (answer : Except HttpException Nat) (lockedAt : Nat)
  | marking (lockedAt remaining : Nat)
  | clearing (failure : HttpException)
  | succeeded (lockedAt : Nat)
  | failed (failure : HttpException)

structure System where
  storage : Storage
  phase : Nat → Phase
  clock : Nat

def start (storage : Storage) (clock : Nat) : System := ⟨storage, fun _ => .waiting, clock⟩

/-- The next step of one call, or an event at a lock object: an alarm, or the
request of `/forget`. -/
inductive Event where
  | begin (call now : Nat)
  | lock (call now : Nat) (fault : LockFault)
  | resume (call now : Nat)
  | mark (call now : Nat) (fault : Fault)
  | clear (call now : Nat) (fault : LockFault)
  | alarm (key : JsString) (now : Nat)
  | forget (key : JsString) (now : Nat)

def Event.now : Event → Nat
  | .begin _ now => now
  | .lock _ now _ => now
  | .resume _ now => now
  | .mark _ now _ => now
  | .clear _ now _ => now
  | .alarm _ now => now
  | .forget _ now => now

/-! ### Steps -/

def System.goto (system : System) (storage : Storage) (call : Nat) (phase : Phase) : System :=
  { system with storage := storage, phase := Function.update system.phase call phase }

/-- The call ends: `finally` releases its claim in the isolate. -/
def System.finish (deployment : Deployment) (system : System) (storage : Storage)
    (call : Nat) (phase : Phase) : System :=
  system.goto (releaseClaim (deployment.answers call 0) (deployment.key call) storage) call phase

def System.begin (deployment : Deployment) (system : System) (call now : Nat) : System :=
  match claimReplayKey (deployment.answers call now) deployment.ttl (deployment.key call)
      system.storage with
  | (.ok _, storage) => system.goto storage call .locking
  | (.error failure, storage) => system.goto storage call (.failed failure)

def System.lock (deployment : Deployment) (system : System) (call now : Nat) (fault : LockFault) :
    System :=
  let result := lockFetch (deployment.answers call now) (deployment.key call) fault
    (.claim (some deployment.ttl)) system.storage
  system.goto result.2 call (.answered result.1 now)

/-- The end of `checkReplayWithDurableObject`. -/
def System.resume (deployment : Deployment) (system : System) (call lockedAt : Nat) :
    Except HttpException Nat → System
  | .error failure => system.finish deployment system.storage call (.failed failure)
  | .ok status =>
      if status = 409 then system.finish deployment system.storage call (.failed replayed)
      else if 200 ≤ status ∧ status < 300 then
        system.goto system.storage call (.marking lockedAt 2)
      else system.finish deployment system.storage call (.failed lockUnavailable)

/-- One attempt at the marker; a locked database is tried again. -/
def System.mark (deployment : Deployment) (system : System) (call now lockedAt remaining : Nat)
    (fault : Fault) : System :=
  let written := put system.storage.kv now deployment.ttl (deployment.key call) (js "1") fault
  let storage := { system.storage with kv := written.2 }
  match written.1, remaining with
  | .ok _, _ => system.finish deployment storage call (.succeeded lockedAt)
  | .error .busy, remaining + 1 => system.goto storage call (.marking lockedAt remaining)
  | .error _, _ => system.goto storage call (.clearing internalError)

def System.clear (deployment : Deployment) (system : System) (call now : Nat)
    (failure : HttpException) (fault : LockFault) : System :=
  let result := lockFetch (deployment.answers call now) (deployment.key call) fault .forget
    system.storage
  system.finish deployment result.2 call (.failed failure)

def System.atLock (system : System) (key : JsString) (change : Lock → Lock) : System :=
  { system with
    storage := { system.storage with
      locks := Function.update system.storage.locks key (change (system.storage.locks key)) } }

/-- What an event does; none when its call has not reached it. -/
def effect (deployment : Deployment) (system : System) : Event → Option System
  | .begin call now =>
      match system.phase call with
      | .waiting => some (system.begin deployment call now)
      | _ => none
  | .lock call now fault =>
      match system.phase call with
      | .locking => some (system.lock deployment call now fault)
      | _ => none
  | .resume call _ =>
      match system.phase call with
      | .answered answer lockedAt => some (system.resume deployment call lockedAt answer)
      | _ => none
  | .mark call now fault =>
      match system.phase call with
      | .marking lockedAt remaining => some (system.mark deployment call now lockedAt remaining fault)
      | _ => none
  | .clear call now fault =>
      match system.phase call with
      | .clearing failure => some (system.clear deployment call now failure fault)
      | _ => none
  | .alarm key now => some (system.atLock key (Lock.alarm · now))
  | .forget key now => some (system.atLock key fun lock => (lock.fetch now .forget).2)

/-- The clock never goes back. -/
def step (deployment : Deployment) (system : System) (event : Event) : Option System :=
  if event.now < system.clock then none
  else effect deployment { system with clock := event.now } event

/-! ### Claims of a lock object -/

/-- The second the lock object granted the claim of a call. -/
def Phase.grantedAt : Phase → Option Nat
  | .answered (.ok status) lockedAt => if 200 ≤ status ∧ status < 300 then some lockedAt else none
  | .marking lockedAt _ => some lockedAt
  | .succeeded lockedAt => some lockedAt
  | _ => none

/-- Neither a request of `/forget` nor a write of a marker that fails. -/
def Event.Undisturbed : Event → Prop
  | .mark _ _ fault => fault = .none
  | .forget _ _ => False
  | _ => True

/-- The seconds a claim lasts. -/
def Deployment.lifetime (deployment : Deployment) : Int := min 86400 deployment.ttl

/-- The event is the claim of the call over a lock that is not held. -/
structure Grants (deployment : Deployment) (system next : System) (event : Event)
    (call : Nat) : Prop where
  claim : event = .lock call event.now .none
  free : (system.storage.locks (deployment.key call)).held event.now = false
  locked : next.storage.locks (deployment.key call) = some (event.now + deployment.lifetime)

/-- What an undisturbed step can do to the locks and to the claims of the calls. -/
structure Effect (deployment : Deployment) (system next : System) (event : Event) : Prop where
  clock : next.clock = system.clock
  kept : ∀ key exp, system.storage.locks key = some exp → event.now < exp →
    next.storage.locks key = some exp
  granted : ∀ call second, (next.phase call).grantedAt = some second →
    (system.phase call).grantedAt = some second ∨
      second = event.now ∧ Grants deployment system next event call
  unreleased : ∀ call failure, next.phase call ≠ .clearing failure

/-- No call is about to release its lock. -/
def Unreleased (system : System) : Prop := ∀ call failure, system.phase call ≠ .clearing failure

/-- A step of one call that leaves the locks alone and grants nothing. -/
theorem effect_quiet {deployment : Deployment} {system next : System} {event : Event}
    {call : Nat} {phase : Phase} (unreleased : Unreleased system)
    (clock : next.clock = system.clock)
    (locks : next.storage.locks = system.storage.locks)
    (phases : next.phase = Function.update system.phase call phase)
    (granted : ∀ second, phase.grantedAt = some second →
      (system.phase call).grantedAt = some second)
    (keeps : ∀ failure, phase ≠ .clearing failure) : Effect deployment system next event where
  clock := clock
  kept key exp held _ := by rw [locks, held]
  granted other second nextGranted := by
    left
    rw [phases] at nextGranted
    by_cases same : other = call
    · subst same
      rw [Function.update_self] at nextGranted
      exact granted second nextGranted
    · rwa [Function.update_of_ne same] at nextGranted
  unreleased other failure := by
    rw [phases]
    by_cases same : other = call
    · subst same
      rw [Function.update_self]
      exact keeps failure
    · rw [Function.update_of_ne same]
      exact unreleased other failure

theorem claimReplayKey_locks (answers : Answers) (ttl : Int) (key : JsString) (storage : Storage) :
    (claimReplayKey answers ttl key storage).2.locks = storage.locks := by
  unfold claimReplayKey
  dsimp only
  split <;> rfl

theorem effect_begin {deployment : Deployment} {system next : System} {call now : Nat}
    (unreleased : Unreleased system)
    (stepped : effect deployment system (.begin call now) = some next) :
    Effect deployment system next (.begin call now) := by
  cases phase : system.phase call <;>
    simp only [effect, phase, Option.some.injEq, reduceCtorEq] at stepped
  subst stepped
  have locks := claimReplayKey_locks (deployment.answers call now) deployment.ttl
    (deployment.key call) system.storage
  unfold System.begin
  cases claimed : claimReplayKey (deployment.answers call now) deployment.ttl
      (deployment.key call) system.storage with
  | mk outcome storage =>
      rw [claimed] at locks
      cases outcome with
      | ok _ =>
          exact effect_quiet unreleased rfl locks rfl (by simp [Phase.grantedAt]) (by simp)
      | error failure =>
          exact effect_quiet unreleased rfl locks rfl (by simp [Phase.grantedAt]) (by simp)

/-- A claim keeps a lock that is held. -/
theorem lockFetch_held {answers : Answers} {key : JsString} {fault : LockFault} {ttl : Option ℚ}
    {storage : Storage} {other : JsString} {exp : Int} (held : storage.locks other = some exp)
    (unexpired : answers.now < exp) :
    (lockFetch answers key fault (.claim ttl) storage).2.locks other = some exp := by
  have applied : Function.update storage.locks key
      ((storage.locks key).fetch answers.now (.claim ttl)).2 other = some exp := by
    by_cases same : other = key
    · subst same
      have refused : (storage.locks other).held answers.now = true := by
        rw [held]
        exact decide_eq_true unexpired
      rw [Function.update_self, Lock.fetch, if_pos refused]
      exact held
    · rw [Function.update_of_ne same]
      exact held
  cases fault with
  | none => exact applied
  | lost takesEffect =>
      cases takesEffect with
      | false => exact held
      | true => exact applied
  | unavailable takesEffect =>
      cases takesEffect with
      | false => exact held
      | true => exact applied

/-- A claim that is granted found the lock free, and holds it. -/
theorem lockFetch_granted {answers : Answers} {key : JsString} {fault : LockFault} {ttl : Int}
    {storage : Storage} {status : Nat} (positive : 0 < ttl)
    (granted : (lockFetch answers key fault (.claim (some ttl)) storage).1 = .ok status)
    (success : 200 ≤ status ∧ status < 300) :
    fault = .none ∧ (storage.locks key).held answers.now = false ∧
      (lockFetch answers key fault (.claim (some ttl)) storage).2.locks key =
        some (answers.now + min 86400 ttl) := by
  cases fault with
  | lost applied => simp [lockFetch] at granted
  | unavailable applied => simp [lockFetch] at granted
  | none =>
      cases held : (storage.locks key).held answers.now with
      | true =>
          simp only [lockFetch, Lock.fetch, held, if_true, Except.ok.injEq] at granted
          omega
      | false => simp [lockFetch, Lock.fetch, held, claimTtl_intCast positive]

theorem effect_lock {deployment : Deployment} {system next : System} {call now : Nat}
    {fault : LockFault} (unreleased : Unreleased system)
    (stepped : effect deployment system (.lock call now fault) = some next) :
    Effect deployment system next (.lock call now fault) := by
  cases phase : system.phase call <;>
    simp only [effect, phase, Option.some.injEq, reduceCtorEq] at stepped
  subst stepped
  refine ⟨rfl, ?_, ?_, ?_⟩
  · intro key exp held unexpired
    exact lockFetch_held held unexpired
  · intro other second granted
    by_cases same : other = call
    · subst same
      right
      simp only [System.lock, System.goto, Function.update_self] at granted
      cases answered : (lockFetch (deployment.answers other now) (deployment.key other) fault
          (.claim (some deployment.ttl)) system.storage).1 with
      | error failure => simp [answered, Phase.grantedAt] at granted
      | ok status =>
          rw [answered, Phase.grantedAt] at granted
          obtain ⟨success, sameSecond⟩ := Option.ite_none_right_eq_some.mp granted
          obtain ⟨faultless, free, locked⟩ :=
            lockFetch_granted deployment.ttl_pos answered success
          subst faultless
          exact ⟨(Option.some.inj sameSecond).symm, rfl, free, locked⟩
    · left
      simpa only [System.lock, System.goto, Function.update_of_ne same] using granted
  · intro other failure
    by_cases same : other = call
    · subst same
      simp [System.lock, System.goto]
    · simp only [System.lock, System.goto, Function.update_of_ne same]
      exact unreleased other failure

theorem effect_resume {deployment : Deployment} {system next : System} {call now : Nat}
    (unreleased : Unreleased system)
    (stepped : effect deployment system (.resume call now) = some next) :
    Effect deployment system next (.resume call now) := by
  cases phase : system.phase call <;>
    simp only [effect, phase, Option.some.injEq, reduceCtorEq] at stepped
  subst stepped
  rename_i answer lockedAt
  unfold System.resume
  split
  next failure => exact effect_quiet unreleased rfl rfl rfl (by simp [Phase.grantedAt]) (by simp)
  next status =>
    split
    · exact effect_quiet unreleased rfl rfl rfl (by simp [Phase.grantedAt]) (by simp)
    split
    next success =>
      have marked (second : Nat) (granted : (Phase.marking lockedAt 2).grantedAt = some second) :
          (system.phase call).grantedAt = some second := by
        rw [phase, Phase.grantedAt, if_pos success]
        exact granted
      exact effect_quiet unreleased rfl rfl rfl marked (by simp)
    next => exact effect_quiet unreleased rfl rfl rfl (by simp [Phase.grantedAt]) (by simp)

theorem effect_mark {deployment : Deployment} {system next : System} {call now : Nat}
    (unreleased : Unreleased system)
    (stepped : effect deployment system (.mark call now .none) = some next) :
    Effect deployment system next (.mark call now .none) := by
  cases phase : system.phase call <;>
    simp only [effect, phase, Option.some.injEq, reduceCtorEq] at stepped
  subst stepped
  rename_i lockedAt remaining
  have ended (second : Nat) (granted : (Phase.succeeded lockedAt).grantedAt = some second) :
      (system.phase call).grantedAt = some second := by
    rw [phase]
    exact granted
  exact effect_quiet unreleased rfl rfl rfl ended (by simp)

theorem effect_alarm {deployment : Deployment} {system next : System} {key : JsString} {now : Nat}
    (unreleased : Unreleased system)
    (stepped : effect deployment system (.alarm key now) = some next) :
    Effect deployment system next (.alarm key now) := by
  simp only [effect, Option.some.injEq] at stepped
  subst stepped
  refine ⟨rfl, ?_, fun _ _ granted => Or.inl granted, unreleased⟩
  intro other exp held unexpired
  simp only [System.atLock]
  by_cases same : other = key
  · subst same
    have refused : (system.storage.locks other).held now = true := by
      rw [held]
      exact decide_eq_true unexpired
    rw [Function.update_self, alarm_held refused]
    exact held
  · rw [Function.update_of_ne same]
    exact held

/-- One case per event. -/
theorem step_effect {deployment : Deployment} {system next : System} {event : Event}
    (unreleased : Unreleased system) (undisturbed : event.Undisturbed)
    (stepped : effect deployment system event = some next) :
    Effect deployment system next event := by
  cases event with
  | begin call now => exact effect_begin unreleased stepped
  | lock call now fault => exact effect_lock unreleased stepped
  | resume call now => exact effect_resume unreleased stepped
  | mark call now fault =>
      have faultless : fault = .none := undisturbed
      subst faultless
      exact effect_mark unreleased stepped
  | clear call now fault =>
      cases phase : system.phase call <;>
        simp only [effect, phase, reduceCtorEq] at stepped
      exact absurd phase (unreleased call _)
  | alarm key now => exact effect_alarm unreleased stepped
  | forget key now => exact undisturbed.elim

/-! ### Runs -/

/-- The claims granted so far lie in the past, still hold their lock unless they
have run out, and are spaced by their lifetime. -/
structure Spaced (deployment : Deployment) (system : System) : Prop where
  unreleased : Unreleased system
  past : ∀ call second, (system.phase call).grantedAt = some second → second ≤ system.clock
  locked : ∀ call second, (system.phase call).grantedAt = some second →
    system.clock < second + deployment.lifetime →
      ∃ exp, system.storage.locks (deployment.key call) = some exp ∧
        second + deployment.lifetime ≤ exp
  apart : ∀ call other second otherSecond, call ≠ other →
    deployment.key call = deployment.key other →
    (system.phase call).grantedAt = some second →
    (system.phase other).grantedAt = some otherSecond →
      second + deployment.lifetime ≤ otherSecond ∨ otherSecond + deployment.lifetime ≤ second

theorem spaced_start (deployment : Deployment) (storage : Storage) (clock : Nat) :
    Spaced deployment (start storage clock) where
  unreleased call failure := by simp [start]
  past call second granted := by simp [start, Phase.grantedAt] at granted
  locked call second granted := by simp [start, Phase.grantedAt] at granted
  apart call other second otherSecond _ _ granted := by simp [start, Phase.grantedAt] at granted

/-- The clock moves on. -/
theorem Spaced.later {deployment : Deployment} {system : System} {now : Nat}
    (spaced : Spaced deployment system) (ordered : system.clock ≤ now) :
    Spaced deployment { system with clock := now } where
  unreleased := spaced.unreleased
  past call second granted := Nat.le_trans (spaced.past call second granted) ordered
  locked call second granted unexpired := by
    apply spaced.locked call second granted
    have orderedInt : (system.clock : Int) ≤ now := by exact_mod_cast ordered
    exact Int.lt_of_le_of_lt orderedInt unexpired
  apart := spaced.apart

/-- A claim is granted when the earlier ones of its key have run out. -/
theorem Spaced.after {deployment : Deployment} {system next : System} {event : Event}
    (spaced : Spaced deployment system) {call other second : Nat}
    (now : system.clock = event.now) (grants : Grants deployment system next event call)
    (sameKey : deployment.key other = deployment.key call)
    (granted : (system.phase other).grantedAt = some second) :
    second + deployment.lifetime ≤ event.now := by
  by_contra unexpired
  obtain ⟨exp, held, long⟩ := spaced.locked other second granted (by rw [now]; omega)
  have free := grants.free
  rw [← sameKey, held] at free
  have expired : ¬(event.now : Int) < exp := by simpa [Lock.held] using free
  omega

theorem Spaced.effect {deployment : Deployment} {system next : System} {event : Event}
    (spaced : Spaced deployment system) (now : system.clock = event.now)
    (effect : Effect deployment system next event) : Spaced deployment next := by
  have clock : next.clock = event.now := effect.clock.trans now
  refine ⟨effect.unreleased, ?_, ?_, ?_⟩
  · intro call second granted
    rcases effect.granted call second granted with before | ⟨same, -⟩
    · have past := spaced.past call second before
      omega
    · omega
  · intro call second granted unexpired
    rcases effect.granted call second granted with before | ⟨same, grants⟩
    · rw [effect.clock] at unexpired
      obtain ⟨exp, held, long⟩ := spaced.locked call second before unexpired
      exact ⟨exp, effect.kept _ exp held (by omega), long⟩
    · exact ⟨_, grants.locked, by rw [same]⟩
  · intro call other second otherSecond different sameKey granted otherGranted
    rcases effect.granted call second granted with before | ⟨same, grants⟩
    · rcases effect.granted other otherSecond otherGranted with otherBefore | ⟨otherSame, otherGrants⟩
      · exact spaced.apart call other second otherSecond different sameKey before otherBefore
      · left
        rw [otherSame]
        exact spaced.after now otherGrants sameKey before
    · rcases effect.granted other otherSecond otherGranted with otherBefore | ⟨otherSame, otherGrants⟩
      · right
        rw [same]
        exact spaced.after now grants sameKey.symm otherBefore
      · have sameEvent := grants.claim.symm.trans otherGrants.claim
        injection sameEvent with sameCall
        exact absurd sameCall different

theorem step_eq_some {deployment : Deployment} {system next : System} {event : Event}
    (stepped : step deployment system event = some next) :
    system.clock ≤ event.now ∧
      effect deployment { system with clock := event.now } event = some next := by
  unfold step at stepped
  split at stepped
  · cases stepped
  · exact ⟨by omega, stepped⟩

theorem Spaced.step {deployment : Deployment} {system next : System} {event : Event}
    (spaced : Spaced deployment system) (undisturbed : event.Undisturbed)
    (stepped : step deployment system event = some next) : Spaced deployment next := by
  obtain ⟨ordered, effects⟩ := step_eq_some stepped
  have moved := spaced.later ordered
  exact moved.effect rfl (step_effect moved.unreleased undisturbed effects)

/-- In every run without `/forget` and without a failing write of a marker, the
claims of two successful calls of one key are a lifetime apart, and an alarm
leaves a claim that has not expired. -/
theorem claims_apart {deployment : Deployment} {storage : Storage} {clock : Nat}
    {events : List Event} {final : System}
    (undisturbed : ∀ event ∈ events, event.Undisturbed)
    (reached : run (step deployment) (start storage clock) events = some final) :
    (∀ call other second otherSecond, call ≠ other →
        deployment.key call = deployment.key other →
        final.phase call = .succeeded second → final.phase other = .succeeded otherSecond →
        min 86400 deployment.ttl ≤ |(second : Int) - otherSecond|) ∧
      ∀ key exp (now : Nat) next, final.storage.locks key = some exp → (now : Int) < exp →
        step deployment final (.alarm key now) = some next →
        next.storage.locks key = some exp := by
  have spaced : Spaced deployment final :=
    run_invariant (Spaced deployment) (fun holds condition stepped => holds.step condition stepped)
      (spaced_start deployment storage clock) (Meets.of_forall undisturbed _) reached
  constructor
  · intro call other second otherSecond different sameKey succeeded otherSucceeded
    have apart := spaced.apart call other second otherSecond different sameKey
      (by rw [succeeded]; rfl) (by rw [otherSucceeded]; rfl)
    rw [Deployment.lifetime] at apart
    rcases apart with before | after
    · exact Int.le_trans (by omega) (neg_le_abs _)
    · exact Int.le_trans (by omega) (le_abs_self _)
  · intro key exp now next held unexpired stepped
    have effect := effect_alarm (spaced.later (step_eq_some stepped).1).unreleased
      (step_eq_some stepped).2
    exact effect.kept key exp held unexpired

/-! ### One call alone -/

/-- The outcome of a check. -/
def Phase.outcome : Phase → Option (Except HttpException Unit)
  | .succeeded _ => some (.ok ())
  | .failed failure => some (.error failure)
  | _ => none

/-- There are events of one second that lead to the final state. -/
def RunsTo (deployment : Deployment) (now : Nat) (system final : System) : Prop :=
  ∃ events, (∀ event ∈ events, event.now = now) ∧ run (step deployment) system events = some final

theorem RunsTo.refl {deployment : Deployment} {now : Nat} (system : System) :
    RunsTo deployment now system system := ⟨[], by simp, rfl⟩

theorem RunsTo.head {deployment : Deployment} {now : Nat} {system next final : System}
    (event : Event) (sameSecond : event.now = now) (ordered : system.clock ≤ now)
    (effects : effect deployment { system with clock := now } event = some next)
    (rest : RunsTo deployment now next final) : RunsTo deployment now system final := by
  obtain ⟨events, restSecond, reached⟩ := rest
  refine ⟨event :: events, ?_, ?_⟩
  · intro other member
    rcases List.mem_cons.mp member with rfl | later
    · exact sameSecond
    · exact restSecond other later
  · have stepped : step deployment system event = some next := by
      rw [step, if_neg (by omega), sameSecond]
      exact effects
    exact run_cons_eq_some.mpr ⟨next, stepped, reached⟩

section Alone

variable {deployment : Deployment} {call : Nat} {answers : Answers}

variable (deployment) in
theorem effect_marking {lockedAt remaining : Nat} {system : System} (fault : Fault)
    (phase : system.phase call = .marking lockedAt remaining) (clock : system.clock = answers.now) :
    effect deployment { system with clock := answers.now } (.mark call answers.now fault) =
      some (system.mark deployment call answers.now lockedAt remaining fault) := by
  simp [effect, phase, ← clock]

/-- The attempts at the marker. -/
theorem mark_alone (lockedAt remaining : Nat) (system : System)
    (phase : system.phase call = .marking lockedAt remaining) (clock : system.clock = answers.now) :
    let stored := retryBusy (attemptMarker answers deployment.ttl (deployment.key call)) remaining
      system.storage.kv
    let storage := { system.storage with kv := stored.2 }
    ∃ final, RunsTo deployment answers.now system final ∧ final.clock = answers.now ∧
      ((stored.1 = .ok () ∧ final.phase call = .succeeded lockedAt ∧
          final.storage = releaseClaim (deployment.answers call 0) (deployment.key call) storage) ∨
        ∃ failure, stored.1 = .error failure ∧ final.phase call = .clearing failure ∧
          final.storage = storage) := by
  dsimp only
  induction remaining generalizing system with
  | zero =>
      have marks := effect_marking deployment (answers.marker (attemptOf 0)) phase clock
      refine ⟨_, .head _ rfl clock.le marks (.refl _), ?_⟩
      cases fault : answers.marker (attemptOf 0) with
      | none =>
          refine ⟨clock, Or.inl ⟨?_, ?_, ?_⟩⟩
          · simp [retryBusy, attemptMarker, put, fault, settle]
          · simp [System.mark, put, System.finish, System.goto]
          · simp [System.mark, System.finish, System.goto, retryBusy, attemptMarker, put, fault,
              settle]
      | busy applied =>
          refine ⟨clock, Or.inr ⟨internalError, ?_, ?_, ?_⟩⟩
          · simp [retryBusy, attemptMarker, put, fault, settle]
          · simp [System.mark, put, System.goto]
          · simp [System.mark, System.goto, retryBusy, attemptMarker, put, fault, settle]
      | broken applied =>
          refine ⟨clock, Or.inr ⟨internalError, ?_, ?_, ?_⟩⟩
          · simp [retryBusy, attemptMarker, put, fault, settle]
          · simp [System.mark, put, System.goto]
          · simp [System.mark, System.goto, retryBusy, attemptMarker, put, fault, settle]
  | succ remaining inductionHypothesis =>
      have marks := effect_marking deployment (answers.marker (attemptOf (remaining + 1))) phase clock
      cases fault : answers.marker (attemptOf (remaining + 1)) with
      | none =>
          rw [fault] at marks
          refine ⟨_, .head _ rfl clock.le marks (.refl _), clock, Or.inl ⟨?_, ?_, ?_⟩⟩
          · simp [retryBusy, attemptMarker, put, fault, settle]
          · simp [System.mark, put, System.finish, System.goto]
          · simp [System.mark, System.finish, System.goto, retryBusy, attemptMarker, put, fault,
              settle]
      | busy applied =>
          rw [fault] at marks
          have nextPhase : (system.mark deployment call answers.now lockedAt (remaining + 1)
              (.busy applied)).phase call = .marking lockedAt remaining := by
            simp [System.mark, put, System.goto]
          obtain ⟨final, runs, finalClock, ends⟩ := inductionHypothesis _ nextPhase clock
          refine ⟨final, .head _ rfl clock.le marks runs, finalClock, ?_⟩
          simpa [retryBusy, attemptMarker, put, fault, System.mark, System.goto]
            using ends
      | broken applied =>
          rw [fault] at marks
          refine ⟨_, .head _ rfl clock.le marks (.refl _), clock, Or.inr ⟨internalError, ?_, ?_, ?_⟩⟩
          · simp [retryBusy, attemptMarker, put, fault, settle]
          · simp [System.mark, put, System.goto]
          · simp [System.mark, System.goto, retryBusy, attemptMarker, put, fault, settle]

theorem RunsTo.trans {now : Nat} {system middle final : System}
    (first : RunsTo deployment now system middle) (second : RunsTo deployment now middle final) :
    RunsTo deployment now system final := by
  obtain ⟨before, beforeSecond, reachedMiddle⟩ := first
  obtain ⟨after, afterSecond, reachedFinal⟩ := second
  refine ⟨before ++ after, ?_, ?_⟩
  · intro event member
    rcases List.mem_append.mp member with early | late
    · exact beforeSecond event early
    · exact afterSecond event late
  · rw [run_append, reachedMiddle]
    exact reachedFinal

/-- The steps behind a granted claim. -/
theorem marking_alone (lockedAt : Nat) (system : System)
    (phase : system.phase call = .marking lockedAt 2) (clock : system.clock = answers.now) :
    let key := deployment.key call
    let stored := onKv (persistReplayMarker answers deployment.ttl key) system.storage
    ∃ final, RunsTo deployment answers.now system final ∧
      ((stored.1 = .ok () ∧ (final.phase call).outcome = some (.ok ()) ∧
          final.storage = releaseClaim (deployment.answers call 0) key stored.2) ∨
        ∃ failure, stored.1 = .error failure ∧
          (final.phase call).outcome = some (.error failure) ∧
          final.storage = releaseClaim (deployment.answers call 0) key
            (lockFetch answers key answers.lockClear .forget stored.2).2) := by
  obtain ⟨marked, runs, markedClock, ends⟩ :
      ∃ marked, RunsTo deployment answers.now system marked ∧ _ :=
    mark_alone lockedAt 2 system phase clock
  rcases ends with ⟨succeeded, markedPhase, storage⟩ | ⟨failure, failed, markedPhase, storage⟩
  · exact ⟨marked, runs, Or.inl ⟨succeeded, by rw [markedPhase]; rfl, storage⟩⟩
  · have clears : effect deployment { marked with clock := answers.now }
        (.clear call answers.now answers.lockClear) =
          some (marked.clear deployment call answers.now failure answers.lockClear) := by
      simp [effect, markedPhase, ← markedClock]
    refine ⟨_, runs.trans (.head _ rfl markedClock.le clears (.refl _)), Or.inr ⟨failure, failed, ?_, ?_⟩⟩
    · simp [System.clear, System.finish, System.goto, Phase.outcome]
    · simp only [System.clear, System.finish, System.goto, storage]
      rfl

/-- A granted claim and the steps behind it make up the whole check. -/
theorem granted_alone {storage : Storage} (lockedAt : Nat) (system : System)
    (phase : system.phase call = .marking lockedAt 2) (clock : system.clock = answers.now)
    (granted : checkReplayWithDurableObject answers deployment.ttl (deployment.key call) storage =
      (.ok (), system.storage)) :
    let checked := checkWithLock answers deployment.ttl (deployment.key call) storage
    ∃ final, RunsTo deployment answers.now system final ∧
      (final.phase call).outcome = some checked.1 ∧
      final.storage = releaseClaim (deployment.answers call 0) (deployment.key call) checked.2 := by
  obtain ⟨final, marks, ends⟩ :
      ∃ final, RunsTo deployment answers.now system final ∧ _ :=
    marking_alone lockedAt system phase clock
  refine ⟨final, marks, ?_⟩
  cases persisted : onKv (persistReplayMarker answers deployment.ttl (deployment.key call))
      system.storage with
  | mk stored after =>
      rw [persisted] at ends
      rcases ends with ⟨succeeded, outcome, kept⟩ | ⟨failure, failed, outcome, kept⟩
      · have checks : checkWithLock answers deployment.ttl (deployment.key call) storage =
            (.ok (), after) := by
          dsimp only at succeeded
          simp [checkWithLock, bind, granted, persisted, succeeded]
        rw [checks]
        exact ⟨outcome, kept⟩
      · have checks : checkWithLock answers deployment.ttl (deployment.key call) storage =
            (.error failure, (lockFetch answers (deployment.key call)
              answers.lockClear .forget after).2) := by
          dsimp only at failed
          simp [checkWithLock, bind, granted, persisted, failed]
        rw [checks]
        exact ⟨outcome, kept⟩

/-- The steps behind the claim in the isolate. -/
theorem locking_alone (system : System) (phase : system.phase call = .locking)
    (clock : system.clock = answers.now) :
    let checked := checkWithLock answers deployment.ttl (deployment.key call) system.storage
    ∃ final, RunsTo deployment answers.now system final ∧
      (final.phase call).outcome = some checked.1 ∧
      final.storage = releaseClaim (deployment.answers call 0) (deployment.key call) checked.2 := by
  have locks : effect deployment { system with clock := answers.now }
      (.lock call answers.now answers.lockClaim) =
        some (system.lock deployment call answers.now answers.lockClaim) := by
    simp [effect, phase, ← clock]
  let locked := system.lock deployment call answers.now answers.lockClaim
  let fetched := lockFetch answers (deployment.key call) answers.lockClaim
    (.claim (some deployment.ttl)) system.storage
  have lockedPhase : locked.phase call = .answered fetched.1 answers.now := by
    simp [locked, System.lock, System.goto, fetched]
    rfl
  have lockedStorage : locked.storage = fetched.2 := rfl
  have resumes : effect deployment { locked with clock := answers.now } (.resume call answers.now) =
      some (locked.resume deployment call answers.now fetched.1) := by
    have sameClock : locked.clock = answers.now := clock
    simp [effect, lockedPhase, ← sameClock]
  have toResumed : RunsTo deployment answers.now system
      (locked.resume deployment call answers.now fetched.1) := by
    apply RunsTo.head (.lock call answers.now answers.lockClaim) rfl clock.le locks
    exact RunsTo.head (.resume call answers.now) rfl (le_of_eq clock) resumes (.refl _)
  dsimp only
  cases answered : fetched with
  | mk answer next =>
      have claims : lockFetch answers (deployment.key call) answers.lockClaim
          (.claim (some deployment.ttl)) system.storage = (answer, next) := answered
      rw [answered] at toResumed lockedStorage
      cases answer with
      | error failure =>
          have checks : checkWithLock answers deployment.ttl (deployment.key call) system.storage =
              (.error failure, next) := by
            simp [checkWithLock, checkReplayWithDurableObject, bind, claims]
          rw [checks]
          refine ⟨_, toResumed, ?_, ?_⟩
          · simp [System.resume, System.finish, System.goto, Phase.outcome]
          · simp [System.resume, System.finish, System.goto, lockedStorage]
      | ok status =>
          by_cases conflict : status = 409
          · have checks : checkWithLock answers deployment.ttl (deployment.key call)
                system.storage = (.error replayed, next) := by
              simp [checkWithLock, checkReplayWithDurableObject, bind, claims, conflict, Stateful.fail]
            rw [checks]
            refine ⟨_, toResumed, ?_, ?_⟩
            · simp [System.resume, conflict, System.finish, System.goto, Phase.outcome]
            · simp [System.resume, conflict, System.finish, System.goto, lockedStorage]
          by_cases success : 200 ≤ status ∧ status < 300
          · have granted : checkReplayWithDurableObject answers deployment.ttl (deployment.key call)
                system.storage = (.ok (), next) := by
              simp [checkReplayWithDurableObject, bind, claims, conflict, success, pure]
            have marking : locked.resume deployment call answers.now (.ok status) =
                locked.goto next call (.marking answers.now 2) := by
              simp [System.resume, conflict, success, lockedStorage]
            rw [marking] at toResumed
            obtain ⟨final, marks, ends⟩ := granted_alone answers.now
              (locked.goto next call (.marking answers.now 2)) (by simp [System.goto]) clock granted
            exact ⟨final, toResumed.trans marks, ends⟩
          · have checks : checkWithLock answers deployment.ttl (deployment.key call)
                system.storage = (.error lockUnavailable, next) := by
              simp [checkWithLock, checkReplayWithDurableObject, bind, claims, conflict, success,
                Stateful.fail]
            rw [checks]
            refine ⟨_, toResumed, ?_, ?_⟩
            · simp [System.resume, conflict, success, System.finish, System.goto, Phase.outcome]
            · simp [System.resume, conflict, success, System.finish, System.goto, lockedStorage]

/-- Undisturbed by other calls, the steps of a call are those of one check. -/
theorem call_alone (system : System) (waiting : system.phase call = .waiting)
    (clock : system.clock ≤ answers.now) (isolate : answers.isolate = deployment.isolate call) :
    let checked := checkReplay deployment.env true
      (some (deployment.subject call, deployment.nonce call)) answers system.storage
    ∃ final, RunsTo deployment answers.now system final ∧
      (final.phase call).outcome = some checked.1 ∧ final.storage = checked.2 := by
  have sameClaim : claimReplayKey answers deployment.ttl (deployment.key call) =
      claimReplayKey (deployment.answers call answers.now) deployment.ttl (deployment.key call) := by
    unfold claimReplayKey
    rw [isolate]
    rfl
  have sameRelease (storage : Storage) : releaseClaim answers (deployment.key call) storage =
      releaseClaim (deployment.answers call 0) (deployment.key call) storage := by
    unfold releaseClaim
    rw [isolate]
    rfl
  have begins : effect deployment { system with clock := answers.now } (.begin call answers.now) =
      some (System.begin deployment { system with clock := answers.now } call answers.now) := by
    simp [effect, waiting]
  have whole : checkReplay deployment.env true
      (some (deployment.subject call, deployment.nonce call)) answers system.storage =
        (claimReplayKey answers deployment.ttl (deployment.key call) >>= fun _ storage =>
          let result := checkWithLock answers deployment.ttl (deployment.key call) storage
          (result.1, releaseClaim answers (deployment.key call) result.2)) system.storage := by
    simp [checkReplay, bind, Stateful.lift, deployment.window, orTypeError, Deployment.key,
      claimStored]
  dsimp only
  rw [whole]
  cases claimed : claimReplayKey answers deployment.ttl (deployment.key call) system.storage with
  | mk outcome storage =>
      have claims := claimed
      rw [sameClaim] at claims
      cases outcome with
      | error failure =>
          have begun : System.begin deployment { system with clock := answers.now } call answers.now =
              System.goto { system with clock := answers.now } storage call (.failed failure) := by
            simp [System.begin, claims]
          rw [begun] at begins
          refine ⟨_, .head (.begin call answers.now) rfl clock begins (.refl _), ?_, ?_⟩
          · simp [System.goto, Phase.outcome, bind, claimed]
          · simp [System.goto, bind, claimed]
      | ok _ =>
          have begun : System.begin deployment { system with clock := answers.now } call answers.now =
              System.goto { system with clock := answers.now } storage call .locking := by
            simp [System.begin, claims]
          rw [begun] at begins
          let locking := System.goto { system with clock := answers.now } storage call .locking
          have lockingPhase : locking.phase call = .locking := by simp [locking, System.goto]
          obtain ⟨final, rest, outcome, released⟩ :
              ∃ final, RunsTo deployment answers.now locking final ∧ _ :=
            locking_alone locking lockingPhase rfl
          refine ⟨final, .head (.begin call answers.now) rfl clock begins rest, ?_, ?_⟩
          · simpa [bind, claimed, locking, System.goto] using outcome
          · simpa [bind, claimed, locking, System.goto, sameRelease] using released

end Alone

/-! ### Two calls with an alarm in between -/

/-- Calls for one subject and nonce, each in an isolate of its own. -/
def isolatedCalls : Deployment where
  env := {}
  ttl := 600
  window := by decide
  isolate := id
  subject := fun _ => js "s"
  nonce := fun _ => js "n"

/-- The steps of a call at one second. -/
def wholeCall (call now : Nat) : List Event :=
  [.begin call now, .lock call now .none, .resume call now, .mark call now .none]

def emptyStorage : Storage := ⟨.empty, fun _ => none, fun _ => .empty⟩

def spacedRun : List Event :=
  wholeCall 0 1000 ++
    [.begin 1 1599, .lock 1 1599 .none, .resume 1 1599, .alarm (js "replay:s:n") 1601] ++
      wholeCall 2 1601

/-- Two isolates succeed a lifetime apart, and one in between does not. -/
theorem spacedRun_apart :
    ∃ final, run (step isolatedCalls) (start emptyStorage 0) spacedRun = some final ∧
      final.phase 0 = .succeeded 1000 ∧ final.phase 1 = .failed replayed ∧
      final.phase 2 = .succeeded 1601 ∧ min 86400 600 ≤ |(1000 : Int) - (1601 : Nat)| := by
  refine ⟨_, rfl, rfl, rfl, rfl, ?_⟩
  have undisturbed : ∀ event ∈ spacedRun, event.Undisturbed := by
    simp [spacedRun, wholeCall, Event.Undisturbed]
  have apart := (@claims_apart isolatedCalls emptyStorage 0 spacedRun _ undisturbed rfl).1
  exact apart 0 2 1000 1601 (by decide) rfl rfl rfl

end DarkmeshGateway.SecretsWorker.LockedReplay
