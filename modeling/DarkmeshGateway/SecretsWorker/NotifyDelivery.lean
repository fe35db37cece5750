import DarkmeshGateway.Foundation.Js.Double
import DarkmeshGateway.SecretsWorker.NotifyBreaker

/-!
Contract: the delivery of a notification, `sendWithRetry` of `POST /notify`.

Owns the loop that repeats a send, what it does with responses, aborts and other
exceptions, and when the breaker counts a delivery that failed.

Does not own the send function, whose calls meet a list of outcomes, or the
breaker. The clock is that of the end of a delivery: nothing reads it before.
-/

namespace DarkmeshGateway.SecretsWorker.NotifyDelivery

open Foundation
open Foundation.Js
open SecretsWorker.Fields (HttpException envNumber)
open SecretsWorker.Inbox (expirationTtl)
open SecretsWorker.NotifyBreaker

/-! ### Configuration -/

structure RetryEnv where
  notifyRetryMax : Option JsString := none
  breaker : BreakerEnv := {}

def maxRetry (env : RetryEnv) : Double := Double.ofParsed (envNumber [env.notifyRetryMax] "3")

/-- `Math.max(1, maxRetry)`. -/
def maxAttempts (env : RetryEnv) : Double := Double.max (.finite 1) (maxRetry env)

def retriesLeft (env : RetryEnv) (attempt : Nat) : Bool :=
  (Double.finite attempt).lt (maxRetry env)

def attemptsLeft (env : RetryEnv) (attempt : Nat) : Bool :=
  (Double.finite attempt).lt (maxAttempts env)

/-! ### The loop -/

/-- What a call of the send function meets; an exception has a name, or none. -/
inductive SendOutcome where
  | response (status : Nat)
  | exception (name : Option JsString)

/-- The response behind `catch`: an abort is a response with status 599. -/
def SendOutcome.caught : SendOutcome → Except (Option JsString) Nat
  | .response status => .ok status
  | .exception name => if name = some (js "AbortError") then .ok 599 else .error name

/-- `resp.ok`. -/
def isOk (status : Nat) : Bool := 200 ≤ status && status ≤ 299

inductive Ending where
  | returned (status : Nat)
  | failed (exception : HttpException)
  | threw (name : Option JsString)
deriving DecidableEq

structure Delivery where
  /-- How often the send function was called. -/
  sends : Nat
  /-- None while a call has met nothing yet. -/
  ending : Option Ending
  kv : Kv

/-- A delivery with one more call in front. -/
def Delivery.afterSend (delivery : Delivery) : Delivery :=
  { delivery with sends := delivery.sends + 1 }

def deliveryFailed (label : String) : Ending := .failed ⟨502, label ++ "_failed"⟩

def sendLoop (env : RetryEnv) (kv : Kv) (now : Nat) (key : JsString) (label : String) :
    Nat → List SendOutcome → Delivery
  | attempt, [] =>
      if attemptsLeft env attempt then ⟨1, none, kv⟩ else ⟨0, some (deliveryFailed label), kv⟩
  | attempt, outcome :: later =>
      if attemptsLeft env attempt then
        match outcome.caught with
        | .error name => ⟨1, some (.threw name), kv⟩
        | .ok status =>
            if isOk status then ⟨1, some (.returned status), kv⟩
            else if retriesLeft env (attempt + 1) then
              (sendLoop env kv now key label (attempt + 1) later).afterSend
            else ⟨1, some (deliveryFailed label), breakerNote env.breaker kv now key false⟩
      else ⟨0, some (deliveryFailed label), kv⟩

def sendWithRetry (env : RetryEnv) (kv : Kv) (now : Nat) (key : JsString) (label : String)
    (outcomes : List SendOutcome) : Delivery :=
  sendLoop env kv now key label 0 outcomes

/-! ### Accounting -/

/-- The count of a key is one more than it would be now without the delivery. -/
def Counted (kv : Kv) (now : Nat) (key : JsString) (delivery : Delivery) : Prop :=
  (breakerState delivery.kv now key).count = (breakerState kv now key).count + 1

structure Accounted (env : RetryEnv) (kv : Kv) (now : Nat) (key : JsString)
    (delivery : Delivery) : Prop where
  sent : 1 ≤ delivery.sends
  bounded : (Double.finite delivery.sends).le (maxAttempts env) = true
  successful : ∀ status, delivery.ending = some (.returned status) → isOk status = true
  counted : ∀ ending, delivery.ending = some ending → (∀ status, ending ≠ .returned status) →
    Counted kv now key delivery

/-- The outcome is a response that is not a success, or an abort. -/
def SendOutcome.refused (outcome : SendOutcome) : Bool :=
  match outcome.caught with
  | .ok status => !isOk status
  | .error _ => false

/-- A note that is stored now can be read now. -/
def noteLives (env : BreakerEnv) (now : Nat) : Bool :=
  (Expiring.mk () (expirationTtl now ((breakerCooldown env).map (· * 2)))).alive now

/-- From an attempt on, no send within the limit throws anything but an abort
before the first success, and when all of them are refused the note outlives its
storing. -/
structure OrderlyFrom (env : RetryEnv) (now attempt : Nat) (outcomes : List SendOutcome) :
    Prop where
  caught : ∀ before name after, outcomes = before ++ .exception name :: after →
    (∀ outcome ∈ before, outcome.refused = true) →
      attemptsLeft env (attempt + before.length) = true → name = some (js "AbortError")
  kept : ∀ before after, outcomes = before ++ after →
    (∀ outcome ∈ before, outcome.refused = true) →
      attemptsLeft env (attempt + before.length) = false → noteLives env.breaker now = true

/-- The limit is a number, and the delivery is orderly from its first send on. -/
structure Orderly (env : RetryEnv) (now : Nat) (outcomes : List SendOutcome) : Prop where
  configured : maxRetry env ≠ .nan
  orderly : OrderlyFrom env now 0 outcomes

/-! ### Limits -/

variable {env : RetryEnv} {kv : Kv} {now : Nat} {key : JsString} {label : String}

theorem attemptsLeft_iff (env : RetryEnv) (attempt : Nat) :
    attemptsLeft env attempt = true ↔
      maxRetry env ≠ .nan ∧ (attempt = 0 ∨ retriesLeft env attempt = true) := by
  have first : (attempt : ℚ) < 1 ↔ attempt = 0 := by
    rw [← Nat.cast_one, Nat.cast_lt]
    omega
  unfold attemptsLeft retriesLeft maxAttempts Double.max
  cases maxRetry env with
  | nan => simp [Double.lt]
  | infinity negative => cases negative <;> simp [Double.lt]
  | finite value =>
      by_cases more : 1 < value
      · have zero : attempt = 0 → (attempt : ℚ) < value := fun start =>
          (first.mpr start).trans more
        simp [Double.lt, more]
        exact zero
      · have within : (attempt : ℚ) < value → attempt = 0 := fun left =>
          first.mp (left.trans_le (not_lt.mp more))
        simp [Double.lt, more]
        exact within

/-- The limit is `NaN`, an infinity or a whole number. -/
theorem maxRetry_cases (env : RetryEnv) :
    maxRetry env = .nan ∨ (∃ negative, maxRetry env = .infinity negative) ∨
      ∃ max : Int, maxRetry env = .finite max := by
  unfold maxRetry Double.ofParsed
  split
  next => exact Or.inl rfl
  next value parsed =>
    split
    next => exact Or.inr (Or.inr ⟨value, rfl⟩)
    next => exact Or.inr (Or.inl ⟨_, rfl⟩)

theorem attemptsLeft_of_succ {attempt : Nat} (left : attemptsLeft env (attempt + 1) = true) :
    attemptsLeft env attempt = true := by
  obtain ⟨number, more⟩ := (attemptsLeft_iff env (attempt + 1)).mp left
  have retries : retriesLeft env (attempt + 1) = true := by simpa using more
  have fewer : retriesLeft env attempt = true := by
    unfold retriesLeft at retries ⊢
    cases limit : maxRetry env with
    | nan => exact absurd limit number
    | infinity negative => cases negative <;> simp_all [Double.lt]
    | finite max =>
        have below : ((attempt + 1 : Nat) : ℚ) < max := by simpa [limit, Double.lt] using retries
        have step : (attempt : ℚ) < (attempt + 1 : Nat) := by exact_mod_cast Nat.lt_succ_self attempt
        simpa [Double.lt] using step.trans below
  exact (attemptsLeft_iff env attempt).mpr ⟨number, Or.inr fewer⟩

/-- The next send is within the limit, which is a whole number. -/
theorem le_maxAttempts {attempt : Nat} (left : attemptsLeft env attempt = true) :
    (Double.finite (attempt + 1 : Nat)).le (maxAttempts env) = true := by
  unfold attemptsLeft maxAttempts Double.max at left
  unfold maxAttempts Double.max
  rcases maxRetry_cases env with nan | ⟨negative, infinite⟩ | ⟨max, whole⟩
  · simp [nan, Double.lt] at left
  · cases negative <;> simp_all [Double.lt, Double.le]
  · rw [whole] at left ⊢
    by_cases more : (1 : ℚ) < max
    · have below : (attempt : ℚ) < (max : ℚ) := by simpa [Double.lt, more] using left
      have next : attempt + 1 ≤ max := by exact_mod_cast below
      have bound : ((attempt + 1 : Nat) : ℚ) ≤ max := by exact_mod_cast next
      simpa [Double.lt, Double.le, more] using bound
    · have first : attempt = 0 := by
        have below : (attempt : ℚ) < 1 := by simpa [Double.lt, more] using left
        have one : attempt < 1 := by exact_mod_cast below
        omega
      simp [Double.lt, Double.le, more, first]

/-! ### Sends -/

/-- A delivery that begins makes at least one send and stays within the limit. -/
theorem sends_bounded (env : RetryEnv) (kv : Kv) (now : Nat) (key : JsString) (label : String)
    (outcomes : List SendOutcome) {attempt : Nat}
    (left : attemptsLeft env attempt = true) :
    let delivery := sendLoop env kv now key label attempt outcomes
    1 ≤ delivery.sends ∧
      (Double.finite (attempt + delivery.sends : Nat)).le (maxAttempts env) = true := by
  induction outcomes generalizing attempt with
  | nil =>
      simp only [sendLoop, left, if_true]
      exact ⟨Nat.le_refl 1, le_maxAttempts left⟩
  | cons outcome later inductionHypothesis =>
      have single := le_maxAttempts left
      simp only [sendLoop, left, if_true]
      split
      next => exact ⟨Nat.le_refl 1, single⟩
      next =>
        split
        next => exact ⟨Nat.le_refl 1, single⟩
        next =>
          split
          next retries =>
            have more := (attemptsLeft_iff env (attempt + 1)).mpr
              ⟨((attemptsLeft_iff env attempt).mp left).1, Or.inr retries⟩
            obtain ⟨-, bounded⟩ := inductionHypothesis more
            rw [Nat.add_right_comm, Nat.add_assoc] at bounded
            exact ⟨Nat.le_add_left 1 _, bounded⟩
          next => exact ⟨Nat.le_refl 1, single⟩

theorem returned_ok (outcomes : List SendOutcome) {attempt status : Nat}
    (returned : (sendLoop env kv now key label attempt outcomes).ending =
      some (.returned status)) : isOk status = true := by
  induction outcomes generalizing attempt with
  | nil =>
      unfold sendLoop at returned
      split at returned <;> cases returned
  | cons outcome later inductionHypothesis =>
      unfold sendLoop at returned
      split at returned
      next left =>
        split at returned
        next => cases returned
        next response caught =>
          split at returned
          next ok =>
            cases returned
            exact ok
          next =>
            split at returned
            next => exact inductionHypothesis returned
            next => cases returned
      next => cases returned

/-! ### Failures -/

/-- A failure that is noted is counted if and only if the note outlives its storing. -/
theorem count_breakerNote (env : BreakerEnv) (kv : Kv) (now : Nat) (key : JsString) :
    (breakerState (breakerNote env kv now key false) now key).count =
      (breakerState kv now key).count + 1 ↔ noteLives env now = true := by
  have alive (state : BreakerState) :
      (Expiring.mk state (expirationTtl now ((breakerCooldown env).map (· * 2)))).alive now =
        noteLives env now := rfl
  have stored (state : BreakerState) :
      breakerState (saveState env kv now key state) now key =
        if noteLives env now then state else ⟨0, 0⟩ := by
    rw [breakerState, saveState, ExpiringStore.get_put_self, alive]
    split <;> rfl
  simp only [breakerNote, Bool.false_eq_true, if_false, stored]
  by_cases lives : noteLives env now = true
  · simp [lives]
  · simp [lives]

theorem attemptsLeft_of_add {attempt more : Nat}
    (left : attemptsLeft env (attempt + more) = true) : attemptsLeft env attempt = true := by
  induction more with
  | zero => exact left
  | succ more inductionHypothesis => exact inductionHypothesis (attemptsLeft_of_succ left)

theorem orderlyFrom_of_spent {attempt : Nat} (outcomes : List SendOutcome)
    (spent : attemptsLeft env attempt = false) :
    OrderlyFrom env now attempt outcomes ↔ noteLives env.breaker now = true := by
  constructor
  · intro orderly
    exact orderly.kept [] outcomes rfl (by simp) spent
  · intro lives
    refine ⟨?_, fun _ _ _ _ _ => lives⟩
    intro before name after split refused left
    have earlier := attemptsLeft_of_add left
    rw [spent] at earlier
    cases earlier

theorem orderlyFrom_nil {attempt : Nat} (left : attemptsLeft env attempt = true) :
    OrderlyFrom env now attempt [] := by
  constructor
  · intro before name after split
    simp at split
  · intro before after split refused spent
    obtain ⟨rfl, -⟩ := List.append_eq_nil_iff.mp split.symm
    rw [List.length_nil, Nat.add_zero, left] at spent
    cases spent

/-- A refused send is orderly when the rest of the delivery is. -/
theorem orderlyFrom_refused {attempt : Nat} {outcome : SendOutcome} {later : List SendOutcome}
    (left : attemptsLeft env attempt = true) (refused : outcome.refused = true) :
    OrderlyFrom env now attempt (outcome :: later) ↔ OrderlyFrom env now (attempt + 1) later := by
  have shift (before : List SendOutcome) :
      attempt + (outcome :: before).length = attempt + 1 + before.length := by
    rw [List.length_cons]
    omega
  constructor
  · intro orderly
    constructor
    · intro before name after split all within
      refine orderly.caught (outcome :: before) name after (by rw [split]; rfl) ?_ ?_
      · exact List.forall_mem_cons.mpr ⟨refused, all⟩
      · rw [shift]
        exact within
    · intro before after split all spent
      refine orderly.kept (outcome :: before) after (by rw [split]; rfl) ?_ ?_
      · exact List.forall_mem_cons.mpr ⟨refused, all⟩
      · rw [shift]
        exact spent
  · intro orderly
    constructor
    · intro before name after split all within
      cases before with
      | nil =>
          have thrown : outcome = .exception name := (List.cons.inj split).1
          by_contra other
          simp [SendOutcome.refused, SendOutcome.caught, thrown, other] at refused
      | cons head before =>
          obtain ⟨rfl, rest⟩ := List.cons.inj split
          rw [shift] at within
          exact orderly.caught before name after rest (List.forall_mem_cons.mp all).2 within
    · intro before after split all spent
      cases before with
      | nil =>
          rw [List.length_nil, Nat.add_zero, left] at spent
          cases spent
      | cons head before =>
          obtain ⟨rfl, rest⟩ := List.cons.inj split
          rw [shift] at spent
          exact orderly.kept before after rest (List.forall_mem_cons.mp all).2 spent

/-- A send that is not refused is orderly unless it throws anything but an abort. -/
theorem orderlyFrom_settled {attempt : Nat} {outcome : SendOutcome} {later : List SendOutcome}
    (left : attemptsLeft env attempt = true) (settled : outcome.refused = false) :
    OrderlyFrom env now attempt (outcome :: later) ↔
      ∀ name, outcome = .exception name → name = some (js "AbortError") := by
  have first {before after : List SendOutcome} (split : outcome :: later = before ++ after)
      (all : ∀ outcome ∈ before, outcome.refused = true) : before = [] := by
    cases before with
    | nil => rfl
    | cons head before =>
        have refused := (List.forall_mem_cons.mp all).1
        rw [← (List.cons.inj split).1, settled] at refused
        cases refused
  constructor
  · intro orderly name thrown
    exact orderly.caught [] name later (by rw [thrown]; rfl) (by simp) left
  · intro aborts
    constructor
    · intro before name after split all within
      obtain rfl := first split all
      exact aborts name (List.cons.inj split).1
    · intro before after split all spent
      obtain rfl := first split all
      rw [List.length_nil, Nat.add_zero, left] at spent
      cases spent

theorem caught_eq_ok {outcome : SendOutcome} {status : Nat} (caught : outcome.caught = .ok status)
    (name : Option JsString) (thrown : outcome = .exception name) :
    name = some (js "AbortError") := by
  rw [thrown, SendOutcome.caught] at caught
  exact Classical.byContradiction fun other => by simp [other] at caught

theorem caught_eq_error {outcome : SendOutcome} {name : Option JsString}
    (caught : outcome.caught = .error name) :
    outcome = .exception name ∧ name ≠ some (js "AbortError") := by
  cases outcome with
  | response status => simp [SendOutcome.caught] at caught
  | exception other =>
      by_cases abort : other = some (js "AbortError")
      · simp [SendOutcome.caught, abort] at caught
      · have same : other = name := by simpa [SendOutcome.caught, abort] using caught
        rw [← same]
        exact ⟨rfl, abort⟩

/-- What a failure needs to be counted, for a delivery in any of its attempts. -/
theorem counted_iff (env : RetryEnv) (kv : Kv) (now : Nat) (key : JsString) (label : String)
    (number : maxRetry env ≠ .nan) (outcomes : List SendOutcome) {attempt : Nat}
    (left : attemptsLeft env attempt = true) :
    (∀ ending, (sendLoop env kv now key label attempt outcomes).ending = some ending →
        (∀ status, ending ≠ .returned status) →
          Counted kv now key (sendLoop env kv now key label attempt outcomes)) ↔
      OrderlyFrom env now attempt outcomes := by
  induction outcomes generalizing attempt with
  | nil => simp [sendLoop, left, orderlyFrom_nil left]
  | cons outcome later inductionHypothesis =>
      cases caught : outcome.caught with
      | error name =>
          have settled : outcome.refused = false := by simp [SendOutcome.refused, caught]
          obtain ⟨thrown, notAbort⟩ := caught_eq_error caught
          rw [orderlyFrom_settled left settled]
          simp only [sendLoop, left, if_true, caught, Counted]
          simp [thrown, notAbort]
      | ok status =>
          by_cases ok : isOk status = true
          · have settled : outcome.refused = false := by simp [SendOutcome.refused, caught, ok]
            rw [orderlyFrom_settled left settled]
            simp only [sendLoop, left, if_true, caught, ok, Option.some.injEq, forall_eq']
            constructor
            · exact fun _ => caught_eq_ok caught
            · exact fun _ failed => absurd rfl (failed status)
          · have refused : outcome.refused = true := by simp [SendOutcome.refused, caught, ok]
            rw [orderlyFrom_refused left refused]
            by_cases retries : retriesLeft env (attempt + 1) = true
            · have more := (attemptsLeft_iff env (attempt + 1)).mpr ⟨number, Or.inr retries⟩
              rw [← inductionHypothesis more]
              simp only [sendLoop, left, if_true, caught, ok, retries, Bool.false_eq_true, if_false]
              rfl
            · have spent : attemptsLeft env (attempt + 1) = false := by
                rw [← Bool.not_eq_true, attemptsLeft_iff]
                simp [retries]
              rw [orderlyFrom_of_spent later spent, ← count_breakerNote env.breaker kv now key]
              simp only [sendLoop, left, if_true, caught, ok, retries, Bool.false_eq_true,
                if_false, Counted, deliveryFailed]
              simp

/-- A delivery is accounted for if and only if it is orderly. -/
theorem accounted_iff_orderly (env : RetryEnv) (kv : Kv) (now : Nat) (key : JsString)
    (label : String) (outcomes : List SendOutcome) :
    Accounted env kv now key (sendWithRetry env kv now key label outcomes) ↔
      Orderly env now outcomes := by
  by_cases number : maxRetry env = .nan
  · have spent : attemptsLeft env 0 = false := by
      rw [← Bool.not_eq_true, attemptsLeft_iff]
      simp [number]
    have unsent : (sendWithRetry env kv now key label outcomes).sends = 0 := by
      cases outcomes <;> simp [sendWithRetry, sendLoop, spent]
    constructor
    · intro accounted
      have sent := accounted.sent
      rw [unsent] at sent
      exact absurd sent (by decide)
    · intro orderly
      exact absurd number orderly.configured
  · have left := (attemptsLeft_iff env 0).mpr ⟨number, Or.inl rfl⟩
    obtain ⟨sent, bounded⟩ := sends_bounded env kv now key label outcomes left
    rw [Nat.zero_add] at bounded
    have counted := counted_iff env kv now key label number outcomes left
    constructor
    · intro accounted
      exact ⟨number, counted.mp accounted.counted⟩
    · intro orderly
      exact ⟨sent, bounded, fun status => returned_ok outcomes, counted.mpr orderly.orderly⟩

/-! ### Deliveries of the breaker -/

/-- Only a delivery that is given up is noted before its end. -/
def Ending.isFailed : Ending → Bool
  | .failed _ => true
  | _ => false

theorem sendLoop_kv (env : RetryEnv) (kv : Kv) (now : Nat) (key : JsString) (label : String)
    (number : maxRetry env ≠ .nan) (outcomes : List SendOutcome) {attempt : Nat}
    (left : attemptsLeft env attempt = true) :
    (sendLoop env kv now key label attempt outcomes).kv =
      if (sendLoop env kv now key label attempt outcomes).ending.any Ending.isFailed then
        breakerNote env.breaker kv now key false
      else kv := by
  induction outcomes generalizing attempt with
  | nil => simp [sendLoop, left]
  | cons outcome later inductionHypothesis =>
      cases caught : outcome.caught with
      | error name => simp [sendLoop, left, caught, Ending.isFailed]
      | ok status =>
          by_cases ok : isOk status = true
          · simp [sendLoop, left, caught, ok, Ending.isFailed]
          · by_cases retries : retriesLeft env (attempt + 1) = true
            · have more := (attemptsLeft_iff env (attempt + 1)).mpr ⟨number, Or.inr retries⟩
              simpa only [sendLoop, left, if_true, caught, ok, retries, Bool.false_eq_true,
                if_false, Delivery.afterSend] using inductionHypothesis more
            · simp [sendLoop, left, caught, ok, retries, Ending.isFailed, deliveryFailed]

/-- The event the breaker sees; the request notes a success behind the delivery. -/
def Ending.event (now index : Nat) : Ending → Event
  | .returned _ => .outcome now index true
  | .failed _ => .outcome now index false
  | .threw _ => .abandoned now index

def Delivery.noted (env : RetryEnv) (now : Nat) (key : JsString) (delivery : Delivery) : Kv :=
  match delivery.ending with
  | some (.returned _) => breakerNote env.breaker delivery.kv now key true
  | _ => delivery.kv

/-- A delivery that ends is a step of the breaker. -/
theorem step_ending (number : maxRetry env ≠ .nan) {system : System} {index : Nat}
    {outcomes : List SendOutcome} {ending : Ending} (current : system.clock ≤ now)
    (held : system.deliveries[index]? = some key)
    (ended : (sendWithRetry env system.kv now key label outcomes).ending = some ending) :
    step env.breaker system (ending.event now index) =
      some {
        kv := (sendWithRetry env system.kv now key label outcomes).noted env now key
        clock := now
        deliveries := system.deliveries.eraseIdx index } := by
  have left := (attemptsLeft_iff env 0).mpr ⟨number, Or.inl rfl⟩
  have stored := sendLoop_kv env system.kv now key label number outcomes left
  have late : ¬(ending.event now index).now < system.clock := by
    cases ending <;> exact not_lt.mpr current
  rw [sendWithRetry] at ended ⊢
  rw [ended] at stored
  rw [step, if_neg late, Delivery.noted, ended, stored]
  cases ending with
  | returned status => simp [Ending.event, Event.now, System.outcome, held, Ending.isFailed]
  | failed exception => simp [Ending.event, Event.now, System.outcome, held, Ending.isFailed]
  | threw name => simp [Ending.event, Event.now, Ending.isFailed]

/-- A connection that fails ends the delivery, and the breaker counts nothing. -/
theorem network_error_uncounted :
    ¬Accounted {} .empty 1000 (js "webhook")
      (sendWithRetry {} .empty 1000 (js "webhook") "notify_webhook"
        [.exception (some (js "TypeError"))]) := by
  intro accounted
  have counted := accounted.counted (.threw (some (js "TypeError"))) (by decide +kernel)
    (fun status => by simp)
  revert counted
  unfold Counted
  decide +kernel

end DarkmeshGateway.SecretsWorker.NotifyDelivery
