import DarkmeshGateway.Foundation.Js.Double

/-!
Contract: the bounded mail queue and one delivery from it.

Owns the queue with its capacity, the retry schedule, and a delivery as the two
blocks in front of and behind its send.

Does not own the transport, which settles the promise of a send, or the time
zone rules and formats behind `Date`, which are parameters.
-/

namespace DarkmeshGateway.Gateway.Mailing

open Foundation.Js

/-! ### Numbers -/

/-- `Math.floor`. -/
def floor : Double → Double
  | .finite value => .finite value.floor
  | value => value

/-- `Math.max(1, value)`. -/
def atLeastOne (value : Double) : Double := if value.lt (.finite 1) then .finite 1 else value

/-- `Math.min(left, right)`. -/
def least (left right : Double) : Double :=
  if left = .nan ∨ right = .nan then .nan else if right.lt left then right else left

/-- `value * 2 ** exponent`, of integers from zero on. -/
def scaleTwo (value exponent : Double) : Double :=
  match value, exponent with
  | .finite number, .finite power =>
      if power < 1024 then .ofRat (number * 2 ^ power.floor.toNat)
      else if number = 0 then .nan
      else .infinity false
  | _, _ => .nan

/-! ### Dates -/

/-- `Date.parse` in milliseconds, where `none` is `NaN`, and `toISOString` of a
time that is in range. -/
structure Dates where
  parse : JsString → Option Int
  toISOString : Int → JsString

/-- `new Date(value)`, cut off to milliseconds; `none` is an invalid date. -/
def timeClip : Double → Option Int
  | .finite value =>
      if |value| ≤ 8640000000000000 then
        some (if 0 ≤ value then value.floor else -(-value).floor)
      else none
  | _ => none

/-- `none` is the `RangeError` of `toISOString`. -/
def addMilliseconds (dates : Dates) (isoTimestamp : JsString) (delayMs : Double) :
    Option JsString :=
  match dates.parse isoTimestamp with
  | none => some isoTimestamp
  | some timestamp =>
      (timeClip (Double.add (.finite timestamp) delayMs)).map dates.toISOString

/-! ### Retries -/

def defaultRetryBackoffMs : Double := .finite 100

def maxRetryBackoffMs : Double := .finite 5000

def getMailRetryDelayMs (retryBackoffMs attempt maximum : Double) : Double :=
  if retryBackoffMs.isFinite = false ∨ retryBackoffMs.le (.finite 0) then .finite 0
  else if attempt.isFinite = false ∨ attempt.lt (.finite 1) then .finite 0
  else
    let cappedBackoffMs :=
      if maximum.isFinite ∧ (Double.finite 0).lt maximum then floor maximum else maxRetryBackoffMs
    least (scaleTwo (floor retryBackoffMs) (attempt.add (.finite (-1)))) cappedBackoffMs

structure MailRetrySchedule where
  attempt : Double
  delayMs : Double
  nextAttemptAt : JsString

def getMailRetrySchedule (dates : Dates) (retryBackoffMs : Option Double) (attempt : Double)
    (scheduledAt : JsString) (maximum : Option Double) : Option MailRetrySchedule :=
  let delayMs := getMailRetryDelayMs (retryBackoffMs.getD defaultRetryBackoffMs) attempt
    (maximum.getD maxRetryBackoffMs)
  (addMilliseconds dates scheduledAt delayMs).map fun nextAttemptAt =>
    ⟨attempt, delayMs, nextAttemptAt⟩

/-! ### The queue -/

/-- `to` are the recipients. The serial is a mark of the observer, which the code
copies along with the other properties. -/
structure MailRequest where
  serial : Nat
  recipients : List JsString
  subject : JsString
  body : JsString
  requestId : Option JsString
  attempts : Option Double
  nextAttemptAt : Option JsString

structure MailQueueItem extends MailRequest where
  queuedAt : JsString

structure MailQueue where
  maxItems : Nat
  items : List MailQueueItem

/-- A capacity that is not finite or below one is one. -/
def normalizeQueueCap : Double → Nat
  | .finite maxItems => if maxItems < 1 then 1 else maxItems.floor.toNat
  | _ => 1

def createMailQueue (maxItems : Double) : MailQueue := ⟨normalizeQueueCap maxItems, []⟩

/-- What is shifted out in front until at most so many are left, and these. -/
def shiftExcess {α : Type} (maxItems : Nat) : List α → List α × List α
  | [] => ([], [])
  | first :: rest =>
      if maxItems < rest.length + 1 then
        let (shifted, kept) := shiftExcess maxItems rest
        (first :: shifted, kept)
      else ([], first :: rest)

/-- The queued item, the items shifted out for it, and the queue. -/
structure Enqueued where
  item : MailQueueItem
  shifted : List MailQueueItem
  queue : MailQueue

def enqueueMail (queue : MailQueue) (request : MailRequest) (queuedAt : JsString) : Enqueued :=
  let item : MailQueueItem := { request with queuedAt := queuedAt }
  let (shifted, kept) := shiftExcess queue.maxItems (queue.items ++ [item])
  ⟨item, shifted, { queue with items := kept }⟩

def dequeueMail (queue : MailQueue) : Option (MailQueueItem × MailQueue) :=
  match queue.items with
  | [] => none
  | item :: rest => some (item, { queue with items := rest })

/-! ### Deliveries -/

inductive MailDeliveryOutcome where
  | success
  | retry
  | failPermanent
deriving DecidableEq, Repr

structure MailTransportResult where
  ok : Bool
  status : Int
  outcome : MailDeliveryOutcome
  error : Option JsString

/-- How the promise of a send settles. -/
inductive Settled where
  | resolved (result : MailTransportResult)
  | rejected

structure MailDeliveryOptions where
  retryBackoffMs : Option Double := none
  maxRetryBackoffMs : Option Double := none
  scheduledAt : Option JsString := none

inductive MailDeliveryAction where
  | delivered (item : MailQueueItem) (result : MailTransportResult)
      (queueSizeBefore queueSizeAfter : Nat)
  | requeued (item requeuedItem : MailQueueItem) (result : MailTransportResult)
      (retrySchedule : MailRetrySchedule) (queueSizeBefore queueSizeAfter : Nat)
  | dropped (item : MailQueueItem) (result : MailTransportResult)
      (queueSizeBefore queueSizeAfter : Nat)
  | emptyQueue (queueSizeBefore queueSizeAfter : Nat)

/-- A delivery that awaits its send. -/
structure Delivery where
  item : MailQueueItem
  options : MailDeliveryOptions
  queueSizeBefore : Nat

/-- `deliverNextMail` up to its send; without an item it is at its end. -/
def beginDelivery (queue : MailQueue) (options : MailDeliveryOptions) :
    Except MailDeliveryAction (Delivery × MailQueue) :=
  let queueSizeBefore := queue.items.length
  match dequeueMail queue with
  | none => .error (.emptyQueue queueSizeBefore queueSizeBefore)
  | some (item, dequeued) => .ok (⟨item, options, queueSizeBefore⟩, dequeued)

/-- The number of the next attempt for an item. -/
def nextAttempt (item : MailQueueItem) : Double :=
  atLeastOne (floor ((item.attempts.getD (.finite 0)).add (.finite 1)))

/-- The schedule of a retry. -/
def retryScheduleOf (dates : Dates) (delivery : Delivery) : Option MailRetrySchedule :=
  let item := delivery.item
  getMailRetrySchedule dates delivery.options.retryBackoffMs (nextAttempt item)
    ((delivery.options.scheduledAt.or item.nextAttemptAt).getD item.queuedAt)
    delivery.options.maxRetryBackoffMs

/-- What a delivery returns, and the queue it leaves; `none` is a rejection. -/
structure Outcome where
  action : Option MailDeliveryAction
  queue : MailQueue

/-- `deliverNextMail` behind its send. -/
def finishDelivery (dates : Dates) (queue : MailQueue) (delivery : Delivery) (settled : Settled) :
    Outcome :=
  let item := delivery.item
  let size := queue.items.length
  match settled with
  | .rejected => ⟨none, queue⟩
  | .resolved result =>
      match result.outcome with
      | .success => ⟨some (.delivered item result delivery.queueSizeBefore size), queue⟩
      | .failPermanent => ⟨some (.dropped item result delivery.queueSizeBefore size), queue⟩
      | .retry =>
          match retryScheduleOf dates delivery with
          | none => ⟨none, queue⟩
          | some retrySchedule =>
              let enqueued := enqueueMail queue
                { item.toMailRequest with
                  attempts := some retrySchedule.attempt
                  nextAttemptAt := some retrySchedule.nextAttemptAt }
                retrySchedule.nextAttemptAt
              ⟨some (.requeued item enqueued.item result retrySchedule delivery.queueSizeBefore
                enqueued.queue.items.length), enqueued.queue⟩

/-! ### The queue keeps its capacity -/

theorem normalizeQueueCap_pos (maxItems : Double) : 0 < normalizeQueueCap maxItems := by
  unfold normalizeQueueCap
  split
  next value =>
    split
    next => exact Nat.one_pos
    next large =>
      have floored : (1 : Int) ≤ value.floor := by
        rw [Rat.le_floor_iff]
        exact_mod_cast not_lt.mp large
      omega
  next => exact Nat.one_pos

theorem shiftExcess_append {α : Type} (maxItems : Nat) (items : List α) :
    (shiftExcess maxItems items).1 ++ (shiftExcess maxItems items).2 = items := by
  induction items with
  | nil => rfl
  | cons first rest inductionHypothesis =>
      rw [shiftExcess]
      split
      next => exact congrArg (first :: ·) inductionHypothesis
      next => rfl

theorem shiftExcess_of_le {α : Type} {maxItems : Nat} {items : List α}
    (fits : items.length ≤ maxItems) : shiftExcess maxItems items = ([], items) := by
  cases items with
  | nil => rfl
  | cons first rest =>
      rw [shiftExcess, if_neg]
      exact not_lt.mpr fits

theorem shiftExcess_fits {α : Type} (maxItems : Nat) (items : List α) :
    (shiftExcess maxItems items).2.length ≤ maxItems := by
  induction items with
  | nil => exact Nat.zero_le _
  | cons first rest inductionHypothesis =>
      rw [shiftExcess]
      split
      next => exact inductionHypothesis
      next fits => exact not_lt.mp fits

/-- A list that is one too long loses its first item. -/
theorem shiftExcess_of_one {α : Type} {maxItems : Nat} {first : α} {rest : List α}
    (full : rest.length = maxItems) : shiftExcess maxItems (first :: rest) = ([first], rest) := by
  rw [shiftExcess, if_pos (by omega), shiftExcess_of_le full.le]

end DarkmeshGateway.Gateway.Mailing
