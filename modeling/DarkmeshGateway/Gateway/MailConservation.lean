import DarkmeshGateway.Foundation.Machine
import DarkmeshGateway.Gateway.Mailing
import Mathlib.Data.List.Perm.Basic

/-!
Contract: no mail is lost between the queue and its deliveries.

Owns enqueues interleaved with deliveries, where the enqueued items are, and
which steps keep every item in one place.

Does not own the queue or the two blocks of a delivery.
-/

namespace DarkmeshGateway.Gateway.MailConservation

open Foundation
open Foundation.Js
open Gateway.Mailing

/-! ### Interleaved deliveries -/

structure System where
  queue : MailQueue
  /-- How many messages were enqueued, which is the serial of the next one. -/
  enqueued : Nat
  inFlight : List Delivery
  /-- What the deliveries that ended returned. -/
  actions : List MailDeliveryAction
  /-- What the enqueues of newer messages shifted out. -/
  evicted : List MailQueueItem

def initial (maxItems : Double) : System := ⟨createMailQueue maxItems, 0, [], [], []⟩

inductive Event where
  | enqueue (request : MailRequest) (queuedAt : JsString)
  | begin (options : MailDeliveryOptions)
  | finish (index : Nat) (settled : Settled)

def System.enqueue (system : System) (request : MailRequest) (queuedAt : JsString) : System :=
  let enqueued := enqueueMail system.queue { request with serial := system.enqueued } queuedAt
  { system with
    queue := enqueued.queue
    enqueued := system.enqueued + 1
    evicted := system.evicted ++ enqueued.shifted }

def System.begin (system : System) (options : MailDeliveryOptions) : System :=
  match beginDelivery system.queue options with
  | .ok (delivery, queue) =>
      { system with queue := queue, inFlight := delivery :: system.inFlight }
  | .error action => { system with actions := action :: system.actions }

def System.finish (dates : Dates) (system : System) (index : Nat) (delivery : Delivery)
    (settled : Settled) : System :=
  let outcome := finishDelivery dates system.queue delivery settled
  { system with
    queue := outcome.queue
    inFlight := system.inFlight.eraseIdx index
    actions := outcome.action.toList ++ system.actions }

/-- A message may be enqueued and a delivery begun at any time, and the send of
any delivery may settle. -/
def step (dates : Dates) (system : System) : Event → Option System
  | .enqueue request queuedAt => some (system.enqueue request queuedAt)
  | .begin options => some (system.begin options)
  | .finish index settled =>
      system.inFlight[index]?.map fun delivery => system.finish dates index delivery settled

/-! ### Where the items are -/

/-- The item an action is the end of. -/
def finalItem : MailDeliveryAction → Option MailQueueItem
  | .delivered item _ _ _ => some item
  | .requeued _ _ _ _ _ _ => none
  | .dropped item _ _ _ => some item
  | .emptyQueue _ _ => none

/-- The items in the queue, in flight, reported delivered or dropped, and evicted. -/
def System.items (system : System) : List MailQueueItem :=
  system.queue.items ++ system.inFlight.map (·.item) ++ system.actions.filterMap finalItem ++
    system.evicted

def System.serials (system : System) : List Nat := system.items.map (·.serial)

/-- Every enqueued item is in exactly one place, exactly once. -/
def Conserved (system : System) : Prop :=
  ∀ serial < system.enqueued, system.serials.count serial = 1

/-- No send is rejected, and none is retried when the queue is full or the time of
the next attempt is no date. -/
def Keeps (dates : Dates) (system : System) : Event → Prop
  | .finish _ .rejected => False
  | .finish index (.resolved result) => result.outcome = .retry →
      ∀ delivery ∈ system.inFlight[index]?,
        system.queue.items.length < system.queue.maxItems ∧
          (retryScheduleOf dates delivery).isSome = true
  | _ => True

instance (system : System) : Decidable (Conserved system) :=
  inferInstanceAs (Decidable (∀ serial < system.enqueued, system.serials.count serial = 1))

instance (dates : Dates) (system : System) : (event : Event) → Decidable (Keeps dates system event)
  | .enqueue _ _ => isTrue trivial
  | .begin _ => isTrue trivial
  | .finish _ .rejected => isFalse id
  | .finish index (.resolved result) =>
      inferInstanceAs (Decidable (result.outcome = .retry →
        ∀ delivery ∈ system.inFlight[index]?,
          system.queue.items.length < system.queue.maxItems ∧
            (retryScheduleOf dates delivery).isSome = true))

/-! ### Invariant -/

/-- The items are those that were enqueued, and the queue is not too long. -/
structure Invariant (system : System) : Prop where
  placed : system.serials.Perm (List.range system.enqueued)
  fits : system.queue.items.length ≤ system.queue.maxItems
  room : 0 < system.queue.maxItems

theorem Invariant.initially (maxItems : Double) : Invariant (initial maxItems) where
  placed := List.Perm.refl []
  fits := Nat.zero_le _
  room := normalizeQueueCap_pos maxItems

theorem Invariant.conserved {system : System} (invariant : Invariant system) :
    Conserved system := by
  intro serial issued
  rw [invariant.placed.count_eq]
  exact List.count_eq_one_of_mem List.nodup_range (List.mem_range.mpr issued)

/-- When one item disappears, it is in no place. -/
theorem not_conserved_of_lost {system next : System} (invariant : Invariant system)
    {serial : Nat} (lost : system.serials.Perm (serial :: next.serials))
    (same : next.enqueued = system.enqueued) : ¬Conserved next := by
  intro conserved
  have all : (serial :: next.serials).Perm (List.range system.enqueued) :=
    lost.symm.trans invariant.placed
  have issued : serial < system.enqueued := List.mem_range.mp (all.subset List.mem_cons_self)
  have absent : serial ∉ next.serials :=
    (List.nodup_cons.mp (all.nodup_iff.mpr List.nodup_range)).1
  have once := conserved serial (same ▸ issued)
  rw [List.count_eq_zero_of_not_mem absent] at once
  cases once

/-- An item is counted in each of the four places. -/
theorem count_serials (system : System) (serial : Nat) :
    system.serials.count serial =
      (system.queue.items.map (·.serial)).count serial +
        (system.inFlight.map (·.item.serial)).count serial +
        ((system.actions.filterMap finalItem).map (·.serial)).count serial +
        (system.evicted.map (·.serial)).count serial := by
  simp [System.serials, System.items, List.count_append, Function.comp_def, Nat.add_assoc]

/-! ### Enqueues and dequeues -/

/-- What an enqueue shifts out and keeps, are the items and the new one. -/
private theorem count_shifted (queue : MailQueue) (request : MailRequest) (queuedAt : JsString)
    (serial : Nat) :
    ((enqueueMail queue request queuedAt).shifted.map (·.serial)).count serial +
        ((enqueueMail queue request queuedAt).queue.items.map (·.serial)).count serial =
      (queue.items.map (·.serial)).count serial + [request.serial].count serial := by
  have both := congrArg (fun items => (items.map (·.serial)).count serial)
    (shiftExcess_append queue.maxItems (queue.items ++ [{ request with queuedAt := queuedAt }]))
  simp only [List.map_append, List.count_append] at both
  exact both

theorem Invariant.enqueue {system : System} (invariant : Invariant system) (request : MailRequest)
    (queuedAt : JsString) : Invariant (system.enqueue request queuedAt) where
  placed := by
    show (system.enqueue request queuedAt).serials.Perm (List.range (system.enqueued + 1))
    rw [List.range_succ, List.perm_iff_count]
    intro serial
    have before := invariant.placed.count_eq serial
    have shifted := count_shifted system.queue { request with serial := system.enqueued } queuedAt
      serial
    rw [count_serials] at before ⊢
    simp only [System.enqueue, List.map_append, List.count_append] at shifted ⊢
    omega
  fits := shiftExcess_fits _ _
  room := invariant.room

theorem Invariant.begin {system : System} (invariant : Invariant system)
    (options : MailDeliveryOptions) : Invariant (system.begin options) := by
  unfold System.begin beginDelivery dequeueMail
  cases queued : system.queue.items with
  | nil => exact ⟨invariant.placed, invariant.fits, invariant.room⟩
  | cons item rest =>
      have fits := invariant.fits
      rw [queued, List.length_cons] at fits
      refine ⟨?_, Nat.le_of_succ_le fits, invariant.room⟩
      have same : ∀ serial, (System.serials { system with
          queue := { system.queue with items := rest }
          inFlight := ⟨item, options, rest.length + 1⟩ :: system.inFlight }).count serial =
            system.serials.count serial := by
        intro serial
        simp only [count_serials, queued, List.map_cons, List.count_cons]
        omega
      exact (List.perm_iff_count.mpr same).trans invariant.placed

/-! ### Ends of deliveries -/

variable {dates : Dates} {system : System} {index : Nat} {delivery : Delivery} {settled : Settled}

private theorem count_inFlight (found : system.inFlight[index]? = some delivery) (serial : Nat) :
    (system.inFlight.map (·.item.serial)).count serial =
      ((system.inFlight.eraseIdx index).map (·.item.serial)).count serial +
        [delivery.item.serial].count serial := by
  obtain ⟨bound, same⟩ := List.getElem?_eq_some_iff.mp found
  have perm := (List.getElem_cons_eraseIdx_perm bound).map (·.item.serial)
  rw [same] at perm
  rw [← perm.count_eq serial, List.map_cons, List.count_cons, List.count_singleton]

/-- A report that is the end of the item in flight. -/
private theorem perm_of_reported {system next : System} {delivery : Delivery}
    (action : MailDeliveryAction) (final : finalItem action = some delivery.item)
    (found : system.inFlight[index]? = some delivery)
    (ended : next = { system with
      inFlight := system.inFlight.eraseIdx index
      actions := action :: system.actions }) :
    next.serials.Perm system.serials := by
  rw [List.perm_iff_count]
  intro serial
  have flight := count_inFlight found serial
  rw [List.count_singleton] at flight
  subst ended
  rw [count_serials, count_serials, List.filterMap_cons, final, List.map_cons, List.count_cons]
  dsimp only
  omega

/-- The item of a delivery that is not reported and not in the queue again. -/
private theorem lost_of_unreported {system next : System} {delivery : Delivery}
    (found : system.inFlight[index]? = some delivery)
    (ended : next = { system with inFlight := system.inFlight.eraseIdx index }) :
    system.serials.Perm (delivery.item.serial :: next.serials) := by
  rw [List.perm_iff_count]
  intro serial
  have flight := count_inFlight found serial
  rw [List.count_singleton] at flight
  subst ended
  rw [List.count_cons, count_serials, count_serials]
  dsimp only
  omega

/-- The request of a retry copy. -/
def retryRequest (delivery : Delivery) (schedule : MailRetrySchedule) : MailRequest :=
  { delivery.item.toMailRequest with
    attempts := some schedule.attempt
    nextAttemptAt := some schedule.nextAttemptAt }

/-- A retry moves the item in flight to the end of the queue; what it shifts out
is in no place. -/
private theorem count_requeued {result : MailTransportResult} {schedule : MailRetrySchedule}
    (retried : result.outcome = .retry) (scheduled : retryScheduleOf dates delivery = some schedule)
    (found : system.inFlight[index]? = some delivery) (serial : Nat) :
    system.serials.count serial =
      (system.finish dates index delivery (.resolved result)).serials.count serial +
        ((enqueueMail system.queue (retryRequest delivery schedule)
          schedule.nextAttemptAt).shifted.map (·.serial)).count serial := by
  have flight := count_inFlight found serial
  have shifted := count_shifted system.queue (retryRequest delivery schedule)
    schedule.nextAttemptAt serial
  have same : (retryRequest delivery schedule).serial = delivery.item.serial := rfl
  rw [same] at shifted
  rw [count_serials, count_serials]
  simp only [System.finish, finishDelivery, retried, scheduled, Option.toList_some,
    List.singleton_append, List.filterMap_cons, finalItem]
  simp only [retryRequest] at shifted ⊢
  omega

/-- A delivery that is not rejected, and is not retried into a full queue or at no
date, keeps every item. -/
theorem finish_kept (found : system.inFlight[index]? = some delivery)
    (keeps : Keeps dates system (.finish index settled)) :
    (system.finish dates index delivery settled).serials.Perm system.serials := by
  cases settled with
  | rejected => exact keeps.elim
  | resolved result =>
      cases outcome : result.outcome with
      | success =>
          refine perm_of_reported (.delivered delivery.item result delivery.queueSizeBefore
            system.queue.items.length) rfl found ?_
          simp only [System.finish, finishDelivery, outcome, Option.toList_some,
            List.singleton_append]
      | failPermanent =>
          refine perm_of_reported (.dropped delivery.item result delivery.queueSizeBefore
            system.queue.items.length) rfl found ?_
          simp only [System.finish, finishDelivery, outcome, Option.toList_some,
            List.singleton_append]
      | retry =>
          obtain ⟨space, scheduled⟩ := keeps outcome delivery found
          obtain ⟨schedule, known⟩ := Option.isSome_iff_exists.mp scheduled
          rw [List.perm_iff_count]
          intro serial
          have requeued := count_requeued outcome known found serial
          have nothing : (enqueueMail system.queue (retryRequest delivery schedule)
              schedule.nextAttemptAt).shifted = [] := by
            rw [enqueueMail, shiftExcess_of_le]
            rw [List.length_append]
            exact space
          rw [nothing] at requeued
          exact requeued.symm

/-- Any other end of a delivery loses an item: that of the delivery, or the oldest
in the queue. -/
theorem finish_lost (invariant : Invariant system)
    (found : system.inFlight[index]? = some delivery)
    (loses : ¬Keeps dates system (.finish index settled)) :
    ∃ serial, system.serials.Perm
      (serial :: (system.finish dates index delivery settled).serials) := by
  cases settled with
  | rejected => exact ⟨_, lost_of_unreported found rfl⟩
  | resolved result =>
      have retried : result.outcome = .retry := by
        by_contra other
        exact loses fun same => absurd same other
      cases scheduled : retryScheduleOf dates delivery with
      | none =>
          refine ⟨_, lost_of_unreported found ?_⟩
          simp [System.finish, finishDelivery, retried, scheduled]
      | some schedule =>
          -- The queue is full, so its oldest item is shifted out.
          have full : system.queue.items.length = system.queue.maxItems := by
            apply Nat.le_antisymm invariant.fits
            by_contra space
            apply loses
            intro _ other same
            obtain rfl : delivery = other := Option.some.inj (found.symm.trans same)
            exact ⟨not_le.mp space, by rw [scheduled]; rfl⟩
          cases queued : system.queue.items with
          | nil =>
              have room := invariant.room
              rw [queued, List.length_nil] at full
              omega
          | cons first rest =>
              refine ⟨first.serial, ?_⟩
              rw [List.perm_iff_count]
              intro serial
              have requeued := count_requeued retried scheduled found serial
              have oldest : (enqueueMail system.queue (retryRequest delivery schedule)
                  schedule.nextAttemptAt).shifted = [first] := by
                rw [queued, List.length_cons] at full
                rw [enqueueMail, queued, List.cons_append, shiftExcess_of_one]
                rw [List.length_append]
                exact full
              rw [oldest] at requeued
              rw [requeued, List.count_cons, List.map_singleton, List.count_singleton]

/-- The end of a delivery keeps the capacity of the queue. -/
theorem finish_fits (invariant : Invariant system) (delivery : Delivery) (settled : Settled) :
    (system.finish dates index delivery settled).queue.items.length ≤ system.queue.maxItems ∧
      (system.finish dates index delivery settled).queue.maxItems = system.queue.maxItems := by
  cases settled with
  | rejected => exact ⟨invariant.fits, rfl⟩
  | resolved result =>
      unfold System.finish finishDelivery
      dsimp only
      split
      next => exact ⟨invariant.fits, rfl⟩
      next => exact ⟨invariant.fits, rfl⟩
      next =>
        split
        next => exact ⟨invariant.fits, rfl⟩
        next => exact ⟨shiftExcess_fits _ _, rfl⟩

theorem Invariant.step {system next : System} {event : Event} (invariant : Invariant system)
    (keeps : Keeps dates system event) (stepped : step dates system event = some next) :
    Invariant next := by
  cases event with
  | enqueue request queuedAt =>
      rw [← Option.some.inj stepped]
      exact invariant.enqueue request queuedAt
  | begin options =>
      rw [← Option.some.inj stepped]
      exact invariant.begin options
  | finish index settled =>
      obtain ⟨delivery, found, rfl⟩ := Option.map_eq_some_iff.mp stepped
      obtain ⟨fits, same⟩ := finish_fits invariant delivery settled
      refine ⟨(finish_kept found keeps).trans invariant.placed, ?_, ?_⟩
      · rw [same]
        exact fits
      · rw [same]
        exact invariant.room

/-- A step that leaves every item in one place is one that keeps items. -/
theorem keeps_of_conserved {system next : System} {event : Event} (invariant : Invariant system)
    (stepped : MailConservation.step dates system event = some next) (conserved : Conserved next) :
    Keeps dates system event := by
  cases event with
  | enqueue request queuedAt => trivial
  | begin options => trivial
  | finish index settled =>
      obtain ⟨delivery, found, rfl⟩ := Option.map_eq_some_iff.mp stepped
      by_contra loses
      obtain ⟨serial, lost⟩ := finish_lost invariant found loses
      exact not_conserved_of_lost invariant lost rfl conserved

/-- Along every run: every enqueued item is in exactly one place at every moment,
if and only if no send is rejected and none is retried when the queue is full or
the time of the next attempt is no date. -/
theorem conserved_iff (dates : Dates) {maxItems : Double} {events : List Event} {final : System}
    (reached : Machine.run (step dates) (initial maxItems) events = some final) :
    (∀ before after middle, events = before ++ after →
      Machine.run (step dates) (initial maxItems) before = some middle → Conserved middle) ↔
      Machine.Meets (step dates) (Keeps dates) (initial maxItems) events :=
  Machine.everywhere_iff_meets Invariant Invariant.conserved Invariant.step keeps_of_conserved
    (Invariant.initially maxItems) reached

def welcome : MailRequest := ⟨0, [js "alice@example.com"], js "Welcome", js "Hello", none, none, none⟩

/-- A platform whose `Date` parses no text. -/
def noDates : Dates := ⟨fun _ => none, fun _ => []⟩

/-- How a send ends, without status and error. -/
def sent (outcome : MailDeliveryOutcome) : Settled := .resolved ⟨false, 0, outcome, none⟩

/-- Two messages in a queue for two: the first one is retried and evicted by a
third message, the second one is delivered. -/
def retriedOnce : List Event :=
  [.enqueue welcome [], .enqueue welcome [], .begin {}, .finish 0 (sent .retry), .begin {},
    .enqueue welcome [], .enqueue welcome [], .finish 0 (sent .success)]

/-- Every item of the run has its place. -/
theorem retriedOnce_conserved :
    ∃ final ∈ Machine.run (step noDates) (initial (.finite 2)) retriedOnce, Conserved final := by
  have keeps : Machine.Meets (step noDates) (Keeps noDates) (initial (.finite 2)) retriedOnce := by
    decide +kernel
  obtain ⟨final, reached⟩ : ∃ final,
      Machine.run (step noDates) (initial (.finite 2)) retriedOnce = some final := by
    rw [← Option.isSome_iff_exists]
    decide +kernel
  have everywhere := (conserved_iff noDates reached).mpr keeps
  exact ⟨final, reached, everywhere retriedOnce [] final (by simp) reached⟩

/-- A rejected send loses its item, and a retry into a full queue loses another. -/
theorem item_lost :
    (∃ final ∈ Machine.run (step noDates) (initial (.finite 2))
        [.enqueue welcome [], .begin {}, .finish 0 .rejected],
      ¬Conserved final ∧ final.enqueued = 1 ∧ final.serials = []) ∧
    ∃ final ∈ Machine.run (step noDates) (initial (.finite 1))
        [.enqueue welcome [], .begin {}, .enqueue welcome [], .finish 0 (sent .retry)],
      ¬Conserved final ∧ final.enqueued = 2 ∧ final.serials = [0] := by
  decide +kernel

end DarkmeshGateway.Gateway.MailConservation
