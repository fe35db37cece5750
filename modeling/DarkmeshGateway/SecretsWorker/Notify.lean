import DarkmeshGateway.Foundation.ExpiringStore
import DarkmeshGateway.Foundation.Machine
import DarkmeshGateway.Foundation.Outcome
import DarkmeshGateway.SecretsWorker.Fields
import Mathlib.Logic.Function.Basic

/-!
Contract: deduplication and delivery in `POST /notify`, as a machine over
interleaved requests.

Owns the destination and the dedupe key of a request, the marker read, the
marker write, the delivery behind them, and when a deduplicated request was
delivered before.

Does not own the token, signature, rate-limit and breaker checks or the
retries of one delivery: a request carries their outcomes.
-/

namespace DarkmeshGateway.SecretsWorker.Notify

open Foundation
open Foundation.Js
open Foundation.Machine
open Foundation.Outcome
open SecretsWorker.Fields

/-! ### Requests -/

/-- The fields of a notification that its receiver sees. -/
structure Content where
  recipient : Option Json
  subject : Option Json
  text : Option Json
  html : Option Json
  data : Option Json

/-- One request: its raw and parsed body (`none` is invalid JSON), the outcome
of the token and signature checks, and of the rate limit and destination checks. -/
structure NotifyCall where
  raw : JsString
  body : Option Json
  authorised : Except HttpException Unit
  destinationChecks : Except HttpException Unit

/-- `body[name]`; reading from `null` throws. -/
def notifyField (body : Json) (name : String) : Except HttpException (Option Json) :=
  match body with
  | .null => .error internalError
  | .obj fields => .ok (Fields.get fields (js name))
  | _ => .ok none

/-- What the checks in front of the dedupe step let through. -/
structure Admission where
  content : Content
  webhook : Option Json
  hashKey : JsString

def passChecks (env : Env) (call : NotifyCall) : Except HttpException Admission := do
  call.authorised
  let body ← call.body.elim (throw ⟨400, "invalid_json"⟩) pure
  let recipient ← notifyField body "to"
  let webhookUrl ← notifyField body "webhookUrl"
  let webhook := firstTruthyAlias [webhookUrl, env.notifyWebhook.map .str]
  let addressed := firstTruthyAlias [recipient]
  if addressed.isNone && webhook.isNone then throw ⟨400, "missing_destination"⟩
  call.destinationChecks
  let target ← orTypeError (((addressed.or webhook).getD (.str call.raw)).toText)
  let channel := if webhook.isSome then "webhook" else if addressed.isSome then "email" else "notify"
  let subject ← notifyField body "subject"
  let text ← notifyField body "text"
  let html ← notifyField body "html"
  let data ← notifyField body "data"
  return ⟨⟨recipient, subject, text, html, data⟩, webhook, target ++ 124 :: js channel⟩

/-- `NOTIFY_DEDUPE_TTL` in seconds; zero turns deduplication off. -/
def dedupeTtl (env : Env) : Nat :=
  if env.liteMode then 0 else ((envNumber [env.notifyDedupeTtl] "300").getD 0).toNat

/-- The key of a dedupe marker; the digest is a parameter. -/
def dedupeKey (sha256Hex : JsString → JsString) (admission : Admission) : JsString :=
  js "notify:hash:" ++ sha256Hex admission.hashKey

inductive Channel where
  | webhook
  | sendgrid
deriving DecidableEq

/-- What the steps behind the dedupe marker meet: the spray guard, the subject
limit, the breaker, and whether one of the send attempts succeeded. -/
structure Delivery where
  sprayGuard : Except HttpException Unit
  subjectLimit : Except HttpException Unit
  breaker : Except HttpException Unit
  sent : Bool

def deliver (env : Env) (admission : Admission) (delivery : Delivery) :
    Except HttpException Channel := do
  delivery.sprayGuard
  delivery.subjectLimit
  delivery.breaker
  if admission.webhook.isSome then
    if delivery.sent then return .webhook
    throw ⟨502, "notify_webhook_failed"⟩
  if env.sendgridKey.getD [] ≠ [] ∧ (firstTruthyAlias [admission.content.recipient]).isSome then
    if delivery.sent then return .sendgrid
    throw ⟨502, "notify_sendgrid_failed"⟩
  throw ⟨400, "notify_unconfigured"⟩

/-! ### The machine -/

inductive Progress where
  | marking
  | sending
  | delivered (channel : Channel)
  | failed (failure : HttpException)
  | deduped (now : Nat)

/-- An admitted request and the time it wrote its marker. -/
structure Entry where
  admission : Admission
  progress : Progress
  markedAt : Option Nat

/-- The marker store and the admitted requests. -/
structure System where
  kv : ExpiringStore JsString JsString
  requests : Nat → Option Entry

def initial : System := ⟨.empty, fun _ => none⟩

/-- The three storage-separated parts of a request. -/
inductive Event where
  | arrive (id now : Nat) (call : NotifyCall)
  | mark (id now : Nat)
  | finish (id : Nat) (delivery : Delivery)

def System.put (system : System) (id : Nat) (entry : Entry) : System :=
  { system with requests := Function.update system.requests id (some entry) }

/-- The checks and the marker read of a request. -/
def arrive (sha256Hex : JsString → JsString) (env : Env) (system : System) (id now : Nat)
    (call : NotifyCall) : System :=
  match passChecks env call with
  | .error _ => system
  | .ok admission =>
      if 0 < dedupeTtl env then
        match ExpiringStore.get system.kv now (dedupeKey sha256Hex admission) with
        | some _ => system.put id ⟨admission, .deduped now, none⟩
        | none => system.put id ⟨admission, .marking, none⟩
      else system.put id ⟨admission, .sending, none⟩

/-- The marker write of a request. -/
def mark (sha256Hex : JsString → JsString) (env : Env) (system : System) (id now : Nat)
    (entry : Entry) : System :=
  { system.put id { entry with progress := .sending, markedAt := some now } with
    kv := ExpiringStore.put system.kv (dedupeKey sha256Hex entry.admission) (js "1")
      (expiresIn now (dedupeTtl env)) }

/-- The delivery of a request and its answer. -/
def finish (env : Env) (system : System) (id : Nat) (delivery : Delivery) (entry : Entry) :
    System :=
  match deliver env entry.admission delivery with
  | .ok channel => system.put id { entry with progress := .delivered channel }
  | .error failure => system.put id { entry with progress := .failed failure }

def step (sha256Hex : JsString → JsString) (env : Env) (system : System) : Event → Option System
  | .arrive id now call =>
      match system.requests id with
      | some _ => none
      | none => some (arrive sha256Hex env system id now call)
  | .mark id now =>
      match system.requests id with
      | some entry =>
          match entry.progress with
          | .marking => some (mark sha256Hex env system id now entry)
          | _ => none
      | none => none
  | .finish id delivery =>
      match system.requests id with
      | some entry =>
          match entry.progress with
          | .sending => some (finish env system id delivery entry)
          | _ => none
      | none => none

/-! ### Deduplication is safe -/

/-- The same destination and the same content. -/
def SameNotification (left right : Admission) : Prop :=
  left.webhook = right.webhook ∧ left.content = right.content

/-- The request was delivered before, within the time to live of its marker. -/
def DeliveredWithin (env : Env) (entry : Entry) (now : Nat) : Prop :=
  (∃ channel, entry.progress = .delivered channel) ∧
    ∃ marked, entry.markedAt = some marked ∧ now ≤ marked + dedupeTtl env

/-- Every deduplicated request repeats one that was delivered. -/
def Safe (env : Env) (system : System) : Prop :=
  ∀ id entry now, system.requests id = some entry → entry.progress = .deduped now →
    ∃ other earlier, system.requests other = some earlier ∧
      SameNotification earlier.admission entry.admission ∧ DeliveredWithin env earlier now

/-- A request that arrives while others with its dedupe key are inside the time
to live repeats them, and they have been delivered. -/
def RepeatsDelivered (sha256Hex : JsString → JsString) (env : Env) (system : System) :
    Event → Prop
  | .arrive _ now call => ∀ admission, passChecks env call = .ok admission →
      ∀ other earlier marked, system.requests other = some earlier →
        earlier.markedAt = some marked → now ≤ marked + dedupeTtl env →
        dedupeKey sha256Hex earlier.admission = dedupeKey sha256Hex admission →
        (∃ channel, earlier.progress = .delivered channel) ∧
          SameNotification earlier.admission admission
  | .mark _ _ => True
  | .finish _ _ => True

/-- Every marker was written by an admitted request. -/
def Marked (sha256Hex : JsString → JsString) (env : Env) (system : System) : Prop :=
  ∀ key entry, system.kv.find key = some entry → ∃ id request marked,
    system.requests id = some request ∧ request.markedAt = some marked ∧
      request.progress ≠ .marking ∧ key = dedupeKey sha256Hex request.admission ∧
      entry.expires = expiresIn marked (dedupeTtl env)

/-- What a step can do: nothing, passChecks a new request, write the marker of an
admitted one, or end its delivery. -/
inductive Effect (sha256Hex : JsString → JsString) (env : Env) (system next : System) :
    Event → Prop where
  | refused (event : Event) (same : next = system) : Effect sha256Hex env system next event
  | admitted (id now : Nat) (call : NotifyCall) (entry : Entry)
      (fresh : system.requests id = none) (accepted : passChecks env call = .ok entry.admission)
      (deduped : ∀ time, entry.progress = .deduped time → time = now ∧
        ∃ seen, ExpiringStore.get system.kv now (dedupeKey sha256Hex entry.admission) = some seen)
      (requests : next.requests = Function.update system.requests id (some entry))
      (kv : next.kv = system.kv) : Effect sha256Hex env system next (.arrive id now call)
  | marked (id now : Nat) (entry : Entry) (present : system.requests id = some entry)
      (progress : entry.progress = .marking)
      (requests : next.requests = Function.update system.requests id
        (some { entry with progress := .sending, markedAt := some now }))
      (kv : next.kv = ExpiringStore.put system.kv (dedupeKey sha256Hex entry.admission) (js "1")
        (expiresIn now (dedupeTtl env))) : Effect sha256Hex env system next (.mark id now)
  | finished (id : Nat) (delivery : Delivery) (entry : Entry) (progress : Progress)
      (present : system.requests id = some entry) (sending : entry.progress = .sending)
      (answered : (∃ channel, progress = .delivered channel) ∨ ∃ failure, progress = .failed failure)
      (requests : next.requests = Function.update system.requests id
        (some { entry with progress }))
      (kv : next.kv = system.kv) : Effect sha256Hex env system next (.finish id delivery)

theorem step_effect {sha256Hex : JsString → JsString} {env : Env} {system next : System}
    {event : Event} (stepped : step sha256Hex env system event = some next) :
    Effect sha256Hex env system next event := by
  cases event with
  | arrive id now call =>
      cases present : system.requests id with
      | some entry => simp [step, present] at stepped
      | none =>
          simp only [step, present, Option.some.injEq] at stepped
          subst stepped
          unfold arrive
          cases accepted : passChecks env call with
          | error failure => exact .refused _ rfl
          | ok admission =>
              simp only
              split
              · split
                next seen found =>
                  refine .admitted id now call ⟨admission, .deduped now, none⟩ present accepted
                    ?_ rfl rfl
                  rintro time ⟨⟩
                  exact ⟨rfl, seen, found⟩
                next => exact .admitted id now call _ present accepted (by simp) rfl rfl
              · exact .admitted id now call _ present accepted (by simp) rfl rfl
  | mark id now =>
      cases present : system.requests id with
      | none => simp [step, present] at stepped
      | some entry =>
          cases progress : entry.progress with
          | marking =>
              simp only [step, present, progress, Option.some.injEq] at stepped
              subst stepped
              exact .marked id now entry present progress rfl rfl
          | _ => simp [step, present, progress] at stepped
  | finish id delivery =>
      cases present : system.requests id with
      | none => simp [step, present] at stepped
      | some entry =>
          cases progress : entry.progress with
          | sending =>
              simp only [step, present, progress, Option.some.injEq] at stepped
              subst stepped
              unfold finish
              split
              · exact .finished id delivery entry _ present progress (Or.inl ⟨_, rfl⟩) rfl rfl
              · exact .finished id delivery entry _ present progress (Or.inr ⟨_, rfl⟩) rfl rfl
          | _ => simp [step, present, progress] at stepped

/-- A request that was delivered stays as it is. -/
private theorem delivered_kept {sha256Hex : JsString → JsString} {env : Env}
    {system next : System} {event : Event} (effect : Effect sha256Hex env system next event)
    {id : Nat} {entry : Entry} (present : system.requests id = some entry) {channel : Channel}
    (delivered : entry.progress = .delivered channel) : next.requests id = some entry := by
  cases effect with
  | refused event same => rw [same, present]
  | admitted other now call added fresh accepted deduped requests kv =>
      have different : id ≠ other := by
        rintro rfl
        simp [fresh] at present
      rw [requests, Function.update_of_ne different, present]
  | marked other now found otherPresent progress requests kv =>
      have different : id ≠ other := by
        rintro rfl
        obtain rfl : entry = found := Option.some.inj (present.symm.trans otherPresent)
        simp [delivered] at progress
      rw [requests, Function.update_of_ne different, present]
  | finished other delivery found progress otherPresent sending answered requests kv =>
      have different : id ≠ other := by
        rintro rfl
        obtain rfl : entry = found := Option.some.inj (present.symm.trans otherPresent)
        simp [delivered] at sending
      rw [requests, Function.update_of_ne different, present]

/-- A request past its marker keeps its admission and its marker time. -/
private theorem marked_kept {sha256Hex : JsString → JsString} {env : Env}
    {system next : System} {event : Event} (effect : Effect sha256Hex env system next event)
    {id marked : Nat} {entry : Entry} (present : system.requests id = some entry)
    (markedAt : entry.markedAt = some marked) (past : entry.progress ≠ .marking) :
    ∃ kept, next.requests id = some kept ∧ kept.admission = entry.admission ∧
      kept.markedAt = some marked ∧ kept.progress ≠ .marking := by
  cases effect with
  | refused event same => exact ⟨entry, by rw [same, present], rfl, markedAt, past⟩
  | admitted other now call added fresh accepted deduped requests kv =>
      have different : id ≠ other := by
        rintro rfl
        simp [fresh] at present
      exact ⟨entry, by rw [requests, Function.update_of_ne different, present], rfl, markedAt, past⟩
  | marked other now found otherPresent progress requests kv =>
      have different : id ≠ other := by
        rintro rfl
        obtain rfl : entry = found := Option.some.inj (present.symm.trans otherPresent)
        exact past progress
      exact ⟨entry, by rw [requests, Function.update_of_ne different, present], rfl, markedAt, past⟩
  | finished other delivery found progress otherPresent sending answered requests kv =>
      by_cases same : id = other
      · subst same
        obtain rfl : entry = found := Option.some.inj (present.symm.trans otherPresent)
        refine ⟨{ entry with progress }, by rw [requests, Function.update_self], rfl, markedAt, ?_⟩
        rcases answered with ⟨channel, rfl⟩ | ⟨failure, rfl⟩ <;> simp
      · exact ⟨entry, by rw [requests, Function.update_of_ne same, present], rfl, markedAt, past⟩

private theorem marked_step {sha256Hex : JsString → JsString} {env : Env}
    {system next : System} {event : Event} (holds : Marked sha256Hex env system)
    (effect : Effect sha256Hex env system next event) : Marked sha256Hex env next := by
  have kept {key : JsString} {entry : Expiring JsString}
      (found : system.kv.find key = some entry) : ∃ id request marked,
      next.requests id = some request ∧ request.markedAt = some marked ∧
        request.progress ≠ .marking ∧ key = dedupeKey sha256Hex request.admission ∧
        entry.expires = expiresIn marked (dedupeTtl env) := by
    obtain ⟨id, request, marked, present, markedAt, past, keyEq, expires⟩ := holds key entry found
    obtain ⟨after, afterPresent, admission, afterMarked, afterPast⟩ :=
      marked_kept effect present markedAt past
    exact ⟨id, after, marked, afterPresent, afterMarked, afterPast, by rw [admission, keyEq],
      expires⟩
  intro key entry found
  cases effect with
  | refused event same =>
      rw [same] at found
      exact kept found
  | admitted id now call added fresh accepted deduped requests kv =>
      rw [kv] at found
      exact kept found
  | finished id delivery present progress _ sending answered requests kv =>
      rw [kv] at found
      exact kept found
  | marked id now request present progress requests kv =>
      rw [kv, ExpiringStore.put] at found
      by_cases same : key = dedupeKey sha256Hex request.admission
      · rw [same, OrderedMap.find_set_self, Option.some.injEq] at found
        subst found
        exact ⟨id, { request with progress := .sending, markedAt := some now }, now,
          by rw [requests, Function.update_self], rfl, by simp, same, rfl⟩
      · rw [OrderedMap.find_set_other _ same] at found
        exact kept found

/-- A live marker was written within its time to live. -/
private theorem live_marker {sha256Hex : JsString → JsString} {env : Env} {system : System}
    (holds : Marked sha256Hex env system) (enabled : 0 < dedupeTtl env) {now : Nat}
    {key seen : JsString} (live : ExpiringStore.get system.kv now key = some seen) :
    ∃ id request marked, system.requests id = some request ∧ request.markedAt = some marked ∧
      key = dedupeKey sha256Hex request.admission ∧ now ≤ marked + dedupeTtl env := by
  simp only [ExpiringStore.get, Option.bind_eq_some_iff] at live
  obtain ⟨entry, found, alive⟩ := live
  obtain ⟨id, request, marked, present, markedAt, -, keyEq, expires⟩ := holds key entry found
  refine ⟨id, request, marked, present, markedAt, keyEq, ?_⟩
  have last := (Option.ite_none_right_eq_some.mp alive).1
  simpa [Expiring.alive, expires, expiresIn, Nat.pos_iff_ne_zero.mp enabled] using last

private theorem safe_step {sha256Hex : JsString → JsString} {env : Env}
    (enabled : 0 < dedupeTtl env) {system next : System} {event : Event}
    (marked : Marked sha256Hex env system) (safe : Safe env system)
    (repeats : RepeatsDelivered sha256Hex env system event)
    (effect : Effect sha256Hex env system next event) : Safe env next := by
  have kept {id now : Nat} {entry : Entry} (present : system.requests id = some entry)
      (deduped : entry.progress = .deduped now) : ∃ other earlier,
      next.requests other = some earlier ∧
        SameNotification earlier.admission entry.admission ∧ DeliveredWithin env earlier now := by
    obtain ⟨other, earlier, earlierPresent, same, ⟨channel, delivered⟩, within⟩ :=
      safe id entry now present deduped
    exact ⟨other, earlier, delivered_kept effect earlierPresent delivered, same,
      ⟨channel, delivered⟩, within⟩
  intro id entry now present deduped
  cases effect with
  | refused event same =>
      rw [same] at present
      exact kept present deduped
  | admitted added arrived call request fresh accepted answered requests kv =>
      by_cases same : id = added
      · subst same
        rw [requests, Function.update_self, Option.some.injEq] at present
        subst present
        obtain ⟨rfl, seen, live⟩ := answered now deduped
        obtain ⟨other, earlier, markedTime, earlierPresent, markedAt, keyEq, within⟩ :=
          live_marker marked enabled live
        obtain ⟨⟨channel, delivered⟩, sameNotification⟩ :=
          repeats request.admission accepted other earlier markedTime earlierPresent markedAt
            within keyEq.symm
        have different : other ≠ id := by
          rintro rfl
          simp [fresh] at earlierPresent
        exact ⟨other, earlier, by rw [requests, Function.update_of_ne different, earlierPresent],
          sameNotification, ⟨channel, delivered⟩, markedTime, markedAt, within⟩
      · rw [requests, Function.update_of_ne same] at present
        exact kept present deduped
  | marked added arrived request found progress requests kv =>
      rw [requests] at present
      rcases update_eq_some present with ⟨-, rfl⟩ | ⟨-, before⟩
      · simp at deduped
      · exact kept before deduped
  | finished added delivery request progress found sending answered requests kv =>
      rw [requests] at present
      rcases update_eq_some present with ⟨-, rfl⟩ | ⟨-, before⟩
      · rcases answered with ⟨channel, rfl⟩ | ⟨failure, rfl⟩ <;> simp at deduped
      · exact kept before deduped

/-- In every run with deduplication on in which requests only ever repeat
notifications that were delivered, every deduplicated request does. -/
theorem deduped_was_delivered {sha256Hex : JsString → JsString} {env : Env}
    (enabled : 0 < dedupeTtl env) {events : List Event} {final : System}
    (reached : run (step sha256Hex env) initial events = some final)
    (meets : Meets (step sha256Hex env) (RepeatsDelivered sha256Hex env) initial events) :
    Safe env final := by
  have holds : Marked sha256Hex env final ∧ Safe env final := by
    refine run_invariant (fun system => Marked sha256Hex env system ∧ Safe env system)
      (fun holds repeats stepped => ?_) ⟨?_, ?_⟩ meets reached
    · have effect := step_effect stepped
      exact ⟨marked_step holds.1 effect, safe_step enabled holds.1 holds.2 repeats effect⟩
    · intro key entry found
      simp [initial] at found
    · intro id entry now present
      simp [initial] at present
  exact holds.2

/-- A worker that forwards notifications to one configured webhook. -/
def webhookEnv : Env where
  notifyWebhook := some (js "https://hooks.example/psp")

/-- The digest of the only dedupe key of that worker. -/
def webhookDigest : JsString → JsString := fun _ =>
  js "505c3d44b963cb54329344cbd7249ba26ea1f83a6352f46e9b5c0136daf75e3b"

/-- A payment event forwarded to the worker, its checks passed. -/
def paymentEvent (intent : String) : NotifyCall where
  raw := []
  body := some (.obj [(js "data", .obj [(js "object", .str (js intent))])])
  authorised := .ok ()
  destinationChecks := .ok ()

/-- All checks behind the marker pass. -/
def attempted (sent : Bool) : Delivery := ⟨.ok (), .ok (), .ok (), sent⟩

/-- One event delivered and then posted again. -/
def repeatedRun : List Event :=
  [.arrive 0 1000 (paymentEvent "pi_1"), .mark 0 1000, .finish 0 (attempted true),
    .arrive 1 1001 (paymentEvent "pi_1")]

set_option maxRecDepth 20000 in
theorem deduped_was_delivered_repeat :
    ∃ final, run (step webhookDigest webhookEnv) initial repeatedRun = some final ∧
      Safe webhookEnv final := by
  refine ⟨_, rfl, @deduped_was_delivered webhookDigest webhookEnv (by decide) repeatedRun _ rfl ?_⟩
  refine .cons rfl (fun _ _ _ _ _ present => by simp [initial] at present) (.cons rfl trivial
    (.cons rfl trivial (.cons rfl ?_ trivial)))
  intro admission accepted other earlier marked present markedAt _ _
  cases accepted
  rcases update_eq_some present with ⟨-, rfl⟩ | ⟨notFirst, present⟩
  · exact ⟨⟨.webhook, rfl⟩, rfl, rfl⟩
  rcases update_eq_some present with ⟨first, -⟩ | ⟨-, present⟩
  · exact absurd first notFirst
  rcases update_eq_some present with ⟨first, -⟩ | ⟨-, present⟩
  · exact absurd first notFirst
  · simp [initial] at present

/-- Two events, the first of which could not be delivered. -/
def failedRun : List Event :=
  [.arrive 0 1000 (paymentEvent "pi_1"), .mark 0 1000, .finish 0 (attempted false),
    .arrive 1 1001 (paymentEvent "pi_2")]

private def Progress.isDelivered : Progress → Bool
  | .delivered _ => true
  | _ => false

set_option maxRecDepth 20000 in
/-- A second payment event is dropped as a duplicate of a different one whose
delivery failed. -/
theorem deduped_not_delivered :
    ¬∀ (sha256Hex : JsString → JsString) (env : Env) (events : List Event) (final : System),
      0 < dedupeTtl env → run (step sha256Hex env) initial events = some final →
      Safe env final := by
  intro claim
  have safe := claim webhookDigest webhookEnv failedRun _ (by decide) rfl
  obtain ⟨other, earlier, present, -, ⟨channel, delivered⟩, -⟩ := safe 1 _ 1001 rfl rfl
  have undelivered {entry : Entry} (quiet : entry.progress.isDelivered = false)
      (same : earlier = entry) : False := by
    simp [← same, delivered, Progress.isDelivered] at quiet
  rcases update_eq_some present with ⟨-, same⟩ | ⟨-, present⟩
  · exact undelivered rfl same
  rcases update_eq_some present with ⟨-, same⟩ | ⟨-, present⟩
  · exact undelivered rfl same
  rcases update_eq_some present with ⟨-, same⟩ | ⟨-, present⟩
  · exact undelivered rfl same
  rcases update_eq_some present with ⟨-, same⟩ | ⟨-, present⟩
  · exact undelivered rfl same
  · simp [initial] at present

end DarkmeshGateway.SecretsWorker.Notify
