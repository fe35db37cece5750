import DarkmeshGateway.Foundation.Js.Json
import DarkmeshGateway.Foundation.Machine
import DarkmeshGateway.Gateway.Environment
import DarkmeshGateway.Gateway.ReplayStore
import DarkmeshGateway.Gateway.WebhookIdempotency
import Mathlib.Logic.Function.Basic

/-!
Contract: the Stripe, PayPal and GoPay webhook routes, as a machine over
interleaved deliveries.

Owns the event id of a delivery, its replay check, the forward to the worker
and the answer, and when an acknowledged event was forwarded.

Does not own the signature and certificate checks, the rate limit or the
integrity pause: a delivery carries their outcomes.
-/

namespace DarkmeshGateway.Gateway.WebhookForward

open Foundation
open Foundation.Js
open Foundation.Machine
open Gateway.Environment

/-! ### Deliveries -/

inductive WebhookProvider where
  | stripe
  | paypal
  | gopay
deriving DecidableEq, Repr

/-- The outcome of the signature check; `failed` is an exception in it. -/
inductive Verification where
  | valid
  | invalid
  | failed
deriving DecidableEq, Repr

/-- One request to a webhook route. The headers are those that carry an event id. -/
structure Delivery where
  provider : WebhookProvider
  body : JsString
  transmissionId : Option JsString
  gopayEventId : Option JsString
  paused : Bool
  limited : Bool
  verification : Verification

structure Response where
  status : Nat
  body : String
deriving DecidableEq, Repr

/-- `JSON.parse` (`none` is a `SyntaxError`) and the hex SHA-256 of a text. -/
structure Platform where
  parseJson : JsString → Option Json
  sha256Hex : JsString → JsString

/-- The limits of the replay store. -/
def replayOptions (env : Env) : ReplayStore.Options where
  ttlMs := readPositiveIntEnv env "GATEWAY_WEBHOOK_REPLAY_TTL_MS" 600000
  maxKeys := readPositiveIntEnv env "GATEWAY_WEBHOOK_REPLAY_MAX_KEYS" 10000
  sweepIntervalMs := readPositiveIntEnv env "GATEWAY_WEBHOOK_REPLAY_SWEEP_INTERVAL_MS" 1000
  keyMaxBytes := readPositiveIntEnv env "GATEWAY_WEBHOOK_REPLAY_KEY_MAX_BYTES" 512

/-- The limits of the idempotency boundary. -/
def ledgerOptions (env : Env) : WebhookIdempotency.Options where
  ttlMs := readPositiveIntEnv env "GATEWAY_WEBHOOK_REPLAY_TTL_MS" 600000
  maxKeys := readPositiveIntEnv env "GATEWAY_WEBHOOK_REPLAY_MAX_KEYS" 10000
  keyMaxBytes := readPositiveIntEnv env "GATEWAY_WEBHOOK_REPLAY_KEY_MAX_BYTES" 512

def isWebhookWriteForwardEnabled (env : Env) : Bool :=
  match parseLooseBoolean (readHandlerEnvString env "GATEWAY_WEBHOOK_WRITE_FORWARD_ENABLED") with
  | some explicit => explicit
  | none => isProductionLikeMode env

def getGoPayWebhookIdempotencyPolicy (env : Env) : WebhookIdempotency.Policy :=
  if readHandlerEnvString env "GOPAY_WEBHOOK_IDEMPOTENCY_POLICY" = some (js "reject") then .reject
  else .dedupe

/-- `readWorkerNotifyConfig().token`. -/
def workerNotifyToken (env : Env) : Option JsString :=
  (readHandlerEnvString env "WORKER_AUTH_TOKEN").or (readHandlerEnvString env "WORKER_NOTIFY_TOKEN")

/-! ### Event ids -/

/-- `JSON.parse(body)?.id`, `none` for anything falsy. -/
def stripeId (platform : Platform) (body : JsString) : Option Json :=
  match platform.parseJson body with
  | some (.obj fields) => (Fields.get fields (js "id")).filter Json.truthy
  | _ => none

/-- The event id of a delivery as the text it is compared by. -/
def eventId (platform : Platform) (delivery : Delivery) : Option JsString :=
  match delivery.provider with
  | .stripe => (stripeId platform delivery.body).bind Json.toText
  | .paypal => delivery.transmissionId.filter (· ≠ [])
  | .gopay => some (trim (delivery.gopayEventId.getD [])) |>.filter (· ≠ [])

/-- The key of an event in the replay store. -/
def replayKey (provider : WebhookProvider) (id : JsString) : JsString :=
  match provider with
  | .stripe => js "stripe:" ++ id
  | .paypal => js "paypal:" ++ id
  | .gopay => id

/-! ### The routes -/

/-- The answer while the integrity policy is paused. -/
def policyPausedResponse : Response where
  status := 503
  body := "\x7b\"error\":\"policy_paused\",\"reason\":\"integrity_policy_paused\"," ++
    "\"paused\":true,\"retryable\":false\x7d"

/-- The checks in front of the replay check. -/
def passChecks (env : Env) (delivery : Delivery) : Except Response Unit :=
  let maxBodyBytes := readPositiveIntEnv env "GATEWAY_WEBHOOK_MAX_BODY_BYTES" 262144
  let shadowInvalid := readHandlerStrictEnabledFlag env "GATEWAY_WEBHOOK_SHADOW_INVALID"
  if delivery.paused then .error policyPausedResponse
  else if delivery.limited then .error ⟨429, "Too Many Requests"⟩
  else if maxBodyBytes < utf8Length delivery.body then .error ⟨413, "payload too large"⟩
  else match delivery.verification with
    | .valid => .ok ()
    | .invalid => .error ⟨if shadowInvalid then 202 else 401, "sig invalid"⟩
    | .failed => .error ⟨500, "error"⟩

/-- The in-memory stores of the routes. -/
structure Stores where
  replay : ReplayStore.Store
  ledger : WebhookIdempotency.Ledger

/-- The stores after a key is marked, and the answer to a replay. -/
def markStep (env : Env) (stores : Stores) (now : Int) (key : JsString) :
    Stores × Option Response :=
  let (replay, result) := ReplayStore.markAndCheck (replayOptions env) stores.replay now key
  ({ stores with replay }, if result.replay then some ⟨200, "replay"⟩ else none)

/-- The replay check of a verified delivery; without an answer it is forwarded. -/
def checkReplay (platform : Platform) (env : Env) (stores : Stores) (now seenAt : Int)
    (delivery : Delivery) : Stores × Option Response :=
  match delivery.provider with
  | .stripe =>
      match stripeId platform delivery.body with
      | none => (stores, none)
      | some id =>
          match id.toText with
          | none => (stores, some ⟨500, "error"⟩)
          | some text => markStep env stores now (replayKey .stripe text)
  | .paypal =>
      match delivery.transmissionId.filter (· ≠ []) with
      | none => (stores, none)
      | some id => markStep env stores now (replayKey .paypal id)
  | .gopay =>
      let (ledger, decision) := WebhookIdempotency.classify (ledgerOptions env) stores.ledger now
        seenAt delivery.gopayEventId (platform.sha256Hex delivery.body)
        (getGoPayWebhookIdempotencyPolicy env)
      ({ stores with ledger },
        if decision.status = .accepted then none else some ⟨decision.httpStatus, decision.body⟩)

inductive Progress where
  | forwarding
  | forwarded
  | failed (response : Response)
  | answered (response : Response)

/-- What the provider is told. -/
def Progress.response : Progress → Option Response
  | .forwarding => none
  | .forwarded => some ⟨200, "forwarded"⟩
  | .failed response => some response
  | .answered response => some response

/-- `maybeForwardWebhookWrite` up to its fetch. -/
def startForward (env : Env) : Progress :=
  if isWebhookWriteForwardEnabled env then
    match workerNotifyToken env with
    | none => .failed ⟨500, "worker_notify_auth_not_configured"⟩
    | some _ => .forwarding
  else .answered ⟨200, "ok"⟩

/-- How the fetch of the worker ends. -/
inductive FetchOutcome where
  | responded (ok : Bool)
  | aborted
  | failed

def finishForward : FetchOutcome → Progress
  | .responded true => .forwarded
  | .responded false => .failed ⟨502, "notify_failed"⟩
  | .aborted => .failed ⟨504, "notify_timeout"⟩
  | .failed => .failed ⟨502, "notify_failed"⟩

/-! ### The machine -/

structure Entry where
  delivery : Delivery
  progress : Progress

structure System where
  stores : Stores
  requests : Nat → Option Entry

def initial : System := ⟨⟨ReplayStore.empty, .empty⟩, fun _ => none⟩

/-- A delivery up to its fetch, and the end of the fetch. -/
inductive Event where
  | deliver (id : Nat) (now seenAt : Int) (delivery : Delivery)
  | forwardDone (id : Nat) (outcome : FetchOutcome)

def System.put (system : System) (id : Nat) (entry : Entry) : System :=
  { system with requests := Function.update system.requests id (some entry) }

def deliver (platform : Platform) (env : Env) (system : System) (id : Nat) (now seenAt : Int)
    (delivery : Delivery) : System :=
  match passChecks env delivery with
  | .error response => system.put id ⟨delivery, .answered response⟩
  | .ok _ =>
      let (stores, answer) := checkReplay platform env system.stores now seenAt delivery
      let progress := answer.elim (startForward env) .answered
      { system.put id ⟨delivery, progress⟩ with stores }

def step (platform : Platform) (env : Env) (system : System) : Event → Option System
  | .deliver id now seenAt delivery =>
      match system.requests id with
      | some _ => none
      | none => some (deliver platform env system id now seenAt delivery)
  | .forwardDone id outcome =>
      match system.requests id with
      | some entry =>
          match entry.progress with
          | .forwarding => some (system.put id { entry with progress := finishForward outcome })
          | _ => none
      | none => none

/-! ### What an acknowledgement promises -/

/-- The delivery carries this event of this provider. -/
def Carries (platform : Platform) (delivery : Delivery) (provider : WebhookProvider)
    (event : JsString) : Prop :=
  delivery.provider = provider ∧ eventId platform delivery = some event

/-- A delivery of the event was forwarded. -/
def Forwarded (platform : Platform) (requests : Nat → Option Entry) (provider : WebhookProvider)
    (event : JsString) : Prop :=
  ∃ id entry, requests id = some entry ∧ Carries platform entry.delivery provider event ∧
    entry.progress = .forwarded

/-- Every verified event with an id that was answered with a 2xx was forwarded. -/
def Safe (platform : Platform) (system : System) : Prop :=
  ∀ id entry event response, system.requests id = some entry →
    entry.delivery.verification = .valid → eventId platform entry.delivery = some event →
    entry.progress.response = some response → 200 ≤ response.status → response.status < 300 →
    Forwarded platform system.requests entry.delivery.provider event

/-- The route went on to the forward. -/
def Progress.Attempted : Progress → Prop
  | .answered _ => False
  | _ => True

/-- A delivery of the event went on to its forward. -/
def Attempted (platform : Platform) (requests : Nat → Option Entry) (provider : WebhookProvider)
    (event : JsString) : Prop :=
  ∃ id entry, requests id = some entry ∧ Carries platform entry.delivery provider event ∧
    entry.progress.Attempted

/-- The replay check of the delivery meets the record of an earlier one. -/
def Recalled (platform : Platform) (env : Env) (stores : Stores) (now : Int)
    (delivery : Delivery) (event : JsString) : Prop :=
  match delivery.provider with
  | .gopay =>
      getGoPayWebhookIdempotencyPolicy env = .dedupe ∧
        WebhookIdempotency.Recorded (ledgerOptions env) stores.ledger now event
          (platform.sha256Hex delivery.body)
  | provider => ReplayStore.Live stores.replay now (replayKey provider event)

/-- A delivery that reaches the replay check has a key within the byte limit,
and while all forwards of its event are in flight or failed, the check no
longer recalls it. -/
def RepeatsForwarded (platform : Platform) (env : Env) (system : System) : Event → Prop
  | .deliver _ now _ delivery => passChecks env delivery = .ok () →
      ∀ event, eventId platform delivery = some event →
        (delivery.provider ≠ .gopay →
          ReplayStore.tooLong (replayOptions env) (replayKey delivery.provider event) = false) ∧
        (Attempted platform system.requests delivery.provider event →
          ¬Forwarded platform system.requests delivery.provider event →
          ¬Recalled platform env system.stores now delivery event)
  | .forwardDone _ _ => True

/-! ### The replay check -/

private theorem markStep_answer {env : Env} {stores : Stores} {now : Int} {key : JsString}
    {response : Response} (answered : (markStep env stores now key).2 = some response) :
    ReplayStore.tooLong (replayOptions env) key = true ∨
      ReplayStore.Live stores.replay now key := by
  apply (ReplayStore.markAndCheck_replay _ _ _ _).mp
  cases replay : (ReplayStore.markAndCheck (replayOptions env) stores.replay now key).2.replay with
  | true => rfl
  | false => simp [markStep, replay] at answered

private theorem markStep_found {env : Env} {stores : Stores} {now : Int} {key other : JsString}
    {expiresAt : Int}
    (found : (markStep env stores now key).1.replay.seen.find other = some expiresAt) :
    (other = key ∧ (markStep env stores now key).2 = none) ∨
      ∃ before, stores.replay.seen.find other = some before := by
  rcases ReplayStore.find_markAndCheck found with ⟨same, fresh⟩ | kept
  · exact Or.inl ⟨same, by simp [markStep, fresh]⟩
  · exact Or.inr kept

/-- An answer of the replay check with a 2xx repeats a recorded event or
rejects its key as too long. -/
theorem checkReplay_answer {platform : Platform} {env : Env} {stores : Stores} {now seenAt : Int}
    {delivery : Delivery} {event : JsString} {response : Response}
    (carried : eventId platform delivery = some event)
    (answered : (checkReplay platform env stores now seenAt delivery).2 = some response)
    (success : response.status < 300) :
    Recalled platform env stores now delivery event ∨
      delivery.provider ≠ .gopay ∧
        ReplayStore.tooLong (replayOptions env) (replayKey delivery.provider event) = true := by
  unfold checkReplay at answered
  cases provider : delivery.provider with
  | stripe =>
      simp only [eventId, provider, Option.bind_eq_some_iff] at carried
      obtain ⟨id, present, text⟩ := carried
      simp only [provider, present, text] at answered
      rcases markStep_answer answered with long | live
      · exact Or.inr ⟨by simp, long⟩
      · exact Or.inl (by simpa only [Recalled, provider] using live)
  | paypal =>
      simp only [eventId, provider] at carried
      simp only [provider, carried] at answered
      rcases markStep_answer answered with long | live
      · exact Or.inr ⟨by simp, long⟩
      · exact Or.inl (by simpa only [Recalled, provider] using live)
  | gopay =>
      simp only [provider] at answered
      split at answered
      · simp at answered
      · next refused =>
          rw [Option.some.injEq] at answered
          rw [← answered] at success
          rcases WebhookIdempotency.classify_ok success with ⟨id, normalized, accepted | repeated⟩
          · exact absurd accepted refused
          · left
            have sameId : id = event := by
              simp only [eventId, provider, Option.filter_eq_some_iff, Option.some.injEq] at carried
              exact (WebhookIdempotency.normalizedEventId_eq normalized).1.symm.trans carried.1
            rw [sameId] at repeated
            simpa only [Recalled, provider] using repeated

/-- A key in the replay store after the check was there before, or the check
recorded the event of the delivery and let it through. -/
theorem checkReplay_key {platform : Platform} {env : Env} {stores : Stores} {now seenAt : Int}
    {delivery : Delivery} {key : JsString} {expiresAt : Int}
    (found : (checkReplay platform env stores now seenAt delivery).1.replay.seen.find key =
      some expiresAt) :
    (∃ before, stores.replay.seen.find key = some before) ∨
      ∃ event, eventId platform delivery = some event ∧ delivery.provider ≠ .gopay ∧
        key = replayKey delivery.provider event ∧
        (checkReplay platform env stores now seenAt delivery).2 = none := by
  unfold checkReplay at found ⊢
  cases provider : delivery.provider with
  | stripe =>
      simp only [provider] at found ⊢
      cases present : stripeId platform delivery.body with
      | none => exact Or.inl ⟨expiresAt, by simpa only [present] using found⟩
      | some id =>
          simp only [present] at found ⊢
          cases text : id.toText with
          | none => exact Or.inl ⟨expiresAt, by simpa only [text] using found⟩
          | some event =>
              simp only [text] at found ⊢
              rcases markStep_found found with ⟨same, fresh⟩ | kept
              · refine Or.inr ⟨event, ?_, by simp, same, fresh⟩
                simp [eventId, provider, present, text]
              · exact Or.inl kept
  | paypal =>
      simp only [provider] at found ⊢
      cases present : delivery.transmissionId.filter (· ≠ []) with
      | none => exact Or.inl ⟨expiresAt, by simpa only [present] using found⟩
      | some event =>
          simp only [present] at found ⊢
          rcases markStep_found found with ⟨same, fresh⟩ | kept
          · refine Or.inr ⟨event, ?_, by simp, same, fresh⟩
            simpa only [eventId, provider] using present
          · exact Or.inl kept
  | gopay => exact Or.inl ⟨expiresAt, by simpa only [provider] using found⟩

/-- An id in the ledger after the check was there before, or the check recorded
the event of the delivery and let it through. -/
theorem checkReplay_ledger {platform : Platform} {env : Env} {stores : Stores} {now seenAt : Int}
    {delivery : Delivery} {event : JsString} {recorded : WebhookIdempotency.Entry}
    (found : (checkReplay platform env stores now seenAt delivery).1.ledger.find event =
      some recorded) :
    (∃ before, stores.ledger.find event = some before) ∨
      delivery.provider = .gopay ∧ eventId platform delivery = some event ∧
        (checkReplay platform env stores now seenAt delivery).2 = none := by
  unfold checkReplay at found ⊢
  cases provider : delivery.provider with
  | stripe =>
      left
      simp only [provider] at found
      split at found
      · exact ⟨recorded, found⟩
      · split at found
        · exact ⟨recorded, found⟩
        · exact ⟨recorded, found⟩
  | paypal =>
      left
      simp only [provider] at found
      split at found
      · exact ⟨recorded, found⟩
      · exact ⟨recorded, found⟩
  | gopay =>
      simp only [provider] at found ⊢
      rcases WebhookIdempotency.find_classify found with kept | ⟨normalized, accepted⟩
      · exact Or.inl ⟨recorded, kept⟩
      · refine Or.inr ⟨trivial, ?_, by simp [accepted]⟩
        have named := WebhookIdempotency.normalizedEventId_eq normalized
        simp [eventId, provider, named.1, named.2]

/-- The key of a Stripe or PayPal event names its provider and id. -/
theorem replayKey_injective {left right : WebhookProvider} {leftId rightId : JsString}
    (leftMarked : left ≠ .gopay) (rightMarked : right ≠ .gopay)
    (same : replayKey left leftId = replayKey right rightId) : left = right ∧ leftId = rightId := by
  cases left <;> cases right <;> simp_all [replayKey, js]

/-! ### Runs -/

/-- Deliveries stay, and what was attempted or forwarded stays so. -/
def Advances (before after : Nat → Option Entry) : Prop :=
  ∀ id entry, before id = some entry → ∃ later, after id = some later ∧
    later.delivery = entry.delivery ∧ (entry.progress = .forwarded → later.progress = .forwarded) ∧
    (entry.progress.Attempted → later.progress.Attempted)

theorem Forwarded.mono {platform : Platform} {before after : Nat → Option Entry}
    {provider : WebhookProvider} {event : JsString} (advances : Advances before after)
    (forwarded : Forwarded platform before provider event) :
    Forwarded platform after provider event := by
  rcases forwarded with ⟨id, entry, present, carries, done⟩
  rcases advances id entry present with ⟨later, laterPresent, same, stays, -⟩
  exact ⟨id, later, laterPresent, same ▸ carries, stays done⟩

theorem Attempted.mono {platform : Platform} {before after : Nat → Option Entry}
    {provider : WebhookProvider} {event : JsString} (advances : Advances before after)
    (attempted : Attempted platform before provider event) :
    Attempted platform after provider event := by
  rcases attempted with ⟨id, entry, present, carries, done⟩
  rcases advances id entry present with ⟨later, laterPresent, same, -, stays⟩
  exact ⟨id, later, laterPresent, same ▸ carries, stays done⟩

theorem advances_new {before : Nat → Option Entry} {id : Nat} (fresh : before id = none)
    (added : Entry) : Advances before (Function.update before id (some added)) := by
  intro other entry present
  have different : other ≠ id := by
    intro same
    simp [same, fresh] at present
  refine ⟨entry, ?_, rfl, fun done => done, fun done => done⟩
  rw [Function.update_of_ne different, present]

theorem finishForward_attempted (outcome : FetchOutcome) : (finishForward outcome).Attempted := by
  cases outcome with
  | responded ok => cases ok <;> trivial
  | aborted => trivial
  | failed => trivial

theorem advances_finished {before : Nat → Option Entry} {id : Nat} {entry : Entry}
    (present : before id = some entry) (forwarding : entry.progress = .forwarding)
    (outcome : FetchOutcome) :
    Advances before
      (Function.update before id (some { entry with progress := finishForward outcome })) := by
  intro other found otherPresent
  by_cases same : other = id
  · subst same
    have foundEq : found = entry := Option.some.inj (otherPresent.symm.trans present)
    subst foundEq
    refine ⟨_, Function.update_self _ _ _, rfl, ?_, fun _ => finishForward_attempted outcome⟩
    intro done
    simp [forwarding] at done
  · refine ⟨found, ?_, rfl, fun done => done, fun done => done⟩
    rw [Function.update_of_ne same, otherPresent]

/-- Everything the replay check recalls went on to a forward. -/
structure Accounted (platform : Platform) (system : System) : Prop where
  keys : ∀ key expiresAt, system.stores.replay.seen.find key = some expiresAt →
    ∃ provider event, provider ≠ .gopay ∧ key = replayKey provider event ∧
      Attempted platform system.requests provider event
  ledger : ∀ event recorded, system.stores.ledger.find event = some recorded →
    Attempted platform system.requests .gopay event

theorem accounted_initial (platform : Platform) : Accounted platform initial := by
  constructor
  · intro key expiresAt found
    simp [initial, ReplayStore.empty] at found
  · intro event recorded found
    simp [initial] at found

theorem Accounted.attempted {platform : Platform} {env : Env} {system : System} {now : Int}
    {delivery : Delivery} {event : JsString} (accounted : Accounted platform system)
    (recalled : Recalled platform env system.stores now delivery event) :
    Attempted platform system.requests delivery.provider event := by
  have live (marked : delivery.provider ≠ .gopay)
      (alive : ReplayStore.Live system.stores.replay now (replayKey delivery.provider event)) :
      Attempted platform system.requests delivery.provider event := by
    rcases alive with ⟨expiresAt, found, -⟩
    rcases accounted.keys _ _ found with ⟨provider, other, otherMarked, same, attempted⟩
    have named := replayKey_injective marked otherMarked same
    rw [named.1, named.2]
    exact attempted
  cases provider : delivery.provider with
  | stripe =>
      rw [← provider]
      exact live (by simp [provider]) (by simpa only [Recalled, provider] using recalled)
  | paypal =>
      rw [← provider]
      exact live (by simp [provider]) (by simpa only [Recalled, provider] using recalled)
  | gopay =>
      simp only [Recalled, provider] at recalled
      rcases recalled.2 with ⟨recorded, found, -⟩
      exact accounted.ledger event recorded found

private theorem Accounted.mono {platform : Platform} {before after : System}
    (accounted : Accounted platform before) (stores : after.stores = before.stores)
    (advances : Advances before.requests after.requests) : Accounted platform after := by
  constructor
  · intro key expiresAt found
    rw [stores] at found
    rcases accounted.keys key expiresAt found with ⟨provider, event, marked, same, attempted⟩
    exact ⟨provider, event, marked, same, attempted.mono advances⟩
  · intro event recorded found
    rw [stores] at found
    exact (accounted.ledger event recorded found).mono advances

theorem startForward_attempted {env : Env} (enabled : isWebhookWriteForwardEnabled env = true) :
    (startForward env).Attempted := by
  unfold startForward
  rw [if_pos enabled]
  cases workerNotifyToken env <;> trivial

/-- A delivery that its replay check let through has gone on to its forward. -/
private theorem attempted_self {platform : Platform} {env : Env}
    (enabled : isWebhookWriteForwardEnabled env = true) (requests : Nat → Option Entry) (id : Nat)
    {delivery : Delivery} {event : JsString} (carried : eventId platform delivery = some event)
    {answer : Option Response} (through : answer = none) :
    Attempted platform
      (Function.update requests id (some ⟨delivery, answer.elim (startForward env) .answered⟩))
      delivery.provider event := by
  refine ⟨id, _, Function.update_self _ _ _, ⟨rfl, carried⟩, ?_⟩
  simp only [through, Option.elim_none]
  exact startForward_attempted enabled

/-- What a step can do: refuse a new delivery, put one through the replay check,
or end the forward of one. -/
inductive Effect (platform : Platform) (env : Env) (system next : System) : Event → Prop where
  | refused (id : Nat) (now seenAt : Int) (delivery : Delivery) (response : Response)
      (fresh : system.requests id = none) (refusal : passChecks env delivery = .error response)
      (requests : next.requests =
        Function.update system.requests id (some ⟨delivery, .answered response⟩))
      (stores : next.stores = system.stores) :
      Effect platform env system next (.deliver id now seenAt delivery)
  | checked (id : Nat) (now seenAt : Int) (delivery : Delivery) (checked : Stores)
      (answer : Option Response) (fresh : system.requests id = none)
      (passed : passChecks env delivery = .ok ())
      (outcome : checkReplay platform env system.stores now seenAt delivery = (checked, answer))
      (requests : next.requests = Function.update system.requests id
        (some ⟨delivery, answer.elim (startForward env) .answered⟩))
      (stores : next.stores = checked) :
      Effect platform env system next (.deliver id now seenAt delivery)
  | finished (id : Nat) (outcome : FetchOutcome) (entry : Entry)
      (present : system.requests id = some entry) (forwarding : entry.progress = .forwarding)
      (requests : next.requests = Function.update system.requests id
        (some { entry with progress := finishForward outcome }))
      (stores : next.stores = system.stores) :
      Effect platform env system next (.forwardDone id outcome)

theorem step_effect {platform : Platform} {env : Env} {system next : System} {event : Event}
    (stepped : step platform env system event = some next) :
    Effect platform env system next event := by
  cases event with
  | deliver id now seenAt delivery =>
      cases fresh : system.requests id with
      | some entry => simp [step, fresh] at stepped
      | none =>
          simp only [step, fresh, Option.some.injEq] at stepped
          rw [← stepped]
          unfold deliver
          cases passed : passChecks env delivery with
          | error response => exact .refused id now seenAt delivery response fresh passed rfl rfl
          | ok _ =>
              cases outcome : checkReplay platform env system.stores now seenAt delivery with
              | mk checked answer =>
                  exact .checked id now seenAt delivery checked answer fresh passed outcome rfl rfl
  | forwardDone id outcome =>
      cases present : system.requests id with
      | none => simp [step, present] at stepped
      | some entry =>
          cases progress : entry.progress with
          | forwarding =>
              simp only [step, present, progress, Option.some.injEq] at stepped
              rw [← stepped]
              exact .finished id outcome entry present progress rfl rfl
          | _ => simp [step, present, progress] at stepped

theorem Effect.advances {platform : Platform} {env : Env} {system next : System} {event : Event}
    (effect : Effect platform env system next event) : Advances system.requests next.requests := by
  cases effect with
  | refused id now seenAt delivery response fresh refusal requests stores =>
      rw [requests]
      exact advances_new fresh _
  | checked id now seenAt delivery checked answer fresh passed outcome requests stores =>
      rw [requests]
      exact advances_new fresh _
  | finished id outcome entry present forwarding requests stores =>
      rw [requests]
      exact advances_finished present forwarding outcome

theorem accounted_step {platform : Platform} {env : Env}
    (enabled : isWebhookWriteForwardEnabled env = true) {system next : System} {event : Event}
    (accounted : Accounted platform system) (effect : Effect platform env system next event) :
    Accounted platform next := by
  have advances := effect.advances
  cases effect with
  | refused id now seenAt delivery response fresh refusal requests stores =>
      exact accounted.mono stores advances
  | finished id outcome entry present forwarding requests stores =>
      exact accounted.mono stores advances
  | checked id now seenAt delivery checked answer fresh passed outcome requests stores =>
      have storesEq : next.stores = (checkReplay platform env system.stores now seenAt delivery).1 := by
        rw [stores, outcome]
      have answerEq : (checkReplay platform env system.stores now seenAt delivery).2 = answer := by
        rw [outcome]
      constructor
      · intro key expiresAt found
        rw [storesEq] at found
        rcases checkReplay_key found with ⟨before, kept⟩ | ⟨event, carried, marked, same, through⟩
        · rcases accounted.keys key before kept with ⟨provider, event, marked, same, attempted⟩
          exact ⟨provider, event, marked, same, attempted.mono advances⟩
        · refine ⟨delivery.provider, event, marked, same, ?_⟩
          rw [requests]
          exact attempted_self enabled _ id carried (answerEq.symm.trans through)
      · intro event recorded found
        rw [storesEq] at found
        rcases checkReplay_ledger found with ⟨before, kept⟩ | ⟨provider, carried, through⟩
        · exact (accounted.ledger event before kept).mono advances
        · rw [← provider, requests]
          exact attempted_self enabled _ id carried (answerEq.symm.trans through)

/-- A verified delivery that fails a check is not acknowledged. -/
theorem passChecks_error {env : Env} {delivery : Delivery} {response : Response}
    (valid : delivery.verification = .valid) (refused : passChecks env delivery = .error response) :
    300 ≤ response.status := by
  simp only [passChecks, valid] at refused
  split at refused
  · cases refused
    decide
  · split at refused
    · cases refused
      decide
    · split at refused
      · cases refused
        decide
      · simp at refused

private theorem startForward_response {env : Env}
    (enabled : isWebhookWriteForwardEnabled env = true) {response : Response}
    (answered : (startForward env).response = some response) : 300 ≤ response.status := by
  unfold startForward at answered
  rw [if_pos enabled] at answered
  cases token : workerNotifyToken env with
  | none =>
      rw [token] at answered
      cases answered
      decide
  | some _ => simp [token, Progress.response] at answered

private theorem finishForward_response {outcome : FetchOutcome} {response : Response}
    (answered : (finishForward outcome).response = some response) (success : response.status < 300) :
    finishForward outcome = .forwarded := by
  cases outcome with
  | responded ok =>
      cases ok with
      | true => rfl
      | false => cases answered; contradiction
  | aborted => cases answered; contradiction
  | failed => cases answered; contradiction

/-- The answer to a new delivery is safe when its repeats were forwarded. -/
private theorem safe_deliver {platform : Platform} {env : Env}
    (enabled : isWebhookWriteForwardEnabled env = true) {system : System} {id : Nat}
    {now seenAt : Int} {delivery : Delivery} {event : JsString} {response : Response}
    (accounted : Accounted platform system)
    (repeats : RepeatsForwarded platform env system (.deliver id now seenAt delivery))
    (passed : passChecks env delivery = .ok ()) (carried : eventId platform delivery = some event)
    (answered : Progress.response
      ((checkReplay platform env system.stores now seenAt delivery).2.elim (startForward env)
        .answered) = some response) (success : response.status < 300) :
    Forwarded platform system.requests delivery.provider event := by
  have settled := repeats passed event carried
  cases answer : (checkReplay platform env system.stores now seenAt delivery).2 with
  | none =>
      rw [answer, Option.elim_none] at answered
      have refused : 300 ≤ response.status := startForward_response enabled answered
      omega
  | some given =>
      rw [answer] at answered
      have same : given = response := Option.some.inj answered
      rw [same] at answer
      rcases checkReplay_answer carried answer success with recalled | ⟨marked, long⟩
      · by_contra unforwarded
        exact settled.2 (accounted.attempted recalled) unforwarded recalled
      · have short := settled.1 marked
        rw [long] at short
        cases short

private theorem safe_step {platform : Platform} {env : Env}
    (enabled : isWebhookWriteForwardEnabled env = true) {system next : System} {event : Event}
    (accounted : Accounted platform system) (safe : Safe platform system)
    (repeats : RepeatsForwarded platform env system event)
    (effect : Effect platform env system next event) : Safe platform next := by
  have advances := effect.advances
  intro id entry carried response present valid carries answered success failure
  have kept (before : system.requests id = some entry) :
      Forwarded platform next.requests entry.delivery.provider carried :=
    (safe id entry carried response before valid carries answered success failure).mono advances
  cases effect with
  | refused added now seenAt delivery refusal fresh refused requests stores =>
      rw [requests] at present
      rcases update_eq_some present with ⟨-, rfl⟩ | ⟨-, before⟩
      · have given : refusal = response := Option.some.inj answered
        have := passChecks_error valid refused
        rw [given] at this
        omega
      · exact kept before
  | checked added now seenAt delivery checked answer fresh passed outcome requests stores =>
      rw [requests] at present
      rcases update_eq_some present with ⟨-, rfl⟩ | ⟨-, before⟩
      · have answerEq : (checkReplay platform env system.stores now seenAt delivery).2 = answer := by
          rw [outcome]
        rw [← answerEq] at answered
        exact (safe_deliver enabled accounted repeats passed carries answered failure).mono advances
      · exact kept before
  | finished ended outcome found foundPresent forwarding requests stores =>
      rw [requests] at present
      rcases update_eq_some present with ⟨same, rfl⟩ | ⟨-, before⟩
      · refine ⟨id, { found with progress := finishForward outcome }, ?_, ⟨rfl, carries⟩,
          finishForward_response answered failure⟩
        rw [requests, same, Function.update_self]
      · exact kept before

/-- With the forward enabled, in every run in which no delivery meets the record
of deliveries that are all in flight or failed, and no key is too long, every
verified event that was acknowledged had been forwarded. -/
theorem acknowledged_was_forwarded {platform : Platform} {env : Env}
    (enabled : isWebhookWriteForwardEnabled env = true) {events : List Event} {final : System}
    (reached : run (step platform env) initial events = some final)
    (meets : Meets (step platform env) (RepeatsForwarded platform env) initial events) :
    Safe platform final := by
  have holds : Accounted platform final ∧ Safe platform final := by
    refine run_invariant (fun system => Accounted platform system ∧ Safe platform system)
      (fun holds repeats stepped => ?_) ⟨accounted_initial platform, ?_⟩ meets reached
    · have effect := step_effect stepped
      exact ⟨accounted_step enabled holds.1 effect,
        safe_step enabled holds.1 holds.2 repeats effect⟩
    · intro id entry event response present
      simp [initial] at present
  exact holds.2

/-- A gateway that forwards webhooks to its worker. -/
def forwardingEnv : Env := fun name =>
  if name = "GATEWAY_WEBHOOK_WRITE_FORWARD_ENABLED" then some (js "1")
  else if name = "WORKER_AUTH_TOKEN" then some (js "worker-token")
  else none

/-- The body of a Stripe event. -/
def stripeBody : JsString := js "\x7b\"id\":\"evt_1\"\x7d"

/-- What the platform computes for that body. -/
def stripePlatform : Platform where
  parseJson body := if body = stripeBody then some (.obj [(js "id", .str (js "evt_1"))]) else none
  sha256Hex _ := js "40993c639ffb5f13a0a2ef5c93c965f10b405f2b87a379272381da2dbc158dfa"

/-- A verified delivery of that event. -/
def stripeDelivery : Delivery where
  provider := .stripe
  body := stripeBody
  transmissionId := none
  gopayEventId := none
  paused := false
  limited := false
  verification := .valid

/-- The event delivered and delivered again, the first forward answered. -/
def retriedRun (ok : Bool) : List Event :=
  [.deliver 0 1000 1000 stripeDelivery, .forwardDone 0 (.responded ok),
    .deliver 1 2000 2000 stripeDelivery]

set_option maxRecDepth 20000 in
theorem acknowledged_was_forwarded_retry :
    ∃ final, run (step stripePlatform forwardingEnv) initial (retriedRun true) = some final ∧
      Safe stripePlatform final := by
  refine ⟨_, rfl, @acknowledged_was_forwarded stripePlatform forwardingEnv (by decide)
    (retriedRun true) _ rfl ?_⟩
  apply Meets.cons rfl
  · intro _ event carried
    cases carried
    refine ⟨fun _ => by decide, ?_⟩
    intro attempted
    rcases attempted with ⟨id, entry, present, -⟩
    simp [initial] at present
  apply Meets.cons rfl trivial
  apply Meets.cons rfl
  · intro _ event carried
    cases carried
    refine ⟨fun _ => by decide, fun _ unforwarded => ?_⟩
    exact absurd ⟨0, _, rfl, ⟨rfl, rfl⟩, rfl⟩ unforwarded
  trivial

private def Progress.isForwarded : Progress → Bool
  | .forwarded => true
  | _ => false

set_option maxRecDepth 20000 in
/-- A Stripe event whose forward failed is acknowledged when Stripe retries it. -/
theorem acknowledged_not_forwarded :
    ¬∀ (platform : Platform) (env : Env) (events : List Event) (final : System),
      isWebhookWriteForwardEnabled env = true →
      run (step platform env) initial events = some final → Safe platform final := by
  intro claim
  have safe := claim stripePlatform forwardingEnv (retriedRun false) _ (by decide) rfl
  rcases safe 1 _ (js "evt_1") ⟨200, "replay"⟩ rfl rfl rfl rfl (by decide) (by decide) with
    ⟨other, earlier, present, -, forwarded⟩
  have unforwarded {entry : Entry} (quiet : entry.progress.isForwarded = false)
      (same : earlier = entry) : False := by
    simp [← same, forwarded, Progress.isForwarded] at quiet
  rcases update_eq_some present with ⟨-, same⟩ | ⟨-, present⟩
  · exact unforwarded rfl same
  rcases update_eq_some present with ⟨-, same⟩ | ⟨-, present⟩
  · exact unforwarded rfl same
  rcases update_eq_some present with ⟨-, same⟩ | ⟨-, present⟩
  · exact unforwarded rfl same
  · simp [initial] at present

end DarkmeshGateway.Gateway.WebhookForward
