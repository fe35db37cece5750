import DarkmeshGateway.SecretsWorker.ReplayClaim
import DarkmeshGateway.SecretsWorker.SignRoute

/-!
Contract: what a rejected request does to its nonce.

Owns `POST /inbox` and `POST /sign` around their replay check, with storage that
fails at any step, and when a later request with the nonce of a rejected one is
not refused because of it.

A request carries the outcomes of the checks in front of its replay check that
read other records: signatures, tokens, rate limits and the subject spray guard.

Does not own requests that run at the same time.
-/

namespace DarkmeshGateway.SecretsWorker.NonceRelease

open Foundation
open Foundation.Js
open SecretsWorker.Fields
open SecretsWorker.Inbox (replayWindow replayWindow_pos subjectLimit)
open SecretsWorker.InboxRetention (RetentionEnv UnixTime Expiry Stored bodyFields missing ttlSeconds)
open SecretsWorker.ReplayCheck
open SecretsWorker.ReplayClaim
open SecretsWorker.ReplayGuard (Fault replayKey)
open SecretsWorker.SignPolicy
open SecretsWorker.SignRoute

/-! ### Routes with a replay check -/

/-- A request that has reached its replay check: the texts of its subject and
nonce, and the rest of the route. -/
structure Reached (β : Type) where
  names : Option (JsString × JsString)
  after : Handler β

/-- A route with a replay check in its middle. -/
def guarded {β : Type} (env : Env) (bound : Bool) (answers : Answers)
    (before : Except HttpException (Reached β)) : Handler β := do
  let reached ← Stateful.lift before
  checkReplay env bound reached.names answers
  reached.after

/-! ### `POST /inbox` -/

/-- One request: the outcomes of its signature check and of the guards on its
address, the parsed body (`none` is invalid JSON), what the replay check meets,
the number of items listed for the subject (`none` when the listing throws), the
clock, and what the put of the item meets. -/
structure InboxPost where
  signature : Except HttpException Unit
  body : Option Json
  admission : Except HttpException Unit
  answers : Answers
  listed : Option Nat
  now : UnixTime
  put : Fault

def readInbox (request : InboxPost) : Except HttpException Fields := do
  request.signature
  let body ← request.body.elim (throw ⟨400, "invalid_json"⟩) pure
  let fields ← bodyFields body
  if missing (fields.get (js "subject")) || missing (fields.get (js "nonce")) ||
      missing (fields.get (js "payload")) then throw ⟨400, "missing_fields"⟩
  request.admission
  return fields

/-- The texts in `replay:${subj}:${nonce}`. -/
def inboxNames (fields : Fields) : Option (JsString × JsString) := do
  let subject ← (fields.get (js "subject")).bind Json.toText
  let nonce ← (fields.get (js "nonce")).bind Json.toText
  return (subject, nonce)

/-- The size of a payload of any type is that of its text. -/
def validatePayloadSize (env : Env) (payload : Option Json) : Except HttpException Unit :=
  if (envNumber [env.payloadMaxBytes] "16384").any (0 < ·) then do
    let text ← orTypeError (payload.bind Json.toText)
    Inbox.validatePayloadSize env text
  else .ok ()

/-- The second an item expires at; the store is given no number otherwise. -/
def expirySecond : Expiry → Option Nat
  | .seconds (.finite value) => some ⌊value⌋.toNat
  | _ => none

/-- A put that meets a fault throws. -/
def putOutcome : Fault → Except HttpException Unit
  | .none => .ok ()
  | _ => .error internalError

def putItem (fault : Fault) (key : JsString) (record : Record) (exp : Expiry) : Handler Unit :=
  fun storage =>
    let stored := { storage with kv := ExpiringStore.put storage.kv key record (expirySecond exp) }
    (putOutcome fault, if applies fault then stored else storage)

/-- The route behind its replay check. -/
def storeItem (env : Env) (retention : RetentionEnv) (request : InboxPost) (fields : Fields) :
    Handler Stored := do
  let payload := fields.get (js "payload")
  Stateful.lift (validatePayloadSize env payload)
  let count ← Stateful.lift (orTypeError request.listed)
  Stateful.lift (subjectLimit env count)
  let ttl ← Stateful.lift (ttlSeconds retention (fields.get (js "ttlSeconds")))
  let exp ← Stateful.lift (request.now.plus ttl)
  let itemKey ← Stateful.lift
    (InboxRetention.key (fields.get (js "subject")) (fields.get (js "nonce")))
  putItem request.put itemKey (.item payload exp.inItem) exp
  return { key := itemKey, payload, exp := exp.inItem, expiration := exp }

def postInbox (env : Env) (retention : RetentionEnv) (bound : Bool) (request : InboxPost) :
    Handler Stored :=
  guarded env bound request.answers
    ((readInbox request).map fun fields => ⟨inboxNames fields, storeItem env retention request fields⟩)

/-! ### `POST /sign` -/

/-- One request: the outcomes of its token and rate limit guards, the parsed
body, the clock, and what the replay check meets. -/
structure SignPost where
  token : Except HttpException Unit
  rateLimit : Except HttpException Unit
  body : Option Json
  now : Int
  answers : Answers

structure SignRead where
  body : Fields
  command : Fields
  context : SignContext
  nonce : JsString

def readSign (runtime : Runtime) (env : Env) (request : SignPost) :
    Except HttpException SignRead := do
  request.token
  request.rateLimit
  let body ← signBodyFields request.body
  let command ← canonicalizeSignBody body env
  let context ← enforceSignPolicy runtime env command
  let nonce ← signNonce command
  let windowSec ← signWindow env
  if !timestampFresh runtime command request.now windowSec then throw ⟨400, "stale_timestamp"⟩
  return { body, command, context, nonce }

/-- The route behind its replay check. -/
def signRead (runtime : Runtime) (env : Env) (read : SignRead) : Except HttpException Signing := do
  if payloadTooLarge env read.command then throw ⟨413, "payload_too_large"⟩
  let signed ← signCommand runtime env read.command
  return { body := read.body, command := read.command, context := read.context,
           message := signed.1, signature := signed.2 }

def postSign (runtime : Runtime) (env : Env) (bound : Bool) (request : SignPost) :
    Handler Signing :=
  guarded env bound request.answers
    ((readSign runtime env request).map fun read =>
      ⟨some (js "sign", read.nonce), Stateful.lift (signRead runtime env read)⟩)

/-! ### The routes without storage -/

theorem guarded_outcome {β : Type} (env : Env) (bound : Bool) (answers : Answers)
    (before : Except HttpException (Reached β)) (storage : Storage) :
    (guarded env bound answers before storage).1 = (do
      let reached ← before
      let checked := checkReplay env bound reached.names answers storage
      checked.1
      (reached.after checked.2).1) := by
  cases before with
  | error failure => rfl
  | ok reached =>
      simp only [guarded, bind, Stateful.lift, Except.bind]
      cases checked : checkReplay env bound reached.names answers storage with
      | mk outcome next => cases outcome <;> rfl

private theorem map_outcome {α β : Type} (f : α → β) (run : Except HttpException α) :
    run.map f = run >>= fun value => pure (f value) := by cases run <;> rfl

private theorem lift_bind_outcome {α β : Type} (outcome : Except HttpException α)
    (next : α → Handler β) (storage : Storage) :
    ((Stateful.lift outcome >>= next) storage).1 =
      outcome >>= fun value => (next value storage).1 := by
  cases outcome <;> rfl

theorem storeItem_outcome (env : Env) (retention : RetentionEnv) (request : InboxPost)
    (fields : Fields) (storage : Storage) :
    (storeItem env retention request fields storage).1 = (do
      validatePayloadSize env (fields.get (js "payload"))
      let count ← orTypeError request.listed
      subjectLimit env count
      let ttl ← ttlSeconds retention (fields.get (js "ttlSeconds"))
      let exp ← request.now.plus ttl
      let itemKey ← InboxRetention.key (fields.get (js "subject")) (fields.get (js "nonce"))
      putOutcome request.put
      return { key := itemKey, payload := fields.get (js "payload"), exp := exp.inItem,
               expiration := exp }) := by
  simp only [storeItem, lift_bind_outcome]
  refine bind_congr fun _ => bind_congr fun _ => bind_congr fun _ => bind_congr fun ttl => ?_
  refine bind_congr fun exp => bind_congr fun itemKey => ?_
  simp only [putItem, bind]
  cases putOutcome request.put <;> rfl

/-- The route is the one of the other model with these guards and this put. -/
theorem postInbox_outcome (env : Env) (retention : RetentionEnv) (bound : Bool)
    (request : InboxPost) (storage : Storage) :
    (postInbox env retention bound request storage).1 =
      InboxRetention.postInbox retention
        { signature := request.signature
          body := request.body
          guards := fun subject nonce payload => do
            request.admission
            let names : Option (JsString × JsString) := do
              let subject ← subject.bind Json.toText
              let nonce ← nonce.bind Json.toText
              return (subject, nonce)
            (checkReplay env bound names request.answers storage).1
            validatePayloadSize env payload
            let count ← orTypeError request.listed
            subjectLimit env count
          now := request.now
          put := putOutcome request.put } := by
  rw [postInbox, guarded_outcome, readInbox, InboxRetention.postInbox]
  simp only [map_outcome, bind_assoc, pure_bind]
  refine bind_congr fun _ => bind_congr fun body => bind_congr fun fields => ?_
  by_cases incomplete : (missing (fields.get (js "subject")) || missing (fields.get (js "nonce")) ||
      missing (fields.get (js "payload"))) = true
  · rw [if_pos incomplete, if_pos incomplete]
    rfl
  · rw [if_neg incomplete, if_neg incomplete]
    simp only [bind_assoc, pure_bind]
    refine bind_congr fun _ => bind_congr fun _ => ?_
    exact storeItem_outcome env retention request fields _

/-- The route is `sign` with the outcome of the replay check on the storage. -/
theorem postSign_outcome (runtime : Runtime) (env : Env) (bound : Bool) (request : SignPost)
    (storage : Storage) :
    (postSign runtime env bound request storage).1 =
      sign runtime env
        { token := request.token
          rateLimit := request.rateLimit
          body := request.body
          now := request.now
          replay := fun nonce =>
            (checkReplay env bound (some (js "sign", nonce)) request.answers storage).1 } := by
  rw [postSign, guarded_outcome, readSign, sign]
  simp only [map_outcome, bind_assoc, pure_bind]
  refine bind_congr fun _ => bind_congr fun _ => bind_congr fun body => ?_
  refine bind_congr fun command => bind_congr fun context => bind_congr fun nonce => ?_
  refine bind_congr fun windowSec => ?_
  by_cases stale : (!timestampFresh runtime command request.now windowSec) = true
  · rw [if_pos stale, if_pos stale]
    rfl
  · rw [if_neg stale, if_neg stale]
    rfl

/-! ### Behind the replay check -/

/-- No failure of the run is the one of a replay. -/
abbrev NoReplay {α : Type} (run : Except HttpException α) : Prop :=
  Outcome.FailsWith (· ≠ replayed) run

theorem noReplay_error {α : Type} {failure : HttpException} (other : failure.status ≠ 409) :
    NoReplay (.error failure : Except HttpException α) :=
  Outcome.failsWith_error fun same => other (congrArg HttpException.status same)

theorem noReplay_orTypeError {α : Type} (value : Option α) : NoReplay (orTypeError value) := by
  cases value with
  | none => exact noReplay_error (by decide)
  | some value => exact Outcome.failsWith_ok value

theorem noReplay_validatePayloadSize (env : Env) (payload : Option Json) :
    NoReplay (validatePayloadSize env payload) := by
  apply Outcome.failsWith_ite
  · apply Outcome.failsWith_bind (noReplay_orTypeError _)
    intro text
    exact Outcome.failsWith_ite (noReplay_error (by decide)) (Outcome.failsWith_ok ())
  · exact Outcome.failsWith_ok ()

theorem noReplay_ttlSeconds (retention : RetentionEnv) (reqTtl : Option Json) :
    NoReplay (ttlSeconds retention reqTtl) := by
  apply Outcome.failsWith_bind (noReplay_orTypeError _)
  intro first
  apply Outcome.failsWith_bind (noReplay_orTypeError _)
  intro raised
  exact Outcome.failsWith_ok _

theorem noReplay_plus (now : UnixTime) (ttl : InboxRetention.Ttl) : NoReplay (now.plus ttl) := by
  unfold UnixTime.plus
  split
  case h_5 value _ _ _ =>
    rw [map_outcome]
    exact Outcome.failsWith_bind (noReplay_orTypeError _) fun _ => Outcome.failsWith_ok _
  all_goals exact Outcome.failsWith_ok _

theorem noReplay_storeItem (env : Env) (retention : RetentionEnv) (request : InboxPost)
    (fields : Fields) (storage : Storage) :
    NoReplay (storeItem env retention request fields storage).1 := by
  rw [storeItem_outcome]
  apply Outcome.failsWith_bind (noReplay_validatePayloadSize env _)
  intro _
  apply Outcome.failsWith_bind (noReplay_orTypeError _)
  intro count
  apply Outcome.failsWith_bind
  · exact Outcome.failsWith_ite (noReplay_error (by decide)) (Outcome.failsWith_ok ())
  intro _
  apply Outcome.failsWith_bind (noReplay_ttlSeconds retention _)
  intro ttl
  apply Outcome.failsWith_bind (noReplay_plus request.now ttl)
  intro exp
  apply Outcome.failsWith_bind
  · exact Outcome.failsWith_bind (noReplay_orTypeError _) fun _ =>
      Outcome.failsWith_bind (noReplay_orTypeError _) fun _ => Outcome.failsWith_ok _
  intro itemKey
  apply Outcome.failsWith_bind
  · cases request.put with
    | none => exact Outcome.failsWith_ok ()
    | busy applied => exact noReplay_error (by decide)
    | broken applied => exact noReplay_error (by decide)
  intro _
  exact Outcome.failsWith_ok _

theorem noReplay_signCommand (runtime : Runtime) (env : Env) (command : Fields) :
    NoReplay (signCommand runtime env command) := by
  apply Outcome.failsWith_bind
  · exact Outcome.failsWith_ite (noReplay_error (by decide)) (Outcome.failsWith_ok ())
  intro _
  dsimp only
  split
  · exact noReplay_error (by decide)
  apply Outcome.failsWith_bind (noReplay_orTypeError _)
  intro message
  apply Outcome.failsWith_bind
  · exact Outcome.failsWith_ite (noReplay_error (by decide)) (Outcome.failsWith_ok ())
  intro _
  apply Outcome.failsWith_bind (noReplay_orTypeError _)
  intro signature
  exact Outcome.failsWith_ok _

theorem noReplay_signRead (runtime : Runtime) (env : Env) (read : SignRead) :
    NoReplay (signRead runtime env read) := by
  unfold signRead
  split
  · exact noReplay_error (by decide)
  apply Outcome.failsWith_bind (noReplay_signCommand runtime env read.command)
  intro signed
  exact Outcome.failsWith_ok _

/-- The marker of a check is left where it is. -/
def KeepsMarker (key : JsString) (before after : Storage) : Prop :=
  after.locks = before.locks ∧ after.kv.find key = before.kv.find key

instance (key : JsString) : Std.Refl (KeepsMarker key) where
  refl _ := ⟨rfl, rfl⟩

instance (key : JsString) : IsTrans Storage (KeepsMarker key) where
  trans _ _ _ first second := ⟨second.1.trans first.1, second.2.trans first.2⟩

theorem blocked_of_keepsMarker {env : Env} {bound : Bool} {key : JsString} {now : Nat}
    {before after : Storage} (kept : KeepsMarker key before after)
    (blocked : Blocked env bound key now before) : Blocked env bound key now after := by
  cases bound with
  | true =>
      rw [Blocked, if_pos rfl, kept.1]
      exact blocked
  | false =>
      refine ⟨blocked.1, ?_⟩
      rw [Absent, ExpiringStore.get, kept.2]
      exact blocked.2

/-- An item is not stored under the marker of its own check. -/
theorem itemKey_ne_replayKey (subject nonce : JsString) :
    subject ++ 58 :: nonce ≠ replayKey subject nonce := by
  intro same
  have lengths := congrArg List.length same
  simp [replayKey, js] at lengths
  omega

theorem inboxKey_ne_replayKey {fields : Fields} {names : JsString × JsString} {itemKey : JsString}
    (read : inboxNames fields = some names)
    (keyed : InboxRetention.key (fields.get (js "subject")) (fields.get (js "nonce")) = .ok itemKey) :
    replayKey names.1 names.2 ≠ itemKey := by
  obtain ⟨subject, subjectText, nonce, nonceText, same⟩ :
      ∃ subject, (fields.get (js "subject")).bind Json.toText = some subject ∧
        ∃ nonce, (fields.get (js "nonce")).bind Json.toText = some nonce ∧
          (subject, nonce) = names := by
    simpa [inboxNames, Option.bind_eq_some_iff] using read
  subst same
  simp only [InboxRetention.key, subjectText, nonceText, orTypeError] at keyed
  cases keyed
  exact (itemKey_ne_replayKey subject nonce).symm

theorem storeItem_keepsMarker (env : Env) (retention : RetentionEnv) (request : InboxPost)
    {fields : Fields} {names : JsString × JsString} (read : inboxNames fields = some names) :
    Stateful.Relates (KeepsMarker (replayKey names.1 names.2))
      (storeItem env retention request fields) := by
  apply Stateful.relates_lift_bind
  intro _ _
  apply Stateful.relates_lift_bind
  intro _ _
  apply Stateful.relates_lift_bind
  intro _ _
  apply Stateful.relates_lift_bind
  intro _ _
  apply Stateful.relates_lift_bind
  intro exp _
  apply Stateful.relates_lift_bind
  intro itemKey keyed
  have different : replayKey names.1 names.2 ≠ itemKey :=
    inboxKey_ne_replayKey read keyed
  apply Stateful.relates_bind
  · intro storage
    unfold putItem
    dsimp only
    split
    · exact ⟨rfl, OrderedMap.find_set_other _ different _⟩
    · exact ⟨rfl, rfl⟩
  · intro _
    exact Stateful.relates_pure _

theorem respects_putItem (bound : Bool) (now : Nat) (fault : Fault) (key : JsString)
    (record : Record) (exp : Expiry) :
    Stateful.Respects (Indistinct bound now) (Indistinct bound now)
      (putItem fault key record exp) := by
  intro left right indistinct
  refine ⟨rfl, ?_⟩
  unfold putItem
  dsimp only
  split
  · refine ⟨?_, indistinct.claims⟩
    intro other
    cases bound with
    | true => exact indistinct.alike other
    | false =>
        have sameKv : left.kv = right.kv := indistinct.alike other
        exact congrArg (ExpiringStore.put · key record (expirySecond exp)) sameKv
  · exact indistinct

theorem respects_storeItem (bound : Bool) (now : Nat) (env : Env) (retention : RetentionEnv)
    (request : InboxPost) (fields : Fields) :
    Stateful.Respects (Indistinct bound now) (Indistinct bound now)
      (storeItem env retention request fields) := by
  have computed {α : Type} (outcome : Except HttpException α) :
      Stateful.Respects (Indistinct bound now) (Indistinct bound now) (Stateful.lift outcome) :=
    Stateful.respects_lift (fun _ _ indistinct => indistinct) outcome
  apply Stateful.respects_bind (computed _)
  intro _
  apply Stateful.respects_bind (computed _)
  intro _
  apply Stateful.respects_bind (computed _)
  intro _
  apply Stateful.respects_bind (computed _)
  intro _
  apply Stateful.respects_bind (computed _)
  intro exp
  apply Stateful.respects_bind (computed _)
  intro itemKey
  apply Stateful.respects_bind (respects_putItem bound now _ _ _ _)
  intro _
  exact Stateful.respects_pure _

/-! ### Requests -/

inductive Request where
  | inbox (request : InboxPost)
  | sign (request : SignPost)

inductive Response where
  | stored (item : Stored)
  | signed (signing : Signing)

section Requests

variable (runtime : Runtime) (env : Env) (retention : RetentionEnv) (bound : Bool)

def Request.answers : Request → Answers
  | .inbox request => request.answers
  | .sign request => request.answers

/-- The request up to its replay check. -/
def Request.before : Request → Except HttpException (Reached Response)
  | .inbox request =>
      (readInbox request).map fun fields =>
        ⟨inboxNames fields, do return .stored (← storeItem env retention request fields)⟩
  | .sign request =>
      (readSign runtime env request).map fun read =>
        ⟨some (js "sign", read.nonce), do
          return .signed (← Stateful.lift (signRead runtime env read))⟩

def handle (request : Request) : Handler Response :=
  guarded env bound request.answers (request.before runtime env retention)

theorem handle_inbox (request : InboxPost) (storage : Storage) :
    handle runtime env retention bound (.inbox request) storage =
      ((postInbox env retention bound request storage).1.map .stored,
        (postInbox env retention bound request storage).2) := by
  simp only [handle, Request.before, Request.answers, postInbox, guarded]
  cases readInbox request with
  | error failure => rfl
  | ok fields =>
      simp only [Except.map, bind, Stateful.lift]
      cases checkReplay env bound (inboxNames fields) request.answers storage with
      | mk checked next =>
          cases checked with
          | error failure => rfl
          | ok _ =>
              dsimp only
              cases storeItem env retention request fields next with
              | mk outcome after => cases outcome <;> rfl

theorem handle_sign (request : SignPost) (storage : Storage) :
    handle runtime env retention bound (.sign request) storage =
      ((postSign runtime env bound request storage).1.map .signed,
        (postSign runtime env bound request storage).2) := by
  simp only [handle, Request.before, Request.answers, postSign, guarded]
  cases readSign runtime env request with
  | error failure => rfl
  | ok read =>
      simp only [Except.map, bind, Stateful.lift]
      cases checkReplay env bound (some (js "sign", read.nonce)) request.answers storage with
      | mk checked next =>
          cases checked with
          | error failure => rfl
          | ok _ => cases signRead runtime env read <;> rfl

/-- The subject and the nonce a request checks; `none` when it is refused before
its check, or they have no text. -/
def Request.names (request : Request) : Option (JsString × JsString) :=
  (request.before runtime env retention).toOption.bind Reached.names

/-- What requests one after the other make of the storage. -/
def serve (requests : List Request) (storage : Storage) : Storage :=
  requests.foldl (fun storage request => (handle runtime env retention bound request storage).2)
    storage

/-- The two requests check one subject and one nonce. -/
def SameNonce (first second : Request) : Prop :=
  ∃ names, first.names runtime env retention = some names ∧
    second.names runtime env retention = some names

/-- The second request comes after the first one and those in between, and within
the replay window of the first one. -/
def WithinWindow (first : Request) (between : List Request) (second : Request) : Prop :=
  ((first :: (between ++ [second])).map (·.answers.now)).Pairwise (· ≤ ·) ∧
    ∀ ttl, replayWindow env = .ok ttl → (second.answers.now : Int) ≤ first.answers.now + ttl

/-- The second request is answered with a replay, but not if the first one had
never been made. -/
def RefusedBecauseOf (storage : Storage) (first : Request) (between : List Request)
    (second : Request) : Prop :=
  let after := (handle runtime env retention bound first storage).2
  (handle runtime env retention bound second
      (serve runtime env retention bound between after)).1 = .error replayed ∧
    (handle runtime env retention bound second
      (serve runtime env retention bound between storage)).1 ≠ .error replayed

/-- The request is refused before its replay check, or the check leaves no claim
that was not there before. -/
def LeavesNoClaim (storage : Storage) (request : Request) : Prop :=
  ∀ names ttl, request.names runtime env retention = some names → replayWindow env = .ok ttl →
    ¬LeavesClaim env bound request.answers (replayKey names.1 names.2) storage

/-! ### A rejected request -/

variable {runtime env retention bound}

/-- What is behind a replay check answers no replay, is the same to storages no
check can tell apart, and leaves the marker of the check. -/
structure Behind (env : Env) (bound : Bool) (reached : Reached Response) : Prop where
  noReplay : ∀ storage, NoReplay (reached.after storage).1
  respects : ∀ now, Stateful.Respects (Indistinct bound now) (Indistinct bound now) reached.after
  keeps : ∀ names, reached.names = some names →
    Stateful.Relates (KeepsMarker (replayKey names.1 names.2)) reached.after

theorem noReplay_returned {α β : Type} {run : Handler α} {wrap : α → β} {storage : Storage}
    (fails : NoReplay (run storage).1) :
    NoReplay ((do return wrap (← run) : Handler β) storage).1 := by
  intro failure failed
  apply fails failure
  simp only [bind] at failed
  cases ran : run storage with
  | mk outcome next =>
      rw [ran] at failed
      cases outcome with
      | error raised =>
          cases failed
          rfl
      | ok value => cases failed

theorem behind (bound : Bool) {request : Request} {reached : Reached Response}
    (before : request.before runtime env retention = .ok reached) : Behind env bound reached := by
  cases request with
  | inbox request =>
      cases read : readInbox request with
      | error failure => simp [Request.before, read, Except.map] at before
      | ok fields =>
          simp only [Request.before, read, Except.map, Except.ok.injEq] at before
          subst before
          refine ⟨?_, ?_, ?_⟩
          · intro storage
            exact noReplay_returned (noReplay_storeItem env retention request fields storage)
          · intro now
            apply Stateful.respects_bind (respects_storeItem bound now env retention request fields)
            intro item
            exact Stateful.respects_pure _
          · intro names named
            apply Stateful.relates_bind (storeItem_keepsMarker env retention request named)
            intro item
            exact Stateful.relates_pure _
  | sign request =>
      cases ran : readSign runtime env request with
      | error failure => simp [Request.before, ran, Except.map] at before
      | ok read =>
          simp only [Request.before, ran, Except.map, Except.ok.injEq] at before
          subst before
          let signs : Handler Signing := Stateful.lift (signRead runtime env read)
          have fails (storage : Storage) : NoReplay (signs storage).1 :=
            noReplay_signRead runtime env read
          refine ⟨fun storage => noReplay_returned (fails storage), ?_, ?_⟩
          · intro now
            apply Stateful.respects_bind
              (Stateful.respects_lift (fun _ _ indistinct => indistinct) _)
            intro signing
            exact Stateful.respects_pure _
          · intro names named
            have keeps : Stateful.Relates (KeepsMarker (replayKey names.1 names.2)) signs :=
              Stateful.relates_lift _
            apply Stateful.relates_bind keeps
            intro signing
            exact Stateful.relates_pure _

theorem handle_before_error {request : Request} {failure : HttpException} {storage : Storage}
    (before : request.before runtime env retention = .error failure) :
    handle runtime env retention bound request storage = (.error failure, storage) := by
  simp [handle, guarded, bind, Stateful.lift, before]

/-- A request that reaches its replay check is answered with a replay exactly
when the check does. -/
theorem handle_replayed_iff {request : Request} {reached : Reached Response} {storage : Storage}
    (before : request.before runtime env retention = .ok reached) :
    (handle runtime env retention bound request storage).1 = .error replayed ↔
      (checkReplay env bound reached.names request.answers storage).1 = .error replayed := by
  have afterwards := (behind bound before).noReplay
    (checkReplay env bound reached.names request.answers storage).2
  simp only [handle, guarded, bind, Stateful.lift, before]
  cases checked : checkReplay env bound reached.names request.answers storage with
  | mk outcome next =>
      cases outcome with
      | error failure => simp
      | ok _ =>
          rw [checked] at afterwards
          constructor
          · intro failed
            exact absurd rfl (afterwards replayed failed)
          · intro failed
            cases failed

/-- Storages that no check can tell apart answer a request alike. -/
theorem respects_handle (request : Request) {now : Nat} (ordered : now ≤ request.answers.now) :
    Stateful.Respects (Indistinct bound now) (Indistinct bound request.answers.now)
      (handle runtime env retention bound request) := by
  unfold handle guarded
  cases before : request.before runtime env retention with
  | error failure =>
      exact Stateful.respects_lift_error (fun _ _ indistinct => indistinct.later ordered) failure _
  | ok reached =>
      have checks : Stateful.Respects (Indistinct bound now) (Indistinct bound request.answers.now)
          (checkReplay env bound reached.names request.answers) :=
        respects_checkReplay env reached.names ordered
      show Stateful.Respects _ _
        (checkReplay env bound reached.names request.answers >>= fun _ => reached.after)
      apply Stateful.respects_bind checks
      intro _
      exact (behind bound before).respects request.answers.now

theorem serve_cons (request : Request) (requests : List Request) (storage : Storage) :
    serve runtime env retention bound (request :: requests) storage =
      serve runtime env retention bound requests
        (handle runtime env retention bound request storage).2 := rfl

/-- Requests in between do not tell the storages apart either. -/
theorem outcome_serve (between : List Request) (second : Request) {now : Nat}
    {left right : Storage}
    (ordered : (now :: (between ++ [second]).map (·.answers.now)).Pairwise (· ≤ ·))
    (indistinct : Indistinct bound now left right) :
    (handle runtime env retention bound second
        (serve runtime env retention bound between left)).1 =
      (handle runtime env retention bound second
        (serve runtime env retention bound between right)).1 := by
  induction between generalizing now left right with
  | nil =>
      have later : now ≤ second.answers.now := by simpa using ordered
      exact (respects_handle second later left right indistinct).1
  | cons request between inductionHypothesis =>
      obtain ⟨first, rest⟩ := List.pairwise_cons.mp ordered
      have later : now ≤ request.answers.now := first _ (by simp)
      rw [serve_cons, serve_cons]
      exact inductionHypothesis rest (respects_handle request later left right indistinct).2

theorem names_of_before {request : Request} {reached : Reached Response}
    (before : request.before runtime env retention = .ok reached) :
    request.names runtime env retention = reached.names := by
  simp [Request.names, before, Except.toOption]

theorem handle_stopped {request : Request} {reached : Reached Response} {storage : Storage}
    {failure : HttpException} (before : request.before runtime env retention = .ok reached)
    (stopped : (checkReplay env bound reached.names request.answers storage).1 = .error failure) :
    handle runtime env retention bound request storage =
      (.error failure, (checkReplay env bound reached.names request.answers storage).2) := by
  simp only [handle, guarded, bind, Stateful.lift, before]
  cases checked : checkReplay env bound reached.names request.answers storage with
  | mk outcome next =>
      rw [checked] at stopped
      dsimp only at stopped
      subst stopped
      rfl

theorem handle_passed {request : Request} {reached : Reached Response} {storage : Storage}
    (before : request.before runtime env retention = .ok reached)
    (passed : (checkReplay env bound reached.names request.answers storage).1 = .ok ()) :
    handle runtime env retention bound request storage =
      reached.after (checkReplay env bound reached.names request.answers storage).2 := by
  simp only [handle, guarded, bind, Stateful.lift, before]
  cases checked : checkReplay env bound reached.names request.answers storage with
  | mk outcome next =>
      rw [checked] at passed
      dsimp only at passed
      subst passed
      rfl

/-- A request that fails without a replay and leaves no claim leaves the storage
as it was to every later check. -/
theorem handle_left {request : Request} {storage : Storage} {failure : HttpException}
    (rejected : (handle runtime env retention bound request storage).1 = .error failure)
    (other : failure ≠ replayed)
    (released : LeavesNoClaim runtime env retention bound storage request) :
    Indistinct bound request.answers.now (handle runtime env retention bound request storage).2
      storage := by
  cases before : request.before runtime env retention with
  | error raised =>
      rw [handle_before_error before]
      exact .refl _ _
  | ok reached =>
      have accepted : (checkReplay env bound reached.names request.answers storage).1 ≠
          .error replayed := by
        intro replays
        have same := rejected.symm.trans ((handle_replayed_iff before).mpr replays)
        exact other (Except.error.inj same)
      cases window : replayWindow env with
      | error raised =>
          have checked : checkReplay env bound reached.names request.answers storage =
              (.error raised, storage) := checkReplay_window window
          rw [handle_stopped before (congrArg Prod.fst checked), checked]
          exact .refl _ _
      | ok ttl =>
          cases named : reached.names with
          | none =>
              rw [named] at accepted
              have checked : checkReplay env bound reached.names request.answers storage =
                  (.error internalError, storage) := by
                rw [named]
                exact checkReplay_nameless window
              rw [handle_stopped before (congrArg Prod.fst checked), checked]
              exact .refl _ _
          | some names =>
              have free := released names ttl ((names_of_before before).trans named) window
              rw [named] at accepted
              have left := checkReplay_left window accepted free
              cases outcome : (checkReplay env bound (some names) request.answers storage).1 with
              | ok _ => exact absurd (checkReplay_succeeds window (replayWindow_pos window) outcome) free
              | error raised =>
                  rw [← named] at outcome left
                  rw [handle_stopped before outcome]
                  exact left

/-- The same request when no storage step of its check fails. -/
def Request.calm : Request → Request
  | .inbox request => .inbox { request with answers := request.answers.calm }
  | .sign request => .sign { request with answers := request.answers.calm }

theorem calm_answers (request : Request) : request.calm.answers = request.answers.calm := by
  cases request <;> rfl

/-- The request and its calm one check one nonce. -/
theorem calm_names (request : Request) :
    request.calm.names runtime env retention = request.names runtime env retention := by
  cases request with
  | sign request => rfl
  | inbox request =>
      have sameRead : readInbox { request with answers := request.answers.calm } =
          readInbox request := rfl
      simp only [Request.names, Request.calm, Request.before, sameRead]
      cases readInbox request <;> rfl

/-- The calm request is answered with a replay exactly when its check is. -/
theorem calm_replayed_iff {request : Request} {names : JsString × JsString} {storage : Storage}
    (named : request.names runtime env retention = some names) :
    (handle runtime env retention bound request.calm storage).1 = .error replayed ↔
      (checkReplay env bound (some names) request.answers.calm storage).1 = .error replayed := by
  have calmNamed := (calm_names request).trans named
  cases before : request.calm.before runtime env retention with
  | error failure => simp [Request.names, before, Except.toOption] at calmNamed
  | ok reached =>
      rw [handle_replayed_iff before, ← names_of_before before, calmNamed, calm_answers]

/-- A request that leaves a claim is the reason its calm one is refused. -/
theorem calm_refused {request : Request} {storage : Storage} {failure : HttpException}
    {names : JsString × JsString} {ttl : Int}
    (rejected : (handle runtime env retention bound request storage).1 = .error failure)
    (other : failure ≠ replayed) (named : request.names runtime env retention = some names)
    (window : replayWindow env = .ok ttl)
    (leaves : LeavesClaim env bound request.answers (replayKey names.1 names.2) storage) :
    RefusedBecauseOf runtime env retention bound storage request [] request.calm := by
  cases before : request.before runtime env retention with
  | error raised => simp [Request.names, before, Except.toOption] at named
  | ok reached =>
      have reachedNames := (names_of_before before).symm.trans named
      have accepted : (checkReplay env bound (some names) request.answers storage).1 ≠
          .error replayed := by
        intro replays
        rw [← reachedNames] at replays
        have same := rejected.symm.trans ((handle_replayed_iff before).mpr replays)
        exact other (Except.error.inj same)
      obtain ⟨freeBefore, blocked⟩ :=
        checkReplay_leaves window (replayWindow_pos window) accepted leaves
      have blockedAfter : Blocked env bound (replayKey names.1 names.2) request.answers.now
          (handle runtime env retention bound request storage).2 := by
        cases outcome : (checkReplay env bound reached.names request.answers storage).1 with
        | error raised =>
            rw [handle_stopped before outcome, reachedNames]
            exact blocked
        | ok _ =>
            rw [handle_passed before outcome]
            rw [reachedNames] at outcome ⊢
            exact blocked_of_keepsMarker ((behind bound before).keeps names reachedNames _)
              blocked
      constructor
      · exact (calm_replayed_iff named).mpr
          (checkReplay_blocked window (replayWindow_pos window) blockedAfter)
      · intro replays
        have refused := (calm_replayed_iff named).mp replays
        exact absurd (freeBefore.symm.trans refused) (by simp)

/-- A rejected request is never the reason a later one with its nonce is answered
with a replay exactly when it leaves no claim. -/
theorem nonce_free_iff (storage : Storage) (first : Request) (failure : HttpException)
    (rejected : (handle runtime env retention bound first storage).1 = .error failure)
    (other : failure ≠ replayed) :
    (∀ between second, SameNonce runtime env retention first second →
        WithinWindow env first between second →
        ¬RefusedBecauseOf runtime env retention bound storage first between second) ↔
      LeavesNoClaim runtime env retention bound storage first := by
  constructor
  · intro free names ttl named window leaves
    have sameTime : first.calm.answers.now = first.answers.now := by
      rw [calm_answers]
      rfl
    apply free [] first.calm
    · exact ⟨names, named, (calm_names first).trans named⟩
    · refine ⟨by simp [sameTime], ?_⟩
      intro ttl window
      have positive := replayWindow_pos window
      omega
    · exact calm_refused rejected other named window leaves
  · intro released between second _ within refused
    have left := handle_left rejected other released
    have same : (handle runtime env retention bound second (serve runtime env retention bound
        between (handle runtime env retention bound first storage).2)).1 =
          (handle runtime env retention bound second
            (serve runtime env retention bound between storage)).1 :=
      outcome_serve between second within.1 left
    exact refused.2 (same.symm.trans refused.1)

end Requests

/-! ### An item that is too large -/

def tinyEnv : Env := { payloadMaxBytes := some (js "1") }

def emptyStorage : Storage := ⟨OrderedMap.empty, fun _ => none, fun _ => OrderedMap.empty⟩

/-- An item for one subject and nonce. -/
def itemPost (payload : String) : Request :=
  .inbox
    { signature := .ok ()
      body := some (.obj [(js "subject", .str (js "s")), (js "nonce", .str (js "n")),
        (js "payload", .str (js payload))])
      admission := .ok ()
      answers := { isolate := 0, now := 0, random := fun _ => [] }
      listed := some 0
      now := ⟨0, by decide⟩
      put := .none }

theorem oversized_rejected :
    (handle plainRuntime tinyEnv {} false (itemPost "pp") emptyStorage).1 =
      .error ⟨413, "payload_too_large"⟩ := rfl

theorem oversized_free_iff :
    (∀ between second, SameNonce plainRuntime tinyEnv {} (itemPost "pp") second →
        WithinWindow tinyEnv (itemPost "pp") between second →
        ¬RefusedBecauseOf plainRuntime tinyEnv {} false emptyStorage (itemPost "pp") between
          second) ↔
      LeavesNoClaim plainRuntime tinyEnv {} false emptyStorage (itemPost "pp") :=
  nonce_free_iff emptyStorage (itemPost "pp") ⟨413, "payload_too_large"⟩ oversized_rejected
    (by decide)

/-- The item is refused for its size; with a smaller payload it is then refused
as a replay, and stored if the first one was never sent. -/
theorem oversized_item_burns_nonce :
    (handle plainRuntime tinyEnv {} false (itemPost "pp") emptyStorage).1 =
        .error ⟨413, "payload_too_large"⟩ ∧
      SameNonce plainRuntime tinyEnv {} (itemPost "pp") (itemPost "p") ∧
      WithinWindow tinyEnv (itemPost "pp") [] (itemPost "p") ∧
      RefusedBecauseOf plainRuntime tinyEnv {} false emptyStorage (itemPost "pp") []
        (itemPost "p") := by
  have within (ttl : Int) (window : replayWindow tinyEnv = .ok ttl) : (0 : Int) ≤ 0 + ttl := by
    have positive := replayWindow_pos window
    omega
  refine ⟨rfl, ⟨(js "s", js "n"), rfl, rfl⟩, ⟨by decide, within⟩, rfl, ?_⟩
  intro refused
  have stored : (handle plainRuntime tinyEnv {} false (itemPost "p") emptyStorage).1.toOption.isSome =
    true := rfl
  have notStored : (handle plainRuntime tinyEnv {} false (itemPost "p") emptyStorage).1.toOption =
    none := congrArg Except.toOption refused
  rw [notStored] at stored
  cases stored

end DarkmeshGateway.SecretsWorker.NonceRelease
