import DarkmeshGateway.Foundation.Delimited
import DarkmeshGateway.Foundation.ExpiringStore
import DarkmeshGateway.Foundation.Machine
import DarkmeshGateway.Foundation.Stateful
import DarkmeshGateway.SecretsWorker.Fields
import DarkmeshGateway.SecretsWorker.ReplayGuard
import DarkmeshGateway.SecretsWorker.ReplayLock

/-!
Contract: the inbox routes over their shared key-value namespace and the lock
objects of replay keys.

Owns the keys of items, replay markers and rate-limit records, and the routes
that write, read and forget them one request at a time, whether the lock
objects are bound or not.

A stored record carries, beside the value the code stores, the identity it was
written for; no route reads that identity. A request meets no storage fault.
Listings are those of the in-memory namespace, for a clock that does not run
backwards and but for their order: an expired entry stays until it is overwritten
or deleted, where that namespace drops it when a read meets it. The order decides
only which keys a forget over its limit takes.

Does not own signatures, tokens and the time to live of an item: a call
carries their outcomes.
-/

namespace DarkmeshGateway.SecretsWorker.Inbox

open Foundation
open Foundation.Js
open Foundation.Machine
open Foundation.Delimited
open SecretsWorker.Fields
open SecretsWorker.ReplayGuard (replayKey)
open SecretsWorker.ReplayLock (Lock Lock.fetch)

/-! ### Records -/

def key (subject nonce : JsString) : JsString := subject ++ 58 :: nonce

def itemPrefix (subject : JsString) : JsString := subject ++ [58]

def replayPrefix (subject : JsString) : JsString := js "replay:" ++ subject ++ [58]

/-- What a record is about. -/
inductive RecordId where
  | item (subject nonce : JsString)
  | marker (subject nonce : JsString)
  | rate (ip : JsString)
  | spray (ip subject : JsString)
  | sprayCount (ip : JsString)
deriving DecidableEq

/-- The key a record is stored under. -/
def RecordId.encode : RecordId → JsString
  | .item subject nonce => key subject nonce
  | .marker subject nonce => replayKey subject nonce
  | .rate ip => js "rl:" ++ ip
  | .spray ip subject => js "rlsub:" ++ ip ++ 58 :: subject
  | .sprayCount ip => js "rlsubcount:" ++ ip

/-- The expiry of an item: `exp` as its JSON writes it, and the last second at which a
read finds the item. A fraction ends with its whole second; `NaN` and a text that is
no numeral never end. -/
structure Expiry where
  json : JsString
  last : Option Nat
deriving DecidableEq

/-- The item can still be read. -/
def Expiry.alive (exp : Expiry) (now : Nat) : Bool := exp.last.all fun last => now ≤ last

/-- A stored text, by the `JSON.stringify` or literal that wrote it. -/
inductive KvValue where
  | item (payload exp : JsString)
  | counter (count : Nat) (reset : Option Int)
  | text (content : JsString)
deriving DecidableEq

structure Record where
  owner : RecordId
  value : KvValue

abbrev Kv := ExpiringStore JsString Record

/-- `count` and `reset` of the parsed text; a text that is not JSON throws. -/
def KvValue.counterView : KvValue → Except HttpException (Nat × Option Int)
  | .counter count reset => .ok (count, reset)
  | .item _ _ => .ok (0, none)
  | .text content => if content = js "1" then .ok (0, none) else .error internalError

/-- `payload` and `exp` of the parsed text. -/
def KvValue.itemView : KvValue → Except HttpException (Option JsString × Option JsString)
  | .item payload exp => .ok (some payload, some exp)
  | .counter _ _ => .ok (none, none)
  | .text content =>
      if content = js "1" then .ok (none, none) else .error ⟨500, "inbox_item_corrupt"⟩

/-! ### Storage steps -/

/-- The namespace and the lock object of each replay key. -/
structure Storage where
  kv : Kv
  locks : JsString → Lock

def Storage.empty : Storage := ⟨.empty, fun _ => none⟩

abbrev KvHandler (α : Type) := Stateful Kv HttpException α

abbrev Handler (α : Type) := Stateful Storage HttpException α

def onKv {α : Type} (action : KvHandler α) : Handler α := fun storage =>
  let result := action storage.kv
  (result.1, { storage with kv := result.2 })

def readRecord (now : Nat) (id : RecordId) : KvHandler (Option KvValue) :=
  Stateful.observe fun kv => (ExpiringStore.get kv now id.encode).map Record.value

def writeRecord (id : RecordId) (value : KvValue) (expires : Option Nat) : KvHandler Unit :=
  Stateful.update fun kv => ExpiringStore.put kv id.encode ⟨id, value⟩ expires

def deleteRecord (id : RecordId) : KvHandler Unit :=
  Stateful.update fun kv => OrderedMap.erase kv id.encode

/-- The expiry `put` derives from `expirationTtl`; `NaN` and zero set none. -/
def expirationTtl (now : Nat) (ttl : Option Int) : Option Nat :=
  match ttl with
  | none => none
  | some seconds => if seconds = 0 ∨ now + seconds = 0 then none else some (now + seconds).toNat

/-! ### Guards -/

/-- `count >= max`; `NaN` is no limit. -/
def atLimit (max : Option Int) (count : Nat) : Bool := max.any fun max => max ≤ (count : Int)

/-- `reset && now < reset`. -/
def windowOpen (now : Nat) (reset : Option Int) : Bool :=
  reset.any fun reset => reset ≠ 0 ∧ (now : Int) < reset

def rateLimit (env : Env) (ip : JsString) (now : Nat) : KvHandler Unit := do
  let max := envNumber [env.rateLimitMax] "50"
  let ttl := (envNumber [env.rateLimitWindow] "60").map (· + 5)
  if max.any (· ≤ 0) then return ()
  let fresh : KvValue := .counter 1 (ttl.map (now + ·))
  match ← readRecord now (.rate ip) with
  | none => writeRecord (.rate ip) fresh (expirationTtl now ttl)
  | some raw =>
      let (count, reset) ← Stateful.lift raw.counterView
      let running := windowOpen now reset
      if running ∧ atLimit max count then Stateful.fail ⟨429, "rate_limited"⟩
      else
        writeRecord (.rate ip) (if running then .counter (count + 1) reset else fresh)
          (expirationTtl now ttl)

/-- The subjects counted for an address in its open window. -/
def currentSprayCount (ip : JsString) (now : Nat) : KvHandler Nat := do
  match ← readRecord now (.sprayCount ip) with
  | none => return 0
  | some raw =>
      let (count, reset) ← Stateful.lift raw.counterView
      return (if windowOpen now reset then count else 0)

def subjectSprayGuard (env : Env) (ip subject : JsString) (now : Nat) : KvHandler Unit := do
  let max := envNumber [env.uniqueSubjectMaxPerIp] "20"
  let ttl := (envNumber [env.uniqueSubjectWindow, env.rateLimitWindow] "60").map (· + 5)
  if max.any (· ≤ 0) then return ()
  match ← readRecord now (.spray ip subject) with
  | some _ => return ()
  | none =>
      let count ← currentSprayCount ip now
      if atLimit max count then Stateful.fail ⟨429, "notify_subject_spray"⟩
      else do
        writeRecord (.spray ip subject) (.text (js "1")) (expirationTtl now ttl)
        writeRecord (.sprayCount ip) (.counter (count + 1) (ttl.map (now + ·)))
          (expirationTtl now ttl)

def replayWindow (env : Env) : Except HttpException Int :=
  match (envNumber [env.replayTtl] "600").filter isFiniteInt with
  | none => .error ⟨500, "invalid_replay_ttl"⟩
  | some ttl => if ttl ≤ 0 then .error ⟨500, "invalid_replay_ttl"⟩ else .ok ttl

/-- A window that is read is longer than nothing. -/
theorem replayWindow_pos {env : Env} {ttl : Int} (window : replayWindow env = .ok ttl) :
    0 < ttl := by
  unfold replayWindow at window
  split at window
  next => cases window
  next =>
    split at window
    · cases window
    · cases window
      omega

def replayed : HttpException := ⟨409, "replay"⟩

def checkReplayWithDurableObject (key : JsString) (ttl : Int) (now : Nat) : Handler Unit :=
  fun storage =>
    let answer := (storage.locks key).fetch now (.claim (some ttl))
    let claimed := { storage with locks := Function.update storage.locks key answer.2 }
    if answer.1 = 409 then (.error replayed, claimed)
    else if 200 ≤ answer.1 ∧ answer.1 < 300 then (.ok (), claimed)
    else (.error ⟨500, "replay_lock_unavailable"⟩, claimed)

def persistReplayMarker (subject nonce : JsString) (ttl : Int) (now : Nat) : KvHandler Unit :=
  writeRecord (.marker subject nonce) (.text (js "1")) (expirationTtl now (some ttl))

/-- The claim in the namespace, where no lock object is bound. -/
def claimReplayMarker (subject nonce random : JsString) (ttl : Int) (now : Nat) :
    KvHandler Unit := do
  match ← readRecord now (.marker subject nonce) with
  | some _ => Stateful.fail replayed
  | none =>
      let claimMarker : KvValue := .text (js "claim:replay-" ++ random)
      writeRecord (.marker subject nonce) claimMarker (expirationTtl now (some ttl))
      let owned ← readRecord now (.marker subject nonce)
      if owned ≠ some claimMarker then Stateful.fail replayed
      else persistReplayMarker subject nonce ttl now

/-- `checkReplay` without a concurrent call; `bound` is whether `REPLAY_LOCKS` is. -/
def checkReplay (env : Env) (bound : Bool) (subject nonce random : JsString) (now : Nat) :
    Handler Unit := do
  let ttl ← Stateful.lift (replayWindow env)
  if bound then
    checkReplayWithDurableObject (replayKey subject nonce) ttl now
    onKv (persistReplayMarker subject nonce ttl now)
  else if cleanEnv env.replayStrongMode = js "1" then
    Stateful.fail ⟨500, "missing_replay_lock_binding"⟩
  else onKv (claimReplayMarker subject nonce random ttl now)

def validatePayloadSize (env : Env) (payload : JsString) : Except HttpException Unit :=
  if (envNumber [env.payloadMaxBytes] "16384").any fun max =>
      0 < max ∧ max < (utf8Length payload : Int) then
    .error ⟨413, "payload_too_large"⟩
  else .ok ()

def currentSubjectCount (subject : JsString) (now : Nat) : KvHandler Nat :=
  Stateful.observe fun kv =>
    (ExpiringStore.list kv now (startsWith · (itemPrefix subject)) 50).length

def subjectLimit (env : Env) (count : Nat) : Except HttpException Unit :=
  if (envNumber [env.subjectMaxEnvelopes] "10").any fun max =>
      0 < max ∧ max ≤ (count : Int) then
    .error ⟨429, "subject_limit"⟩
  else .ok ()

/-! ### Routes -/

/-- A request to one of the inbox routes, with the expiry computed for a new
item and the random part of its claim marker. -/
inductive Request where
  | post (ip subject nonce payload : JsString) (exp : Expiry) (random : JsString)
  | get (ip subject nonce : JsString)
  | forget (subject : JsString)

inductive Response where
  | stored (exp : JsString)
  | envelope (payload exp : Option JsString)
  | forgotten (deleted replayDeleted : Nat)
  | tooManyKeys (deleted replayDeleted : Nat)
deriving DecidableEq

/-- The part of a post behind its replay check. -/
def putInbox (env : Env) (subject nonce payload : JsString) (exp : Expiry) (now : Nat) :
    KvHandler Response := do
  Stateful.lift (validatePayloadSize env payload)
  let count ← currentSubjectCount subject now
  Stateful.lift (subjectLimit env count)
  writeRecord (.item subject nonce) (.item payload exp.json) exp.last
  return .stored exp.json

def postInbox (env : Env) (bound : Bool) (ip subject nonce payload : JsString) (exp : Expiry)
    (random : JsString) (now : Nat) : Handler Response := do
  if subject = [] ∨ nonce = [] ∨ payload = [] then Stateful.fail ⟨400, "missing_fields"⟩
  else
    onKv (rateLimit env ip now)
    onKv (subjectSprayGuard env ip subject now)
    checkReplay env bound subject nonce random now
    onKv (putInbox env subject nonce payload exp now)

def getInbox (env : Env) (ip subject nonce : JsString) (now : Nat) : KvHandler Response := do
  rateLimit env ip now
  match ← readRecord now (.item subject nonce) with
  | none => Stateful.fail ⟨404, "not_found"⟩
  | some raw =>
      let (payload, exp) ← Stateful.lift raw.itemView
      deleteRecord (.item subject nonce)
      return .envelope payload exp

/-! ### Forgetting -/

/-- Where `slice(0, end)` ends in a list; `none` is `NaN`, and a negative end counts
from the back. -/
def sliceEnd (length : Nat) : Option Int → Nat
  | none => 0
  | some last => min length (if 0 ≤ last then last else length + last).toNat

/-- `keys.slice(0, end)`. -/
def sliceTo (keys : List JsString) (last : Option Int) : List JsString :=
  keys.take (sliceEnd keys.length last)

/-- The live keys that start with a text. -/
def keysFrom (kv : Kv) (now : Nat) (start : JsString) : List JsString :=
  (ExpiringStore.liveKeys kv now).filter (startsWith · start)

/-- `maxKeys`; `none` is `NaN`. -/
def forgetMaxKeys (env : Env) : Option Int := envNumber [env.forgetMaxKeys] "500"

/-- The listed item keys and marker keys of a subject, and whether one list is
longer than the configured maximum. -/
structure ForgetPlan where
  inboxKeys : List JsString
  replayKeys : List JsString
  overflow : Bool

def forgetPlan (env : Env) (subject : JsString) (now : Nat) (kv : Kv) : ForgetPlan :=
  let maxKeys := forgetMaxKeys env
  let list := sliceTo (keysFrom kv now (itemPrefix subject)) (maxKeys.map (· + 1))
  let replayList := sliceTo (keysFrom kv now (replayPrefix subject)) (maxKeys.map (· + 1))
  let overflow := maxKeys.any fun max =>
    max < (list.length : Int) ∨ max < (replayList.length : Int)
  { inboxKeys := if overflow then sliceTo list maxKeys else list
    replayKeys := if overflow then sliceTo replayList maxKeys else replayList
    overflow }

def eraseAll (kv : Kv) (keys : List JsString) : Kv := keys.foldl OrderedMap.erase kv

/-- `forgetReplayLocks`. -/
def forgetReplayLocks (bound : Bool) (keys : List JsString) (now : Nat)
    (locks : JsString → Lock) : JsString → Lock :=
  if bound then
    keys.foldl (fun locks key => Function.update locks key ((locks key).fetch now .forget).2) locks
  else locks

def runDeletes (bound : Bool) (plan : ForgetPlan) (now : Nat) (storage : Storage) : Storage where
  kv := eraseAll (eraseAll storage.kv plan.inboxKeys) plan.replayKeys
  locks := forgetReplayLocks bound plan.replayKeys now storage.locks

def forget (env : Env) (bound : Bool) (subject : JsString) (now : Nat) : Handler Response := do
  if subject = [] then Stateful.fail ⟨400, "missing_subject"⟩
  else
    let plan ← onKv (Stateful.observe (forgetPlan env subject now))
    Stateful.update (runDeletes bound plan now)
    return (if plan.overflow then .tooManyKeys plan.inboxKeys.length plan.replayKeys.length
      else .forgotten plan.inboxKeys.length plan.replayKeys.length)

/-! ### Calls -/

/-- One request, the outcome of its signature or token check, and its time. -/
structure Call where
  now : Nat
  guard : Except HttpException Unit
  request : Request

def handle (env : Env) (bound : Bool) (call : Call) : Handler Response := do
  Stateful.lift call.guard
  match call.request with
  | .post ip subject nonce payload exp random =>
      postInbox env bound ip subject nonce payload exp random call.now
  | .get ip subject nonce => onKv (getInbox env ip subject nonce call.now)
  | .forget subject => forget env bound subject call.now

/-- The storage and the requests handled so far. -/
structure World where
  storage : Storage
  log : List Request

def initial : World := ⟨.empty, []⟩

def step (env : Env) (bound : Bool) (world : World) (call : Call) : Option World :=
  some ⟨(handle env bound call world.storage).2, world.log ++ [call.request]⟩

/-! ### What the routes do to the namespace and the locks -/

section Storages

variable {α : Type} {bound : Bool}

/-- A step on the namespace relates the namespaces, and leaves the locks. -/
theorem relates_onKv {related : Kv → Kv → Prop} {relatedStorage : Storage → Storage → Prop}
    (lifts : ∀ storage kv, related storage.kv kv →
      relatedStorage storage { storage with kv }) {action : KvHandler α}
    (relates : Stateful.Relates related action) :
    Stateful.Relates relatedStorage (onKv action) :=
  fun storage => lifts storage _ (relates storage.kv)

theorem onKv_bind {α β : Type} (first : KvHandler α) (next : α → KvHandler β) (storage : Storage) :
    onKv (first >>= next) storage = (onKv first >>= fun value => onKv (next value)) storage := by
  cases ran : first storage.kv with
  | mk outcome kv =>
      cases outcome with
      | error failure => simp [onKv, bind, ran]
      | ok value => simp [onKv, bind, ran]

theorem onKv_of_ok {action : KvHandler α} {storage : Storage} {value : α} {kv : Kv}
    (ran : action storage.kv = (.ok value, kv)) :
    onKv action storage = (.ok value, { storage with kv }) := by
  rw [onKv, ran]

theorem onKv_of_error {action : KvHandler α} {storage : Storage} {failure : HttpException}
    {kv : Kv} (ran : action storage.kv = (.error failure, kv)) :
    onKv action storage = (.error failure, { storage with kv }) := by
  rw [onKv, ran]

/-- A claim of a lock object is refused while the lock is held, and claims it
for at most a day otherwise. -/
theorem checkReplayWithDurableObject_eq {ttl : Int} (positive : 0 < ttl) (key : JsString)
    (now : Nat) (storage : Storage) :
    checkReplayWithDurableObject key ttl now storage =
      if (storage.locks key).held now then (.error replayed, storage)
      else (.ok (), { storage with
        locks := Function.update storage.locks key (some (now + min 86400 ttl)) }) := by
  have window := ReplayLock.claimTtl_intCast positive
  cases held : (storage.locks key).held now with
  | true =>
      simp [checkReplayWithDurableObject, Lock.fetch, held]
  | false => simp [checkReplayWithDurableObject, Lock.fetch, held, window]

/-- Forgetting releases the locks of the keys, if there are locks at all. -/
theorem forgetReplayLocks_apply (keys : List JsString) (now : Nat) (locks : JsString → Lock)
    (key : JsString) :
    forgetReplayLocks bound keys now locks key =
      if bound = true ∧ key ∈ keys then none else locks key := by
  cases bound with
  | false => simp [forgetReplayLocks]
  | true =>
      simp only [forgetReplayLocks, if_true, true_and]
      induction keys generalizing locks with
      | nil => simp
      | cons head rest inductionHypothesis =>
          rw [List.foldl_cons, inductionHypothesis]
          by_cases same : key = head
          · simp [same, Lock.fetch]
          · simp [same]

/-- Erasing keys leaves the other entries. -/
theorem find_eraseAll (kv : Kv) (keys : List JsString) (key : JsString) :
    (eraseAll kv keys).find key = if key ∈ keys then none else kv.find key := by
  rw [eraseAll, OrderedMap.foldl_erase, OrderedMap.find_filter]
  by_cases member : key ∈ keys
  · rw [if_pos member, Option.filter_eq_none_iff]
    intro value _
    simp only [List.all_eq_true, decide_eq_true_eq, not_forall, not_not]
    exact ⟨key, member, rfl⟩
  · have kept : (keys.all fun other => decide (key ≠ other)) = true := by
      simp only [List.all_eq_true, decide_eq_true_eq]
      rintro other listed rfl
      exact member listed
    rw [if_neg member, kept]
    cases kv.find key <;> rfl

theorem sliceTo_sublist (keys : List JsString) (last : Option Int) :
    (sliceTo keys last).Sublist keys := List.take_sublist _ _

theorem length_sliceTo (keys : List JsString) (last : Option Int) :
    (sliceTo keys last).length = sliceEnd keys.length last := by
  have within : sliceEnd keys.length last ≤ keys.length := by
    cases last with
    | none => exact Nat.zero_le _
    | some last => exact Nat.min_le_left _ _
  rw [sliceTo, List.length_take, Nat.min_eq_left within]

/-- A page of one key more than a limit is over it exactly when the list is. -/
theorem lt_sliceEnd_iff {max : Int} {length : Nat} :
    max < (sliceEnd length (some (max + 1)) : Nat) ↔ max < length := by
  simp only [sliceEnd]
  split <;> omega

/-- A page that is not over its limit is the whole list. -/
theorem sliceTo_whole {keys : List JsString} {max : Int} (few : (keys.length : Int) ≤ max) :
    sliceTo keys (some (max + 1)) = keys := by
  apply List.take_of_length_le
  simp only [sliceEnd]
  split <;> omega

/-- Planned keys are live keys with one of the two prefixes. -/
theorem forgetPlan_sublist (env : Env) (subject : JsString) (now : Nat) (kv : Kv) :
    (forgetPlan env subject now kv).inboxKeys.Sublist (keysFrom kv now (itemPrefix subject)) ∧
      (forgetPlan env subject now kv).replayKeys.Sublist
        (keysFrom kv now (replayPrefix subject)) := by
  have page (keys : List JsString) (overflow : Bool) (limit last : Option Int) :
      (if overflow then sliceTo (sliceTo keys limit) last else sliceTo keys limit).Sublist keys := by
    split
    next => exact (sliceTo_sublist _ _).trans (sliceTo_sublist _ _)
    next => exact sliceTo_sublist _ _
  exact ⟨page _ _ _ _, page _ _ _ _⟩

/-- Under a limit that is a number, a plan without overflow lists every live key. -/
theorem forgetPlan_whole {env : Env} {subject : JsString} {now : Nat} {kv : Kv}
    (number : forgetMaxKeys env ≠ none) (whole : (forgetPlan env subject now kv).overflow = false) :
    (forgetPlan env subject now kv).inboxKeys = keysFrom kv now (itemPrefix subject) ∧
      (forgetPlan env subject now kv).replayKeys = keysFrom kv now (replayPrefix subject) := by
  obtain ⟨max, limit⟩ := Option.ne_none_iff_exists'.mp number
  simp only [forgetPlan, limit, Option.map_some, Option.any_some, length_sliceTo,
    lt_sliceEnd_iff, decide_eq_false_iff_not, not_or, not_lt] at whole ⊢
  obtain ⟨items, markers⟩ := whole
  have few : ¬(max < ((keysFrom kv now (itemPrefix subject)).length : Int) ∨
      max < ((keysFrom kv now (replayPrefix subject)).length : Int)) := by omega
  simp only [few, decide_false, Bool.false_eq_true, if_false, sliceTo_whole items,
    sliceTo_whole markers, and_self]

/-- Under a limit that is not a number nothing is listed, and nothing is over it. -/
theorem forgetPlan_unreadable {env : Env} (unreadable : forgetMaxKeys env = none)
    (subject : JsString) (now : Nat) (kv : Kv) : forgetPlan env subject now kv = ⟨[], [], false⟩ := by
  simp [forgetPlan, unreadable, sliceTo, sliceEnd]

theorem forget_eq (env : Env) (bound : Bool) {subject : JsString} (nonempty : subject ≠ [])
    (now : Nat) (storage : Storage) :
    let plan := forgetPlan env subject now storage.kv
    forget env bound subject now storage =
      (.ok (if plan.overflow then .tooManyKeys plan.inboxKeys.length plan.replayKeys.length
        else .forgotten plan.inboxKeys.length plan.replayKeys.length),
        runDeletes bound plan now storage) := by
  rw [forget, if_neg nonempty]
  rfl

/-- So nothing is forgotten then, though the answer does not say so. -/
theorem forget_unreadable {env : Env} (unreadable : forgetMaxKeys env = none) {bound : Bool}
    {subject : JsString} (nonempty : subject ≠ []) (now : Nat) (storage : Storage) :
    forget env bound subject now storage = (.ok (.forgotten 0 0), storage) := by
  rw [forget_eq env bound nonempty, forgetPlan_unreadable unreadable]
  cases bound with
  | false => rfl
  | true => rfl

theorem mem_keysFrom {kv : Kv} {now : Nat} {start key : JsString} :
    key ∈ keysFrom kv now start ↔
      (ExpiringStore.get kv now key).isSome ∧ startsWith key start = true := by
  rw [keysFrom, List.mem_filter, ExpiringStore.mem_liveKeys_iff]

end Storages

end DarkmeshGateway.SecretsWorker.Inbox
