import DarkmeshGateway.SecretsWorker.Inbox
import DarkmeshGateway.SecretsWorker.InboxRetention
import DarkmeshGateway.SecretsWorker.ReplayLock

/-!
Contract: one `checkReplay` with failing storage, with and without the durable
lock.

Owns the claim in the isolate, the claim of the lock object and its release when
the marker cannot be written, the markers in the key-value store with their
retries, and what each of these does to the storage.

All steps of one check read one clock.

Does not own the routes that call it or checks that run at the same time.
-/

namespace DarkmeshGateway.SecretsWorker.ReplayCheck

open Foundation
open Foundation.Js
open SecretsWorker.Fields
open SecretsWorker.Inbox (replayWindow expirationTtl)
open SecretsWorker.InboxRetention (ItemExp)
open SecretsWorker.ReplayGuard (Fault replayKey pruneReplayClaims find_pruneReplayClaims)
open SecretsWorker.ReplayLock

/-! ### Storage -/

/-- A stored text: a marker, or the text of an inbox item. -/
inductive Record where
  | text (content : JsString)
  | item (payload : Option Json) (exp : ItemExp)

/-- A stored text counts as absent when it is empty. -/
def Record.present : Record → Bool
  | .text content => content ≠ []
  | .item _ _ => true

abbrev Kv := ExpiringStore JsString Record

/-- The shared store, the lock objects, and the claim map of each isolate. -/
structure Storage where
  kv : Kv
  locks : JsString → Lock
  replayClaims : Nat → OrderedMap JsString Nat

abbrev Handler (α : Type) := Stateful Storage HttpException α

def replayed : HttpException := ⟨409, "replay"⟩

/-- What the request to a lock object meets: no answer, or an answer that is no
success, though the request may have taken effect. -/
inductive LockFault where
  | none
  | lost (applied : Bool)
  | unavailable (applied : Bool)

/-- The isolate and the clock of a check, the random part of its markers, and
what each of its storage steps meets. -/
structure Answers where
  isolate : Nat
  now : Nat
  random : Nat → JsString
  lockClaim : LockFault := .none
  marker : Nat → Fault := fun _ => .none
  lockClear : LockFault := .none
  read : Nat → Fault := fun _ => .none
  claim : Nat → Fault := fun _ => .none
  check : Nat → Fault := fun _ => .none
  confirm : Nat → Fault := fun _ => .none

/-! ### The key-value store -/

/-- A storage step throws that the database is locked, or another error. -/
inductive StorageError where
  | busy
  | broken

def get (kv : Kv) (now : Nat) (key : JsString) (fault : Fault) :
    Except StorageError (Option Record) :=
  match fault with
  | .none => .ok ((ExpiringStore.get kv now key).filter Record.present)
  | .busy _ => .error .busy
  | .broken _ => .error .broken

/-- A write that meets the fault takes effect. -/
def applies : Fault → Bool
  | .none => true
  | .busy applied => applied
  | .broken applied => applied

def put (kv : Kv) (now : Nat) (ttl : Int) (key content : JsString) (fault : Fault) :
    Except StorageError Unit × Kv :=
  let written := ExpiringStore.put kv key (.text content) (expirationTtl now (some ttl))
  (match fault with
    | .none => .ok ()
    | .busy _ => .error .busy
    | .broken _ => .error .broken,
    if applies fault then written else kv)

/-- The attempt that has so many more after it. -/
def attemptOf (remaining : Nat) : Nat := 2 - remaining

/-- An attempt at a storage task: a storage error or a refusal ends it early. -/
abbrev AttemptOutcome := Except (StorageError ⊕ HttpException) Unit × Kv

/-- The outcome of a task whose last attempt this was. -/
def settle : AttemptOutcome → Except HttpException Unit × Kv
  | (.ok _, kv) => (.ok (), kv)
  | (.error (.inr refusal), kv) => (.error refusal, kv)
  | (.error (.inl _), kv) => (.error internalError, kv)

/-- This and the remaining attempts; a locked database is tried again. -/
def retryBusy (attempt : Nat → Kv → AttemptOutcome) : Nat → Stateful Kv HttpException Unit
  | 0, kv => settle (attempt (attemptOf 0) kv)
  | remaining + 1, kv =>
      match attempt (attemptOf (remaining + 1)) kv with
      | (.error (.inl .busy), kv) => retryBusy attempt remaining kv
      | outcome => settle outcome

def attemptMarker (answers : Answers) (ttl : Int) (key : JsString) (attempt : Nat) (kv : Kv) :
    AttemptOutcome :=
  let written := put kv answers.now ttl key (js "1") (answers.marker attempt)
  (written.1.mapError .inl, written.2)

def persistReplayMarker (answers : Answers) (ttl : Int) (key : JsString) :
    Stateful Kv HttpException Unit := retryBusy (attemptMarker answers ttl key) 2

/-- `claim:${randomId('replay')}`. -/
def claimMarker (answers : Answers) (attempt : Nat) : JsString :=
  js "claim:replay-" ++ answers.random attempt

/-- The read-back and the confirmation of a claim. -/
def confirmClaim (answers : Answers) (ttl : Int) (key : JsString) (attempt : Nat) (kv : Kv) :
    AttemptOutcome :=
  match get kv answers.now key (answers.check attempt) with
  | .error thrown => (.error (.inl thrown), kv)
  | .ok (some (.text owned)) =>
      if owned ≠ claimMarker answers attempt then (.error (.inr replayed), kv)
      else
        let written := put kv answers.now ttl key (js "1") (answers.confirm attempt)
        (written.1.mapError .inl, written.2)
  | .ok _ => (.error (.inr replayed), kv)

/-- One attempt to claim the key in the store. -/
def attemptClaim (answers : Answers) (ttl : Int) (key : JsString) (attempt : Nat) (kv : Kv) :
    AttemptOutcome :=
  match get kv answers.now key (answers.read attempt) with
  | .error thrown => (.error (.inl thrown), kv)
  | .ok (some _) => (.error (.inr replayed), kv)
  | .ok none =>
      match put kv answers.now ttl key (claimMarker answers attempt) (answers.claim attempt) with
      | (.error thrown, kv) => (.error (.inl thrown), kv)
      | (.ok _, kv) => confirmClaim answers ttl key attempt kv

def claimMarkers (answers : Answers) (ttl : Int) (key : JsString) :
    Stateful Kv HttpException Unit := retryBusy (attemptClaim answers ttl key) 2

/-! ### The check -/

def onKv {α : Type} (action : Stateful Kv HttpException α) : Handler α := fun storage =>
  let result := action storage.kv
  (result.1, { storage with kv := result.2 })

/-- `claimReplayKey`. -/
def claimReplayKey (answers : Answers) (ttl : Int) (key : JsString) : Handler Unit :=
  fun storage =>
    let pruned := pruneReplayClaims (storage.replayClaims answers.isolate) answers.now
    let store (claims : OrderedMap JsString Nat) : Storage :=
      { storage with
        replayClaims := Function.update storage.replayClaims answers.isolate claims }
    match pruned.find key with
    | some _ => (.error replayed, store pruned)
    | none => (.ok (), store (pruned.set key (answers.now + (max 1 (min 15 ttl)).toNat)))

/-- The `finally` of a check. -/
def releaseClaim (answers : Answers) (key : JsString) (storage : Storage) : Storage :=
  { storage with
    replayClaims := Function.update storage.replayClaims answers.isolate
      ((storage.replayClaims answers.isolate).erase key) }

def lockUnavailable : HttpException := ⟨500, "replay_lock_unavailable"⟩

/-- A request to the lock object of a key. -/
def lockFetch (answers : Answers) (key : JsString) (fault : LockFault) (request : LockRequest) :
    Handler Nat := fun storage =>
  let answer := (storage.locks key).fetch answers.now request
  let handled := { storage with locks := Function.update storage.locks key answer.2 }
  match fault with
  | .none => (.ok answer.1, handled)
  | .lost applied => (.error internalError, if applied then handled else storage)
  | .unavailable applied => (.error lockUnavailable, if applied then handled else storage)

def checkReplayWithDurableObject (answers : Answers) (ttl : Int) (key : JsString) :
    Handler Unit := do
  let status ← lockFetch answers key answers.lockClaim (.claim (some ttl))
  if status = 409 then Stateful.fail replayed
  else if 200 ≤ status ∧ status < 300 then return ()
  else Stateful.fail lockUnavailable

/-- The lock is claimed, and released when the marker cannot be written; whether
the release works is not looked at. -/
def checkWithLock (answers : Answers) (ttl : Int) (key : JsString) : Handler Unit := do
  checkReplayWithDurableObject answers ttl key
  fun storage =>
    match onKv (persistReplayMarker answers ttl key) storage with
    | (.ok _, storage) => (.ok (), storage)
    | (.error failure, storage) =>
        (.error failure, (lockFetch answers key answers.lockClear .forget storage).2)

/-- The part of a check behind the claim in the isolate. -/
def claimStored (env : Env) (bound : Bool) (answers : Answers) (ttl : Int) (key : JsString) :
    Handler Unit :=
  if bound then checkWithLock answers ttl key
  else if cleanEnv env.replayStrongMode = js "1" then
    Stateful.fail ⟨500, "missing_replay_lock_binding"⟩
  else onKv (claimMarkers answers ttl key)

/-- A check of the texts of a subject and a nonce; `none` is one without a text. -/
def checkReplay (env : Env) (bound : Bool) (names : Option (JsString × JsString))
    (answers : Answers) : Handler Unit := do
  let ttl ← Stateful.lift (replayWindow env)
  let names ← Stateful.lift (orTypeError names)
  let key := replayKey names.1 names.2
  claimReplayKey answers ttl key
  fun storage =>
    let result := claimStored env bound answers ttl key storage
    (result.1, releaseClaim answers key result.2)

/-! ### What an attempt leaves behind -/

/-- Nothing that counts is stored under the key. -/
def Absent (kv : Kv) (now : Nat) (key : JsString) : Prop :=
  (ExpiringStore.get kv now key).filter Record.present = none

/-- A marker written now is stored under the key. -/
def Marked (kv : Kv) (now : Nat) (ttl : Int) (key : JsString) : Prop :=
  ∃ content, content ≠ [] ∧
    kv.find key = some ⟨.text content, expirationTtl now (some ttl)⟩

theorem expirationTtl_pos {ttl : Int} (positive : 0 < ttl) (now : Nat) :
    expirationTtl now (some ttl) = some (now + ttl).toNat := by
  have notZero : ¬(ttl = 0 ∨ (now : Int) + ttl = 0) := by omega
  rw [expirationTtl, if_neg notZero]

theorem Marked.present {kv : Kv} {now later : Nat} {ttl : Int} {key : JsString}
    (marked : Marked kv now ttl key) (positive : 0 < ttl) (within : (later : Int) ≤ now + ttl) :
    ∃ record, (ExpiringStore.get kv later key).filter Record.present = some record := by
  obtain ⟨content, nonempty, found⟩ := marked
  have alive : later ≤ ((now : Int) + ttl).toNat := by omega
  refine ⟨.text content, ?_⟩
  simp [ExpiringStore.get, found, Expiring.alive, expirationTtl_pos positive, alive,
    Record.present, nonempty]

theorem marked_put (kv : Kv) (now : Nat) (ttl : Int) (key : JsString) {content : JsString}
    (nonempty : content ≠ []) :
    Marked (ExpiringStore.put kv key (.text content) (expirationTtl now (some ttl))) now ttl key :=
  ⟨content, nonempty, OrderedMap.find_set_self _ _ _⟩

theorem claimMarker_ne_nil (answers : Answers) (attempt : Nat) :
    claimMarker answers attempt ≠ [] := by
  simp [claimMarker, js]

/-- The storage error an attempt meets before a claim has taken effect. -/
def stoppedBy (answers : Answers) (attempt : Nat) : Option StorageError :=
  match answers.read attempt with
  | .busy _ => some .busy
  | .broken _ => some .broken
  | .none =>
      match answers.claim attempt with
      | .busy false => some .busy
      | .broken false => some .broken
      | _ => none

/-- One of this and the remaining attempts gets as far as a claim that takes
effect, where the key is free. -/
def claimTakesEffect (answers : Answers) : Nat → Bool
  | 0 => (stoppedBy answers (attemptOf 0)).isNone
  | remaining + 1 =>
      match stoppedBy answers (attemptOf (remaining + 1)) with
      | none => true
      | some .busy => claimTakesEffect answers remaining
      | some .broken => false

/-- What an attempt does: it stops in front of its claim and leaves the store,
it finds the key taken, or its claim takes effect over an absent key. -/
inductive Attempt (answers : Answers) (ttl : Int) (key : JsString) (attempt : Nat) (kv : Kv) :
    AttemptOutcome → Prop where
  | stopped (thrown : StorageError) (stops : stoppedBy answers attempt = some thrown) :
      Attempt answers ttl key attempt kv (.error (.inl thrown), kv)
  | taken (present : ¬Absent kv answers.now key) :
      Attempt answers ttl key attempt kv (.error (.inr replayed), kv)
  | claimed (outcome : Except (StorageError ⊕ HttpException) Unit) (next : Kv)
      (claims : stoppedBy answers attempt = none) (absent : Absent kv answers.now key)
      (marked : Marked next answers.now ttl key)
      (refused : ∀ refusal, outcome = .error (.inr refusal) → refusal = replayed) :
      Attempt answers ttl key attempt kv (outcome, next)

/-- A write of a marker keeps a marked key marked, whatever it meets. -/
theorem Marked.put {kv : Kv} {now : Nat} {ttl : Int} {key : JsString}
    (marked : Marked kv now ttl key) {content : JsString} (nonempty : content ≠ [])
    (fault : Fault) : Marked (put kv now ttl key content fault).2 now ttl key := by
  have rewritten := marked_put kv now ttl key nonempty
  cases fault with
  | none => exact rewritten
  | busy applied =>
      cases applied with
      | false => exact marked
      | true => exact rewritten
  | broken applied =>
      cases applied with
      | false => exact marked
      | true => exact rewritten

/-- It keeps the key marked and refuses nothing but a replay. -/
theorem confirmClaim_marked (answers : Answers) (ttl : Int) (key : JsString) (attempt : Nat)
    {kv : Kv} (marked : Marked kv answers.now ttl key) :
    let confirmed := confirmClaim answers ttl key attempt kv
    Marked confirmed.2 answers.now ttl key ∧
      ∀ refusal, confirmed.1 = .error (.inr refusal) → refusal = replayed := by
  unfold confirmClaim
  dsimp only
  split
  · exact ⟨marked, by simp⟩
  · split
    · exact ⟨marked, by simp [eq_comm]⟩
    · refine ⟨marked.put (by decide) _, ?_⟩
      intro refusal failed
      cases outcome : (ReplayCheck.put kv answers.now ttl key (js "1")
          (answers.confirm attempt)).1 with
      | ok => rw [outcome] at failed; simp at failed
      | error thrown => rw [outcome] at failed; simp at failed
  · exact ⟨marked, by simp [eq_comm]⟩

theorem attemptClaim_spec (answers : Answers) (ttl : Int) (key : JsString) (attempt : Nat)
    (kv : Kv) : Attempt answers ttl key attempt kv (attemptClaim answers ttl key attempt kv) := by
  have claimed := marked_put kv answers.now ttl key (claimMarker_ne_nil answers attempt)
  unfold attemptClaim
  cases read : answers.read attempt with
  | busy applied => exact .stopped .busy (by simp [stoppedBy, read])
  | broken applied => exact .stopped .broken (by simp [stoppedBy, read])
  | none =>
      simp only [get]
      cases existing : (ExpiringStore.get kv answers.now key).filter Record.present with
      | some record => exact .taken (by simp [Absent, existing])
      | none =>
          have fails (thrown : StorageError) (refusal : HttpException)
              (refused : Except.error (α := Unit) (Sum.inl thrown) = .error (.inr refusal)) :
              refusal = replayed := by simp at refused
          cases claim : answers.claim attempt with
          | none =>
              obtain ⟨marked, refused⟩ := confirmClaim_marked answers ttl key attempt claimed
              exact .claimed _ _ (by simp [stoppedBy, read, claim]) existing marked refused
          | busy applied =>
              cases applied with
              | false => exact .stopped .busy (by simp [stoppedBy, read, claim])
              | true =>
                  exact .claimed _ _ (by simp [stoppedBy, read, claim]) existing claimed
                    (fails .busy)
          | broken applied =>
              cases applied with
              | false => exact .stopped .broken (by simp [stoppedBy, read, claim])
              | true =>
                  exact .claimed _ _ (by simp [stoppedBy, read, claim]) existing claimed
                    (fails .broken)

/-- What the attempts of a check do to the store when they do not end in a replay. -/
inductive Claims (answers : Answers) (ttl : Int) (key : JsString) (remaining : Nat) (kv : Kv) :
    Except HttpException Unit × Kv → Prop where
  | untouched (stops : claimTakesEffect answers remaining = false) :
      Claims answers ttl key remaining kv (.error internalError, kv)
  | claimed (outcome : Except HttpException Unit) (next : Kv)
      (effective : claimTakesEffect answers remaining = true) (absent : Absent kv answers.now key)
      (marked : Marked next answers.now ttl key) : Claims answers ttl key remaining kv (outcome, next)

/-- A marked key ends the attempts with a replay, or a storage error leaves it. -/
theorem retryBusy_marked (answers : Answers) {ttl : Int} (positive : 0 < ttl) (key : JsString)
    (remaining : Nat) {kv : Kv} (marked : Marked kv answers.now ttl key) :
    let result := retryBusy (attemptClaim answers ttl key) remaining kv
    result = (.error replayed, kv) ∨ result = (.error internalError, kv) := by
  have present : ¬Absent kv answers.now key := by
    obtain ⟨record, found⟩ := marked.present positive (by omega : (answers.now : Int) ≤ _)
    simp [Absent, found]
  have attempted (attempt : Nat) :
      attemptClaim answers ttl key attempt kv = (.error (.inr replayed), kv) ∨
        ∃ thrown, attemptClaim answers ttl key attempt kv = (.error (.inl thrown), kv) := by
    have spec := attemptClaim_spec answers ttl key attempt kv
    generalize attemptClaim answers ttl key attempt kv = outcome at spec ⊢
    cases spec with
    | stopped thrown stops => exact Or.inr ⟨thrown, rfl⟩
    | taken taken => exact Or.inl rfl
    | claimed outcome next claims absent => exact absurd absent present
  dsimp only
  induction remaining with
  | zero =>
      rcases attempted (attemptOf 0) with replays | ⟨thrown, fails⟩
      · exact Or.inl (by rw [retryBusy, replays, settle])
      · exact Or.inr (by rw [retryBusy, fails, settle])
  | succ remaining inductionHypothesis =>
      rcases attempted (attemptOf (remaining + 1)) with replays | ⟨thrown, fails⟩
      · left
        simp only [retryBusy, replays, settle]
      · cases thrown with
        | busy => simpa only [retryBusy, fails] using inductionHypothesis
        | broken =>
            right
            simp only [retryBusy, fails, settle]

/-- Attempts that do not end in a replay have left the store alone, or one of
them has marked a key that was absent. -/
theorem claimMarkers_spec (answers : Answers) {ttl : Int} (positive : 0 < ttl) (key : JsString)
    (remaining : Nat) (kv : Kv) :
    let result := retryBusy (attemptClaim answers ttl key) remaining kv
    result.1 = .error replayed ∨ Claims answers ttl key remaining kv result := by
  dsimp only
  induction remaining with
  | zero =>
      have spec := attemptClaim_spec answers ttl key (attemptOf 0) kv
      rw [retryBusy]
      generalize attemptClaim answers ttl key (attemptOf 0) kv = outcome at spec ⊢
      cases spec with
      | stopped thrown stops => exact Or.inr (.untouched (by simp [claimTakesEffect, stops]))
      | taken present => exact Or.inl rfl
      | claimed outcome next claims absent marked refused =>
          have effective : claimTakesEffect answers 0 = true := by simp [claimTakesEffect, claims]
          cases outcome with
          | ok => exact Or.inr (.claimed _ _ effective absent marked)
          | error failure =>
              cases failure with
              | inl thrown => exact Or.inr (.claimed _ _ effective absent marked)
              | inr refusal => exact Or.inl (by rw [settle, refused refusal rfl])
  | succ remaining inductionHypothesis =>
      have spec := attemptClaim_spec answers ttl key (attemptOf (remaining + 1)) kv
      rw [retryBusy]
      generalize attemptClaim answers ttl key (attemptOf (remaining + 1)) kv = outcome at spec ⊢
      cases spec with
      | stopped thrown stops =>
          cases thrown with
          | busy =>
              have follows : claimTakesEffect answers (remaining + 1) =
                  claimTakesEffect answers remaining := by
                simp [claimTakesEffect, stops]
              rcases inductionHypothesis with replays | claims
              · exact Or.inl replays
              · right
                dsimp only
                generalize retryBusy (attemptClaim answers ttl key) remaining kv = result at claims ⊢
                cases claims with
                | untouched stops => exact .untouched (follows.trans stops)
                | claimed outcome next effective absent marked =>
                    exact .claimed _ _ (follows.trans effective) absent marked
          | broken => exact Or.inr (.untouched (by simp [claimTakesEffect, stops]))
      | taken present => exact Or.inl rfl
      | claimed outcome next claims absent marked refused =>
          have effective : claimTakesEffect answers (remaining + 1) = true := by
            simp [claimTakesEffect, claims]
          cases outcome with
          | ok => exact Or.inr (.claimed _ _ effective absent marked)
          | error failure =>
              cases failure with
              | inr refusal => exact Or.inl (by dsimp only; rw [settle, refused refusal rfl])
              | inl thrown =>
                  cases thrown with
                  | broken => exact Or.inr (.claimed _ _ effective absent marked)
                  | busy =>
                      dsimp only
                      rcases retryBusy_marked answers positive key remaining marked with
                        replays | fails
                      · exact Or.inl (by rw [replays])
                      · rw [fails]
                        exact Or.inr (.claimed _ _ effective absent marked)

/-- The same check when no storage step fails. -/
def Answers.calm (answers : Answers) : Answers where
  isolate := answers.isolate
  now := answers.now
  random := answers.random

/-- Without faults a key that is absent is claimed. -/
theorem claimMarkers_absent {answers : Answers} {ttl : Int} {key : JsString} (positive : 0 < ttl)
    {kv : Kv} (absent : Absent kv answers.now key) :
    (claimMarkers answers.calm ttl key kv).1 = .ok () := by
  let marker := claimMarker answers (attemptOf 2)
  let written := ExpiringStore.put kv key (.text marker) (expirationTtl answers.now (some ttl))
  have unclaimed : get kv answers.now key .none = .ok none := by rw [get, absent]
  have owned : get written answers.now key .none = .ok (some (.text marker)) := by
    have alive : answers.now ≤ ((answers.now : Int) + ttl).toNat := by omega
    have nonempty : marker ≠ [] := claimMarker_ne_nil answers (attemptOf 2)
    simp [get, written, ExpiringStore.get_put_self, Expiring.alive,
      expirationTtl_pos positive, alive, Record.present, nonempty]
  have confirmed : confirmClaim answers.calm ttl key (attemptOf 2) written =
      (.ok (), ExpiringStore.put written key (.text (js "1"))
        (expirationTtl answers.now (some ttl))) := by
    have own : claimMarker answers.calm (attemptOf 2) = marker := rfl
    simp only [confirmClaim, Answers.calm] at own ⊢
    rw [owned]
    simp [own, put, applies]
  have attempted : attemptClaim answers.calm ttl key (attemptOf 2) kv =
      confirmClaim answers.calm ttl key (attemptOf 2) written := by
    have unclaimedCalm : get kv answers.calm.now key (answers.calm.read (attemptOf 2)) = .ok none :=
      unclaimed
    rw [attemptClaim, unclaimedCalm]
    rfl
  rw [claimMarkers, retryBusy, attempted, confirmed]
  rfl

/-- A key that is taken is not. -/
theorem claimMarkers_present {answers : Answers} {ttl : Int} {key : JsString} {kv : Kv}
    (present : ¬Absent kv answers.now key) :
    (claimMarkers answers.calm ttl key kv).1 = .error replayed := by
  obtain ⟨record, found⟩ := Option.ne_none_iff_exists'.mp present
  have taken : get kv answers.now key .none = .ok (some record) := by rw [get, found]
  simp [claimMarkers, retryBusy, attemptClaim, Answers.calm, taken, settle]

/-! ### What a check with the lock leaves behind -/

/-- One of this and the remaining attempts writes the marker without an error. -/
def markerWritten (answers : Answers) : Nat → Bool
  | 0 => answers.marker (attemptOf 0) = .none
  | remaining + 1 =>
      match answers.marker (attemptOf (remaining + 1)) with
      | .none => true
      | .busy _ => markerWritten answers remaining
      | .broken _ => false

def LockFault.takesEffect : LockFault → Bool
  | .none => true
  | .lost applied => applied
  | .unavailable applied => applied

/-- A claim of a free lock object takes effect and is not released. -/
def lockStays (answers : Answers) : Bool :=
  match answers.lockClaim with
  | .none => markerWritten answers 2 || !answers.lockClear.takesEffect
  | fault => fault.takesEffect

theorem retryBusy_marker (answers : Answers) (ttl : Int) (key : JsString) (remaining : Nat)
    (kv : Kv) :
    (retryBusy (attemptMarker answers ttl key) remaining kv).1 =
      if markerWritten answers remaining then .ok () else .error internalError := by
  induction remaining generalizing kv with
  | zero =>
      cases marker : answers.marker (attemptOf 0) <;>
        simp [retryBusy, attemptMarker, put, marker, markerWritten, settle]
  | succ remaining inductionHypothesis =>
      cases marker : answers.marker (attemptOf (remaining + 1)) with
      | none => simp [retryBusy, attemptMarker, put, marker, markerWritten, settle]
      | busy applied =>
          simp only [retryBusy, attemptMarker, put, marker, markerWritten]
          exact inductionHypothesis _
      | broken applied =>
          simp [retryBusy, attemptMarker, put, marker, markerWritten, settle]

section Lock

variable (answers : Answers) {ttl : Int} (key : JsString) (storage : Storage)

/-- The answer to a check when the lock is held, or is free. -/
def lockOutcome (answers : Answers) (held : Bool) : Except HttpException Unit :=
  match answers.lockClaim with
  | .lost _ => .error internalError
  | .unavailable _ => .error lockUnavailable
  | .none =>
      if held then .error replayed
      else if markerWritten answers 2 then .ok ()
      else .error internalError

/-- A claim of a held lock changes nothing that counts. -/
theorem checkWithLock_held (held : (storage.locks key).held answers.now = true) :
    let result := checkWithLock answers ttl key storage
    result.1 = lockOutcome answers true ∧ result.2.locks key = storage.locks key := by
  have refused (ttl : Option ℚ) :
      (storage.locks key).fetch answers.now (.claim ttl) = (409, storage.locks key) := by
    rw [Lock.fetch, if_pos held]
  cases fault : answers.lockClaim with
  | none =>
      simp [checkWithLock, checkReplayWithDurableObject, lockFetch, fault, bind, refused,
        Stateful.fail, lockOutcome]
  | lost applied =>
      cases applied <;>
        simp [checkWithLock, checkReplayWithDurableObject, lockFetch, fault, bind, refused,
          lockOutcome]
  | unavailable applied =>
      cases applied <;>
        simp [checkWithLock, checkReplayWithDurableObject, lockFetch, fault, bind, refused,
          lockOutcome]

/-- A claim of a free lock stays, or the lock is as free as before. -/
theorem checkWithLock_free (positive : 0 < ttl)
    (free : (storage.locks key).held answers.now = false) :
    let result := checkWithLock answers ttl key storage
    let claimed : Lock := some (answers.now + min 86400 ttl)
    result.1 = lockOutcome answers false ∧
      (lockStays answers = true → result.2.locks key = claimed) ∧
      (lockStays answers = false →
        result.2.locks key = storage.locks key ∨ result.2.locks key = none) := by
  have granted : (storage.locks key).fetch answers.now (.claim (some (ttl : ℚ))) =
      (201, some (answers.now + min 86400 ttl)) := by
    rw [Lock.fetch, free, claimTtl_intCast positive]
    rfl
  cases fault : answers.lockClaim with
  | none =>
      let next := { storage with
        locks := Function.update storage.locks key (some (answers.now + min 86400 ttl)) }
      have claims : checkReplayWithDurableObject answers ttl key storage = (.ok (), next) := by
        simp [checkReplayWithDurableObject, lockFetch, fault, bind, granted, next, pure]
      have outcome := retryBusy_marker answers ttl key 2 storage.kv
      cases persisted : persistReplayMarker answers ttl key storage.kv with
      | mk result kv =>
          have stored : onKv (persistReplayMarker answers ttl key) next =
              (result, { next with kv }) := by
            simp only [onKv, next, persisted]
          have sameResult : result = if markerWritten answers 2 then .ok ()
              else .error internalError := by
            rw [← outcome, ← persistReplayMarker, persisted]
          cases written : markerWritten answers 2 with
          | true =>
              rw [written, if_pos rfl] at sameResult
              subst sameResult
              simp [checkWithLock, bind, claims, stored, lockStays, fault, written, next, lockOutcome]
          | false =>
              rw [written, if_neg (by simp)] at sameResult
              subst sameResult
              -- The marker could not be written, so the lock is released again.
              cases clear : answers.lockClear with
              | none =>
                  simp [checkWithLock, bind, claims, stored, lockStays, fault, written, next,
                    lockFetch, clear, Lock.fetch, LockFault.takesEffect, lockOutcome]
              | lost applied =>
                  cases applied <;>
                    simp [checkWithLock, bind, claims, stored, lockStays, fault, written, next,
                      lockFetch, clear, Lock.fetch, LockFault.takesEffect, lockOutcome]
              | unavailable applied =>
                  cases applied <;>
                    simp [checkWithLock, bind, claims, stored, lockStays, fault, written, next,
                      lockFetch, clear, Lock.fetch, LockFault.takesEffect, lockOutcome]
  | lost applied =>
      cases applied <;>
        simp [checkWithLock, checkReplayWithDurableObject, lockFetch, fault, bind, granted,
          lockStays, LockFault.takesEffect, lockOutcome]
  | unavailable applied =>
      cases applied <;>
        simp [checkWithLock, checkReplayWithDurableObject, lockFetch, fault, bind, granted,
          lockStays, LockFault.takesEffect, lockOutcome]

end Lock

end DarkmeshGateway.SecretsWorker.ReplayCheck
