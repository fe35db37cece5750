import DarkmeshGateway.Foundation.Timeline
import DarkmeshGateway.SecretsWorker.ReplayCheck

/-!
Contract: what one `checkReplay` means to the next one of its key.

Owns the condition under which a check leaves a claim, that a check without one
is nothing to later checks, and that a claim answers the next check with a
replay.

Does not own the steps of a check or the routes that call it.
-/

namespace DarkmeshGateway.SecretsWorker.ReplayClaim

open Foundation
open Foundation.Js
open SecretsWorker.Fields
open SecretsWorker.Inbox (replayWindow replayWindow_pos expirationTtl)
open SecretsWorker.ReplayCheck
open SecretsWorker.ReplayGuard (replayKey pruneReplayClaims find_pruneReplayClaims)
open SecretsWorker.ReplayLock

/-! ### What a check leaves behind -/

section Check

variable {env : Env} {bound : Bool} {answers : Answers} {ttl : Int} {key : JsString}
  {storage : Storage}

/-- The check leaves a claim that was not there before. -/
def LeavesClaim (env : Env) (bound : Bool) (answers : Answers) (key : JsString)
    (storage : Storage) : Prop :=
  if bound then (storage.locks key).held answers.now = false ∧ lockStays answers = true
  else cleanEnv env.replayStrongMode ≠ js "1" ∧ claimTakesEffect answers 2 = true

/-- Two storages are the same to every later check of the key, the claims in the
isolates apart. -/
def Alike (bound : Bool) (key : JsString) (now : Nat) (left right : Storage) : Prop :=
  if bound then
    ∀ later : Nat, now ≤ later → (left.locks key).held later = (right.locks key).held later
  else left.kv = right.kv

theorem Alike.later {now next : Nat} {left right : Storage} (alike : Alike bound key now left right)
    (ordered : now ≤ next) : Alike bound key next left right := by
  cases bound with
  | true => exact fun later after => alike later (Nat.le_trans ordered after)
  | false => exact alike

theorem checkWithLock_outcome (positive : 0 < ttl) :
    (checkWithLock answers ttl key storage).1 =
      lockOutcome answers ((storage.locks key).held answers.now) := by
  cases held : (storage.locks key).held answers.now with
  | true => exact (checkWithLock_held answers key storage held).1
  | false => exact (checkWithLock_free answers key storage positive held).1

/-- When a later check finds the lock held. -/
theorem checkWithLock_later (positive : 0 < ttl) {later : Nat} (ordered : answers.now ≤ later) :
    ((checkWithLock answers ttl key storage).2.locks key).held later =
      if (storage.locks key).held answers.now = true then (storage.locks key).held later
      else lockStays answers && Lock.held (some (answers.now + min 86400 ttl)) later := by
  have orderedInt : (answers.now : Int) ≤ later := by exact_mod_cast ordered
  cases held : (storage.locks key).held answers.now with
  | true =>
      rw [if_pos rfl, (checkWithLock_held answers key storage held).2]
  | false =>
      obtain ⟨-, stayed, released⟩ := checkWithLock_free answers key storage positive held
      rw [if_neg (by simp)]
      cases stays : lockStays answers with
      | true => rw [stayed stays, Bool.true_and]
      | false =>
          rcases released stays with same | cleared
          · rw [same, held_later orderedInt held, Bool.false_and]
          · rw [cleared, Bool.false_and]
            rfl

theorem claimStored_bound :
    claimStored env true answers ttl key storage = checkWithLock answers ttl key storage := rfl

theorem claimStored_strong (strong : cleanEnv env.replayStrongMode = js "1") :
    claimStored env false answers ttl key storage =
      (.error ⟨500, "missing_replay_lock_binding"⟩, storage) := by
  simp [claimStored, strong, Stateful.fail]

theorem claimStored_open (lenient : cleanEnv env.replayStrongMode ≠ js "1") :
    claimStored env false answers ttl key storage =
      onKv (claimMarkers answers ttl key) storage := by
  simp [claimStored, lenient]

theorem claimStored_alike {now : Nat} {left right : Storage} (positive : 0 < ttl)
    (alike : Alike bound key now left right) (later : now ≤ answers.now) :
    (claimStored env bound answers ttl key left).1 =
      (claimStored env bound answers ttl key right).1 := by
  cases bound with
  | true =>
      have sameHeld := alike answers.now later
      rw [claimStored_bound, claimStored_bound, checkWithLock_outcome positive,
        checkWithLock_outcome positive, sameHeld]
  | false =>
      have sameKv : left.kv = right.kv := alike
      by_cases strong : cleanEnv env.replayStrongMode = js "1"
      · rw [claimStored_strong strong, claimStored_strong strong]
      · rw [claimStored_open strong, claimStored_open strong]
        simp only [onKv, sameKv]

/-- A check that does not answer with a replay leaves the storage alike for every
later check of the key, or leaves a claim over a free key. -/
theorem claimStored_left (positive : 0 < ttl)
    (accepted : (claimStored env bound answers ttl key storage).1 ≠ .error replayed)
    (released : ¬LeavesClaim env bound answers key storage) :
    Alike bound key answers.now (claimStored env bound answers ttl key storage).2 storage := by
  cases bound with
  | true =>
      rw [claimStored_bound]
      intro later ordered
      have orderedInt : (answers.now : Int) ≤ later := by exact_mod_cast ordered
      cases held : (storage.locks key).held answers.now with
      | true => rw [(checkWithLock_held answers key storage held).2]
      | false =>
          have gives : lockStays answers = false := by
            cases stays : lockStays answers with
            | false => rfl
            | true => exact absurd ⟨held, stays⟩ released
          rcases (checkWithLock_free answers key storage positive held).2.2 gives with
            same | cleared
          · rw [same]
          · rw [cleared, held_later orderedInt held]
            rfl
  | false =>
      by_cases strong : cleanEnv env.replayStrongMode = js "1"
      · rw [claimStored_strong strong]
        exact rfl
      · have untouched : claimTakesEffect answers 2 = false := by
          cases effective : claimTakesEffect answers 2 with
          | false => rfl
          | true => exact absurd ⟨strong, effective⟩ released
        rw [claimStored_open strong] at accepted ⊢
        rcases claimMarkers_spec answers positive key 2 storage.kv with replays | claims
        · exact absurd replays accepted
        · simp only [onKv, claimMarkers]
          generalize retryBusy (attemptClaim answers ttl key) 2 storage.kv = result at claims ⊢
          cases claims with
          | untouched stops => exact rfl
          | claimed outcome next effective => exact absurd effective (by simp [untouched])

/-- The next check of the key is answered with a replay. -/
def Blocked (env : Env) (bound : Bool) (key : JsString) (now : Nat) (storage : Storage) : Prop :=
  if bound then (storage.locks key).held now = true
  else cleanEnv env.replayStrongMode ≠ js "1" ∧ ¬Absent storage.kv now key

theorem claimStored_blocked (positive : 0 < ttl) {storage : Storage}
    (blocked : Blocked env bound key answers.now storage) :
    (claimStored env bound answers.calm ttl key storage).1 = .error replayed := by
  cases bound with
  | true =>
      have held : (storage.locks key).held answers.calm.now = true := blocked
      rw [claimStored_bound, checkWithLock_outcome positive, held]
      rfl
  | false =>
      obtain ⟨lenient, present⟩ := blocked
      rw [claimStored_open lenient]
      exact claimMarkers_present present

/-- The claim a check leaves blocks the key, which was free before. -/
theorem claimStored_leaves (positive : 0 < ttl)
    (accepted : (claimStored env bound answers ttl key storage).1 ≠ .error replayed)
    (leaves : LeavesClaim env bound answers key storage) :
    (claimStored env bound answers.calm ttl key storage).1 = .ok () ∧
      Blocked env bound key answers.now (claimStored env bound answers ttl key storage).2 := by
  cases bound with
  | true =>
      obtain ⟨free, stays⟩ := leaves
      have claimed := (checkWithLock_free answers key storage positive free).2.1 stays
      have later : (answers.now : Int) < answers.now + min 86400 ttl := by omega
      have freeCalm : (storage.locks key).held answers.calm.now = false := free
      rw [claimStored_bound, claimStored_bound, checkWithLock_outcome positive, freeCalm]
      refine ⟨rfl, ?_⟩
      rw [Blocked, if_pos rfl, claimed]
      exact decide_eq_true later
  | false =>
      obtain ⟨lenient, effective⟩ := leaves
      rw [claimStored_open lenient] at accepted
      rw [claimStored_open lenient, claimStored_open lenient]
      rcases claimMarkers_spec answers positive key 2 storage.kv with replays | claims
      · exact absurd replays accepted
      · simp only [onKv]
        have sameRun : claimMarkers answers ttl key storage.kv =
            retryBusy (attemptClaim answers ttl key) 2 storage.kv := rfl
        rw [sameRun]
        generalize retryBusy (attemptClaim answers ttl key) 2 storage.kv = result at claims ⊢
        cases claims with
        | untouched stops => exact absurd effective (by simp [stops])
        | claimed outcome next effective absent marked =>
            refine ⟨claimMarkers_absent positive absent, lenient, ?_⟩
            obtain ⟨record, found⟩ := marked.present positive (by omega : (answers.now : Int) ≤ _)
            simp [Absent, found]

/-- A check that succeeds leaves its claim. -/
theorem claimStored_succeeds (positive : 0 < ttl)
    (succeeded : (claimStored env bound answers ttl key storage).1 = .ok ()) :
    LeavesClaim env bound answers key storage := by
  cases bound with
  | true =>
      rw [claimStored_bound, checkWithLock_outcome positive, lockOutcome] at succeeded
      rw [LeavesClaim, if_pos rfl, lockStays]
      cases fault : answers.lockClaim with
      | lost applied => simp [fault] at succeeded
      | unavailable applied => simp [fault] at succeeded
      | none =>
          cases held : (storage.locks key).held answers.now with
          | true => simp [fault, held] at succeeded
          | false =>
              cases written : markerWritten answers 2 with
              | true => simp
              | false => simp [fault, held, written] at succeeded
  | false =>
      by_cases strong : cleanEnv env.replayStrongMode = js "1"
      · rw [claimStored_strong strong] at succeeded
        cases succeeded
      · rw [claimStored_open strong] at succeeded
        refine ⟨strong, ?_⟩
        have ran : (retryBusy (attemptClaim answers ttl key) 2 storage.kv).1 = .ok () := succeeded
        rcases claimMarkers_spec answers positive key 2 storage.kv with replays | claims
        · rw [replays] at ran
          cases ran
        · generalize retryBusy (attemptClaim answers ttl key) 2 storage.kv = result at claims ran
          cases claims with
          | untouched stops => cases ran
          | claimed outcome next effective => exact effective

/-! ### The claims in the isolates -/

/-- Another check of the isolate holds the key. -/
def inIsolate (storage : Storage) (key : JsString) (isolate now : Nat) : Bool :=
  ((pruneReplayClaims (storage.replayClaims isolate) now).find key).isSome

/-- The storage while a check holds its key. -/
def claimedIn (answers : Answers) (ttl : Int) (key : JsString) (storage : Storage) : Storage :=
  { storage with
    replayClaims := Function.update storage.replayClaims answers.isolate
      ((pruneReplayClaims (storage.replayClaims answers.isolate) answers.now).set key
        (answers.now + (max 1 (min 15 ttl)).toNat)) }

/-- The storage after a check found its key held in the isolate. -/
def prunedIn (answers : Answers) (storage : Storage) : Storage :=
  { storage with
    replayClaims := Function.update storage.replayClaims answers.isolate
      (pruneReplayClaims (storage.replayClaims answers.isolate) answers.now) }

theorem prune_later {now later : Nat} (ordered : now ≤ later) (expiry : Option Nat) :
    (expiry.filter fun expiresAt => now < expiresAt).filter (fun expiresAt => later < expiresAt) =
      expiry.filter fun expiresAt => later < expiresAt := by
  apply Timeline.filter_expired
  intro expiresAt alive
  rw [decide_eq_true_eq] at alive ⊢
  omega

theorem inIsolate_pruned {isolate later : Nat} (ordered : answers.now ≤ later) :
    inIsolate (prunedIn answers storage) key isolate later = inIsolate storage key isolate later := by
  simp only [inIsolate, prunedIn, find_pruneReplayClaims, Function.update_apply]
  split
  next same => rw [find_pruneReplayClaims, prune_later ordered, same]
  next => rfl

theorem checkReplay_window {failure : HttpException} {names : Option (JsString × JsString)}
    (window : replayWindow env = .error failure) :
    checkReplay env bound names answers storage = (.error failure, storage) := by
  simp [checkReplay, bind, Stateful.lift, window]

theorem checkReplay_nameless (window : replayWindow env = .ok ttl) :
    checkReplay env bound none answers storage = (.error internalError, storage) := by
  simp [checkReplay, bind, Stateful.lift, window, orTypeError]

theorem checkReplay_taken {names : JsString × JsString} (window : replayWindow env = .ok ttl)
    (taken : inIsolate storage (replayKey names.1 names.2) answers.isolate answers.now = true) :
    checkReplay env bound (some names) answers storage =
      (.error replayed, prunedIn answers storage) := by
  obtain ⟨expiresAt, found⟩ := Option.isSome_iff_exists.mp taken
  simp [checkReplay, bind, Stateful.lift, window, orTypeError, claimReplayKey, found, prunedIn]

theorem checkReplay_untaken {names : JsString × JsString} (window : replayWindow env = .ok ttl)
    (untaken : inIsolate storage (replayKey names.1 names.2) answers.isolate answers.now = false) :
    checkReplay env bound (some names) answers storage =
      let key := replayKey names.1 names.2
      let result := claimStored env bound answers ttl key (claimedIn answers ttl key storage)
      (result.1, releaseClaim answers key result.2) := by
  have none_ : (pruneReplayClaims (storage.replayClaims answers.isolate) answers.now).find
      (replayKey names.1 names.2) = none := by
    simpa [inIsolate] using untaken
  simp [checkReplay, bind, Stateful.lift, window, orTypeError, claimReplayKey, none_, claimedIn]

/-- The claim maps and the locks of all other keys are the same. -/
def Beside (key : JsString) (before after : Storage) : Prop :=
  after.replayClaims = before.replayClaims ∧
    ∀ other, other ≠ key → after.locks other = before.locks other

instance : Std.Refl (Beside key) where
  refl _ := ⟨rfl, fun _ _ => rfl⟩

instance : IsTrans Storage (Beside key) where
  trans _ _ _ first second :=
    ⟨second.1.trans first.1, fun other different =>
      (second.2 other different).trans (first.2 other different)⟩

theorem lockFetch_beside (answers : Answers) (key : JsString) (fault : LockFault)
    (request : LockRequest) :
    Stateful.Relates (Beside key) (lockFetch answers key fault request) := by
  intro storage
  have unapplied : Beside key storage storage := Std.Refl.refl storage
  have applied : Beside key storage { storage with
      locks := Function.update storage.locks key
        ((storage.locks key).fetch answers.now request).2 } :=
    ⟨rfl, fun other different => Function.update_of_ne different _ _⟩
  cases fault with
  | none => exact applied
  | lost takesEffect =>
      cases takesEffect with
      | false => exact unapplied
      | true => exact applied
  | unavailable takesEffect =>
      cases takesEffect with
      | false => exact unapplied
      | true => exact applied

theorem checkWithLock_beside (answers : Answers) (ttl : Int) (key : JsString) :
    Stateful.Relates (Beside key) (checkWithLock answers ttl key) := by
  apply Stateful.relates_bind
  · apply Stateful.relates_bind (lockFetch_beside answers key _ _)
    intro status
    refine Stateful.relates_ite (fun _ => Stateful.relates_fail _) fun _ => ?_
    exact Stateful.relates_ite (fun _ => Stateful.relates_pure ()) fun _ => Stateful.relates_fail _
  · intro _ storage
    have cleared := lockFetch_beside answers key answers.lockClear .forget
      { storage with kv := (persistReplayMarker answers ttl key storage.kv).2 }
    simp only [onKv]
    split
    next persisted =>
      obtain ⟨-, rfl⟩ := Prod.mk.inj persisted
      exact ⟨rfl, fun _ _ => rfl⟩
    next persisted =>
      obtain ⟨-, rfl⟩ := Prod.mk.inj persisted
      exact cleared

/-- The steps behind the claim in the isolate leave the claim maps alone, and the
locks of other keys. -/
theorem claimStored_beside (env : Env) (bound : Bool) (answers : Answers) (ttl : Int)
    (key : JsString) : Stateful.Relates (Beside key) (claimStored env bound answers ttl key) := by
  apply Stateful.relates_ite
  · intro _
    exact checkWithLock_beside answers ttl key
  · intro _
    apply Stateful.relates_ite
    · intro _
      exact Stateful.relates_fail _
    · intro _ storage
      exact ⟨rfl, fun _ _ => rfl⟩

/-- A check that held its key gives it back. -/
theorem inIsolate_after {isolate later : Nat} (other : JsString) (ordered : answers.now ≤ later)
    (untaken : inIsolate storage key answers.isolate answers.now = false) :
    inIsolate (releaseClaim answers key
      (claimStored env bound answers ttl key (claimedIn answers ttl key storage)).2) other isolate
        later = inIsolate storage other isolate later := by
  have kept : (claimStored env bound answers ttl key (claimedIn answers ttl key storage)).2.replayClaims
      = (claimedIn answers ttl key storage).replayClaims := (claimStored_beside _ _ _ _ _ _).1
  generalize (claimStored env bound answers ttl key (claimedIn answers ttl key storage)).2 =
    result at kept ⊢
  simp only [inIsolate, releaseClaim, find_pruneReplayClaims, kept, claimedIn,
    Function.update_apply] at untaken ⊢
  split
  next same =>
    subst same
    rw [if_pos trivial]
    by_cases sameKey : other = key
    · subst sameKey
      rw [OrderedMap.find_erase_self]
      cases found : (storage.replayClaims answers.isolate).find other with
      | none => rfl
      | some expiresAt =>
          rw [found] at untaken
          have expired : ¬answers.now < expiresAt := by simpa using untaken
          have stillExpired : ¬later < expiresAt := by omega
          simp [stillExpired]
    · rw [OrderedMap.find_erase_other _ sameKey, OrderedMap.find_set_other _ sameKey,
        find_pruneReplayClaims, prune_later ordered]
  next => rfl

/-- The claim in the isolate does not touch what the later steps read. -/
theorem alike_claimedIn {first second : Answers} {now : Nat} {left right : Storage}
    {other : JsString} (alike : Alike bound other now left right) :
    Alike bound other now (claimedIn first ttl key left) (claimedIn second ttl key right) := by
  cases bound with
  | true => exact alike
  | false => exact alike

/-! ### Storages no check can tell apart -/

/-- No check from now on tells the storages apart. -/
structure Indistinct (bound : Bool) (now : Nat) (left right : Storage) : Prop where
  alike : ∀ key, Alike bound key now left right
  claims : ∀ key isolate later, now ≤ later →
    inIsolate left key isolate later = inIsolate right key isolate later

theorem Indistinct.refl (now : Nat) (storage : Storage) : Indistinct bound now storage storage where
  alike key := by
    cases bound with
    | true => exact fun later _ => rfl
    | false => exact rfl
  claims _ _ _ _ := rfl

theorem Indistinct.later {now next : Nat} {left right : Storage}
    (indistinct : Indistinct bound now left right) (ordered : now ≤ next) :
    Indistinct bound next left right where
  alike key := (indistinct.alike key).later ordered
  claims key isolate moment after :=
    indistinct.claims key isolate moment (Nat.le_trans ordered after)

/-- What a check behind its claim in the isolate makes of storages that are alike. -/
theorem claimStored_next {now : Nat} {left right : Storage} (positive : 0 < ttl)
    (ordered : now ≤ answers.now) (alike : ∀ other, Alike bound other now left right)
    (other : JsString) :
    Alike bound other answers.now (claimStored env bound answers ttl key left).2
      (claimStored env bound answers ttl key right).2 := by
  cases bound with
  | false =>
      have sameKv : left.kv = right.kv := alike other
      by_cases strong : cleanEnv env.replayStrongMode = js "1"
      · rw [claimStored_strong strong, claimStored_strong strong]
        exact sameKv
      · rw [claimStored_open strong, claimStored_open strong, Alike, if_neg (by simp)]
        simp only [onKv, sameKv]
  | true =>
      intro later after
      have sameHeld := alike other later (Nat.le_trans ordered after)
      by_cases same : other = key
      · subst same
        rw [claimStored_bound, claimStored_bound, checkWithLock_later positive after,
          checkWithLock_later positive after, sameHeld, alike other answers.now ordered]
      · rw [(claimStored_beside env true answers ttl key left).2 other same,
          (claimStored_beside env true answers ttl key right).2 other same, sameHeld]

theorem respects_checkReplay (env : Env) (names : Option (JsString × JsString)) {now : Nat}
    (ordered : now ≤ answers.now) :
    Stateful.Respects (Indistinct bound now) (Indistinct bound answers.now)
      (checkReplay env bound names answers) := by
  intro left right indistinct
  have after := indistinct.later ordered
  cases window : replayWindow env with
  | error failure => exact ⟨by rw [checkReplay_window window, checkReplay_window window],
      by rw [checkReplay_window window, checkReplay_window window]; exact after⟩
  | ok ttl =>
      have positive := replayWindow_pos window
      cases names with
      | none => exact ⟨by rw [checkReplay_nameless window, checkReplay_nameless window],
          by rw [checkReplay_nameless window, checkReplay_nameless window]; exact after⟩
      | some names =>
          have sameClaim := after.claims (replayKey names.1 names.2) answers.isolate answers.now
            le_rfl
          cases untaken : inIsolate right (replayKey names.1 names.2) answers.isolate
              answers.now with
          | true =>
              rw [checkReplay_taken window untaken,
                checkReplay_taken window (sameClaim.trans untaken)]
              refine ⟨rfl, after.alike, ?_⟩
              intro key isolate later ordered
              rw [inIsolate_pruned ordered, inIsolate_pruned ordered]
              exact after.claims key isolate later ordered
          | false =>
              have untakenLeft := sameClaim.trans untaken
              have claimed (other : JsString) : Alike bound other now
                  (claimedIn answers ttl (replayKey names.1 names.2) left)
                  (claimedIn answers ttl (replayKey names.1 names.2) right) :=
                alike_claimedIn (indistinct.alike other)
              rw [checkReplay_untaken window untaken, checkReplay_untaken window untakenLeft]
              refine ⟨claimStored_alike positive (claimed _) ordered, ?_, ?_⟩
              · intro other
                cases bound with
                | true => exact claimStored_next positive ordered claimed other
                | false => exact claimStored_next positive ordered claimed other
              · intro other isolate later after_
                rw [inIsolate_after other after_ untaken, inIsolate_after other after_ untakenLeft]
                exact after.claims other isolate later after_

/-- A check that does not answer with a replay and leaves no claim leaves the
storage as it was to every later check. -/
theorem checkReplay_left {names : JsString × JsString} (window : replayWindow env = .ok ttl)
    (accepted : (checkReplay env bound (some names) answers storage).1 ≠ .error replayed)
    (released : ¬LeavesClaim env bound answers (replayKey names.1 names.2) storage) :
    Indistinct bound answers.now (checkReplay env bound (some names) answers storage).2
      storage := by
  have positive := replayWindow_pos window
  cases untaken : inIsolate storage (replayKey names.1 names.2) answers.isolate answers.now with
  | true => exact absurd (by rw [checkReplay_taken window untaken]) accepted
  | false =>
      rw [checkReplay_untaken window untaken] at accepted ⊢
      have left := claimStored_left positive accepted released
      have beside := (claimStored_beside env bound answers ttl (replayKey names.1 names.2)
        (claimedIn answers ttl (replayKey names.1 names.2) storage)).2
      refine ⟨?_, fun other isolate later ordered => inIsolate_after other ordered untaken⟩
      intro other
      cases bound with
      | false => exact left
      | true =>
          by_cases same : other = replayKey names.1 names.2
          · subst same
            exact left
          · intro later _
            exact congrArg (Lock.held · later) (beside other same)

/-- A blocked key answers the next check of it with a replay. -/
theorem checkReplay_blocked {names : JsString × JsString} (window : replayWindow env = .ok ttl)
    (positive : 0 < ttl)
    (blocked : Blocked env bound (replayKey names.1 names.2) answers.now storage) :
    (checkReplay env bound (some names) answers.calm storage).1 = .error replayed := by
  cases untaken : inIsolate storage (replayKey names.1 names.2) answers.calm.isolate
      answers.calm.now with
  | true => rw [checkReplay_taken window untaken]
  | false =>
      rw [checkReplay_untaken window untaken]
      apply claimStored_blocked positive
      cases bound with
      | true => exact blocked
      | false => exact blocked

/-- The claim a check leaves blocks its key, which was free before. -/
theorem checkReplay_leaves {names : JsString × JsString} (window : replayWindow env = .ok ttl)
    (positive : 0 < ttl)
    (accepted : (checkReplay env bound (some names) answers storage).1 ≠ .error replayed)
    (leaves : LeavesClaim env bound answers (replayKey names.1 names.2) storage) :
    (checkReplay env bound (some names) answers.calm storage).1 = .ok () ∧
      Blocked env bound (replayKey names.1 names.2) answers.now
        (checkReplay env bound (some names) answers storage).2 := by
  cases untaken : inIsolate storage (replayKey names.1 names.2) answers.isolate answers.now with
  | true => exact absurd (by rw [checkReplay_taken window untaken]) accepted
  | false =>
      have calmUntaken : inIsolate storage (replayKey names.1 names.2) answers.calm.isolate
          answers.calm.now = false := untaken
      rw [checkReplay_untaken window untaken] at accepted ⊢
      rw [checkReplay_untaken window calmUntaken]
      obtain ⟨before, after⟩ := claimStored_leaves positive accepted leaves
      refine ⟨before, ?_⟩
      cases bound with
      | true => exact after
      | false => exact after

/-- A check that succeeds leaves its claim. -/
theorem checkReplay_succeeds {names : JsString × JsString} (window : replayWindow env = .ok ttl)
    (positive : 0 < ttl)
    (succeeded : (checkReplay env bound (some names) answers storage).1 = .ok ()) :
    LeavesClaim env bound answers (replayKey names.1 names.2) storage := by
  cases untaken : inIsolate storage (replayKey names.1 names.2) answers.isolate answers.now with
  | true =>
      rw [checkReplay_taken window untaken] at succeeded
      cases succeeded
  | false =>
      rw [checkReplay_untaken window untaken] at succeeded
      have leaves := claimStored_succeeds positive succeeded
      cases bound with
      | true => exact leaves
      | false => exact leaves

end Check

end DarkmeshGateway.SecretsWorker.ReplayClaim
