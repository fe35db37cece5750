import DarkmeshGateway.SecretsWorker.ReplayClaim

/-!
Contract: `checkReplay` without the durable lock on a database that is locked
now and then.

Owns the patterns of at most two failures of the storage steps, and for which of
them a fresh nonce is answered with a replay.

Does not own the steps of a check, or checks that run at the same time.
-/

namespace DarkmeshGateway.SecretsWorker.BusyReplay

open Foundation
open Foundation.Js
open SecretsWorker.Fields
open SecretsWorker.Inbox (replayWindow replayWindow_pos expirationTtl)
open SecretsWorker.ReplayCheck
open SecretsWorker.ReplayClaim
open SecretsWorker.ReplayGuard (Fault replayKey pruneReplayClaims)

/-! ### Patterns of failures -/

/-- What the storage steps of an attempt meet, in their order. -/
def attemptFaults (answers : Answers) (attempt : Nat) : List Fault :=
  [answers.read attempt, answers.claim attempt, answers.check attempt, answers.confirm attempt]

theorem read_mem (answers : Answers) (attempt : Nat) :
    answers.read attempt ∈ attemptFaults answers attempt := by simp [attemptFaults]

theorem claim_mem (answers : Answers) (attempt : Nat) :
    answers.claim attempt ∈ attemptFaults answers attempt := by simp [attemptFaults]

theorem check_mem (answers : Answers) (attempt : Nat) :
    answers.check attempt ∈ attemptFaults answers attempt := by simp [attemptFaults]

theorem confirm_mem (answers : Answers) (attempt : Nat) :
    answers.confirm attempt ∈ attemptFaults answers attempt := by simp [attemptFaults]

def isBusy (fault : Fault) : Bool := fault ≠ .none

/-- The failures in this and the remaining attempts. -/
def busyCount (answers : Answers) : Nat → Nat
  | 0 => (attemptFaults answers (attemptOf 0)).countP isBusy
  | remaining + 1 =>
      (attemptFaults answers (attemptOf (remaining + 1))).countP isBusy +
        busyCount answers remaining

/-- The database is locked at most twice, and nothing else fails. A write that
fails may have taken effect. -/
structure Transient (answers : Answers) : Prop where
  busy : ∀ attempt, ∀ fault ∈ attemptFaults answers attempt, ∀ applied, fault ≠ .broken applied
  few : busyCount answers 2 ≤ 2

/-- From the claim that takes effect on, no step of its attempt fails. -/
def undisturbed (answers : Answers) (remaining : Nat) : Bool :=
  match stoppedBy answers (attemptOf remaining), remaining with
  | some .busy, rest + 1 => undisturbed answers rest
  | some _, _ => true
  | none, _ =>
      answers.claim (attemptOf remaining) = .none && answers.check (attemptOf remaining) = .none &&
        answers.confirm (attemptOf remaining) = .none

variable {answers : Answers} {ttl : Int} {key : JsString} {kv : Kv}

theorem undisturbed_of_claim {remaining : Nat}
    (claims : stoppedBy answers (attemptOf remaining) = none) :
    undisturbed answers remaining = true ↔
      answers.claim (attemptOf remaining) = .none ∧ answers.check (attemptOf remaining) = .none ∧
        answers.confirm (attemptOf remaining) = .none := by
  rw [undisturbed.eq_def, claims]
  simp [and_assoc]

theorem undisturbed_succ {remaining : Nat}
    (stops : stoppedBy answers (attemptOf (remaining + 1)) = some .busy) :
    undisturbed answers (remaining + 1) = undisturbed answers remaining := by
  rw [undisturbed.eq_def, stops]

/-- A step that fails at all fails on a locked database. -/
theorem Transient.eq_busy (transient : Transient answers) {attempt : Nat} {fault : Fault}
    (member : fault ∈ attemptFaults answers attempt) (fails : fault ≠ .none) :
    ∃ applied, fault = .busy applied := by
  cases fault with
  | none => exact absurd rfl fails
  | busy applied => exact ⟨applied, rfl⟩
  | broken applied => exact absurd rfl (transient.busy attempt _ member applied)

theorem Transient.stoppedBy_eq (transient : Transient answers) {attempt : Nat}
    {thrown : StorageError} (stops : stoppedBy answers attempt = some thrown) : thrown = .busy := by
  have noBroken := transient.busy attempt
  simp only [attemptFaults, List.forall_mem_cons] at noBroken
  unfold stoppedBy at stops
  cases read : answers.read attempt with
  | busy applied =>
      rw [read] at stops
      exact (Option.some.inj stops).symm
  | broken applied => exact absurd read (noBroken.1 applied)
  | none =>
      rw [read] at stops
      cases claim : answers.claim attempt with
      | none => simp [claim] at stops
      | busy applied =>
          cases applied with
          | false => simpa [claim, eq_comm] using stops
          | true => simp [claim] at stops
      | broken applied => exact absurd claim (noBroken.2.1 applied)

/-- An attempt that a failure strikes uses one of them up. -/
theorem count_pos {attempt : Nat} {fault : Fault} (member : fault ∈ attemptFaults answers attempt)
    (fails : fault ≠ .none) : 0 < (attemptFaults answers attempt).countP isBusy := by
  rw [List.countP_pos_iff]
  exact ⟨fault, member, by simp [isBusy, fails]⟩

theorem count_pos_of_stopped {attempt : Nat} {thrown : StorageError}
    (stops : stoppedBy answers attempt = some thrown) :
    0 < (attemptFaults answers attempt).countP isBusy := by
  by_cases read : answers.read attempt = .none
  · have claim : answers.claim attempt ≠ .none := by
      intro none
      simp [stoppedBy, read, none] at stops
    exact count_pos (claim_mem answers attempt) claim
  · exact count_pos (read_mem answers attempt) read

/-- Fewer failures than attempts leave the read of one of them alone. -/
theorem exists_read (answers : Answers) (remaining : Nat)
    (few : busyCount answers remaining ≤ remaining) :
    ∃ left ≤ remaining, answers.read (attemptOf left) = .none := by
  induction remaining with
  | zero =>
      refine ⟨0, Nat.le_refl 0, ?_⟩
      by_contra fails
      have used := count_pos (read_mem answers (attemptOf 0)) fails
      rw [busyCount] at few
      omega
  | succ remaining inductionHypothesis =>
      by_cases reads : answers.read (attemptOf (remaining + 1)) = .none
      · exact ⟨remaining + 1, Nat.le_refl _, reads⟩
      · have used := count_pos (read_mem answers (attemptOf (remaining + 1))) reads
        rw [busyCount] at few
        obtain ⟨left, within, found⟩ := inductionHypothesis (by omega)
        exact ⟨left, by omega, found⟩

/-! ### Attempts -/

/-- Once a marker is stored, the first read that works ends in a replay. -/
theorem retryBusy_replays (transient : Transient answers) (positive : 0 < ttl)
    (marked : Marked kv answers.now ttl key) (remaining : Nat)
    (reads : ∃ left ≤ remaining, answers.read (attemptOf left) = .none) :
    (retryBusy (attemptClaim answers ttl key) remaining kv).1 = .error replayed := by
  obtain ⟨record, present⟩ := marked.present positive (by omega : (answers.now : Int) ≤ _)
  have taken {attempt : Nat} (works : answers.read attempt = .none) :
      attemptClaim answers ttl key attempt kv = (.error (.inr replayed), kv) := by
    simp [attemptClaim, works, ReplayCheck.get, present]
  have locked {attempt : Nat} (fails : answers.read attempt ≠ .none) :
      attemptClaim answers ttl key attempt kv = (.error (.inl .busy), kv) := by
    obtain ⟨applied, busy⟩ := transient.eq_busy (read_mem answers attempt) fails
    simp [attemptClaim, busy, ReplayCheck.get]
  induction remaining with
  | zero =>
      obtain ⟨left, within, works⟩ := reads
      obtain rfl : left = 0 := by omega
      rw [retryBusy, taken works]
      rfl
  | succ remaining inductionHypothesis =>
      by_cases works : answers.read (attemptOf (remaining + 1)) = .none
      · rw [retryBusy, taken works]
        rfl
      · rw [retryBusy, locked works]
        apply inductionHypothesis
        obtain ⟨left, within, found⟩ := reads
        refine ⟨left, ?_, found⟩
        by_contra last
        obtain rfl : left = remaining + 1 := by omega
        exact works found

/-- The store with the marker of an attempt. -/
def claimedKv (answers : Answers) (ttl : Int) (key : JsString) (attempt : Nat) (kv : Kv) : Kv :=
  ExpiringStore.put kv key (.text (claimMarker answers attempt))
    (expirationTtl answers.now (some ttl))

theorem marked_claimedKv (answers : Answers) (ttl : Int) (key : JsString) (attempt : Nat)
    (kv : Kv) : Marked (claimedKv answers ttl key attempt kv) answers.now ttl key :=
  marked_put kv answers.now ttl key (claimMarker_ne_nil answers attempt)

/-- The marker is read back. -/
theorem get_claimedKv (positive : 0 < ttl) (attempt : Nat) :
    ReplayCheck.get (claimedKv answers ttl key attempt kv) answers.now key .none =
      .ok (some (.text (claimMarker answers attempt))) := by
  have alive : answers.now ≤ ((answers.now : Int) + ttl).toNat := by omega
  have nonempty : claimMarker answers attempt ≠ [] := claimMarker_ne_nil answers attempt
  simp [ReplayCheck.get, claimedKv, ExpiringStore.get_put_self, Expiring.alive,
    expirationTtl_pos positive, alive, Record.present, nonempty]

theorem attemptClaim_claimed (absent : Absent kv answers.now key) {attempt : Nat}
    (read : answers.read attempt = .none) (claim : answers.claim attempt = .none) :
    attemptClaim answers ttl key attempt kv =
      confirmClaim answers ttl key attempt (claimedKv answers ttl key attempt kv) := by
  have unclaimed : ReplayCheck.get kv answers.now key .none = .ok none := by
    rw [ReplayCheck.get, absent]
  rw [attemptClaim, read, unclaimed, claim]
  rfl

/-- A claim that takes effect and is not disturbed succeeds. -/
theorem attemptClaim_undisturbed (positive : 0 < ttl) (absent : Absent kv answers.now key)
    {attempt : Nat} (read : answers.read attempt = .none) (claim : answers.claim attempt = .none)
    (check : answers.check attempt = .none) (confirm : answers.confirm attempt = .none) :
    (attemptClaim answers ttl key attempt kv).1 = .ok () := by
  rw [attemptClaim_claimed absent read claim, confirmClaim, check, get_claimedKv positive, confirm]
  simp [ReplayCheck.put, Except.mapError]

theorem Transient.read_of_claims (transient : Transient answers) {attempt : Nat}
    (claims : stoppedBy answers attempt = none) : answers.read attempt = .none := by
  by_contra fails
  obtain ⟨applied, busy⟩ := transient.eq_busy (read_mem answers attempt) fails
  simp [stoppedBy, busy] at claims

/-- One that is disturbed leaves its marker and is tried again. -/
theorem attemptClaim_disturbed (transient : Transient answers) (positive : 0 < ttl)
    (absent : Absent kv answers.now key) {attempt : Nat}
    (claims : stoppedBy answers attempt = none)
    (disturbed : ¬(answers.claim attempt = .none ∧ answers.check attempt = .none ∧
      answers.confirm attempt = .none)) :
    ∃ next, attemptClaim answers ttl key attempt kv = (.error (.inl .busy), next) ∧
      Marked next answers.now ttl key := by
  have marked := marked_claimedKv answers ttl key attempt kv
  have read := transient.read_of_claims claims
  by_cases claim : answers.claim attempt = .none
  · rw [attemptClaim_claimed absent read claim, confirmClaim]
    by_cases check : answers.check attempt = .none
    · have confirm : answers.confirm attempt ≠ .none := by
        intro none
        exact disturbed ⟨claim, check, none⟩
      obtain ⟨applied, busy⟩ := transient.eq_busy (confirm_mem answers attempt) confirm
      refine ⟨_, ?_, marked.put (by decide : js "1" ≠ []) (.busy applied)⟩
      rw [check, get_claimedKv positive, busy]
      simp [ReplayCheck.put, Except.mapError]
    · obtain ⟨applied, busy⟩ := transient.eq_busy (check_mem answers attempt) check
      refine ⟨_, ?_, marked⟩
      rw [busy]
      rfl
  · obtain ⟨applied, busy⟩ := transient.eq_busy (claim_mem answers attempt) claim
    have unclaimed : ReplayCheck.get kv answers.now key .none = .ok none := by
      rw [ReplayCheck.get, absent]
    cases applied with
    | false => simp [stoppedBy, read, busy] at claims
    | true =>
        refine ⟨_, ?_, marked⟩
        rw [attemptClaim, read, unclaimed, busy]
        rfl

/-- An attempt that succeeds ends the retries. -/
theorem retryBusy_of_ok {attempt : Nat → Kv → AttemptOutcome} (remaining : Nat)
    (succeeds : (attempt (attemptOf remaining) kv).1 = .ok ()) :
    (retryBusy attempt remaining kv).1 = .ok () := by
  cases remaining with
  | zero =>
      rw [retryBusy]
      generalize attempt (attemptOf 0) kv = outcome at succeeds
      obtain ⟨result, next⟩ := outcome
      obtain rfl : result = .ok () := succeeds
      rfl
  | succ remaining =>
      rw [retryBusy]
      generalize attempt (attemptOf (remaining + 1)) kv = outcome at succeeds
      obtain ⟨result, next⟩ := outcome
      obtain rfl : result = .ok () := succeeds
      rfl

/-- With at most as many failures as there are attempts to come, a key that is
absent is refused exactly when its claim was disturbed. -/
theorem retryBusy_iff (transient : Transient answers) (positive : 0 < ttl)
    (absent : Absent kv answers.now key) (remaining : Nat)
    (few : busyCount answers remaining ≤ remaining) :
    (retryBusy (attemptClaim answers ttl key) remaining kv).1 ≠ .error replayed ↔
      undisturbed answers remaining = true := by
  cases stops : stoppedBy answers (attemptOf remaining) with
  | none =>
      rw [undisturbed_of_claim stops]
      by_cases whole : answers.claim (attemptOf remaining) = .none ∧
          answers.check (attemptOf remaining) = .none ∧
          answers.confirm (attemptOf remaining) = .none
      · have read := transient.read_of_claims stops
        have succeeds := attemptClaim_undisturbed positive absent read whole.1 whole.2.1 whole.2.2
        rw [retryBusy_of_ok remaining succeeds]
        simp [whole]
      · have struck : 0 < (attemptFaults answers (attemptOf remaining)).countP isBusy := by
          rw [not_and_or, not_and_or] at whole
          rcases whole with claim | check | confirm
          · exact count_pos (claim_mem answers _) claim
          · exact count_pos (check_mem answers _) check
          · exact count_pos (confirm_mem answers _) confirm
        obtain ⟨next, attempted, marked⟩ :=
          attemptClaim_disturbed transient positive absent stops whole
        cases remaining with
        | zero =>
            rw [busyCount] at few
            omega
        | succ remaining =>
            rw [busyCount] at few
            have left := exists_read answers remaining (by omega)
            have replays := retryBusy_replays transient positive marked remaining left
            rw [retryBusy, attempted]
            simp [replays, whole]
  | some thrown =>
      obtain rfl := transient.stoppedBy_eq stops
      have used := count_pos_of_stopped stops
      have spec := attemptClaim_spec answers ttl key (attemptOf remaining) kv
      cases remaining with
      | zero =>
          rw [busyCount] at few
          omega
      | succ remaining =>
          rw [busyCount] at few
          have later := retryBusy_iff transient positive absent remaining (by omega)
          rw [retryBusy, undisturbed_succ stops]
          generalize attemptClaim answers ttl key (attemptOf (remaining + 1)) kv = outcome at spec ⊢
          cases spec with
          | stopped thrown same =>
              obtain rfl : thrown = .busy := transient.stoppedBy_eq same
              exact later
          | taken present => exact absurd absent present
          | claimed outcome next claims =>
              rw [stops] at claims
              cases claims

/-! ### Checks -/

/-- The key was never used, and no other check of it is going on. -/
structure Unused (storage : Storage) (answers : Answers) (key : JsString) : Prop where
  absent : Absent storage.kv answers.now key
  unclaimed : (pruneReplayClaims (storage.replayClaims answers.isolate) answers.now).find key = none

/-- Behind the claim in the isolate the attempts decide. -/
theorem checkReplay_open {env : Env} {subject nonce : JsString} {storage : Storage}
    (window : replayWindow env = .ok ttl) (lenient : cleanEnv env.replayStrongMode ≠ js "1")
    (unused : Unused storage answers (replayKey subject nonce)) :
    (checkReplay env false (some (subject, nonce)) answers storage).1 =
      (claimMarkers answers ttl (replayKey subject nonce) storage.kv).1 := by
  simp only [checkReplay, window, orTypeError, bind, Stateful.lift, claimReplayKey,
    unused.unclaimed]
  rw [claimStored_open lenient]
  rfl

/-- With at most two failures of a locked database, a check of an unused nonce is
answered with a replay exactly when the attempts are reached and one of the
failures strikes behind a claim that took effect. -/
theorem busy_not_replayed_iff {env : Env} {subject nonce : JsString} {answers : Answers}
    {storage : Storage} (unused : Unused storage answers (replayKey subject nonce))
    (transient : Transient answers) :
    (checkReplay env false (some (subject, nonce)) answers storage).1 ≠ .error replayed ↔
      ∀ ttl, replayWindow env = .ok ttl → cleanEnv env.replayStrongMode ≠ js "1" →
        undisturbed answers 2 = true := by
  cases window : replayWindow env with
  | error refusal =>
      have other : refusal ≠ replayed := by
        rintro rfl
        unfold replayWindow at window
        split at window
        next => cases window
        next =>
          split at window
          next => cases window
          next => cases window
      have refused : (checkReplay env false (some (subject, nonce)) answers storage).1 =
          .error refusal := by
        simp only [checkReplay, window, bind, Stateful.lift]
      simp [refused, other]
  | ok ttl =>
      by_cases strong : cleanEnv env.replayStrongMode = js "1"
      · have refused : (checkReplay env false (some (subject, nonce)) answers storage).1 =
            .error ⟨500, "missing_replay_lock_binding"⟩ := by
          simp only [checkReplay, window, orTypeError, bind, Stateful.lift, claimReplayKey,
            unused.unclaimed]
          rw [claimStored_strong strong]
        simp [refused, strong, replayed]
      · have positive := replayWindow_pos window
        rw [checkReplay_open window strong unused, claimMarkers,
          retryBusy_iff transient positive unused.absent 2 transient.few]
        simp [strong]

/-! ### A locked database -/

def emptyStorage : Storage := ⟨.empty, fun _ => none, fun _ => .empty⟩

/-- One step of the first attempt meets a locked database. -/
def lockedOnce (read claim : Fault) : Answers where
  isolate := 0
  now := 1700000000
  random := fun attempt => decimalDigits attempt
  read := fun attempt => if attempt = 0 then read else .none
  claim := fun attempt => if attempt = 0 then claim else .none

theorem lockedOnce_unused (read claim : Fault) :
    Unused emptyStorage (lockedOnce read claim) (replayKey (js "alice") (js "n-1")) :=
  ⟨rfl, rfl⟩

theorem lockedOnce_transient (read claim : Fault) (readTransient : ∀ applied, read ≠ .broken applied)
    (claimTransient : ∀ applied, claim ≠ .broken applied)
    (few : busyCount (lockedOnce read claim) 2 ≤ 2) : Transient (lockedOnce read claim) := by
  refine ⟨?_, few⟩
  intro attempt fault member applied
  simp only [attemptFaults, lockedOnce, List.mem_cons, List.not_mem_nil, or_false] at member
  rcases member with rfl | rfl | rfl | rfl
  · split
    next => exact readTransient applied
    next => simp
  · split
    next => exact claimTransient applied
    next => simp
  · simp
  · simp

/-- A locked database in front of the claim delays the check. -/
theorem locked_read_not_replayed :
    (checkReplay {} false (some (js "alice", js "n-1")) (lockedOnce (.busy false) .none)
      emptyStorage).1 ≠ .error replayed := by
  have unused := lockedOnce_unused (.busy false) .none
  have transient := lockedOnce_transient (.busy false) .none (by simp) (by simp) (by decide)
  rw [busy_not_replayed_iff unused transient]
  intro ttl window lenient
  decide

/-- A claim that took effect although its put failed is taken for a replay. -/
theorem locked_claim_replayed :
    ¬∀ (env : Env) (subject nonce : JsString) (answers : Answers) (storage : Storage),
      Unused storage answers (replayKey subject nonce) → Transient answers →
        (checkReplay env false (some (subject, nonce)) answers storage).1 ≠ .error replayed := by
  intro claim
  have transient := lockedOnce_transient .none (.busy true) (by simp) (by simp) (by decide)
  have fresh := claim {} (js "alice") (js "n-1") (lockedOnce .none (.busy true)) emptyStorage
    (lockedOnce_unused .none (.busy true)) transient
  exact fresh (by decide +kernel)

end DarkmeshGateway.SecretsWorker.BusyReplay
