import Mathlib.Data.Rat.Floor

/-!
Contract: the durable object that locks one replay key.

Owns the expiry a lock object stores, the requests that claim and forget it, and
its alarm.

A lock object handles one event at a time.

Does not own the calls that claim a lock or when an alarm fires.
-/

namespace DarkmeshGateway.SecretsWorker.ReplayLock

/-- The stored expiry in seconds. -/
abbrev Lock := Option Int

/-- A request to a lock object. A claim carries the `ttl` of its body when that
is a finite number. -/
inductive LockRequest where
  | claim (ttl : Option ℚ)
  | forget
  | other

/-- The seconds a claim lasts. -/
def claimTtl (ttl : Option ℚ) : Int :=
  match ttl with
  | none => 600
  | some seconds => if 0 < seconds then min 86400 (max 1 ⌊seconds⌋) else 600

/-- `currentExp > now`. -/
def Lock.held (lock : Lock) (now : Int) : Bool := lock.any (now < ·)

/-- The status answered, and the lock afterwards. -/
def Lock.fetch (lock : Lock) (now : Int) : LockRequest → Nat × Lock
  | .claim ttl =>
      if lock.held now then (409, lock) else (201, some (now + claimTtl ttl))
  | .forget => (200, none)
  | .other => (404, lock)

def Lock.alarm (lock : Lock) (now : Int) : Lock := if lock.held now then lock else none

theorem claimTtl_intCast {ttl : Int} (positive : 0 < ttl) :
    claimTtl (some ttl) = min 86400 ttl := by
  have positiveRat : (0 : ℚ) < ttl := by exact_mod_cast positive
  rw [claimTtl, if_pos positiveRat, Int.floor_intCast, max_eq_right positive]

/-- A lock that is not held is not held later. -/
theorem held_later {lock : Lock} {now later : Int} (ordered : now ≤ later)
    (free : lock.held now = false) : lock.held later = false := by
  cases lock with
  | none => rfl
  | some exp =>
      simp only [Lock.held, Option.any_some, decide_eq_false_iff_not] at free ⊢
      omega

/-- An alarm leaves a claim that has not expired. -/
theorem alarm_held {lock : Lock} {now : Int} (held : lock.held now = true) :
    lock.alarm now = lock := by
  rw [Lock.alarm, if_pos held]

/-- An alarm changes nothing that a later request can see. -/
theorem held_alarm {lock : Lock} {now later : Int} (ordered : now ≤ later) :
    (lock.alarm now).held later = lock.held later := by
  cases held : lock.held now with
  | true => rw [alarm_held held]
  | false =>
      rw [held_later ordered held, Lock.alarm, held]
      rfl

end DarkmeshGateway.SecretsWorker.ReplayLock
