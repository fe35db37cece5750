import DarkmeshGateway.Foundation.Js.Text
import DarkmeshGateway.Foundation.OrderedMap

/-!
Contract: the in-memory replay store of the gateway.

Owns marking a key, the sweep of expired keys, the eviction of the oldest
ones, and when a marked key is reported as a replay.

Does not own what a caller does with a replay.
-/

namespace DarkmeshGateway.Gateway.ReplayStore

open Foundation
open Foundation.Js

structure Options where
  ttlMs : Nat
  maxKeys : Nat
  sweepIntervalMs : Nat
  keyMaxBytes : Nat

/-- The expiry of each seen key, and the time of the last sweep. -/
structure Store where
  seen : OrderedMap JsString Int
  lastSweepAt : Int

def empty : Store := ⟨.empty, 0⟩

structure MarkResult where
  replay : Bool
  rejected : Bool
  pruned : Nat
  size : Nat
deriving DecidableEq, Repr

/-! ### Sweeping and eviction -/

def sweepExpired (seen : OrderedMap JsString Int) (now : Int) : OrderedMap JsString Int :=
  seen.filter fun _ expiresAt => now < expiresAt

/-- The store after a sweep, and how many keys the sweep removed. -/
def sweep (store : Store) (now : Int) : Store × Nat :=
  let seen := sweepExpired store.seen now
  (⟨seen, now⟩, store.seen.size - seen.size)

def maybeSweep (options : Options) (store : Store) (now : Int) : Store × Nat :=
  if options.maxKeys ≤ store.seen.size then sweep store now
  else if now - store.lastSweepAt < options.sweepIntervalMs then (store, 0)
  else sweep store now

/-- The oldest keys go until there is room for one more. -/
def pruneToCapacity (options : Options) (seen : OrderedMap JsString Int) :
    OrderedMap JsString Int × Nat :=
  let pruned := seen.shrink options.maxKeys
  (pruned, seen.size - pruned.size)

/-! ### Marking -/

/-- The key exceeds the byte limit. -/
def tooLong (options : Options) (key : JsString) : Bool := options.keyMaxBytes < utf8Length key

def markAndCheck (options : Options) (store : Store) (now : Int) (key : JsString) :
    Store × MarkResult :=
  if tooLong options key then (store, ⟨true, true, 0, store.seen.size⟩)
  else
    let (swept, sweptKeys) := maybeSweep options store now
    let expiresAt := now + options.ttlMs
    let insert (seen : OrderedMap JsString Int) : Store × MarkResult :=
      let (room, prunedKeys) := pruneToCapacity options seen
      let marked := room.set key expiresAt
      (⟨marked, swept.lastSweepAt⟩, ⟨false, false, sweptKeys + prunedKeys, marked.size⟩)
    match swept.seen.find key with
    | some prev =>
        if now < prev then
          let marked := swept.seen.set key expiresAt
          (⟨marked, swept.lastSweepAt⟩, ⟨true, false, sweptKeys, marked.size⟩)
        else insert (swept.seen.erase key)
    | none => insert swept.seen

/-- The key is marked and its mark has not expired. -/
def Live (store : Store) (now : Int) (key : JsString) : Prop :=
  ∃ expiresAt, store.seen.find key = some expiresAt ∧ now < expiresAt

instance (store : Store) (now : Int) (key : JsString) : Decidable (Live store now key) :=
  match found : store.seen.find key with
  | none => isFalse (by simp [Live, found])
  | some expiresAt =>
      decidable_of_iff (now < expiresAt) (by simp [Live, found])

/-- A sweep keeps exactly the marks that have not expired. -/
theorem find_sweepExpired (seen : OrderedMap JsString Int) (now : Int) (key : JsString) :
    (sweepExpired seen now).find key = (seen.find key).filter fun expiresAt => now < expiresAt :=
  seen.find_filter _ key

theorem find_of_maybeSweep {options : Options} {store : Store} {now : Int} {key : JsString}
    {expiresAt : Int} (found : (maybeSweep options store now).1.seen.find key = some expiresAt) :
    store.seen.find key = some expiresAt := by
  have swept (kept : (sweepExpired store.seen now).find key = some expiresAt) :
      store.seen.find key = some expiresAt := by
    rw [find_sweepExpired, Option.filter_eq_some_iff] at kept
    exact kept.1
  unfold maybeSweep sweep at found
  split at found
  · exact swept found
  · split at found
    · exact found
    · exact swept found

/-- A sweep changes no live mark. -/
theorem live_maybeSweep (options : Options) (store : Store) (now : Int) (key : JsString) :
    Live (maybeSweep options store now).1 now key ↔ Live store now key := by
  constructor
  · rintro ⟨expiresAt, found, alive⟩
    exact ⟨expiresAt, find_of_maybeSweep found, alive⟩
  · rintro ⟨expiresAt, found, alive⟩
    have swept : (sweepExpired store.seen now).find key = some expiresAt := by
      rw [find_sweepExpired, found]
      simp [alive]
    refine ⟨expiresAt, ?_, alive⟩
    unfold maybeSweep sweep
    split
    · exact swept
    · split
      · exact found
      · exact swept

/-- A key is reported as a replay exactly when it is too long or live. -/
theorem markAndCheck_replay (options : Options) (store : Store) (now : Int) (key : JsString) :
    (markAndCheck options store now key).2.replay = true ↔
      tooLong options key = true ∨ Live store now key := by
  unfold markAndCheck
  rw [← live_maybeSweep options]
  split
  next long => simp [long]
  next fits =>
    simp only [fits, Bool.false_eq_true, false_or, Live]
    split
    next prev found =>
      split
      next alive => simp [found, alive]
      next expired => simp [found, expired]
    next absent => simp [absent]

private theorem find_of_insertion {options : Options} {seen : OrderedMap JsString Int}
    {key other : JsString} (different : other ≠ key) {marked expiresAt : Int}
    (found : ((pruneToCapacity options seen).1.set key marked).find other = some expiresAt) :
    seen.find other = some expiresAt := by
  rw [OrderedMap.find_set_other _ different] at found
  exact OrderedMap.find_of_shrink found

/-- A key found after a mark was found before, or it is the newly marked one. -/
theorem find_markAndCheck {options : Options} {store : Store} {now : Int} {key other : JsString}
    {expiresAt : Int}
    (found : (markAndCheck options store now key).1.seen.find other = some expiresAt) :
    (other = key ∧ (markAndCheck options store now key).2.replay = false) ∨
      ∃ before, store.seen.find other = some before := by
  by_cases same : other = key
  · subst same
    cases replay : (markAndCheck options store now other).2.replay with
    | false => exact Or.inl ⟨rfl, rfl⟩
    | true =>
        right
        rcases (markAndCheck_replay options store now other).mp replay with long | ⟨before, kept, -⟩
        · rw [markAndCheck, if_pos long] at found
          exact ⟨expiresAt, found⟩
        · exact ⟨before, kept⟩
  · refine Or.inr ⟨expiresAt, ?_⟩
    unfold markAndCheck at found
    split at found
    · exact found
    · simp only at found
      split at found
      · split at found
        · rw [OrderedMap.find_set_other _ same] at found
          exact find_of_maybeSweep found
        · exact find_of_maybeSweep (OrderedMap.find_of_erase (find_of_insertion same found))
      · exact find_of_maybeSweep (find_of_insertion same found)

end DarkmeshGateway.Gateway.ReplayStore
