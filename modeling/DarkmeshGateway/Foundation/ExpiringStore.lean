import DarkmeshGateway.Foundation.OrderedMap

/-!
Contract: key-value stores whose entries expire.

Owns reads that ignore expired entries, writes with an optional expiry, and
listings of the live keys that satisfy a test.

An expired entry stays in the store until it is overwritten or deleted; no
read can tell it from an absent one.
-/

namespace DarkmeshGateway.Foundation

/-- A stored value and the last second at which it is read. -/
structure Expiring (ν : Type*) where
  value : ν
  expires : Option Nat

/-- The entry can still be read. -/
def Expiring.alive {ν : Type*} (entry : Expiring ν) (now : Nat) : Bool :=
  entry.expires.all fun last => now ≤ last

/-- The expiry of an entry written with a time to live; zero is no expiry. -/
def expiresIn (now ttl : Nat) : Option Nat := if ttl = 0 then none else some (now + ttl)

abbrev ExpiringStore (κ ν : Type*) := OrderedMap κ (Expiring ν)

namespace ExpiringStore

variable {κ ν : Type*} [DecidableEq κ]

/-- The live value under a key. -/
def get (store : ExpiringStore κ ν) (now : Nat) (key : κ) : Option ν :=
  (store.find key).bind fun entry => if entry.alive now then some entry.value else none

def put (store : ExpiringStore κ ν) (key : κ) (value : ν) (expires : Option Nat) :
    ExpiringStore κ ν :=
  store.set key ⟨value, expires⟩

/-- The live keys in insertion order. -/
def liveKeys (store : ExpiringStore κ ν) (now : Nat) : List κ :=
  (store.entries.filter fun entry => entry.2.alive now).map Prod.fst

/-- The first `limit` live keys that satisfy a test. -/
def list (store : ExpiringStore κ ν) (now : Nat) (selects : κ → Bool) (limit : Nat) : List κ :=
  ((store.liveKeys now).filter selects).take limit

theorem get_put_self (store : ExpiringStore κ ν) (key : κ) (value : ν) (expires : Option Nat)
    (now : Nat) :
    (store.put key value expires).get now key =
      if (Expiring.mk value expires).alive now then some value else none := by
  simp [get, put]

theorem mem_liveKeys_iff (store : ExpiringStore κ ν) (now : Nat) (key : κ) :
    key ∈ store.liveKeys now ↔ (store.get now key).isSome := by
  simp only [liveKeys, List.mem_map, List.mem_filter, Prod.exists, exists_and_right,
    exists_eq_right, OrderedMap.mem_entries_iff, get]
  cases store.find key with
  | none => simp
  | some entry => cases alive : entry.alive now <;> simp [alive]

/-- A listing that does not reach its limit contains every live key it selects. -/
theorem mem_list_iff (store : ExpiringStore κ ν) (now : Nat) {selects : κ → Bool} {limit : Nat}
    (short : (store.list now selects limit).length < limit) (key : κ) :
    key ∈ store.list now selects limit ↔
      (store.get now key).isSome ∧ selects key = true := by
  have whole : store.list now selects limit = (store.liveKeys now).filter selects := by
    apply List.take_of_length_le
    simp only [list, List.length_take] at short
    omega
  rw [whole, List.mem_filter, mem_liveKeys_iff]

end ExpiringStore

end DarkmeshGateway.Foundation
