import Mathlib.Data.List.Nodup

/-!
Contract: keys in the order of their last use.

Owns the age of a key in a history of uses, lists that hold the oldest key
first, and how a use and a removal change such a list.

Does not own what counts as a use.
-/

namespace DarkmeshGateway.Foundation.Recency

variable {κ : Type*} [DecidableEq κ]

/-- How many uses lie behind the last one of a key; the history has the latest first. -/
def age (history : List κ) (key : κ) : Nat := history.idxOf key

/-- The keys have been used, and each one before the keys that follow it. -/
structure OldestFirst (history keys : List κ) : Prop where
  used : ∀ key ∈ keys, key ∈ history
  ordered : keys.Pairwise fun older newer => age history newer < age history older

theorem age_cons_self (history : List κ) (key : κ) : age (key :: history) key = 0 :=
  List.idxOf_cons_self

theorem age_cons_other {key other : κ} (different : other ≠ key) (history : List κ) :
    age (key :: history) other = age history other + 1 :=
  List.idxOf_cons_ne history different.symm

theorem OldestFirst.nil (history : List κ) : OldestFirst history [] :=
  ⟨by simp, List.Pairwise.nil⟩

/-- Removing keys keeps the order of the others. -/
theorem OldestFirst.sublist {history keys kept : List κ} (oldestFirst : OldestFirst history keys)
    (part : kept.Sublist keys) : OldestFirst history kept :=
  ⟨fun key member => oldestFirst.used key (part.subset member), oldestFirst.ordered.sublist part⟩

/-- A key that is used comes last, behind keys that it is not among. -/
theorem OldestFirst.use {history keys : List κ} (oldestFirst : OldestFirst history keys) {key : κ}
    (new : key ∉ keys) : OldestFirst (key :: history) (keys ++ [key]) := by
  have different {other : κ} (member : other ∈ keys) : other ≠ key :=
    fun same => new (same ▸ member)
  constructor
  · intro other member
    rcases List.mem_append.mp member with before | last
    · exact List.mem_cons_of_mem key (oldestFirst.used other before)
    · rw [List.mem_singleton.mp last]
      exact List.mem_cons_self
  · refine List.pairwise_append.mpr ⟨?_, List.pairwise_singleton _ key, ?_⟩
    · refine oldestFirst.ordered.imp_of_mem ?_
      intro older newer olderMember newerMember less
      rw [age_cons_other (different olderMember), age_cons_other (different newerMember)]
      exact Nat.succ_lt_succ less
    · intro other member last isLast
      rw [List.mem_singleton.mp isLast, age_cons_self, age_cons_other (different member)]
      exact Nat.succ_pos _

/-- The first key is older than the others. -/
theorem OldestFirst.head {history rest : List κ} {oldest : κ}
    (oldestFirst : OldestFirst history (oldest :: rest)) {other : κ}
    (member : other ∈ oldest :: rest) (different : other ≠ oldest) :
    age history other < age history oldest := by
  rcases List.mem_cons.mp member with same | later
  · exact absurd same different
  · exact (List.pairwise_cons.mp oldestFirst.ordered).1 other later

end DarkmeshGateway.Foundation.Recency
