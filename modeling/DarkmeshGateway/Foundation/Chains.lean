import Mathlib.Data.Set.Defs
import Mathlib.Data.List.Infix
import Mathlib.Data.List.Nodup

/-!
Contract: sets of items arranged in disjoint chains.

Owns chains without repetition that share no item, when one item directly
follows another, and the extension of a chain by a new item.

Does not own what links the items.
-/

namespace DarkmeshGateway.Foundation.Chains

variable {κ : Type*}

/-- No item occurs twice, in one chain or in two. -/
structure Disjoint (chains : Set (List κ)) : Prop where
  nonempty : ∀ chain ∈ chains, chain ≠ []
  distinct : ∀ chain ∈ chains, chain.Nodup
  apart : ∀ left ∈ chains, ∀ right ∈ chains, ∀ item, item ∈ left → item ∈ right → left = right

/-- The item is in one of the chains. -/
def Member (chains : Set (List κ)) (item : κ) : Prop := ∃ chain ∈ chains, item ∈ chain

/-- The second item directly follows the first in one of the chains. -/
def Follows (chains : Set (List κ)) (first second : κ) : Prop :=
  ∃ chain ∈ chains, [first, second] <:+: chain

/-- A chain with one more item at its end; the empty list starts a new chain. -/
def extend (chains : Set (List κ)) (chain : List κ) (item : κ) : Set (List κ) :=
  {other | (other ∈ chains ∧ other ≠ chain) ∨ other = chain ++ [item]}

variable {chains : Set (List κ)} {chain : List κ} {item : κ}

theorem Follows.left {first second : κ} (follows : Follows chains first second) :
    Member chains first := by
  obtain ⟨chain, listed, part⟩ := follows
  exact ⟨chain, listed, part.subset (by simp)⟩

theorem Follows.right {first second : κ} (follows : Follows chains first second) :
    Member chains second := by
  obtain ⟨chain, listed, part⟩ := follows
  exact ⟨chain, listed, part.subset (by simp)⟩

theorem disjoint_empty : Disjoint (∅ : Set (List κ)) :=
  ⟨fun _ member => member.elim, fun _ member => member.elim, fun _ member => member.elim⟩

/-- An extension adds just its item. -/
theorem member_extend (known : chain ∈ chains ∨ chain = []) (other : κ) :
    Member (extend chains chain item) other ↔ Member chains other ∨ other = item := by
  constructor
  · rintro ⟨extended, ⟨listed, -⟩ | rfl, member⟩
    · exact Or.inl ⟨extended, listed, member⟩
    · rcases List.mem_append.mp member with before | last
      · rcases known with listed | empty
        · exact Or.inl ⟨chain, listed, before⟩
        · rw [empty] at before
          exact absurd before List.not_mem_nil
      · exact Or.inr (List.mem_singleton.mp last)
  · rintro (⟨kept, listed, member⟩ | rfl)
    · by_cases same : kept = chain
      · exact ⟨chain ++ [item], Or.inr rfl, List.mem_append_left _ (same ▸ member)⟩
      · exact ⟨kept, Or.inl ⟨listed, same⟩, member⟩
    · exact ⟨chain ++ [other], Or.inr rfl, by simp⟩

theorem Disjoint.extend (disjoint : Disjoint chains) (known : chain ∈ chains ∨ chain = [])
    (fresh : ¬Member chains item) : Disjoint (extend chains chain item) := by
  have absent : item ∉ chain := by
    intro member
    rcases known with listed | empty
    · exact fresh ⟨chain, listed, member⟩
    · rw [empty] at member
      exact List.not_mem_nil member
  have other (left : List κ) (listed : left ∈ chains) (different : left ≠ chain) (shared : κ)
      (inLeft : shared ∈ left) : shared ∉ chain ++ [item] := by
    intro member
    rcases List.mem_append.mp member with before | last
    · rcases known with knownListed | empty
      · exact different (disjoint.apart left listed chain knownListed shared inLeft before)
      · rw [empty] at before
        exact List.not_mem_nil before
    · rw [List.mem_singleton.mp last] at inLeft
      exact fresh ⟨left, listed, inLeft⟩
  refine ⟨?_, ?_, ?_⟩
  · rintro extended (⟨listed, -⟩ | rfl)
    · exact disjoint.nonempty extended listed
    · simp
  · rintro extended (⟨listed, -⟩ | rfl)
    · exact disjoint.distinct extended listed
    · have before : chain.Nodup := by
        rcases known with listed | empty
        · exact disjoint.distinct chain listed
        · rw [empty]
          exact List.nodup_nil
      exact before.append (List.nodup_singleton item) (by simpa using absent)
  · rintro left (⟨leftListed, leftOther⟩ | rfl) right (⟨rightListed, rightOther⟩ | rfl) shared
      inLeft inRight
    · exact disjoint.apart left leftListed right rightListed shared inLeft inRight
    · exact absurd inRight (other left leftListed leftOther shared inLeft)
    · exact absurd inLeft (other right rightListed rightOther shared inRight)
    · rfl

/-- In an extension the new item follows the last one, and the rest is as before. -/
theorem follows_extend (known : chain ∈ chains ∨ chain = []) (first second : κ) :
    Follows (extend chains chain item) first second ↔
      Follows chains first second ∨ (chain.getLast? = some first ∧ second = item) := by
  have ending : [first, second] <:+: chain ++ [item] ↔
      (chain.getLast? = some first ∧ second = item) ∨ [first, second] <:+: chain := by
    rw [List.infix_concat_iff]
    apply or_congr_left
    constructor
    · rintro ⟨start, same⟩
      have parts : (start ++ [first]) ++ [second] = chain ++ [item] := by simpa using same
      obtain ⟨same, last⟩ := List.append_inj' parts rfl
      rw [← same]
      exact ⟨by simp, by simpa using last⟩
    · rintro ⟨last, rfl⟩
      obtain ⟨start, rfl⟩ := List.getLast?_eq_some_iff.mp last
      exact ⟨start, by simp⟩
  constructor
  · rintro ⟨extended, ⟨listed, -⟩ | rfl, part⟩
    · exact Or.inl ⟨extended, listed, part⟩
    · rcases ending.mp part with last | before
      · exact Or.inr last
      · rcases known with listed | empty
        · exact Or.inl ⟨chain, listed, before⟩
        · rw [empty] at before
          simp at before
  · rintro (⟨kept, listed, part⟩ | last)
    · by_cases same : kept = chain
      · exact ⟨_, Or.inr rfl, ending.mpr (Or.inr (same ▸ part))⟩
      · exact ⟨kept, Or.inl ⟨listed, same⟩, part⟩
    · exact ⟨_, Or.inr rfl, ending.mpr (Or.inl last)⟩

/-- An item that nothing follows ends its chain. -/
theorem getLast?_of_unfollowed (listed : chain ∈ chains) (member : item ∈ chain)
    (last : ∀ next, ¬Follows chains item next) : chain.getLast? = some item := by
  obtain ⟨before, after, rfl⟩ := List.append_of_mem member
  cases after with
  | nil => simp
  | cons next rest =>
      exact absurd ⟨_, listed, before, rest, by simp⟩ (last next)

end DarkmeshGateway.Foundation.Chains
