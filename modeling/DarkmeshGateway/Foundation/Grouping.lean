import DarkmeshGateway.Foundation.OrderedMap

/-!
Contract: keys sorted into groups, kept as two maps: the group of each key and
the keys of each group.

Owns the two updates of the set of a group, what it means that the maps are
inverse to each other and that no group is empty or too large, and that
assigning a key, releasing a key and dissolving a group keep all of this.

Does not own what the keys and the groups are.
-/

namespace DarkmeshGateway.Foundation.Grouping

/-- A set that remembers insertion order. -/
abbrev KeySet (κ : Type*) := OrderedMap κ Unit

variable {κ γ : Type*} [DecidableEq κ] [DecidableEq γ]

/-- Put a key into the set of a group, which is created when it is missing. -/
def insert (members : OrderedMap γ (KeySet κ)) (group : γ) (key : κ) : OrderedMap γ (KeySet κ) :=
  members.set group (((members.find group).getD .empty).set key ())

/-- Take a key out of the set of a group, and the set away with its last key. -/
def remove (members : OrderedMap γ (KeySet κ)) (group : γ) (key : κ) : OrderedMap γ (KeySet κ) :=
  match members.find group with
  | none => members
  | some set =>
      if (set.erase key).size = 0 then members.erase group else members.set group (set.erase key)

/-- The key is in the set of the group. -/
def Contains (members : OrderedMap γ (KeySet κ)) (group : γ) (key : κ) : Prop :=
  ∃ set, members.find group = some set ∧ (set.find key).isSome

/-- No group is kept without keys. -/
def Inhabited (members : OrderedMap γ (KeySet κ)) : Prop :=
  ∀ group set, members.find group = some set → 0 < set.size

/-- No group has more than `limit` keys. -/
def Bounded (limit : Nat) (members : OrderedMap γ (KeySet κ)) : Prop :=
  ∀ group set, members.find group = some set → set.size ≤ limit

/-- The set of a key's group holds the key, and nothing else is in a set. -/
def Inverse (groupOf : OrderedMap κ γ) (members : OrderedMap γ (KeySet κ)) : Prop :=
  ∀ key group, groupOf.find key = some group ↔ Contains members group key

/-! ### The sets after an update -/

omit [DecidableEq γ] in
/-- A set without its keys has no other key. -/
private theorem erase_size_eq_zero {set : KeySet κ} {key : κ} (last : (set.erase key).size = 0)
    {other : κ} (present : (set.find other).isSome) : other = key := by
  by_contra different
  have left : ((set.erase key).find other).isSome := by
    rw [OrderedMap.find_erase_other set different]
    exact present
  have nonempty := OrderedMap.size_pos_iff.mpr ⟨other, left⟩
  omega

theorem contains_insert {members : OrderedMap γ (KeySet κ)} {group other : γ} {key name : κ} :
    Contains (insert members group key) other name ↔
      Contains members other name ∨ (other = group ∧ name = key) := by
  unfold Contains insert
  by_cases same : other = group
  · subst same
    by_cases added : name = key
    · subst added
      simp
    · cases members.find other with
      | none => simp [added, OrderedMap.find_set_other _ added]
      | some set => simp [added, OrderedMap.find_set_other _ added]
  · rw [OrderedMap.find_set_other _ same]
    simp [same]

theorem contains_remove {members : OrderedMap γ (KeySet κ)} {group other : γ} {key name : κ} :
    Contains (remove members group key) other name ↔
      Contains members other name ∧ ¬(other = group ∧ name = key) := by
  unfold remove
  by_cases same : other = group
  · subst same
    cases found : members.find other with
    | none => simp [Contains, found]
    | some set =>
        have before : Contains members other name ↔ (set.find name).isSome := by
          simp [Contains, found]
        rw [before]
        simp only
        split
        next last =>
          have gone : ¬Contains (members.erase other) other name := by simp [Contains]
          have only : (set.find name).isSome → name = key := erase_size_eq_zero last
          tauto
        next =>
          by_cases removed : name = key
          · subst removed
            simp [Contains]
          · simp [Contains, removed, OrderedMap.find_erase_other _ removed]
  · cases found : members.find group with
    | none => simp [same]
    | some set =>
        simp only [same, false_and, not_false_eq_true, and_true]
        split
        · simp [Contains, OrderedMap.find_erase_other _ same]
        · simp [Contains, OrderedMap.find_set_other _ same]

theorem Inhabited.insert {members : OrderedMap γ (KeySet κ)} (inhabited : Inhabited members)
    (group : γ) (key : κ) : Inhabited (Grouping.insert members group key) := by
  intro other set found
  by_cases same : other = group
  · subst same
    rw [Grouping.insert, OrderedMap.find_set_self, Option.some.injEq] at found
    subst found
    exact OrderedMap.size_pos_iff.mpr ⟨key, by simp⟩
  · rw [Grouping.insert, OrderedMap.find_set_other _ same] at found
    exact inhabited other set found

/-- What a removal leaves of a set. -/
theorem find_remove {members : OrderedMap γ (KeySet κ)} {group other : γ} {key : κ}
    {left : KeySet κ} (found : (remove members group key).find other = some left) :
    members.find other = some left ∨
      ∃ set, members.find other = some set ∧ left = set.erase key ∧ left.size ≠ 0 := by
  unfold remove at found
  cases known : members.find group with
  | none =>
      rw [known] at found
      exact Or.inl found
  | some set =>
      rw [known] at found
      simp only at found
      split at found
      next => exact Or.inl (OrderedMap.find_of_erase found)
      next remaining =>
        by_cases same : other = group
        · subst same
          rw [OrderedMap.find_set_self, Option.some.injEq] at found
          exact Or.inr ⟨set, known, found.symm, found ▸ remaining⟩
        · rw [OrderedMap.find_set_other _ same] at found
          exact Or.inl found

theorem Inhabited.remove {members : OrderedMap γ (KeySet κ)} (inhabited : Inhabited members)
    (group : γ) (key : κ) : Inhabited (Grouping.remove members group key) := by
  intro other left found
  rcases find_remove found with unchanged | ⟨set, -, -, remaining⟩
  · exact inhabited other left unchanged
  · omega

theorem Bounded.remove {limit : Nat} {members : OrderedMap γ (KeySet κ)}
    (bounded : Bounded limit members) (group : γ) (key : κ) :
    Bounded limit (Grouping.remove members group key) := by
  intro other left found
  rcases find_remove found with unchanged | ⟨set, known, rfl, -⟩
  · exact bounded other left unchanged
  · exact Nat.le_trans (set.size_erase_le key) (bounded other set known)

/-- There is room for the key in the group. -/
def Room (limit : Nat) (members : OrderedMap γ (KeySet κ)) (group : γ) (key : κ) : Prop :=
  ∀ set, members.find group = some set → (set.find key).isSome ∨ set.size < limit

theorem Bounded.insert {limit : Nat} {members : OrderedMap γ (KeySet κ)} {group : γ} {key : κ}
    (bounded : Bounded limit members) (positive : 0 < limit)
    (room : Room limit members group key) : Bounded limit (Grouping.insert members group key) := by
  intro other set found
  by_cases same : other = group
  · subst same
    rw [Grouping.insert, OrderedMap.find_set_self, Option.some.injEq] at found
    subst found
    cases known : members.find other with
    | none =>
        have single : (OrderedMap.set (.empty : KeySet κ) key ()).size = 1 :=
          OrderedMap.size_set_of_absent (OrderedMap.find_empty key) ()
        show (OrderedMap.set (.empty : KeySet κ) key ()).size ≤ limit
        omega
    | some set =>
        show (set.set key ()).size ≤ limit
        by_cases present : (set.find key).isSome
        · rw [OrderedMap.size_set_of_present present]
          exact bounded other set known
        · have absent : set.find key = none := by simpa using present
          rw [OrderedMap.size_set_of_absent absent]
          have below := (room set known).resolve_left present
          omega
  · rw [Grouping.insert, OrderedMap.find_set_other _ same] at found
    exact bounded other set found

/-- A removal leaves the room there was. -/
theorem Room.remove {limit : Nat} {members : OrderedMap γ (KeySet κ)} {group : γ} {key : κ}
    (room : Room limit members group key) (bounded : Bounded limit members) (other : γ)
    (gone : κ) : Room limit (Grouping.remove members other gone) group key := by
  intro left found
  rcases find_remove found with unchanged | ⟨set, known, rfl, -⟩
  · exact room left unchanged
  · have smaller := set.size_erase_le gone
    rcases room set known with present | below
    · by_cases same : key = gone
      · subst same
        have fewer := OrderedMap.size_erase_lt present
        have full := bounded group set known
        right
        omega
      · left
        rw [OrderedMap.find_erase_other set same]
        exact present
    · right
      omega

/-! ### The two maps -/

/-- Releasing a key keeps the maps inverse to each other. -/
theorem Inverse.release {groupOf : OrderedMap κ γ} {members : OrderedMap γ (KeySet κ)}
    (inverse : Inverse groupOf members) {key : κ} {group : γ}
    (assigned : groupOf.find key = some group) :
    Inverse (groupOf.erase key) (remove members group key) := by
  intro name other
  rw [contains_remove, ← inverse name other]
  by_cases same : name = key
  · subst same
    rw [OrderedMap.find_erase_self, assigned]
    simp [eq_comm]
  · rw [OrderedMap.find_erase_other _ same]
    simp [same]

/-- Assigning a free key keeps the maps inverse to each other. -/
theorem Inverse.assign {groupOf : OrderedMap κ γ} {members : OrderedMap γ (KeySet κ)}
    (inverse : Inverse groupOf members) {key : κ} (free : groupOf.find key = none) (group : γ) :
    Inverse (groupOf.set key group) (insert members group key) := by
  intro name other
  rw [contains_insert, ← inverse name other]
  by_cases same : name = key
  · subst same
    rw [OrderedMap.find_set_self, free]
    simp [eq_comm]
  · rw [OrderedMap.find_set_other _ same]
    simp [same]

/-- Dissolving a group keeps the maps inverse to each other. -/
theorem Inverse.dissolve {groupOf : OrderedMap κ γ} {members : OrderedMap γ (KeySet κ)}
    (inverse : Inverse groupOf members) (group : γ) :
    Inverse (groupOf.filter fun _ owner => owner ≠ group) (members.erase group) := by
  intro name other
  have before := inverse name other
  rw [OrderedMap.find_filter, Option.filter_eq_some_iff, before]
  by_cases same : other = group
  · subst same
    simp [Contains]
  · simp [Contains, same, OrderedMap.find_erase_other _ same]

/-- Room depends only on the group of each key. -/
theorem Inverse.room_congr {groupOf groupOf' : OrderedMap κ γ}
    {members members' : OrderedMap γ (KeySet κ)} (inverse : Inverse groupOf members)
    (inverse' : Inverse groupOf' members') (inhabited' : Inhabited members')
    (same : ∀ key, groupOf.find key = groupOf'.find key) {limit : Nat} {group : γ} {key : κ}
    (room : Room limit members group key) : Room limit members' group key := by
  have contains (name : κ) : Contains members group name ↔ Contains members' group name := by
    rw [← inverse name group, ← inverse' name group, same]
  intro set' known'
  have inside' (name : κ) : Contains members' group name ↔ (set'.find name).isSome := by
    simp [Contains, known']
  cases known : members.find group with
  | none =>
      obtain ⟨name, present⟩ := OrderedMap.size_pos_iff.mp (inhabited' group set' known')
      obtain ⟨set, found, -⟩ := (contains name).mpr ((inside' name).mpr present)
      rw [known] at found
      cases found
  | some set =>
      have inside (name : κ) : Contains members group name ↔ (set.find name).isSome := by
        simp [Contains, known]
      have agree (name : κ) : (set.find name).isSome ↔ (set'.find name).isSome := by
        rw [← inside, contains, inside']
      rw [← agree key, ← OrderedMap.size_congr agree]
      exact room set known

end DarkmeshGateway.Foundation.Grouping
