import Mathlib.Data.List.Nodup

/-!
Contract: finite maps that remember insertion order, such as JavaScript's `Map`.

Owns lookup, insertion (an existing key keeps its place), removal, restriction,
the lookup law of each update, and how updates change the size.
-/

namespace DarkmeshGateway.Foundation

/-- A map as its entries in insertion order. -/
structure OrderedMap (κ ν : Type*) where
  entries : List (κ × ν)
  distinct : (entries.map Prod.fst).Nodup

namespace OrderedMap

variable {κ ν : Type*} [DecidableEq κ]

/-- The map without entries. -/
def empty : OrderedMap κ ν := ⟨[], List.nodup_nil⟩

/-- The keys in insertion order. -/
def keys (map : OrderedMap κ ν) : List κ := map.entries.map Prod.fst

def size (map : OrderedMap κ ν) : Nat := map.entries.length

/-- The value under a key. -/
def find (map : OrderedMap κ ν) (key : κ) : Option ν := map.entries.lookup key

/-- Entries with the value of a key replaced in place or added last. -/
def setEntries (entries : List (κ × ν)) (key : κ) (value : ν) : List (κ × ν) :=
  match entries with
  | [] => [(key, value)]
  | (name, old) :: rest =>
      if name = key then (key, value) :: rest else (name, old) :: setEntries rest key value

theorem setEntries_keys (entries : List (κ × ν)) (key : κ) (value : ν) :
    (setEntries entries key value).map Prod.fst =
      if key ∈ entries.map Prod.fst then entries.map Prod.fst
      else entries.map Prod.fst ++ [key] := by
  induction entries with
  | nil => simp [setEntries]
  | cons entry rest inductionHypothesis =>
      obtain ⟨name, old⟩ := entry
      by_cases same : name = key
      · simp [setEntries, same]
      · have other : key ≠ name := Ne.symm same
        simp only [setEntries, same, if_false, List.map_cons, inductionHypothesis,
          List.mem_cons, other, false_or]
        split <;> rfl

/-- Insertion or replacement in place. -/
def set (map : OrderedMap κ ν) (key : κ) (value : ν) : OrderedMap κ ν where
  entries := setEntries map.entries key value
  distinct := by
    rw [setEntries_keys]
    split
    next => exact map.distinct
    next absent =>
      refine List.nodup_append.mpr ⟨map.distinct, List.nodup_singleton key, ?_⟩
      rintro left member right rightMember rfl
      exact absent (List.mem_singleton.mp rightMember ▸ member)

/-- Removal of a key. -/
def erase (map : OrderedMap κ ν) (key : κ) : OrderedMap κ ν where
  entries := map.entries.filter fun entry => entry.1 ≠ key
  distinct := map.distinct.sublist (List.filter_sublist.map Prod.fst)

@[simp] theorem find_empty (key : κ) : (empty : OrderedMap κ ν).find key = none := rfl

@[simp] theorem find_set_self (map : OrderedMap κ ν) (key : κ) (value : ν) :
    (map.set key value).find key = some value := by
  unfold find set
  simp only
  induction map.entries with
  | nil => simp [setEntries]
  | cons entry rest inductionHypothesis =>
      obtain ⟨name, old⟩ := entry
      unfold setEntries
      split
      next => simp
      next different =>
        have miss : (key == name) = false := by simpa using Ne.symm different
        simpa [List.lookup_cons, miss] using inductionHypothesis

theorem find_set_other (map : OrderedMap κ ν) {key other : κ} (different : other ≠ key)
    (value : ν) : (map.set key value).find other = map.find other := by
  have miss : (other == key) = false := by simpa using different
  unfold find set
  simp only
  induction map.entries with
  | nil => simp [setEntries, List.lookup_cons, miss]
  | cons entry rest inductionHypothesis =>
      obtain ⟨name, old⟩ := entry
      unfold setEntries
      split
      next same =>
        subst same
        simp [List.lookup_cons, miss]
      next =>
        simp only [List.lookup_cons]
        rw [inductionHypothesis]

@[simp] theorem find_erase_self (map : OrderedMap κ ν) (key : κ) :
    (map.erase key).find key = none := by
  rw [find, List.lookup_eq_none_iff]
  intro entry member
  have different := (List.mem_filter.mp member).2
  simpa using Ne.symm (of_decide_eq_true different)

theorem find_erase_other (map : OrderedMap κ ν) {key other : κ} (different : other ≠ key) :
    (map.erase key).find other = map.find other := by
  unfold find erase
  simp only
  induction map.entries with
  | nil => rfl
  | cons entry rest inductionHypothesis =>
      obtain ⟨name, old⟩ := entry
      by_cases same : name = key
      · subst same
        have miss : (other == name) = false := by simpa using different
        simpa [List.filter_cons, List.lookup_cons, miss] using inductionHypothesis
      · simp only [ne_eq, same, not_false_eq_true, decide_true, List.filter_cons_of_pos,
          List.lookup_cons]
        rw [inductionHypothesis]

/-- An entry is listed exactly when its key maps to its value. -/
theorem mem_entries_iff (map : OrderedMap κ ν) (key : κ) (value : ν) :
    (key, value) ∈ map.entries ↔ map.find key = some value := by
  obtain ⟨entries, distinct⟩ := map
  unfold find
  simp only
  induction entries with
  | nil => simp
  | cons entry rest inductionHypothesis =>
      obtain ⟨name, old⟩ := entry
      simp only [List.map_cons, List.nodup_cons] at distinct
      by_cases same : key = name
      · subst same
        have absent : (key, value) ∉ rest := fun member =>
          distinct.1 (List.mem_map.mpr ⟨_, member, rfl⟩)
        simp [absent, eq_comm]
      · have miss : (key == name) = false := by simpa using same
        simp [List.lookup_cons, miss, same, inductionHypothesis distinct.2]

theorem mem_keys_iff (map : OrderedMap κ ν) (key : κ) :
    key ∈ map.keys ↔ (map.find key).isSome := by
  rw [Option.isSome_iff_exists, keys, List.mem_map]
  constructor
  · rintro ⟨⟨name, value⟩, member, rfl⟩
    exact ⟨value, (map.mem_entries_iff _ _).mp member⟩
  · rintro ⟨value, found⟩
    exact ⟨(key, value), (map.mem_entries_iff _ _).mpr found, rfl⟩

/-- Only the given entries, in their order. -/
def restrict (map : OrderedMap κ ν) (kept : List (κ × ν)) (part : kept.Sublist map.entries) :
    OrderedMap κ ν where
  entries := kept
  distinct := map.distinct.sublist (part.map Prod.fst)

/-- What is left after a restriction was there before. -/
theorem find_of_restrict {map : OrderedMap κ ν} {kept : List (κ × ν)}
    {part : kept.Sublist map.entries} {key : κ} {value : ν}
    (found : (map.restrict kept part).find key = some value) : map.find key = some value :=
  (map.mem_entries_iff key value).mp (part.subset ((mem_entries_iff _ key value).mpr found))

/-- The entries that meet a condition. -/
def filter (map : OrderedMap κ ν) (keep : κ → ν → Bool) : OrderedMap κ ν :=
  map.restrict (map.entries.filter fun entry => keep entry.1 entry.2) List.filter_sublist

theorem find_filter (map : OrderedMap κ ν) (keep : κ → ν → Bool) (key : κ) :
    (map.filter keep).find key = (map.find key).filter (keep key) := by
  ext value
  rw [← mem_entries_iff, Option.filter_eq_some_iff, ← mem_entries_iff]
  exact List.mem_filter

/-- What meets the condition was there before. -/
theorem find_of_filter {map : OrderedMap κ ν} {keep : κ → ν → Bool} {key : κ} {value : ν}
    (found : (map.filter keep).find key = some value) : map.find key = some value :=
  find_of_restrict found

/-- The entries left when the oldest go until there are fewer than `limit`. -/
def newest (limit : Nat) : List (κ × ν) → List (κ × ν)
  | [] => []
  | oldest :: rest =>
      if limit ≤ (oldest :: rest).length then newest limit rest else oldest :: rest

omit [DecidableEq κ] in
theorem newest_sublist (limit : Nat) (entries : List (κ × ν)) :
    (newest limit entries).Sublist entries := by
  induction entries with
  | nil => exact List.Sublist.refl []
  | cons oldest rest inductionHypothesis =>
      unfold newest
      split
      · exact inductionHypothesis.cons oldest
      · exact List.Sublist.refl _

/-- The map without its oldest entries, down to fewer than `limit`. -/
def shrink (map : OrderedMap κ ν) (limit : Nat) : OrderedMap κ ν :=
  map.restrict (newest limit map.entries) (newest_sublist limit map.entries)

theorem find_of_shrink {map : OrderedMap κ ν} {limit : Nat} {key : κ} {value : ν}
    (found : (map.shrink limit).find key = some value) : map.find key = some value :=
  find_of_restrict found

/-- What is left after a removal was there before. -/
theorem find_of_erase {map : OrderedMap κ ν} {gone key : κ} {value : ν}
    (found : (map.erase gone).find key = some value) : map.find key = some value := by
  by_cases same : key = gone
  · rw [same, find_erase_self] at found
    simp at found
  · rwa [find_erase_other map same] at found

/-! ### Sizes -/

omit [DecidableEq κ] in
theorem eq_of_entries {left right : OrderedMap κ ν} (same : left.entries = right.entries) :
    left = right := by
  cases left
  cases right
  cases same
  rfl

/-- A condition that every entry meets filters nothing. -/
theorem filter_eq_self {map : OrderedMap κ ν} {keep : κ → ν → Bool}
    (kept : ∀ key value, map.find key = some value → keep key value = true) :
    map.filter keep = map := by
  apply eq_of_entries
  show map.entries.filter _ = map.entries
  rw [List.filter_eq_self]
  intro entry member
  exact kept entry.1 entry.2 ((map.mem_entries_iff _ _).mp member)

omit [DecidableEq κ] in
theorem newest_eq_self {limit : Nat} {entries : List (κ × ν)} (small : entries.length < limit) :
    newest limit entries = entries := by
  cases entries with
  | nil => rfl
  | cons oldest rest => rw [newest, if_neg (by omega)]

omit [DecidableEq κ] in
/-- A map below the limit does not shrink. -/
theorem shrink_eq_self {map : OrderedMap κ ν} {limit : Nat} (small : map.size < limit) :
    map.shrink limit = map := eq_of_entries (newest_eq_self small)

omit [DecidableEq κ] in
theorem newest_length {limit : Nat} (positive : 0 < limit) (entries : List (κ × ν)) :
    (newest limit entries).length < limit := by
  induction entries with
  | nil => exact positive
  | cons oldest rest inductionHypothesis =>
      unfold newest
      split
      next => exact inductionHypothesis
      next small => omega

omit [DecidableEq κ] in
theorem size_shrink {limit : Nat} (positive : 0 < limit) (map : OrderedMap κ ν) :
    (map.shrink limit).size < limit := newest_length positive map.entries

/-- A new key is one entry more. -/
theorem size_set_of_absent {map : OrderedMap κ ν} {key : κ} (absent : map.find key = none)
    (value : ν) : (map.set key value).size = map.size + 1 := by
  have notKey : key ∉ map.entries.map Prod.fst := by
    have missing := (map.mem_keys_iff key).not
    rw [absent] at missing
    exact missing.mpr (by simp)
  have keys := congrArg List.length (setEntries_keys map.entries key value)
  rw [if_neg notKey] at keys
  simpa [size, set] using keys

/-- A known key keeps the number of entries. -/
theorem size_set_of_present {map : OrderedMap κ ν} {key : κ} (present : (map.find key).isSome)
    (value : ν) : (map.set key value).size = map.size := by
  have known : key ∈ map.entries.map Prod.fst := (map.mem_keys_iff key).mpr present
  have keys := congrArg List.length (setEntries_keys map.entries key value)
  rw [if_pos known] at keys
  simpa [size, set] using keys

theorem size_set_le (map : OrderedMap κ ν) (key : κ) (value : ν) :
    (map.set key value).size ≤ map.size + 1 := by
  cases found : map.find key with
  | none => exact Nat.le_of_eq (size_set_of_absent found value)
  | some held =>
      rw [size_set_of_present (by simp [found])]
      omega

theorem size_erase_le (map : OrderedMap κ ν) (key : κ) : (map.erase key).size ≤ map.size :=
  List.length_filter_le _ _

/-- Removing a known key leaves fewer entries. -/
theorem size_erase_lt {map : OrderedMap κ ν} {key : κ} (present : (map.find key).isSome) :
    (map.erase key).size < map.size := by
  obtain ⟨value, found⟩ := Option.isSome_iff_exists.mp present
  have listed := (map.mem_entries_iff key value).mpr found
  apply List.length_filter_lt_length_iff_exists.mpr
  exact ⟨(key, value), listed, by simp⟩

omit [DecidableEq κ] in
theorem size_filter_le (map : OrderedMap κ ν) (keep : κ → ν → Bool) :
    (map.filter keep).size ≤ map.size := List.length_filter_le _ _

/-- Dropping distinct known keys leaves that many entries fewer. -/
theorem size_filter_gone (map : OrderedMap κ ν) {gone : List κ} {keep : κ → Bool}
    (distinct : gone.Nodup) (known : ∀ key ∈ gone, (map.find key).isSome)
    (dropped : ∀ key, keep key = true ↔ key ∉ gone) :
    (map.filter fun key _ => keep key).size + gone.length = map.size := by
  have left : (map.filter fun key _ => keep key).size = (map.keys.filter keep).length := by
    rw [keys, List.filter_map, List.length_map]
    rfl
  have right : gone.length = (map.keys.filter fun key => !keep key).length := by
    have known_nodup : map.keys.Nodup := map.distinct
    apply List.Perm.length_eq
    rw [List.perm_ext_iff_of_nodup distinct (known_nodup.filter _)]
    intro key
    rw [List.mem_filter, map.mem_keys_iff, Bool.not_eq_true', ← Bool.not_eq_true, dropped,
      not_not]
    constructor
    · intro member
      exact ⟨known key member, member⟩
    · intro both
      exact both.2
  rw [left, right, ← List.length_eq_length_filter_add]
  exact List.length_map _

/-- A map with an entry is not empty. -/
theorem size_pos_iff {map : OrderedMap κ ν} : 0 < map.size ↔ ∃ key, (map.find key).isSome := by
  constructor
  · intro nonempty
    obtain ⟨entry, listed⟩ := List.exists_mem_of_length_pos nonempty
    have found := (map.mem_entries_iff entry.1 entry.2).mp listed
    exact ⟨entry.1, Option.isSome_iff_exists.mpr ⟨_, found⟩⟩
  · intro present
    obtain ⟨key, isSome⟩ := present
    obtain ⟨value, found⟩ := Option.isSome_iff_exists.mp isSome
    exact List.length_pos_of_mem ((map.mem_entries_iff key value).mpr found)

omit [DecidableEq κ] in
theorem filter_filter (map : OrderedMap κ ν) (first second : κ → ν → Bool) :
    (map.filter first).filter second =
      map.filter fun key value => first key value && second key value := by
  apply eq_of_entries
  show (map.entries.filter _).filter _ = map.entries.filter _
  rw [List.filter_filter]
  apply List.filter_congr
  intro entry _
  exact Bool.and_comm _ _

/-- Conditions that agree on the entries filter alike. -/
theorem filter_congr {map : OrderedMap κ ν} {first second : κ → ν → Bool}
    (agree : ∀ key value, map.find key = some value → first key value = second key value) :
    map.filter first = map.filter second := by
  apply eq_of_entries
  apply List.filter_congr
  intro entry member
  exact agree entry.1 entry.2 ((map.mem_entries_iff _ _).mp member)

/-- Removing each key of a list is a restriction to the other keys. -/
theorem foldl_erase (map : OrderedMap κ ν) (gone : List κ) :
    gone.foldl erase map = map.filter fun key _ => gone.all fun other => key ≠ other := by
  induction gone generalizing map with
  | nil =>
      apply eq_of_entries
      exact (List.filter_true map.entries).symm
  | cons key rest inductionHypothesis =>
      show rest.foldl erase (map.erase key) = _
      rw [inductionHypothesis]
      show (map.filter fun name _ => decide (name ≠ key)).filter _ = _
      rw [filter_filter]
      rfl

theorem setEntries_of_mem {entries : List (κ × ν)} {key : κ} {value : ν}
    (listed : (key, value) ∈ entries) (distinct : (entries.map Prod.fst).Nodup) :
    setEntries entries key value = entries := by
  induction entries with
  | nil => exact absurd listed List.not_mem_nil
  | cons entry rest inductionHypothesis =>
      obtain ⟨name, old⟩ := entry
      simp only [List.map_cons, List.nodup_cons] at distinct
      unfold setEntries
      split
      next same =>
        subst same
        rcases List.mem_cons.mp listed with here | later
        · rw [here]
        · exact absurd (List.mem_map.mpr ⟨_, later, rfl⟩) distinct.1
      next different =>
        have later : (key, value) ∈ rest := by
          rcases List.mem_cons.mp listed with here | later
          · exact absurd (Prod.mk.inj here).1.symm different
          · exact later
        rw [inductionHypothesis later distinct.2]

/-- Setting a key to the value it has changes nothing. -/
theorem set_of_find {map : OrderedMap κ ν} {key : κ} {value : ν}
    (found : map.find key = some value) : map.set key value = map :=
  eq_of_entries (setEntries_of_mem ((map.mem_entries_iff key value).mpr found) map.distinct)

/-- Removing a key that is not there changes nothing. -/
theorem erase_of_absent {map : OrderedMap κ ν} {key : κ} (absent : map.find key = none) :
    map.erase key = map := by
  show map.filter (fun name _ => decide (name ≠ key)) = map
  apply filter_eq_self
  intro name value found
  have different : name ≠ key := by
    intro same
    rw [same, absent] at found
    cases found
  simpa using different

/-! ### Order -/

theorem keys_set_of_present {map : OrderedMap κ ν} {key : κ} (present : (map.find key).isSome)
    (value : ν) : (map.set key value).keys = map.keys := by
  have known : key ∈ map.entries.map Prod.fst := (map.mem_keys_iff key).mpr present
  show (setEntries map.entries key value).map Prod.fst = map.entries.map Prod.fst
  rw [setEntries_keys, if_pos known]

/-- A new key comes last. -/
theorem keys_set_of_absent {map : OrderedMap κ ν} {key : κ} (absent : map.find key = none)
    (value : ν) : (map.set key value).keys = map.keys ++ [key] := by
  have missing : key ∉ map.entries.map Prod.fst := by
    have unknown := (map.mem_keys_iff key).not
    rw [absent] at unknown
    exact unknown.mpr (by simp)
  show (setEntries map.entries key value).map Prod.fst = map.entries.map Prod.fst ++ [key]
  rw [setEntries_keys, if_neg missing]

omit [DecidableEq κ] in
theorem keys_restrict_sublist (map : OrderedMap κ ν) {kept : List (κ × ν)}
    (part : kept.Sublist map.entries) : (map.restrict kept part).keys.Sublist map.keys :=
  part.map Prod.fst

omit [DecidableEq κ] in
/-- A map at the limit loses its oldest entry. -/
theorem keys_shrink_of_full {map : OrderedMap κ ν} {limit : Nat} (full : map.size = limit) :
    (map.shrink limit).keys = map.keys.tail := by
  unfold keys shrink restrict size at *
  simp only
  cases entries : map.entries with
  | nil => simp [newest]
  | cons oldest rest =>
      rw [entries] at full
      rw [newest, if_pos (by omega), newest_eq_self (by simp at full; omega)]
      rfl

/-- A key that stays maps to the value it had. -/
theorem find_restrict_of_mem {map : OrderedMap κ ν} {kept : List (κ × ν)}
    {part : kept.Sublist map.entries} {key : κ} (stays : key ∈ (map.restrict kept part).keys) :
    (map.restrict kept part).find key = map.find key := by
  rw [mem_keys_iff, Option.isSome_iff_exists] at stays
  obtain ⟨value, found⟩ := stays
  rw [found, find_of_restrict found]

theorem setEntries_of_absent {entries : List (κ × ν)} {key : κ}
    (missing : key ∉ entries.map Prod.fst) (value : ν) :
    setEntries entries key value = entries ++ [(key, value)] := by
  induction entries with
  | nil => rfl
  | cons entry rest inductionHypothesis =>
      rw [List.map_cons, List.mem_cons, not_or] at missing
      unfold setEntries
      rw [if_neg (Ne.symm missing.1), inductionHypothesis missing.2]
      rfl

/-- A new entry that meets the condition is the last one behind the filter. -/
theorem filter_set_of_absent {map : OrderedMap κ ν} {key : κ} (absent : map.find key = none)
    {value : ν} {keep : κ → ν → Bool} (kept : keep key value = true) :
    (map.set key value).filter keep = (map.filter keep).set key value := by
  have missing : key ∉ map.entries.map Prod.fst := by
    have unknown := (map.mem_keys_iff key).not
    rw [absent] at unknown
    exact unknown.mpr (by simp)
  have missingBehind : key ∉ (map.filter keep).entries.map Prod.fst := by
    intro listed
    exact missing ((List.filter_sublist.map Prod.fst).subset listed)
  apply eq_of_entries
  have last : [(key, value)].filter (fun entry => keep entry.1 entry.2) = [(key, value)] :=
    List.filter_cons_of_pos kept
  show (setEntries map.entries key value).filter _ = setEntries (map.filter keep).entries key value
  rw [setEntries_of_absent missing, setEntries_of_absent missingBehind, List.filter_append, last]
  rfl

/-- Removing a key and filtering do not depend on their order. -/
theorem filter_erase (map : OrderedMap κ ν) (gone : κ) (keep : κ → ν → Bool) :
    (map.erase gone).filter keep = (map.filter keep).erase gone := by
  apply eq_of_entries
  show (map.entries.filter _).filter _ = (map.entries.filter _).filter _
  rw [List.filter_filter, List.filter_filter]
  apply List.filter_congr
  intro entry _
  exact Bool.and_comm _ _

/-- Maps with the same keys have one size. -/
theorem size_congr {left right : OrderedMap κ ν}
    (same : ∀ key, (left.find key).isSome ↔ (right.find key).isSome) : left.size = right.size := by
  have listed (key : κ) : key ∈ left.keys ↔ key ∈ right.keys := by
    rw [mem_keys_iff, mem_keys_iff]
    exact same key
  have keys := ((List.perm_ext_iff_of_nodup left.distinct right.distinct).mpr listed).length_eq
  simpa [size] using keys

end OrderedMap

end DarkmeshGateway.Foundation
