import DarkmeshGateway.Gateway.Cache

/-!
Contract: the maps of the gateway cache agree with each other in every run.

Owns the agreement, its preservation by each operation, the entries that a
sweep, a refused put and a forgotten subject leave, and the run theorem.

Does not own the order in which entries are evicted.
-/

namespace DarkmeshGateway.Gateway.CacheCoherence

open Foundation
open Foundation.Js
open Foundation.Grouping (KeySet)
open Gateway.Cache

/-! ### The agreement -/

/-- Both directions of the attribution agree, no subject is empty or over its
share, and the empty string is no subject. -/
structure Indexed (limits : Limits) (cache : CacheState) : Prop where
  inverse : Grouping.Inverse cache.keySubject cache.subjects
  inhabited : Grouping.Inhabited cache.subjects
  shares : Grouping.Bounded limits.maxKeysPerSubject cache.subjects
  named : ∀ key, cache.keySubject.find key ≠ some []

/-- Every attributed key is stored. -/
def Stored (cache : CacheState) : Prop :=
  ∀ key subject, cache.keySubject.find key = some subject → (cache.store.find key).isSome

structure Coherent (limits : Limits) (cache : CacheState) : Prop extends Indexed limits cache where
  stored : Stored cache
  capacity : cache.store.size ≤ limits.maxEntries

theorem coherent_empty (limits : Limits) : Coherent limits .empty where
  inverse key subject := by simp [CacheState.empty, Grouping.Contains]
  inhabited subject set found := by simp [CacheState.empty] at found
  shares subject set found := by simp [CacheState.empty] at found
  named key := by simp [CacheState.empty]
  stored key subject found := by simp [CacheState.empty] at found
  capacity := Nat.zero_le _

/-! ### Detaching and attaching -/

variable {limits : Limits} {cache : CacheState} {key : JsString}

@[simp] theorem detach_store (cache : CacheState) (key : JsString) :
    (detachKeyFromSubjects cache key).store = cache.store := by
  unfold detachKeyFromSubjects
  split
  · rfl
  · split <;> rfl

/-- What detaching a key does to the attribution, in both directions. -/
theorem detach_cases (indexed : Indexed limits cache) (key : JsString) :
    (cache.keySubject.find key = none ∧ detachKeyFromSubjects cache key = cache) ∨
      ∃ subject, cache.keySubject.find key = some subject ∧
        detachKeyFromSubjects cache key =
          { cache with
            subjects := Grouping.remove cache.subjects subject key
            keySubject := cache.keySubject.erase key } := by
  unfold detachKeyFromSubjects
  cases found : cache.keySubject.find key with
  | none => exact Or.inl ⟨rfl, rfl⟩
  | some subject =>
      have named : subject ≠ [] := fun blank => indexed.named key (blank ▸ found)
      exact Or.inr ⟨subject, rfl, if_neg named⟩

theorem detach_keySubject (indexed : Indexed limits cache) (key : JsString) :
    (detachKeyFromSubjects cache key).keySubject = cache.keySubject.erase key := by
  rcases detach_cases indexed key with ⟨absent, unchanged⟩ | ⟨subject, -, detached⟩
  · rw [unchanged, OrderedMap.erase_of_absent absent]
  · rw [detached]

theorem Indexed.detach (indexed : Indexed limits cache) (key : JsString) :
    Indexed limits (detachKeyFromSubjects cache key) := by
  rcases detach_cases indexed key with ⟨-, unchanged⟩ | ⟨subject, found, detached⟩
  · rwa [unchanged]
  · rw [detached]
    exact
      { inverse := indexed.inverse.release found
        inhabited := indexed.inhabited.remove subject key
        shares := indexed.shares.remove subject key
        named := fun name blank => indexed.named name (OrderedMap.find_of_erase blank) }

theorem room_detach (indexed : Indexed limits cache) {subject : JsString}
    (room : Grouping.Room limits.maxKeysPerSubject cache.subjects subject key)
    (gone : JsString) :
    Grouping.Room limits.maxKeysPerSubject (detachKeyFromSubjects cache gone).subjects subject
      key := by
  rcases detach_cases indexed gone with ⟨-, unchanged⟩ | ⟨owner, -, detached⟩
  · rwa [unchanged]
  · rw [detached]
    exact room.remove indexed.shares owner gone

theorem Indexed.link (indexed : Indexed limits cache) (free : cache.keySubject.find key = none)
    {subject : JsString} (named : subject ≠ [])
    (room : Grouping.Room limits.maxKeysPerSubject cache.subjects subject key) :
    Indexed limits (linkKey cache key subject) where
  inverse := indexed.inverse.assign free subject
  inhabited := indexed.inhabited.insert subject key
  shares := indexed.shares.insert limits.maxKeysPerSubject_pos room
  named name blank := by
    by_cases same : name = key
    · rw [same, linkKey, OrderedMap.find_set_self, Option.some.injEq] at blank
      exact named blank
    · rw [linkKey, OrderedMap.find_set_other _ same] at blank
      exact indexed.named name blank

theorem Indexed.attach (indexed : Indexed limits cache) {subject : JsString}
    (named : subject ≠ [])
    (room : Grouping.Room limits.maxKeysPerSubject cache.subjects subject key) :
    Indexed limits (attachKeyToSubject cache key subject) := by
  have free : (detachKeyFromSubjects cache key).keySubject.find key = none := by
    rw [detach_keySubject indexed, OrderedMap.find_erase_self]
  exact (indexed.detach key).link free named (room_detach indexed room key)

/-- The check for admission tells whether there is room. -/
theorem canAdmitSubjectKey_eq_true {subject : JsString} :
    canAdmitSubjectKey limits cache key subject = true ↔
      Grouping.Room limits.maxKeysPerSubject cache.subjects subject key := by
  unfold canAdmitSubjectKey Grouping.Room
  cases cache.subjects.find subject with
  | none => simp
  | some set => by_cases present : (set.find key).isSome <;> simp [present]

/-! ### Removing entries -/

@[simp] theorem discard_store (cache : CacheState) (key : JsString) :
    (discard cache key).store = cache.store.erase key := by
  exact detach_store _ key

/-- The index does not depend on the store. -/
theorem Indexed.of_store (indexed : Indexed limits cache) (store : OrderedMap JsString CacheEntry) :
    Indexed limits { cache with store := store } :=
  ⟨indexed.inverse, indexed.inhabited, indexed.shares, indexed.named⟩

theorem discard_keySubject (indexed : Indexed limits cache) (key : JsString) :
    (discard cache key).keySubject = cache.keySubject.erase key :=
  detach_keySubject (indexed.of_store (cache.store.erase key)) key

theorem Indexed.discard (indexed : Indexed limits cache) (key : JsString) :
    Indexed limits (Cache.discard cache key) :=
  (indexed.of_store (cache.store.erase key)).detach key

theorem Coherent.discard (coherent : Coherent limits cache) (key : JsString) :
    Coherent limits (Cache.discard cache key) where
  toIndexed := coherent.toIndexed.discard key
  stored name subject found := by
    rw [discard_keySubject coherent.toIndexed] at found
    have different : name ≠ key := by
      intro same
      rw [same, OrderedMap.find_erase_self] at found
      cases found
    rw [discard_store, OrderedMap.find_erase_other _ different]
    exact coherent.stored name subject (OrderedMap.find_of_erase found)
  capacity := by
    rw [discard_store]
    exact Nat.le_trans (cache.store.size_erase_le key) coherent.capacity

/-- Several keys discarded one after the other. -/
def discardAll (cache : CacheState) (gone : List JsString) : CacheState :=
  gone.foldl Cache.discard cache

theorem discardAll_store (cache : CacheState) (gone : List JsString) :
    (discardAll cache gone).store = cache.store.filter fun key _ => gone.all fun other => key ≠ other := by
  rw [← OrderedMap.foldl_erase]
  unfold discardAll
  induction gone generalizing cache with
  | nil => rfl
  | cons key rest inductionHypothesis =>
      rw [List.foldl_cons, List.foldl_cons, inductionHypothesis, discard_store]

theorem discardAll_keySubject (indexed : Indexed limits cache) (gone : List JsString) :
    (discardAll cache gone).keySubject =
      cache.keySubject.filter fun key _ => gone.all fun other => key ≠ other := by
  rw [← OrderedMap.foldl_erase]
  unfold discardAll
  induction gone generalizing cache with
  | nil => rfl
  | cons key rest inductionHypothesis =>
      rw [List.foldl_cons, List.foldl_cons, inductionHypothesis (indexed.discard key),
        discard_keySubject indexed]

theorem Coherent.discardAll (coherent : Coherent limits cache) (gone : List JsString) :
    Coherent limits (discardAll cache gone) := by
  induction gone generalizing cache with
  | nil => exact coherent
  | cons key rest inductionHypothesis => exact inductionHypothesis (coherent.discard key)

/-! ### Sweeping -/

/-- The keys a sweep removes. -/
def expiredKeys (cache : CacheState) (now : Int) : List JsString :=
  (cache.store.entries.filter fun entry => entry.2.expiresAt ≤ now).map Prod.fst

theorem sweep_eq (cache : CacheState) (now : Int) :
    sweep cache now = discardAll cache (expiredKeys cache now) := by
  unfold sweep discardAll expiredKeys
  rw [List.foldl_map, List.foldl_filter]
  simp only [decide_eq_true_eq]

/-- A stored key survives the sweep when its entry has not expired. -/
theorem expiredKeys_spec {entry : CacheEntry} (found : cache.store.find key = some entry)
    (now : Int) : ((expiredKeys cache now).all fun other => key ≠ other) =
      decide (now < entry.expiresAt) := by
  rw [Bool.eq_iff_iff, List.all_eq_true, decide_eq_true_eq]
  constructor
  · intro kept
    by_contra late
    have listed : key ∈ expiredKeys cache now := by
      apply List.mem_map.mpr
      refine ⟨(key, entry), List.mem_filter.mpr ⟨?_, ?_⟩, rfl⟩
      · exact (cache.store.mem_entries_iff key entry).mpr found
      · have due : entry.expiresAt ≤ now := by omega
        simpa using due
    simpa using kept key listed
  · intro live other listed
    obtain ⟨⟨name, stale⟩, member, rfl⟩ := List.mem_map.mp listed
    obtain ⟨inStore, due⟩ := List.mem_filter.mp member
    have staleFound := (cache.store.mem_entries_iff name stale).mp inStore
    have expired : stale.expiresAt ≤ now := by simpa using due
    have different : key ≠ name := by
      intro same
      rw [← same, found, Option.some.injEq] at staleFound
      rw [staleFound] at live
      omega
    simpa using different

theorem sweep_store (cache : CacheState) (now : Int) :
    (sweep cache now).store = cache.store.filter fun _ entry => now < entry.expiresAt := by
  rw [sweep_eq, discardAll_store]
  apply OrderedMap.filter_congr
  intro key entry found
  exact expiredKeys_spec found now

theorem sweep_keySubject (coherent : Coherent limits cache) (now : Int) :
    (sweep cache now).keySubject =
      cache.keySubject.filter fun key _ => ((sweep cache now).store.find key).isSome := by
  rw [sweep_store, sweep_eq, discardAll_keySubject coherent.toIndexed]
  apply OrderedMap.filter_congr
  intro key subject attributed
  obtain ⟨entry, found⟩ := Option.isSome_iff_exists.mp (coherent.stored key subject attributed)
  rw [expiredKeys_spec found, OrderedMap.find_filter, found]
  by_cases live : now < entry.expiresAt <;> simp [live]

theorem Coherent.sweep (coherent : Coherent limits cache) (now : Int) :
    Coherent limits (Cache.sweep cache now) := by
  rw [sweep_eq]
  exact coherent.discardAll _

/-! ### Forgetting a subject -/

/-- Forgetting a key removes it from the store and from the attribution. -/
theorem forgetKey_snd (stored : Stored cache) (removed : Nat) (key : JsString) :
    (forgetKey (removed, cache) key).2 =
      { cache with
        store := cache.store.erase key
        keySubject := cache.keySubject.erase key } := by
  unfold forgetKey
  split
  next => rfl
  next missing =>
    have absent : cache.store.find key = none := by simpa using missing
    have free : cache.keySubject.find key = none := by
      by_contra attributed
      obtain ⟨subject, found⟩ := Option.ne_none_iff_exists'.mp attributed
      exact missing (stored key subject found)
    rw [OrderedMap.erase_of_absent absent, OrderedMap.erase_of_absent free]

theorem Stored.forgetKey (stored : Stored cache) (removed : Nat) (key : JsString) :
    Stored (Cache.forgetKey (removed, cache) key).2 := by
  rw [forgetKey_snd stored]
  intro name subject found
  have different : name ≠ key := by
    intro same
    rw [same, OrderedMap.find_erase_self] at found
    cases found
  rw [OrderedMap.find_erase_other _ different]
  exact stored name subject (OrderedMap.find_of_erase found)

theorem forgetKeys_snd (stored : Stored cache) (removed : Nat) (gone : List JsString) :
    (gone.foldl forgetKey (removed, cache)).2 =
      { cache with
        store := gone.foldl OrderedMap.erase cache.store
        keySubject := gone.foldl OrderedMap.erase cache.keySubject } := by
  induction gone generalizing cache removed with
  | nil => rfl
  | cons key rest inductionHypothesis =>
      have next := inductionHypothesis (stored.forgetKey removed key)
        (forgetKey (removed, cache) key).1
      rw [List.foldl_cons, next, forgetKey_snd stored]
      rfl

/-- The keys in the set of a subject are the ones attributed to it. -/
theorem keys_all_ne (indexed : Indexed limits cache) {subject : JsString}
    {set : KeySet JsString} (known : cache.subjects.find subject = some set) (key : JsString) :
    (set.keys.all fun other => key ≠ other) = decide (cache.keySubject.find key ≠ some subject) := by
  have inside : cache.keySubject.find key = some subject ↔ key ∈ set.keys := by
    rw [indexed.inverse key subject, OrderedMap.mem_keys_iff]
    simp [Grouping.Contains, known]
  rw [Bool.eq_iff_iff, List.all_eq_true, decide_eq_true_eq, ne_eq, inside]
  constructor
  · intro others member
    simpa using others key member
  · intro outside other member
    have different : key ≠ other := fun same => outside (same ▸ member)
    simpa using different

/-- What is left of the maps when a subject is forgotten. -/
theorem forgetSubject_snd (coherent : Coherent limits cache) (subject : JsString) :
    (forgetSubject cache subject).2 =
      { store := cache.store.filter fun key _ => cache.keySubject.find key ≠ some subject
        subjects := cache.subjects.erase subject
        keySubject := cache.keySubject.filter fun _ owner => owner ≠ subject } := by
  unfold forgetSubject
  cases known : cache.subjects.find subject with
  | none =>
      have unattributed : ∀ key, cache.keySubject.find key ≠ some subject := by
        intro key attributed
        obtain ⟨set, found, -⟩ := (coherent.inverse key subject).mp attributed
        rw [known] at found
        cases found
      have store : (cache.store.filter fun key _ => cache.keySubject.find key ≠ some subject) =
          cache.store := OrderedMap.filter_eq_self fun key _ _ => by simpa using unattributed key
      have keySubject : (cache.keySubject.filter fun _ owner => owner ≠ subject) =
          cache.keySubject := OrderedMap.filter_eq_self fun key owner found => by
        have different : owner ≠ subject := fun same => unattributed key (same ▸ found)
        simpa using different
      rw [store, keySubject, OrderedMap.erase_of_absent known]
  | some set =>
      have store : set.keys.foldl OrderedMap.erase cache.store =
          cache.store.filter fun key _ => cache.keySubject.find key ≠ some subject := by
        rw [OrderedMap.foldl_erase]
        apply OrderedMap.filter_congr
        intro key _ _
        exact keys_all_ne coherent.toIndexed known key
      have keySubject : set.keys.foldl OrderedMap.erase cache.keySubject =
          cache.keySubject.filter fun _ owner => owner ≠ subject := by
        rw [OrderedMap.foldl_erase]
        apply OrderedMap.filter_congr
        intro key owner found
        rw [keys_all_ne coherent.toIndexed known key, found]
        simp
      simp only [forgetKeys_snd coherent.stored, store, keySubject]

theorem Coherent.forgetSubject (coherent : Coherent limits cache) (subject : JsString) :
    Coherent limits (Cache.forgetSubject cache subject).2 := by
  rw [forgetSubject_snd coherent]
  exact
    { inverse := coherent.inverse.dissolve subject
      inhabited := fun other set found =>
        coherent.inhabited other set (OrderedMap.find_of_erase found)
      shares := fun other set found => coherent.shares other set (OrderedMap.find_of_erase found)
      named := fun key blank => coherent.named key (OrderedMap.find_of_filter blank)
      stored := by
        intro key owner found
        rw [OrderedMap.find_filter, Option.filter_eq_some_iff] at found
        obtain ⟨attributed, different⟩ := found
        have isStored := coherent.stored key owner attributed
        show ((cache.store.filter _).find key).isSome
        rw [OrderedMap.find_filter]
        obtain ⟨entry, stored⟩ := Option.isSome_iff_exists.mp isStored
        have other : owner ≠ subject := by simpa using different
        simp [stored, attributed, other]
      capacity := Nat.le_trans (cache.store.size_filter_le _) coherent.capacity }

/-! ### Storing an entry -/

/-- Replacing the entry of a key keeps every key stored. -/
theorem Stored.replace (stored : Stored cache) (key : JsString) (entry : CacheEntry)
    {store : OrderedMap JsString CacheEntry}
    (others : ∀ name, name ≠ key → store.find name = cache.store.find name) :
    Stored { cache with store := store.set key entry } := by
  intro name subject attributed
  show ((store.set key entry).find name).isSome
  by_cases same : name = key
  · rw [same, OrderedMap.find_set_self]
    rfl
  · rw [OrderedMap.find_set_other _ same, others name same]
    exact stored name subject attributed

/-- An entry moved to the end of the store takes no more room. -/
theorem size_erase_set {store : OrderedMap JsString CacheEntry}
    (present : (store.find key).isSome) (entry : CacheEntry) :
    ((store.erase key).set key entry).size ≤ store.size := by
  have fewer := OrderedMap.size_erase_lt present
  rw [OrderedMap.size_set_of_absent (OrderedMap.find_erase_self store key)]
  omega

theorem Coherent.touch (coherent : Coherent limits cache) (key : JsString) :
    Coherent limits (touchKey cache key) := by
  unfold touchKey
  cases found : cache.store.find key with
  | none => exact coherent
  | some entry =>
      have others : ∀ name, name ≠ key → (cache.store.erase key).find name = cache.store.find name :=
        fun name different => OrderedMap.find_erase_other _ different
      exact
        { toIndexed := coherent.toIndexed.of_store _
          stored := coherent.stored.replace key entry others
          capacity := Nat.le_trans (size_erase_set (by simp [found]) entry) coherent.capacity }

theorem Coherent.fetchEntry (coherent : Coherent limits cache) (key : JsString)
    (options : FetchOptions) (now : Int) :
    Coherent limits (Cache.fetchEntry cache key options now).2 := by
  unfold Cache.fetchEntry
  split
  next => exact coherent
  next =>
    split
    next => exact coherent.discard key
    next =>
      split
      next => exact coherent
      next => exact coherent.touch key

theorem Coherent.dropKey (coherent : Coherent limits cache) (key : JsString) :
    Coherent limits (Cache.dropKey cache key).2 := by
  unfold Cache.dropKey
  split
  next => exact coherent.discard key
  next => exact coherent

/-- The evicted entry is the first one of the store, under a nonempty key. -/
theorem evictOldestKey_eq_some {room : CacheState} (evicted : evictOldestKey cache = some room) :
    ∃ oldest, (cache.store.find oldest).isSome ∧ room = discard cache oldest := by
  unfold evictOldestKey at evicted
  split at evicted
  next => cases evicted
  next oldest first =>
    split at evicted
    next => cases evicted
    next =>
      have listed : oldest ∈ cache.store.keys := List.mem_of_mem_head? first
      exact ⟨oldest, (cache.store.mem_keys_iff oldest).mp listed, (Option.some.inj evicted).symm⟩

/-- The room made for a key: a known key needs none, a new one is still new and
there is a place for it, and the share of its subject is not used up. -/
structure RoomFor (limits : Limits) (cache room : CacheState) (key : JsString) : Prop where
  coherent : Coherent limits room
  known : (cache.store.find key).isSome → room = cache
  absent : cache.store.find key = none → room.store.find key = none
  place : cache.store.find key = none → room.store.size < limits.maxEntries
  share : ∀ subject, Grouping.Room limits.maxKeysPerSubject cache.subjects subject key →
    Grouping.Room limits.maxKeysPerSubject room.subjects subject key

theorem makeRoom_spec (coherent : Coherent limits cache) {room : CacheState}
    (made : makeRoom limits cache (cache.store.find key).isSome = some room) :
    RoomFor limits cache room key := by
  unfold makeRoom at made
  split at made
  next full =>
    obtain ⟨isNew, -⟩ := full
    have absent : cache.store.find key = none := by simpa using isNew
    split at made
    next =>
      obtain ⟨oldest, present, rfl⟩ := evictOldestKey_eq_some made
      have fewer := OrderedMap.size_erase_lt present
      have atMost := coherent.capacity
      exact
        { coherent := coherent.discard oldest
          known := fun known => by simp [absent] at known
          absent := fun _ => by
            rw [discard_store]
            by_contra found
            obtain ⟨entry, left⟩ := Option.ne_none_iff_exists'.mp found
            rw [OrderedMap.find_of_erase left] at absent
            cases absent
          place := fun _ => by
            rw [discard_store]
            omega
          share := fun subject room =>
            room_detach (coherent.toIndexed.of_store (cache.store.erase oldest)) room oldest }
    next => cases made
  next roomy =>
    obtain rfl := Option.some.inj made
    exact
      { coherent
        known := fun _ => rfl
        absent := id
        place := fun absent => by
          simp only [absent, Option.isSome_none, Bool.not_false, true_and, not_le] at roomy
          exact roomy
        share := fun _ => id }

/-- Linking a key to the subject it has changes nothing. -/
theorem linkKey_of_attributed (indexed : Indexed limits cache) {subject : JsString}
    (attributed : cache.keySubject.find key = some subject) :
    linkKey cache key subject = cache := by
  obtain ⟨set, known, present⟩ := (indexed.inverse key subject).mp attributed
  have member : set.find key = some () := (Option.isSome_iff_exists.mp present).choose_spec
  have subjects : Grouping.insert cache.subjects subject key = cache.subjects := by
    unfold Grouping.insert
    rw [known, Option.getD_some, OrderedMap.set_of_find member, OrderedMap.set_of_find known]
  unfold linkKey
  rw [subjects, OrderedMap.set_of_find attributed]

theorem attach_store (cache : CacheState) (key subject : JsString) :
    (attachKeyToSubject cache key subject).store = cache.store := detach_store cache key

theorem attach_keySubject (indexed : Indexed limits cache) (key subject : JsString) :
    (attachKeyToSubject cache key subject).keySubject =
      (cache.keySubject.erase key).set key subject := by
  show (detachKeyFromSubjects cache key).keySubject.set key subject = _
  rw [detach_keySubject indexed]

theorem Coherent.attach (coherent : Coherent limits cache) {subject : JsString}
    (named : subject ≠ [])
    (room : Grouping.Room limits.maxKeysPerSubject cache.subjects subject key)
    (present : (cache.store.find key).isSome) :
    Coherent limits (attachKeyToSubject cache key subject) where
  toIndexed := coherent.toIndexed.attach named room
  stored name owner found := by
    rw [attach_store]
    by_cases same : name = key
    · rw [same]
      exact present
    · rw [attach_keySubject coherent.toIndexed, OrderedMap.find_set_other _ same] at found
      exact coherent.stored name owner (OrderedMap.find_of_erase found)
  capacity := by
    rw [attach_store]
    exact coherent.capacity

theorem Coherent.assignSubject (coherent : Coherent limits cache) {subject : Option JsString}
    (admitted : ∀ owner, subject = some owner → owner ≠ [] ∧
      Grouping.Room limits.maxKeysPerSubject cache.subjects owner key)
    (present : (cache.store.find key).isSome) (existed : Bool) :
    Coherent limits (Cache.assignSubject cache key subject existed) := by
  unfold Cache.assignSubject
  split
  next owner =>
    obtain ⟨named, room⟩ := admitted owner rfl
    exact coherent.attach named room present
  next =>
    split
    next =>
      split
      next previous attributed =>
        split
        next => exact coherent
        next => rwa [linkKey_of_attributed coherent.toIndexed attributed]
      next => exact coherent
    next => exact coherent

/-- A stored entry that replaces the one of its key, or takes a free place. -/
theorem RoomFor.store {room : CacheState} (made : RoomFor limits cache room key)
    (entry : CacheEntry) :
    Coherent limits
      { room with
        store := (if (cache.store.find key).isSome then room.store.erase key
          else room.store).set key entry } := by
  by_cases present : (cache.store.find key).isSome
  · have same := made.known present
    subst same
    rw [if_pos present]
    exact
      { toIndexed := made.coherent.toIndexed.of_store _
        stored := made.coherent.stored.replace key entry fun name different =>
          OrderedMap.find_erase_other _ different
        capacity := Nat.le_trans (size_erase_set present entry) made.coherent.capacity }
  · have absent : cache.store.find key = none := by simpa using present
    rw [if_neg present]
    exact
      { toIndexed := made.coherent.toIndexed.of_store _
        stored := made.coherent.stored.replace key entry fun _ _ => rfl
        capacity := by
          show (room.store.set key entry).size ≤ limits.maxEntries
          rw [OrderedMap.size_set_of_absent (made.absent absent)]
          exact made.place absent }

/-! ### Putting -/

/-- The subject that a put names, if any. -/
def namedSubject (options : PutOptions) : Option JsString := options.subject.filter (· ≠ [])

/-- The value fits, and its subject has room for the key. -/
def Admissible (limits : Limits) (swept : CacheState) (key : JsString) (value : List UInt8)
    (options : PutOptions) : Prop :=
  value.length ≤ limits.maxEntryBytes ∧ ∀ subject, namedSubject options = some subject →
    Grouping.Room limits.maxKeysPerSubject swept.subjects subject key

/-- The entry that a put stores, in the room that was made for it. -/
def placed (limits : Limits) (swept room : CacheState) (key : JsString) (value : List UInt8)
    (options : PutOptions) (storedAt : Int) : CacheState :=
  let existed := (swept.store.find key).isSome
  assignSubject
    { room with
      store := (if existed then room.store.erase key else room.store).set key
        ⟨value, storedAt + limits.ttlMs, options.integrity⟩ }
    key (namedSubject options) existed

/-- Everything a put can do, behind its sweep. -/
theorem put_cases (limits : Limits) (cache : CacheState) (key : JsString) (value : List UInt8)
    (options : PutOptions) (sweptAt storedAt : Int) :
    put limits cache key value options sweptAt storedAt = (false, sweep cache sweptAt) ∨
      ∃ room, Admissible limits (sweep cache sweptAt) key value options ∧
        makeRoom limits (sweep cache sweptAt) ((sweep cache sweptAt).store.find key).isSome =
          some room ∧
        put limits cache key value options sweptAt storedAt =
          (true, placed limits (sweep cache sweptAt) room key value options storedAt) := by
  unfold put
  simp only
  split
  next => exact Or.inl rfl
  next fits =>
    split
    next => exact Or.inl rfl
    next admitted =>
      split
      next => exact Or.inl rfl
      next room made =>
        refine Or.inr ⟨room, ⟨by omega, ?_⟩, made, rfl⟩
        intro subject named
        unfold namedSubject at named
        rw [named, Option.any_some, Bool.not_eq_true', Bool.not_eq_false] at admitted
        exact canAdmitSubjectKey_eq_true.mp admitted

/-- A refused put leaves what its sweep leaves. -/
theorem put_refused {value : List UInt8} {options : PutOptions} {sweptAt storedAt : Int}
    (refused : (put limits cache key value options sweptAt storedAt).1 = false) :
    (put limits cache key value options sweptAt storedAt).2 = sweep cache sweptAt := by
  rcases put_cases limits cache key value options sweptAt storedAt with swept | ⟨room, -, -, accepted⟩
  · rw [swept]
  · rw [accepted] at refused
    cases refused

/-- A put within its limits fails only for want of room. -/
theorem put_of_admissible {value : List UInt8} {options : PutOptions} {sweptAt : Int}
    (admissible : Admissible limits (sweep cache sweptAt) key value options) (storedAt : Int) :
    put limits cache key value options sweptAt storedAt =
      match makeRoom limits (sweep cache sweptAt) ((sweep cache sweptAt).store.find key).isSome with
      | none => (false, sweep cache sweptAt)
      | some room => (true, placed limits (sweep cache sweptAt) room key value options storedAt) := by
  obtain ⟨fits, share⟩ := admissible
  have admitted : ¬((options.subject.filter (· ≠ [])).any fun subject =>
      !canAdmitSubjectKey limits (sweep cache sweptAt) key subject) = true := by
    cases named : options.subject.filter (· ≠ []) with
    | none => simp
    | some subject =>
        have room := canAdmitSubjectKey_eq_true.mpr (share subject named)
        simp [room]
  unfold put
  simp only
  rw [if_neg (not_lt.mpr fits), if_neg admitted]
  rfl

theorem Coherent.put (coherent : Coherent limits cache) (key : JsString) (value : List UInt8)
    (options : PutOptions) (sweptAt storedAt : Int) :
    Coherent limits (Cache.put limits cache key value options sweptAt storedAt).2 := by
  have swept := coherent.sweep sweptAt
  rcases put_cases limits cache key value options sweptAt storedAt with
    refused | ⟨room, ⟨-, admitted⟩, made, accepted⟩
  · rw [refused]
    exact swept
  · rw [accepted]
    have roomFor := makeRoom_spec swept made
    have stored := roomFor.store ⟨value, storedAt + limits.ttlMs, options.integrity⟩
    apply stored.assignSubject
    · intro owner named
      constructor
      · have nonempty := (Option.filter_eq_some_iff.mp named).2
        simpa using nonempty
      · exact roomFor.share owner (admitted owner named)
    · show ((OrderedMap.set _ key _).find key).isSome
      rw [OrderedMap.find_set_self]
      rfl

/-! ### Entries -/

/-- An entry behind an operation that stores nothing was there before. -/
theorem find_of_discard {name : JsString} {entry : CacheEntry}
    (found : (discard cache key).store.find name = some entry) :
    cache.store.find name = some entry := by
  rw [discard_store] at found
  exact OrderedMap.find_of_erase found

theorem find_of_sweep {now : Int} {entry : CacheEntry}
    (found : (sweep cache now).store.find key = some entry) :
    cache.store.find key = some entry := by
  rw [sweep_store] at found
  exact OrderedMap.find_of_filter found

theorem find_of_touchKey {name : JsString} {entry : CacheEntry}
    (found : (touchKey cache key).store.find name = some entry) :
    cache.store.find name = some entry := by
  unfold touchKey at found
  cases known : cache.store.find key with
  | none =>
      rw [known] at found
      exact found
  | some touched =>
      rw [known] at found
      by_cases same : name = key
      · simp only [same, OrderedMap.find_set_self] at found
        rw [same, known, found]
      · simp only [OrderedMap.find_set_other _ same] at found
        exact OrderedMap.find_of_erase found

theorem find_of_fetchEntry {name : JsString} {options : FetchOptions} {now : Int}
    {entry : CacheEntry}
    (found : (fetchEntry cache key options now).2.store.find name = some entry) :
    cache.store.find name = some entry := by
  unfold fetchEntry at found
  split at found
  next => exact found
  next =>
    split at found
    next => exact find_of_discard found
    next =>
      split at found
      next => exact found
      next => exact find_of_touchKey found

theorem find_of_dropKey {name : JsString} {entry : CacheEntry}
    (found : (dropKey cache key).2.store.find name = some entry) :
    cache.store.find name = some entry := by
  unfold dropKey at found
  split at found
  next => exact find_of_discard found
  next => exact found

theorem find_of_forgetSubject {subject : JsString} {entry : CacheEntry}
    (found : (forgetSubject cache subject).2.store.find key = some entry) :
    cache.store.find key = some entry := by
  unfold forgetSubject at found
  split at found
  next => exact found
  next set known =>
    refine List.foldlRecOn (motive := fun state =>
      state.2.store.find key = some entry → cache.store.find key = some entry)
      set.keys forgetKey id ?_ found
    intro state kept gone _ after
    apply kept
    unfold forgetKey at after
    split at after
    next => exact OrderedMap.find_of_erase after
    next => exact after

/-- A fetch that hits returns the entry of its key, verified when that is asked for. -/
theorem fetchEntry_hit {options : FetchOptions} {now : Int} {value : List UInt8}
    {integrity : Option CacheIntegrityMeta}
    (hit : (fetchEntry cache key options now).1 = .hit value integrity) :
    ∃ expiresAt, cache.store.find key = some ⟨value, expiresAt, integrity⟩ ∧
      (options.requireVerified = true → integrity.any (·.verified) = true) := by
  unfold fetchEntry at hit
  split at hit
  next => cases hit
  next entry found =>
    split at hit
    next => cases hit
    next =>
      split at hit
      next => cases hit
      next allowed =>
        obtain ⟨rfl, rfl⟩ := CacheFetchResult.hit.inj hit
        refine ⟨entry.expiresAt, found, ?_⟩
        intro required
        rw [not_and, not_not] at allowed
        exact allowed required

theorem assignSubject_store (cache : CacheState) (key : JsString) (subject : Option JsString)
    (existed : Bool) : (assignSubject cache key subject existed).store = cache.store := by
  unfold assignSubject
  split
  next owner => exact attach_store cache key owner
  next =>
    split
    next =>
      split
      next =>
        split
        next => rfl
        next => rfl
      next => rfl
    next => rfl

/-- An entry behind a put is the one it stored under its key, or was there before. -/
theorem find_of_put {name : JsString} {value : List UInt8} {options : PutOptions}
    {sweptAt storedAt : Int} {entry : CacheEntry}
    (found : (put limits cache key value options sweptAt storedAt).2.store.find name =
      some entry) :
    (name = key ∧ (put limits cache key value options sweptAt storedAt).1 = true ∧
        entry = ⟨value, storedAt + limits.ttlMs, options.integrity⟩) ∨
      cache.store.find name = some entry := by
  rcases put_cases limits cache key value options sweptAt storedAt with
    refused | ⟨room, -, made, accepted⟩
  · rw [refused] at found
    exact Or.inr (find_of_sweep found)
  · rw [accepted] at found ⊢
    simp only [placed, assignSubject_store] at found
    by_cases same : name = key
    · rw [same, OrderedMap.find_set_self, Option.some.injEq] at found
      exact Or.inl ⟨same, rfl, found.symm⟩
    · rw [OrderedMap.find_set_other _ same] at found
      have inRoom : room.store.find name = some entry := by
        split at found
        next => exact OrderedMap.find_of_erase found
        next => exact found
      unfold makeRoom at made
      split at made
      next =>
        split at made
        next =>
          obtain ⟨oldest, -, rfl⟩ := evictOldestKey_eq_some made
          exact Or.inr (find_of_sweep (find_of_discard inRoom))
        next => cases made
      next =>
        obtain rfl := Option.some.inj made
        exact Or.inr (find_of_sweep inRoom)

/-! ### Runs -/

theorem Coherent.step (coherent : Coherent limits cache) (operation : Operation) :
    Coherent limits (Cache.step limits cache operation) := by
  cases operation with
  | put key value options sweptAt storedAt =>
      exact coherent.put key value options sweptAt storedAt
  | fetch key options now => exact coherent.fetchEntry key options now
  | sweep now => exact coherent.sweep now
  | forget subject => exact coherent.forgetSubject subject
  | drop key => exact coherent.dropKey key

/-- The maps agree after every run. -/
theorem run_coherent (limits : Limits) (operations : List Operation) :
    Coherent limits (run limits operations) := by
  apply List.foldlRecOn operations (Cache.step limits) (coherent_empty limits)
  intro cache coherent operation _
  exact coherent.step operation

/-- Only entries that had expired are gone, and with them their attribution. -/
structure OnlyExpiredRemoved (before after : CacheState) (now : Int) : Prop where
  store : after.store = before.store.filter fun _ entry => now < entry.expiresAt
  keySubject : after.keySubject =
    before.keySubject.filter fun key _ => (after.store.find key).isSome
  subjects : ∀ subject key, Grouping.Contains after.subjects subject key ↔
    Grouping.Contains before.subjects subject key ∧ (after.store.find key).isSome

theorem sweep_onlyExpired (coherent : Coherent limits cache) (now : Int) :
    OnlyExpiredRemoved cache (sweep cache now) now where
  store := sweep_store cache now
  keySubject := sweep_keySubject coherent now
  subjects subject key := by
    have after := (coherent.sweep now).inverse key subject
    have before := coherent.inverse key subject
    rw [← after, ← before, sweep_keySubject coherent, OrderedMap.find_filter,
      Option.filter_eq_some_iff]

/-- The subject and its keys are gone; every other entry, in its place, and
every other subject are as they were. -/
structure Forgotten (before after : CacheState) (subject : JsString) : Prop where
  unfetchable : ∀ key, before.keySubject.find key = some subject → ∀ options now,
    fetchEntry after key options now = (.miss, after)
  others : ∀ key, before.keySubject.find key ≠ some subject →
    after.store.find key = before.store.find key ∧
      after.keySubject.find key = before.keySubject.find key
  order : after.store.entries.Sublist before.store.entries
  subjects : ∀ other, after.subjects.find other =
    if other = subject then none else before.subjects.find other

theorem forgetSubject_forgotten (coherent : Coherent limits cache) (subject : JsString) :
    Forgotten cache (forgetSubject cache subject).2 subject := by
  rw [forgetSubject_snd coherent]
  exact
    { unfetchable := by
        intro key attributed options now
        have gone : (cache.store.filter fun key _ =>
            cache.keySubject.find key ≠ some subject).find key = none := by
          rw [OrderedMap.find_filter]
          simp [attributed]
        simp only [fetchEntry, gone]
      others := by
        intro key different
        constructor
        · show (cache.store.filter _).find key = _
          rw [OrderedMap.find_filter]
          cases cache.store.find key with
          | none => rfl
          | some entry => simp [different]
        · show (cache.keySubject.filter _).find key = _
          rw [OrderedMap.find_filter]
          cases found : cache.keySubject.find key with
          | none => rfl
          | some owner =>
              have other : owner ≠ subject := fun same => different (same ▸ found)
              simp [other]
      order := List.filter_sublist
      subjects := by
        intro other
        show (cache.subjects.erase subject).find other = _
        split
        next same => rw [same, OrderedMap.find_erase_self]
        next different => exact OrderedMap.find_erase_other _ different }

/-- After every run, in either admission mode, the maps agree and the limits
hold; a put that is refused there removes expired entries only, and forgetting
a subject removes exactly what is attributed to it. -/
theorem cache_maps_coherent (limits : Limits) (operations : List Operation) :
    let cache := run limits operations
    Coherent limits cache ∧
      (∀ key value options sweptAt storedAt,
        (put limits cache key value options sweptAt storedAt).1 = false →
          OnlyExpiredRemoved cache
            (put limits cache key value options sweptAt storedAt).2 sweptAt) ∧
      ∀ subject, Forgotten cache (forgetSubject cache subject).2 subject := by
  intro cache
  have coherent : Coherent limits cache := run_coherent limits operations
  refine ⟨coherent, ?_, forgetSubject_forgotten coherent⟩
  intro key value options sweptAt storedAt refused
  rw [put_refused refused]
  exact sweep_onlyExpired coherent sweptAt

end DarkmeshGateway.Gateway.CacheCoherence
