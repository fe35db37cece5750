import DarkmeshGateway.Foundation.Stutter
import DarkmeshGateway.Gateway.CacheCoherence

/-!
Contract: when calls of `sweep` cannot be told from the answers of the cache.

Owns the pair of caches of two runs that differ in sweeps, the entries one of
them holds and the other has swept, and the runs in which no answer shows them.

Does not own the metrics that a sweep counts.
-/

namespace DarkmeshGateway.Gateway.SweepTransparency

open Foundation
open Foundation.Js
open Foundation.Machine
open Foundation.Stutter
open Gateway.Cache
open Gateway.CacheCoherence

/-! ### Answers -/

/-- What a caller learns: the hit of a fetch, or whether a put was stored. -/
inductive Answer where
  | fetched (hit : Option (List UInt8 × Option CacheIntegrityMeta))
  | stored (success : Bool)
deriving DecidableEq

def hitOf : CacheFetchResult → Option (List UInt8 × Option CacheIntegrityMeta)
  | .hit value integrity => some (value, integrity)
  | _ => none

def answer (limits : Limits) (cache : CacheState) : Operation → Option Answer
  | .put key value options sweptAt storedAt =>
      some (.stored (put limits cache key value options sweptAt storedAt).1)
  | .fetch key options now => some (.fetched (hitOf (fetchEntry cache key options now).1))
  | _ => none

def isSweep : Operation → Bool
  | .sweep _ => true
  | _ => false

/-- The calls that remain when the sweeps are left out. -/
def calls (operations : List Operation) : List Operation :=
  operations.filter fun operation => !isSweep operation

/-- The answers of a run from the start of the cache. -/
def answers (limits : Limits) (operations : List Operation) : List Answer :=
  observations (Cache.step limits) (answer limits) .empty operations

/-! ### The condition -/

/-- The entries of one cache whose keys the other does not hold. -/
def missing (one other : CacheState) : List (JsString × CacheEntry) :=
  one.store.entries.filter fun entry => (other.store.find entry.1).isNone

/-- The entries that only one of two caches holds. -/
def parted (pair : CacheState × CacheState) : List (JsString × CacheEntry) :=
  missing pair.1 pair.2 ++ missing pair.2 pair.1

/-- A fetch would return the entry. -/
def Served (options : FetchOptions) (now : Int) (entry : CacheEntry) : Prop :=
  now ≤ entry.expiresAt ∧ (options.requireVerified → entry.integrity.any (·.verified))

/-- No fetch of both runs would return an entry that only one of the caches holds,
and the sweep inside a put of both runs finds every such entry expired. -/
def Harmless (pair : CacheState × CacheState) : Joint Operation → Prop
  | .both (.fetch key options now) =>
      ∀ entry ∈ parted pair, entry.1 = key → ¬Served options now entry.2
  | .both (.put _ _ _ sweptAt _) => ∀ entry ∈ parted pair, entry.2.expiresAt ≤ sweptAt
  | _ => True

instance (options : FetchOptions) (now : Int) (entry : CacheEntry) :
    Decidable (Served options now entry) :=
  inferInstanceAs (Decidable (_ ∧ _))

instance (pair : CacheState × CacheState) :
    (joint : Joint Operation) → Decidable (Harmless pair joint)
  | .both (.fetch key options now) =>
      inferInstanceAs (Decidable (∀ entry ∈ parted pair, entry.1 = key →
        ¬Served options now entry.2))
  | .both (.put _ _ _ sweptAt _) =>
      inferInstanceAs (Decidable (∀ entry ∈ parted pair, entry.2.expiresAt ≤ sweptAt))
  | .both (.sweep _) => isTrue trivial
  | .both (.forget _) => isTrue trivial
  | .both (.drop _) => isTrue trivial
  | .first _ => isTrue trivial
  | .second _ => isTrue trivial

theorem mem_missing {one other : CacheState} {key : JsString} {entry : CacheEntry} :
    (key, entry) ∈ missing one other ↔
      one.store.find key = some entry ∧ other.store.find key = none := by
  rw [missing, List.mem_filter, OrderedMap.mem_entries_iff, Option.isNone_iff_eq_none]

/-! ### Caches that agree on what both hold -/

/-- The entries of a cache whose keys the other holds too. -/
def shared (one other : CacheState) : OrderedMap JsString CacheEntry :=
  one.store.filter fun key _ => (other.store.find key).isSome

/-- Two coherent caches with the same common entries, in the same order and under
the same subjects. -/
structure Aligned (limits : Limits) (left right : CacheState) : Prop where
  coherentLeft : Coherent limits left
  coherentRight : Coherent limits right
  store : shared left right = shared right left
  subject : ∀ key, (left.store.find key).isSome → (right.store.find key).isSome →
    left.keySubject.find key = right.keySubject.find key

variable {limits : Limits} {left right next : CacheState} {key : JsString}

theorem Aligned.refl (coherent : Coherent limits left) : Aligned limits left left :=
  ⟨coherent, coherent, rfl, fun _ _ _ => rfl⟩

theorem Aligned.symm (aligned : Aligned limits left right) : Aligned limits right left :=
  ⟨aligned.coherentRight, aligned.coherentLeft, aligned.store.symm,
    fun key inRight inLeft => (aligned.subject key inLeft inRight).symm⟩

theorem find_shared {one other : CacheState} (present : (other.store.find key).isSome) :
    (shared one other).find key = one.store.find key := by
  rw [shared, OrderedMap.find_filter]
  cases one.store.find key with
  | none => rfl
  | some entry => simp [present]

/-- A key that both hold is held with one entry. -/
theorem Aligned.find_eq (aligned : Aligned limits left right)
    (inLeft : (left.store.find key).isSome) (inRight : (right.store.find key).isSome) :
    left.store.find key = right.store.find key := by
  rw [← find_shared inRight, aligned.store, find_shared inLeft]

/-! ### Removals -/

/-- The cache behind a removal: some of its entries, under the subjects they had. -/
structure Removal (limits : Limits) (cache next : CacheState) (keep : JsString → CacheEntry → Bool) :
    Prop where
  coherent : Coherent limits next
  store : next.store = cache.store.filter keep
  subject : ∀ key, (next.store.find key).isSome →
    next.keySubject.find key = cache.keySubject.find key

/-- A removal from one of the caches leaves them aligned. -/
theorem Aligned.remove {keep : JsString → CacheEntry → Bool} (aligned : Aligned limits left right)
    (removal : Removal limits left next keep) : Aligned limits next right where
  coherentLeft := removal.coherent
  coherentRight := aligned.coherentRight
  store := by
    have held (key : JsString) : (next.store.find key).isSome =
        ((left.store.find key).filter (keep key)).isSome := by
      rw [removal.store, OrderedMap.find_filter]
    calc shared next right
        = (shared left right).filter keep := by
          unfold shared
          rw [removal.store, OrderedMap.filter_filter, OrderedMap.filter_filter]
          apply OrderedMap.filter_congr
          intro key entry _
          exact Bool.and_comm _ _
      _ = (shared right left).filter keep := by rw [aligned.store]
      _ = shared right next := by
          unfold shared
          rw [OrderedMap.filter_filter]
          apply OrderedMap.filter_congr
          intro key entry found
          have inRight : (right.store.find key).isSome := by rw [found]; rfl
          rw [held]
          cases other : left.store.find key with
          | none => rfl
          | some stored =>
              have same := aligned.find_eq (by rw [other]; rfl) inRight
              rw [other, found, Option.some.injEq] at same
              rw [same]
              by_cases kept : keep key entry = true <;> simp [kept]
  subject key inNext inRight := by
    rw [removal.subject key inNext]
    apply aligned.subject key _ inRight
    rw [removal.store] at inNext
    obtain ⟨entry, found⟩ := Option.isSome_iff_exists.mp inNext
    rw [OrderedMap.find_of_filter found]
    rfl

/-- Removals from both caches leave them aligned. -/
theorem Aligned.removeBoth {left' right' : CacheState} {keep keep' : JsString → CacheEntry → Bool}
    (aligned : Aligned limits left right) (removal : Removal limits left left' keep)
    (other : Removal limits right right' keep') : Aligned limits left' right' :=
  ((aligned.remove removal).symm.remove other).symm

variable {cache : CacheState}

theorem Removal.none (coherent : Coherent limits cache) :
    Removal limits cache cache fun _ _ => true where
  coherent := coherent
  store := (OrderedMap.filter_eq_self fun _ _ _ => rfl).symm
  subject _ _ := rfl

theorem removal_sweep (coherent : Coherent limits cache) (now : Int) :
    Removal limits cache (sweep cache now) fun _ entry => now < entry.expiresAt where
  coherent := coherent.sweep now
  store := sweep_store cache now
  subject key held := by
    rw [sweep_keySubject coherent, OrderedMap.find_filter]
    cases cache.keySubject.find key with
    | none => rfl
    | some subject => simp [held]

theorem erase_eq_filter (store : OrderedMap JsString CacheEntry) (gone : JsString) :
    store.erase gone = store.filter fun key _ => key ≠ gone := rfl

theorem removal_discard (coherent : Coherent limits cache) (gone : JsString) :
    Removal limits cache (discard cache gone) fun key _ => key ≠ gone where
  coherent := coherent.discard gone
  store := by rw [discard_store, erase_eq_filter]
  subject key held := by
    rw [discard_keySubject coherent.toIndexed]
    apply OrderedMap.find_erase_other
    rintro rfl
    rw [discard_store, OrderedMap.find_erase_self] at held
    cases held

theorem removal_forgetSubject (coherent : Coherent limits cache) (subject : JsString) :
    Removal limits cache (forgetSubject cache subject).2
      fun key _ => cache.keySubject.find key ≠ some subject where
  coherent := coherent.forgetSubject subject
  store := by rw [forgetSubject_snd coherent]
  subject key held := by
    rw [forgetSubject_snd coherent] at held ⊢
    obtain ⟨entry, found⟩ := Option.isSome_iff_exists.mp held
    rw [OrderedMap.find_filter, Option.filter_eq_some_iff] at found
    have different : cache.keySubject.find key ≠ some subject := by simpa using found.2
    rw [OrderedMap.find_filter]
    cases owned : cache.keySubject.find key with
    | none => rfl
    | some owner =>
        have other : owner ≠ subject := fun same => different (same ▸ owned)
        simp [other]

/-- Dropping a key removes it, when it is there. -/
theorem removal_dropKey (coherent : Coherent limits cache) (gone : JsString) :
    ∃ keep, Removal limits cache (dropKey cache gone).2 keep := by
  unfold dropKey
  split
  next => exact ⟨_, removal_discard coherent gone⟩
  next => exact ⟨_, Removal.none coherent⟩

/-! ### Fetching -/

/-- What a touch does to the part of the store that the other cache holds too. -/
theorem shared_touch {one other : CacheState} {entry : CacheEntry}
    (found : one.store.find key = some entry) (held : (other.store.find key).isSome) :
    shared (touchKey one key) other = ((shared one other).erase key).set key entry := by
  have touched : (touchKey one key).store = (one.store.erase key).set key entry := by
    rw [touchKey, found]
  have last : ((one.store.erase key).set key entry).filter
        (fun name _ => (other.store.find name).isSome) =
      ((one.store.erase key).filter fun name _ => (other.store.find name).isSome).set key entry :=
    OrderedMap.filter_set_of_absent (OrderedMap.find_erase_self _ _) held
  unfold shared
  rw [touched, last, OrderedMap.filter_erase]

theorem touchKey_find (cache : CacheState) (key name : JsString) :
    (touchKey cache key).store.find name = cache.store.find name := by
  unfold touchKey
  cases found : cache.store.find key with
  | none => rfl
  | some entry =>
      by_cases same : name = key
      · rw [same, OrderedMap.find_set_self, found]
      · rw [OrderedMap.find_set_other _ same, OrderedMap.find_erase_other _ same]

theorem touchKey_keySubject (cache : CacheState) (key : JsString) :
    (touchKey cache key).keySubject = cache.keySubject := by
  unfold touchKey
  cases cache.store.find key <;> rfl

/-- The shared part depends on the other cache only through the keys it holds. -/
theorem shared_congr {one other other' : CacheState}
    (same : ∀ name, other'.store.find name = other.store.find name) :
    shared one other' = shared one other := by
  unfold shared
  apply OrderedMap.filter_congr
  intro name entry _
  rw [same]

/-- A key that both caches hold may be touched in both. -/
theorem Aligned.touch (aligned : Aligned limits left right) {entry : CacheEntry}
    (inLeft : left.store.find key = some entry) (inRight : right.store.find key = some entry) :
    Aligned limits (touchKey left key) (touchKey right key) where
  coherentLeft := aligned.coherentLeft.touch key
  coherentRight := aligned.coherentRight.touch key
  store := by
    rw [shared_congr (touchKey_find right key), shared_congr (touchKey_find left key),
      shared_touch inLeft (by rw [inRight]; rfl), shared_touch inRight (by rw [inLeft]; rfl),
      aligned.store]
  subject name heldLeft heldRight := by
    rw [touchKey_find] at heldLeft heldRight
    rw [touchKey_keySubject, touchKey_keySubject]
    exact aligned.subject name heldLeft heldRight

/-- A fetch that returns no entry removes at most an expired one. -/
theorem fetchEntry_unserved (coherent : Coherent limits cache) {options : FetchOptions} {now : Int}
    (unserved : ∀ entry, cache.store.find key = some entry → ¬Served options now entry) :
    hitOf (fetchEntry cache key options now).1 = none ∧
      ∃ keep, Removal limits cache (fetchEntry cache key options now).2 keep := by
  unfold fetchEntry
  cases found : cache.store.find key with
  | none => exact ⟨rfl, _, Removal.none coherent⟩
  | some entry =>
      have refused := unserved entry found
      simp only
      split
      next => exact ⟨rfl, _, removal_discard coherent key⟩
      next fresh =>
        split
        next => exact ⟨rfl, _, Removal.none coherent⟩
        next verified =>
          refine absurd ⟨by omega, ?_⟩ refused
          intro required
          by_contra missing
          exact verified ⟨required, missing⟩

/-- A fetch that returns the entry touches its key. -/
theorem fetchEntry_served {options : FetchOptions} {now : Int} {entry : CacheEntry}
    (found : cache.store.find key = some entry) (served : Served options now entry) :
    fetchEntry cache key options now =
      (.hit entry.value entry.integrity, touchKey cache key) := by
  have fresh : ¬entry.expiresAt < now := by
    have inTime := served.1
    omega
  have verified : ¬(options.requireVerified = true ∧ ¬entry.integrity.any (·.verified) = true) :=
    fun refused => refused.2 (served.2 refused.1)
  unfold fetchEntry
  rw [found]
  simp only
  rw [if_neg fresh, if_neg verified]

/-- An entry that only one of two caches holds is not served. -/
theorem unserved_of_harmless {options : FetchOptions} {now : Int}
    (harmless : Harmless (left, right) (.both (.fetch key options now)))
    (apart : left.store.find key = none ∨ right.store.find key = none) :
    (∀ entry, left.store.find key = some entry → ¬Served options now entry) ∧
      ∀ entry, right.store.find key = some entry → ¬Served options now entry := by
  constructor
  · intro entry found
    have absent : right.store.find key = none := by
      rcases apart with gone | gone
      · rw [gone] at found
        cases found
      · exact gone
    have listed : (key, entry) ∈ parted (left, right) :=
      List.mem_append_left _ (mem_missing.mpr ⟨found, absent⟩)
    exact harmless (key, entry) listed rfl
  · intro entry found
    have absent : left.store.find key = none := by
      rcases apart with gone | gone
      · exact gone
      · rw [gone] at found
        cases found
    have listed : (key, entry) ∈ parted (left, right) :=
      List.mem_append_right _ (mem_missing.mpr ⟨found, absent⟩)
    exact harmless (key, entry) listed rfl

/-- A harmless fetch returns the same from aligned caches and leaves them aligned. -/
theorem Aligned.fetch (aligned : Aligned limits left right) {options : FetchOptions} {now : Int}
    (harmless : Harmless (left, right) (.both (.fetch key options now))) :
    hitOf (fetchEntry left key options now).1 = hitOf (fetchEntry right key options now).1 ∧
      Aligned limits (fetchEntry left key options now).2
        (fetchEntry right key options now).2 := by
  have removed (unservedLeft : ∀ entry, left.store.find key = some entry →
        ¬Served options now entry)
      (unservedRight : ∀ entry, right.store.find key = some entry → ¬Served options now entry) :
      hitOf (fetchEntry left key options now).1 = hitOf (fetchEntry right key options now).1 ∧
        Aligned limits (fetchEntry left key options now).2
          (fetchEntry right key options now).2 := by
    obtain ⟨noHit, _, removal⟩ := fetchEntry_unserved aligned.coherentLeft unservedLeft
    obtain ⟨noOther, _, other⟩ := fetchEntry_unserved aligned.coherentRight unservedRight
    exact ⟨noHit.trans noOther.symm, aligned.removeBoth removal other⟩
  by_cases apart : left.store.find key = none ∨ right.store.find key = none
  · have unserved := unserved_of_harmless harmless apart
    exact removed unserved.1 unserved.2
  · rw [not_or] at apart
    obtain ⟨entry, inLeft⟩ := Option.ne_none_iff_exists'.mp apart.1
    have inRight : right.store.find key = some entry := by
      rw [← inLeft]
      exact (aligned.find_eq (by rw [inLeft]; rfl) (Option.isSome_iff_ne_none.mpr apart.2)).symm
    by_cases served : Served options now entry
    · rw [fetchEntry_served inLeft served, fetchEntry_served inRight served]
      exact ⟨rfl, aligned.touch inLeft inRight⟩
    · apply removed
      · intro other found
        rw [inLeft, Option.some.injEq] at found
        exact found ▸ served
      · intro other found
        rw [inRight, Option.some.injEq] at found
        exact found ▸ served

/-! ### Putting -/

/-- The same store and the same subject of every key. -/
structure Twin (left right : CacheState) : Prop where
  store : left.store = right.store
  subject : ∀ key, left.keySubject.find key = right.keySubject.find key

theorem Twin.symm (twin : Twin left right) : Twin right left :=
  ⟨twin.store.symm, fun key => (twin.subject key).symm⟩

theorem Twin.aligned (twin : Twin left right) (coherentLeft : Coherent limits left)
    (coherentRight : Coherent limits right) : Aligned limits left right where
  coherentLeft := coherentLeft
  coherentRight := coherentRight
  store := by
    unfold shared
    rw [twin.store]
  subject key _ _ := twin.subject key

/-- Every key of one swept cache is one of the other. -/
theorem held_of_harmless (aligned : Aligned limits left right) {sweptAt : Int}
    (expired : ∀ entry ∈ missing left right, entry.2.expiresAt ≤ sweptAt)
    (held : ((sweep left sweptAt).store.find key).isSome) :
    ((sweep right sweptAt).store.find key).isSome := by
  obtain ⟨entry, found⟩ := Option.isSome_iff_exists.mp held
  rw [sweep_store, OrderedMap.find_filter, Option.filter_eq_some_iff] at found
  obtain ⟨inLeft, live⟩ := found
  have inRight : right.store.find key = some entry := by
    cases other : right.store.find key with
    | none =>
        have late : entry.expiresAt ≤ sweptAt :=
          expired (key, entry) (mem_missing.mpr ⟨inLeft, other⟩)
        simp only [decide_eq_true_eq] at live
        omega
    | some stored =>
        have same := aligned.find_eq (by rw [inLeft]; rfl) (by rw [other]; rfl)
        rw [← other, ← same, inLeft]
  rw [sweep_store, OrderedMap.find_filter, inRight]
  simpa using live

theorem shared_eq_store {one other : CacheState}
    (held : ∀ key, (one.store.find key).isSome → (other.store.find key).isSome) :
    shared one other = one.store := by
  apply OrderedMap.filter_eq_self
  intro key entry found
  exact held key (by rw [found]; rfl)

/-- The sweep inside a harmless put leaves twins of aligned caches. -/
theorem Aligned.sweep_twin (aligned : Aligned limits left right) {sweptAt : Int}
    (expired : ∀ entry ∈ parted (left, right), entry.2.expiresAt ≤ sweptAt) :
    Twin (sweep left sweptAt) (sweep right sweptAt) := by
  have swept : Aligned limits (sweep left sweptAt) (sweep right sweptAt) :=
    aligned.removeBoth (removal_sweep aligned.coherentLeft sweptAt)
      (removal_sweep aligned.coherentRight sweptAt)
  have forward (key : JsString) (held : ((sweep left sweptAt).store.find key).isSome) :
      ((sweep right sweptAt).store.find key).isSome :=
    held_of_harmless aligned (fun entry member => expired entry (List.mem_append_left _ member)) held
  have backward (key : JsString) (held : ((sweep right sweptAt).store.find key).isSome) :
      ((sweep left sweptAt).store.find key).isSome :=
    held_of_harmless aligned.symm
      (fun entry member => expired entry (List.mem_append_right _ member)) held
  constructor
  · rw [← shared_eq_store forward, ← shared_eq_store backward]
    exact swept.store
  · intro key
    by_cases held : ((sweep left sweptAt).store.find key).isSome
    · exact swept.subject key held (forward key held)
    · have unattributed : (sweep left sweptAt).keySubject.find key = none := by
        by_contra attributed
        obtain ⟨subject, found⟩ := Option.ne_none_iff_exists'.mp attributed
        exact held (swept.coherentLeft.stored key subject found)
      have unattributedToo : (sweep right sweptAt).keySubject.find key = none := by
        by_contra attributed
        obtain ⟨subject, found⟩ := Option.ne_none_iff_exists'.mp attributed
        exact held (backward key (swept.coherentRight.stored key subject found))
      rw [unattributed, unattributedToo]

theorem Twin.admissible (twin : Twin left right) (coherentLeft : Coherent limits left)
    (coherentRight : Coherent limits right) {value : List UInt8} {options : PutOptions}
    (admissible : Admissible limits left key value options) :
    Admissible limits right key value options := by
  refine ⟨admissible.1, ?_⟩
  intro subject named
  exact coherentLeft.inverse.room_congr coherentRight.inverse coherentRight.inhabited twin.subject
    (admissible.2 subject named)

theorem Twin.discard (twin : Twin left right) (coherentLeft : Coherent limits left)
    (coherentRight : Coherent limits right) (gone : JsString) :
    Twin (Cache.discard left gone) (Cache.discard right gone) where
  store := by rw [discard_store, discard_store, twin.store]
  subject key := by
    rw [discard_keySubject coherentLeft.toIndexed, discard_keySubject coherentRight.toIndexed]
    by_cases same : key = gone
    · rw [same, OrderedMap.find_erase_self, OrderedMap.find_erase_self]
    · rw [OrderedMap.find_erase_other _ same, OrderedMap.find_erase_other _ same, twin.subject]

/-- Twins make room for a key alike. -/
theorem Twin.makeRoom (twin : Twin left right) (coherentLeft : Coherent limits left)
    (coherentRight : Coherent limits right) {existed : Bool} {room : CacheState}
    (made : Cache.makeRoom limits left existed = some room) :
    ∃ other, Cache.makeRoom limits right existed = some other ∧ Twin room other := by
  unfold Cache.makeRoom at made ⊢
  rw [← twin.store]
  split at made
  next crowded =>
    rw [if_pos crowded]
    split at made
    next =>
      unfold evictOldestKey at made ⊢
      rw [← twin.store]
      split at made
      next => cases made
      next oldest first =>
        split at made
        next => cases made
        next named =>
          obtain rfl := Option.some.inj made
          rw [if_neg named]
          exact ⟨_, rfl, twin.discard coherentLeft coherentRight oldest⟩
    next => cases made
  next roomy =>
    rw [if_neg roomy]
    obtain rfl := Option.some.inj made
    exact ⟨right, rfl, twin⟩

/-- The subject of each key behind the assignment of one. -/
theorem find_assignSubject (indexed : Indexed limits cache) (key : JsString)
    (subject : Option JsString) (existed : Bool) (name : JsString) :
    (assignSubject cache key subject existed).keySubject.find name =
      (subject.filter fun _ => name = key).or (cache.keySubject.find name) := by
  unfold assignSubject
  cases subject with
  | some owner =>
      simp only [attach_keySubject indexed]
      by_cases same : name = key
      · simp [same, Option.filter]
      · rw [OrderedMap.find_set_other _ same, OrderedMap.find_erase_other _ same]
        simp [same]
  | none =>
      simp only [Option.filter_none, Option.none_or]
      split
      next =>
        split
        next previous attributed =>
          split
          next => rfl
          next => rw [linkKey_of_attributed indexed attributed]
        next => rfl
      next => rfl

/-- Twins place an entry alike. -/
theorem Twin.placed {room other : CacheState} (twin : Twin left right) (rooms : Twin room other)
    (coherentRoom : Coherent limits room) (coherentOther : Coherent limits other)
    (key : JsString) (value : List UInt8) (options : PutOptions) (storedAt : Int) :
    Twin (CacheCoherence.placed limits left room key value options storedAt)
      (CacheCoherence.placed limits right other key value options storedAt) where
  store := by
    unfold CacheCoherence.placed
    simp only [assignSubject_store, twin.store, rooms.store]
  subject name := by
    unfold CacheCoherence.placed
    simp only
    rw [find_assignSubject (coherentRoom.toIndexed.of_store _),
      find_assignSubject (coherentOther.toIndexed.of_store _)]
    simp only [rooms.subject]

/-- What a put does when the sweep inside it has left twins. -/
theorem put_of_twin {sweptAt : Int} (coherentLeft : Coherent limits left)
    (coherentRight : Coherent limits right)
    (twin : Twin (sweep left sweptAt) (sweep right sweptAt)) (key : JsString) (value : List UInt8)
    (options : PutOptions) (storedAt : Int)
    (accepted : (put limits left key value options sweptAt storedAt).1 = true) :
    (put limits right key value options sweptAt storedAt).1 = true ∧
      Twin (put limits left key value options sweptAt storedAt).2
        (put limits right key value options sweptAt storedAt).2 := by
  have sweptLeft := coherentLeft.sweep sweptAt
  have sweptRight := coherentRight.sweep sweptAt
  rcases put_cases limits left key value options sweptAt storedAt with
    refused | ⟨room, admissible, made, stored⟩
  · rw [refused] at accepted
    cases accepted
  · have admissibleToo := twin.admissible sweptLeft sweptRight admissible
    obtain ⟨other, madeToo, rooms⟩ := twin.makeRoom sweptLeft sweptRight made
    rw [twin.store] at madeToo
    have storedToo := put_of_admissible admissibleToo storedAt
    rw [madeToo] at storedToo
    rw [stored, storedToo]
    exact ⟨rfl, twin.placed rooms (makeRoom_spec sweptLeft made).coherent
      (makeRoom_spec sweptRight madeToo).coherent key value options storedAt⟩

/-- A harmless put has the same success on aligned caches and leaves them aligned. -/
theorem Aligned.put (aligned : Aligned limits left right) {value : List UInt8}
    {options : PutOptions} {sweptAt storedAt : Int}
    (harmless : Harmless (left, right) (.both (.put key value options sweptAt storedAt))) :
    (Cache.put limits left key value options sweptAt storedAt).1 =
        (Cache.put limits right key value options sweptAt storedAt).1 ∧
      Aligned limits (Cache.put limits left key value options sweptAt storedAt).2
        (Cache.put limits right key value options sweptAt storedAt).2 := by
  have twin : Twin (sweep left sweptAt) (sweep right sweptAt) := aligned.sweep_twin harmless
  have coherentLeft := aligned.coherentLeft.put key value options sweptAt storedAt
  have coherentRight := aligned.coherentRight.put key value options sweptAt storedAt
  by_cases accepted : (Cache.put limits left key value options sweptAt storedAt).1 = true
  · obtain ⟨acceptedToo, twins⟩ := put_of_twin aligned.coherentLeft aligned.coherentRight twin key
      value options storedAt accepted
    exact ⟨accepted.trans acceptedToo.symm, twins.aligned coherentLeft coherentRight⟩
  · have refused : (Cache.put limits left key value options sweptAt storedAt).1 = false := by
      simpa using accepted
    have refusedToo : (Cache.put limits right key value options sweptAt storedAt).1 = false := by
      by_contra other
      have acceptedToo : (Cache.put limits right key value options sweptAt storedAt).1 = true := by
        simpa using other
      exact accepted (put_of_twin aligned.coherentRight aligned.coherentLeft twin.symm key value
        options storedAt acceptedToo).1
    refine ⟨refused.trans refusedToo.symm, ?_⟩
    rw [put_refused refused, put_refused refusedToo]
    exact twin.aligned (aligned.coherentLeft.sweep sweptAt) (aligned.coherentRight.sweep sweptAt)

/-! ### Runs -/

/-- An operation of both runs gets the same answer. -/
theorem Aligned.answer_eq (aligned : Aligned limits left right) {operation : Operation}
    (harmless : Harmless (left, right) (.both operation)) :
    answer limits left operation = answer limits right operation := by
  cases operation with
  | put key value options sweptAt storedAt =>
      have success := (aligned.put harmless).1
      simp only [answer, success]
  | fetch key options now =>
      have hit := (aligned.fetch harmless).1
      simp only [answer, hit]
  | sweep now => rfl
  | forget subject => rfl
  | drop key => rfl

/-- An operation of both runs leaves the caches aligned. -/
theorem Aligned.step_both (aligned : Aligned limits left right) {operation : Operation}
    (harmless : Harmless (left, right) (.both operation)) :
    Aligned limits (Cache.step limits left operation) (Cache.step limits right operation) := by
  cases operation with
  | put key value options sweptAt storedAt => exact (aligned.put harmless).2
  | fetch key options now => exact (aligned.fetch harmless).2
  | sweep now =>
      exact aligned.removeBoth (removal_sweep aligned.coherentLeft now)
        (removal_sweep aligned.coherentRight now)
  | forget subject =>
      exact aligned.removeBoth (removal_forgetSubject aligned.coherentLeft subject)
        (removal_forgetSubject aligned.coherentRight subject)
  | drop key =>
      obtain ⟨_, removal⟩ := removal_dropKey aligned.coherentLeft key
      obtain ⟨_, other⟩ := removal_dropKey aligned.coherentRight key
      exact aligned.removeBoth removal other

theorem isSweep_eq_true {operation : Operation} (silent : isSweep operation = true) :
    ∃ now, operation = .sweep now := by
  cases operation with
  | sweep now => exact ⟨now, rfl⟩
  | put key value options sweptAt storedAt => cases silent
  | fetch key options now => cases silent
  | forget subject => cases silent
  | drop key => cases silent

/-- A harmless step of the two runs leaves the caches aligned. -/
theorem aligned_step {pair next : CacheState × CacheState} {joint : Joint Operation}
    (quiet : joint.Quiet isSweep) (aligned : Aligned limits pair.1 pair.2)
    (harmless : Harmless pair joint)
    (stepped : pairStep (Cache.step limits) pair joint = some next) :
    Aligned limits next.1 next.2 := by
  cases joint with
  | both operation =>
      obtain rfl := Option.some.inj stepped
      exact aligned.step_both harmless
  | first operation =>
      obtain rfl := Option.some.inj stepped
      obtain ⟨now, rfl⟩ := isSweep_eq_true quiet
      exact aligned.remove (removal_sweep aligned.coherentLeft now)
  | second operation =>
      obtain rfl := Option.some.inj stepped
      obtain ⟨now, rfl⟩ := isSweep_eq_true quiet
      exact (aligned.symm.remove (removal_sweep aligned.coherentRight now)).symm

/-- Two runs with the same calls, whatever their sweeps, get the same answers when no
call of theirs meets an entry that one of them has swept too early. -/
theorem sweeps_unobserved {first second : List Operation} (same : calls first = calls second)
    (harmless : Meets (pairStep (Cache.step limits)) Harmless (.empty, .empty)
      (align isSweep first second)) :
    answers limits first = answers limits second := by
  have hidden (state : CacheState) (operation : Operation) (silent : isSweep operation = true) :
      answer limits state operation = none := by
    obtain ⟨now, rfl⟩ := isSweep_eq_true silent
    rfl
  have alike {pair : CacheState × CacheState} {operation : Operation}
      (aligned : Aligned limits pair.1 pair.2) (harmless : Harmless pair (.both operation)) :
      answer limits pair.1 operation = answer limits pair.2 operation := aligned.answer_eq harmless
  exact observations_eq (fun pair => Aligned limits pair.1 pair.2) hidden aligned_step alike
    (Aligned.refl (coherent_empty limits)) same harmless

def defaultLimits : Limits := readLimits fun _ => none

/-- A put at time 0, a sweep, and a fetch. -/
def sweptFetch (sweptAt fetchedAt : Int) : List Operation :=
  [.put (js "a") [1] {} 0 0, .sweep sweptAt, .fetch (js "a") {} fetchedAt]

/-- One millisecond after its expiry, an entry is missed with and without a sweep. -/
theorem late_sweep_unobserved :
    answers defaultLimits (sweptFetch 300000 300001) =
      answers defaultLimits (calls (sweptFetch 300000 300001)) :=
  sweeps_unobserved rfl (by decide +kernel)

/-- In the millisecond of its expiry, an entry is still served unless a sweep came first. -/
theorem sweep_in_last_millisecond :
    calls (sweptFetch 300000 300000) = calls (calls (sweptFetch 300000 300000)) ∧
      answers defaultLimits (sweptFetch 300000 300000) ≠
        answers defaultLimits (calls (sweptFetch 300000 300000)) := by
  refine ⟨rfl, ?_⟩
  decide +kernel

end DarkmeshGateway.Gateway.SweepTransparency
