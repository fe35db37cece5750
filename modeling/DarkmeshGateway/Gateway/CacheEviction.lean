import DarkmeshGateway.Foundation.Recency
import DarkmeshGateway.Gateway.VerifiedCache

/-!
Contract: which entry the cache gives up for a new one in `evict_lru` mode.

Owns the history of the keys that the cache routes stored or served, the order
of the store that follows it in every run, and when a put within its limits
succeeds and evicts the key that was used longest ago.

Does not own the `reject` mode, in which a full cache refuses.
-/

namespace DarkmeshGateway.Gateway.CacheEviction

open Foundation
open Foundation.Js
open Foundation.Machine
open Foundation.Recency
open Gateway.Cache
open Gateway.CacheCoherence
open Gateway.VerifiedCache

/-! ### Histories -/

/-- A system with the keys its routes have stored or served, the latest first. -/
structure Tracked where
  system : System
  history : List JsString

/-- An upload that was stored, or a body that was served. -/
def isUse : Answer → Bool
  | .response response => response.status = 201 || response.status = 200
  | .exception => false

/-- The key that an event puts or hits. -/
def usedKey (platform : Platform) (system : System) : Event → Option JsString
  | .request request times forwarded =>
      match routeOf request.pathname with
      | some (.entry key) =>
          if isUse (serve platform system.policy system.cache request times forwarded
              (.entry key)).1 then some key
          else none
      | _ => none
  | _ => none

def trackedStep (platform : Platform) (tracked : Tracked) (event : Event) : Option Tracked :=
  (VerifiedCache.step platform tracked.system event).map fun next =>
    ⟨next, (usedKey platform tracked.system event).toList ++ tracked.history⟩

def start (policy : IntegrityContext) : Tracked := ⟨initial policy, []⟩

/-! ### Admission -/

/-- The stored key that was used longest ago. -/
def Oldest (history : List JsString) (store : OrderedMap JsString CacheEntry) (key : JsString) :
    Prop :=
  (store.find key).isSome ∧
    ∀ other, (store.find other).isSome → other ≠ key → age history other < age history key

/-- The put succeeds; a new key that finds the store full of live entries takes the
place of the one that was used longest ago, and of no other. -/
structure AdmitsLru (limits : Limits) (cache : CacheState) (history : List JsString)
    (key : JsString) (value : List UInt8) (options : PutOptions) (sweptAt storedAt : Int) :
    Prop where
  succeeds : (put limits cache key value options sweptAt storedAt).1 = true
  evicts : (sweep cache sweptAt).store.find key = none →
    limits.maxEntries ≤ (sweep cache sweptAt).store.size →
      ∃ oldest, Oldest history (sweep cache sweptAt).store oldest ∧
        ∀ name, name ≠ key →
          (put limits cache key value options sweptAt storedAt).2.store.find name =
            if name = oldest then none else (sweep cache sweptAt).store.find name

/-- The store is full of live entries, the key is new, and the empty key is the one
that was used longest ago. -/
def Stuck (limits : Limits) (cache : CacheState) (history : List JsString) (key : JsString)
    (sweptAt : Int) : Prop :=
  (sweep cache sweptAt).store.find key = none ∧
    limits.maxEntries ≤ (sweep cache sweptAt).store.size ∧
    Oldest history (sweep cache sweptAt).store []

/-! ### The order of the store -/

/-- The keys of the store stand in the order of their last use. -/
def Recent (history : List JsString) (cache : CacheState) : Prop :=
  OldestFirst history cache.store.keys

variable {limits : Limits} {cache next : CacheState} {history : List JsString} {key : JsString}

theorem keys_erase_sublist (store : OrderedMap JsString CacheEntry) (key : JsString) :
    (store.erase key).keys.Sublist store.keys :=
  List.filter_sublist.map Prod.fst

theorem keys_sweep_sublist (cache : CacheState) (now : Int) :
    (sweep cache now).store.keys.Sublist cache.store.keys := by
  rw [sweep_store]
  exact cache.store.keys_restrict_sublist List.filter_sublist

/-- The keys behind an operation: some of the keys before, in their order, and then
the key it used. -/
def Moved (cache next : CacheState) (used : Option JsString) : Prop :=
  ∃ kept : List JsString, kept.Sublist cache.store.keys ∧ (∀ key ∈ used, key ∉ kept) ∧
    next.store.keys = kept ++ used.toList

theorem Moved.of_sublist (part : next.store.keys.Sublist cache.store.keys) :
    Moved cache next none :=
  ⟨next.store.keys, part, by simp, by simp⟩

theorem Moved.recent {used : Option JsString} (moved : Moved cache next used)
    (recent : Recent history cache) : Recent (used.toList ++ history) next := by
  obtain ⟨kept, part, fresh, keys⟩ := moved
  unfold Recent at recent ⊢
  rw [keys]
  cases used with
  | none => simpa using recent.sublist part
  | some key => exact (recent.sublist part).use (fresh key rfl)

/-- A key that is stored last. -/
theorem moved_set {store : OrderedMap JsString CacheEntry}
    (part : store.keys.Sublist cache.store.keys) (absent : store.find key = none)
    {entry : CacheEntry} (stored : next.store = store.set key entry) :
    Moved cache next (some key) := by
  refine ⟨store.keys, part, ?_, ?_⟩
  · intro other same
    obtain rfl := Option.some.inj same
    rw [OrderedMap.mem_keys_iff, absent]
    simp
  · rw [stored, OrderedMap.keys_set_of_absent absent]
    rfl

/-- Making room takes at most keys away. -/
theorem makeRoom_sublist {room : CacheState} {existed : Bool}
    (made : makeRoom limits cache existed = some room) :
    room.store.keys.Sublist cache.store.keys ∧
      ∀ name entry, room.store.find name = some entry → cache.store.find name = some entry := by
  unfold makeRoom at made
  split at made
  next =>
    split at made
    next =>
      obtain ⟨oldest, -, rfl⟩ := evictOldestKey_eq_some made
      refine ⟨?_, fun name entry found => find_of_discard found⟩
      rw [discard_store]
      exact keys_erase_sublist _ _
    next => cases made
  next =>
    obtain rfl := Option.some.inj made
    exact ⟨List.Sublist.refl _, fun _ _ found => found⟩

theorem moved_put (limits : Limits) (cache : CacheState) (key : JsString) (value : List UInt8)
    (options : PutOptions) (sweptAt storedAt : Int) :
    Moved cache (put limits cache key value options sweptAt storedAt).2
      (if (put limits cache key value options sweptAt storedAt).1 then some key else none) := by
  rcases put_cases limits cache key value options sweptAt storedAt with
    refused | ⟨room, -, made, accepted⟩
  · rw [refused]
    exact Moved.of_sublist (keys_sweep_sublist cache sweptAt)
  · obtain ⟨part, earlier⟩ := makeRoom_sublist made
    have whole := part.trans (keys_sweep_sublist cache sweptAt)
    rw [accepted]
    by_cases existed : ((sweep cache sweptAt).store.find key).isSome
    · have stored : (placed limits (sweep cache sweptAt) room key value options storedAt).store =
          (room.store.erase key).set key ⟨value, storedAt + limits.ttlMs, options.integrity⟩ := by
        rw [placed, assignSubject_store, if_pos existed]
      exact moved_set ((keys_erase_sublist room.store key).trans whole)
        (OrderedMap.find_erase_self _ _) stored
    · have absent : room.store.find key = none := by
        by_contra present
        obtain ⟨entry, found⟩ := Option.ne_none_iff_exists'.mp present
        exact existed (by rw [earlier key entry found]; rfl)
      have stored : (placed limits (sweep cache sweptAt) room key value options storedAt).store =
          room.store.set key ⟨value, storedAt + limits.ttlMs, options.integrity⟩ := by
        rw [placed, assignSubject_store, if_neg existed]
      exact moved_set whole absent stored

/-- The fetch found a live entry that it may return. -/
def isHit : CacheFetchResult → Bool
  | .hit _ _ => true
  | _ => false

theorem moved_fetch (cache : CacheState) (key : JsString) (options : FetchOptions) (now : Int) :
    Moved cache (fetchEntry cache key options now).2
      (if isHit (fetchEntry cache key options now).1 then some key else none) := by
  have unchanged : Moved cache cache none := Moved.of_sublist (List.Sublist.refl _)
  unfold fetchEntry
  cases found : cache.store.find key with
  | none => exact unchanged
  | some entry =>
      simp only
      split
      next =>
        apply Moved.of_sublist
        rw [discard_store]
        exact keys_erase_sublist _ _
      next =>
        split
        next => exact unchanged
        next =>
          have stored : (touchKey cache key).store = (cache.store.erase key).set key entry := by
            rw [touchKey, found]
          exact moved_set (keys_erase_sublist cache.store key) (OrderedMap.find_erase_self _ _)
            stored

theorem keys_forgetSubject_sublist (cache : CacheState) (subject : JsString) :
    (forgetSubject cache subject).2.store.keys.Sublist cache.store.keys := by
  unfold forgetSubject
  split
  next => exact List.Sublist.refl _
  next set known =>
    have nothing : (0, cache).2.store.keys.Sublist cache.store.keys := List.Sublist.refl _
    refine List.foldlRecOn (motive := fun state =>
      state.2.store.keys.Sublist cache.store.keys) set.keys forgetKey nothing ?_
    intro state kept gone _
    unfold forgetKey
    split
    next => exact (keys_erase_sublist _ _).trans kept
    next => exact kept

theorem keys_dropKey_sublist (cache : CacheState) (key : JsString) :
    (dropKey cache key).2.store.keys.Sublist cache.store.keys := by
  unfold dropKey
  split
  next =>
    rw [discard_store]
    exact keys_erase_sublist _ _
  next => exact List.Sublist.refl _

theorem keys_forget_sublist (cache : CacheState) (subject key : Option JsString) :
    (forget cache subject key).2.store.keys.Sublist cache.store.keys := by
  unfold forget
  cases subject with
  | none =>
      cases key with
      | none => exact List.Sublist.refl _
      | some key => exact keys_dropKey_sublist cache key
  | some subject =>
      cases key with
      | none => exact keys_forgetSubject_sublist cache subject
      | some key =>
          exact (keys_dropKey_sublist _ key).trans (keys_forgetSubject_sublist cache subject)

/-! ### Requests -/

variable {platform : Platform} {context : IntegrityContext} {request : CacheRequest}

/-- An upload that is turned away is no use of its key. -/
theorem verifyUpload_refused {verifiedAt : Int} {refusal : Response}
    (refused : verifyUpload platform context request verifiedAt = .error refusal) :
    isUse (.response refusal) = false := by
  unfold verifyUpload at refused
  split at refused
  next =>
    obtain rfl := Except.error.inj refused
    rfl
  next snapshot present =>
    simp only at refused
    split at refused
    next =>
      obtain rfl := Except.error.inj refused
      rfl
    next =>
      split at refused
      next code rejected =>
        obtain rfl := Except.error.inj refused
        cases code <;> rfl
      next => cases refused

theorem moved_storeUpload (cache : CacheState) (key : JsString)
    (integrity : Option CacheIntegrityMeta) (times : Times) :
    Moved cache (storeUpload platform cache key request integrity times).2
      (if isUse (.response (storeUpload platform cache key request integrity times).1) then some key
        else none) := by
  have moved := moved_put (readLimits platform.env) cache key request.body
    { subject := request.subject.filter (· ≠ []), integrity } times.sweptAt times.now
  unfold storeUpload
  simp only
  split
  next stored =>
    rw [if_pos stored] at moved
    exact moved
  next refused =>
    rw [if_neg refused] at moved
    exact moved

theorem moved_upload (cache : CacheState) (key : JsString) (times : Times) :
    Moved cache (handleUpload platform context cache key request times).2
      (if isUse (.response (handleUpload platform context cache key request times).1) then some key
        else none) := by
  have unchanged : Moved cache cache none := Moved.of_sublist (List.Sublist.refl _)
  unfold handleUpload
  split
  next => exact unchanged
  next =>
    split
    next =>
      split
      next refusal refused =>
        rw [verifyUpload_refused refused]
        exact unchanged
      next integrity verified => exact moved_storeUpload cache key (some integrity) times
    next => exact moved_storeUpload cache key none times

theorem isUse_fetchResponse (result : CacheFetchResult) :
    isUse (.response (fetchResponse result)) = isHit result := by
  cases result <;> rfl

/-- What a request to the entry route does to the order of the store. -/
theorem moved_serve (cache : CacheState) (times : Times) (forwarded : Bool) (key : JsString) :
    Moved cache (serve platform context cache request times forwarded (.entry key)).2
      (if isUse (serve platform context cache request times forwarded (.entry key)).1 then some key
        else none) := by
  have unchanged : Moved cache cache none := Moved.of_sublist (List.Sublist.refl _)
  unfold serve
  simp only
  split
  next => exact unchanged
  next =>
    unfold handleCache
    split
    next => exact moved_upload cache key times
    next =>
      rw [isUse_fetchResponse]
      exact moved_fetch cache key _ times.now
    next => exact unchanged
    next => exact unchanged

theorem moved_handleForget (cache : CacheState) (forwarded : Bool) :
    Moved cache (handleForget platform context cache request forwarded).2 none := by
  apply Moved.of_sublist
  unfold handleForget
  simp only
  repeat' split
  all_goals first
    | exact List.Sublist.refl _
    | exact keys_forget_sublist cache _ _

/-- A step keeps the store in the order of use. -/
theorem recent_step {tracked next : Tracked} {event : Event}
    (recent : Recent tracked.history tracked.system.cache)
    (stepped : trackedStep platform tracked event = some next) :
    Recent next.history next.system.cache := by
  obtain ⟨system, advanced, rfl⟩ := Option.map_eq_some_iff.mp stepped
  cases event with
  | request request times forwarded =>
      obtain ⟨route, routed, rfl⟩ := Option.map_eq_some_iff.mp advanced
      simp only [usedKey, routed]
      cases route with
      | forget => exact (moved_handleForget tracked.system.cache forwarded).recent recent
      | entry key => exact (moved_serve tracked.system.cache times forwarded key).recent recent
  | policy policy =>
      obtain rfl := Option.some.inj advanced
      exact recent
  | sweep now =>
      obtain rfl := Option.some.inj advanced
      exact recent.sublist (keys_sweep_sublist tracked.system.cache now)

/-! ### Admission in every run -/

/-- In a store in the order of use, the oldest key is the first one. -/
theorem oldest_iff_head {store : OrderedMap JsString CacheEntry}
    (ordered : OldestFirst history store.keys) (key : JsString) :
    Oldest history store key ↔ store.keys.head? = some key := by
  have listed (other : JsString) : (store.find other).isSome ↔ other ∈ store.keys :=
    (store.mem_keys_iff other).symm
  unfold Oldest
  simp only [listed]
  cases keys : store.keys with
  | nil => simp
  | cons first rest =>
      rw [keys] at ordered
      rw [List.head?_cons, Option.some.injEq]
      constructor
      · rintro ⟨member, older⟩
        by_contra different
        have behind := older first List.mem_cons_self different
        have ahead := ordered.head member (Ne.symm different)
        omega
      · rintro rfl
        exact ⟨List.mem_cons_self, fun other member different => ordered.head member different⟩

/-- A new key in a full store needs an eviction. -/
private theorem makeRoom_crowded (lru : limits.admissionMode = .evictLru)
    (isNew : cache.store.find key = none) (full : limits.maxEntries ≤ cache.store.size) :
    makeRoom limits cache (cache.store.find key).isSome = evictOldestKey cache := by
  simp [makeRoom, isNew, full, lru]

private theorem makeRoom_roomy (roomy : ¬(cache.store.find key = none ∧
    limits.maxEntries ≤ cache.store.size)) :
    makeRoom limits cache (cache.store.find key).isSome = some cache := by
  unfold makeRoom
  rw [if_neg]
  simpa using roomy

/-- A store that holds a key evicts the one at its head, unless that is empty. -/
private theorem evictOldestKey_head {oldest : JsString}
    (first : cache.store.keys.head? = some oldest) :
    evictOldestKey cache = if oldest = [] then none else some (discard cache oldest) := by
  unfold evictOldestKey
  rw [first]

private theorem head_of_full (positive : 0 < limits.maxEntries)
    (full : limits.maxEntries ≤ cache.store.size) :
    ∃ oldest, cache.store.keys.head? = some oldest := by
  cases first : cache.store.keys.head? with
  | some oldest => exact ⟨oldest, rfl⟩
  | none =>
      have empty : cache.store.keys.length = 0 := by
        rw [List.head?_eq_none_iff.mp first]
        rfl
      rw [OrderedMap.keys, List.length_map] at empty
      have crowd : limits.maxEntries ≤ cache.store.entries.length := full
      omega

/-- A put that evicts the key at the head leaves the others. -/
private theorem find_placed_of_evicted {value : List UInt8} {options : PutOptions}
    {storedAt : Int} {oldest name : JsString} (isNew : cache.store.find key = none)
    (different : name ≠ key) :
    (placed limits cache (discard cache oldest) key value options storedAt).store.find name =
      if name = oldest then none else cache.store.find name := by
  simp only [placed, assignSubject_store, isNew, Option.isSome_none, Bool.false_eq_true, if_false]
  rw [OrderedMap.find_set_other _ different, discard_store]
  split
  next same => rw [same, OrderedMap.find_erase_self]
  next other => rw [OrderedMap.find_erase_other _ other]

/-- In a store in the order of use, a put within its limits is admitted and evicts the
oldest key unless that is the empty one. -/
theorem admitsLru_iff (lru : limits.admissionMode = .evictLru) (positive : 0 < limits.maxEntries)
    (recent : Recent history cache) {value : List UInt8} {options : PutOptions} {sweptAt : Int}
    (admissible : Admissible limits (sweep cache sweptAt) key value options) (storedAt : Int) :
    AdmitsLru limits cache history key value options sweptAt storedAt ↔
      ¬Stuck limits cache history key sweptAt := by
  have ordered : OldestFirst history (sweep cache sweptAt).store.keys :=
    recent.sublist (keys_sweep_sublist cache sweptAt)
  have outcome := put_of_admissible admissible storedAt
  by_cases crowded : (sweep cache sweptAt).store.find key = none ∧
      limits.maxEntries ≤ (sweep cache sweptAt).store.size
  · obtain ⟨isNew, full⟩ := crowded
    obtain ⟨oldest, first⟩ := head_of_full positive full
    have isOldest := (oldest_iff_head ordered oldest).mpr first
    rw [makeRoom_crowded lru isNew full, evictOldestKey_head first] at outcome
    by_cases blank : oldest = []
    · subst blank
      rw [if_pos rfl] at outcome
      refine iff_of_false ?_ (not_not.mpr ⟨isNew, full, isOldest⟩)
      intro admits
      have succeeds := admits.succeeds
      rw [outcome] at succeeds
      cases succeeds
    · rw [if_neg blank] at outcome
      refine iff_of_true ⟨by rw [outcome], ?_⟩ ?_
      · intro _ _
        refine ⟨oldest, isOldest, ?_⟩
        intro name different
        rw [outcome]
        exact find_placed_of_evicted isNew different
      · rintro ⟨-, -, emptyOldest⟩
        have isFirst := (oldest_iff_head ordered []).mp emptyOldest
        rw [first] at isFirst
        exact blank (Option.some.inj isFirst)
  · rw [makeRoom_roomy crowded] at outcome
    refine iff_of_true ⟨by rw [outcome], fun isNew full => absurd ⟨isNew, full⟩ crowded⟩ ?_
    rintro ⟨isNew, full, -⟩
    exact crowded ⟨isNew, full⟩

theorem readLimits_maxEntries_pos (env : Environment.Env) : 0 < (readLimits env).maxEntries :=
  readPositiveEnvInt_pos env _ (by decide)

theorem readLimits_maxEntryBytes_pos (env : Environment.Env) :
    0 < (readLimits env).maxEntryBytes :=
  readPositiveEnvInt_pos env _ (by decide)

/-- After every run of the cache routes in `evict_lru` mode, a put within its limits
succeeds and evicts the key that was used longest ago, unless that is the empty key. -/
theorem lru_admission_iff (lru : readAdmissionMode platform.env = .evictLru)
    {policy : IntegrityContext} {events : List Event} {reached : Tracked}
    (passed : run (trackedStep platform) (start policy) events = some reached)
    {value : List UInt8} {options : PutOptions} {sweptAt : Int}
    (admissible : Admissible (readLimits platform.env) (sweep reached.system.cache sweptAt) key
      value options) (storedAt : Int) :
    AdmitsLru (readLimits platform.env) reached.system.cache reached.history key value options
        sweptAt storedAt ↔
      ¬Stuck (readLimits platform.env) reached.system.cache reached.history key sweptAt := by
  have initially : Recent (start policy).history (start policy).system.cache :=
    OldestFirst.nil []
  have recent : Recent reached.history reached.system.cache :=
    run_invariant_always (fun tracked : Tracked => Recent tracked.history tracked.system.cache)
      recent_step initially passed
  exact admitsLru_iff lru (readLimits_maxEntries_pos platform.env) recent admissible storedAt

/-- A cache of one entry that evicts. -/
def smallPlatform : Platform where
  env := fun name =>
    if name = "GATEWAY_CACHE_ADMISSION_MODE" then some (js "evict_lru")
    else if name = "GATEWAY_CACHE_MAX_ENTRIES" then some (js "1")
    else none
  parseJson := fun _ => none
  sha256Hex := fun _ => []

/-- The system behind one upload of one byte. -/
def uploaded (pathname : String) : Tracked :=
  (trackedStep smallPlatform (start ⟨false, none⟩)
    (.request { method := .put, pathname := js pathname, body := [1] } ⟨0, 0, 0⟩ false)).getD
      (start ⟨false, none⟩)

theorem smallPlatform_admits (cache : CacheState) (key : JsString) :
    Admissible (readLimits smallPlatform.env) cache key [2] {} := by
  have fits := readLimits_maxEntryBytes_pos smallPlatform.env
  exact ⟨fits, fun _ named => by cases named⟩

/-- Behind an upload for `a`, a put of `b` takes its place. -/
theorem second_put_evicts :
    AdmitsLru (readLimits smallPlatform.env) (uploaded "/cache/a").system.cache
      (uploaded "/cache/a").history (js "b") [2] {} 1 1 := by
  have passed : run (trackedStep smallPlatform) (start ⟨false, none⟩)
      [.request { method := .put, pathname := js "/cache/a", body := [1] } ⟨0, 0, 0⟩ false] =
        some (uploaded "/cache/a") := rfl
  have absent : ((sweep (uploaded "/cache/a").system.cache 1).store.find []).isSome = false := by
    decide +kernel
  refine (lru_admission_iff (by decide +kernel) passed (smallPlatform_admits _ _) 1).mpr ?_
  intro stuck
  have present := stuck.2.2.1
  rw [absent] at present
  cases present

/-- Behind an upload for the empty key, a put of `a` is refused. -/
theorem empty_key_blocks :
    readAdmissionMode smallPlatform.env = .evictLru ∧
      run (trackedStep smallPlatform) (start ⟨false, none⟩)
        [.request { method := .put, pathname := js "/cache/", body := [1] } ⟨0, 0, 0⟩ false] =
          some (uploaded "/cache/") ∧
      Admissible (readLimits smallPlatform.env) (sweep (uploaded "/cache/").system.cache 1)
        (js "a") [2] {} ∧
      ¬AdmitsLru (readLimits smallPlatform.env) (uploaded "/cache/").system.cache
        (uploaded "/cache/").history (js "a") [2] {} 1 1 := by
  have refused : (put (readLimits smallPlatform.env) (uploaded "/cache/").system.cache (js "a") [2]
      {} 1 1).1 = false := by
    decide +kernel
  refine ⟨by decide +kernel, rfl, smallPlatform_admits _ _, ?_⟩
  intro admits
  have succeeds := admits.succeeds
  rw [refused] at succeeds
  cases succeeds

end DarkmeshGateway.Gateway.CacheEviction
