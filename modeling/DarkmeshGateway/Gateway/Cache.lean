import DarkmeshGateway.Foundation.Grouping
import DarkmeshGateway.Gateway.Environment

/-!
Contract: the in-memory response cache of the gateway.

Owns the three maps of the cache, its five operations, its limits, the
coherence of the maps in every run, what a refused put leaves behind, and what
forgetting a subject removes.

Does not own the routes that call the operations, nor the metrics they count.
-/

namespace DarkmeshGateway.Gateway.Cache

open Foundation
open Foundation.Js
open Foundation.Grouping (KeySet)
open Environment (Env readHandlerEnvString parseEnvInteger)

structure CacheIntegrityMeta where
  verified : Bool
  root : Option JsString := none
  hash : Option JsString := none
  verifiedAt : Option Int := none
deriving DecidableEq

structure CacheEntry where
  value : List UInt8
  expiresAt : Int
  integrity : Option CacheIntegrityMeta
deriving DecidableEq

structure PutOptions where
  subject : Option JsString := none
  integrity : Option CacheIntegrityMeta := none

structure FetchOptions where
  requireVerified : Bool := false

inductive AdmissionMode where
  | reject
  | evictLru
deriving DecidableEq

inductive CacheFetchResult where
  | hit (value : List UInt8) (integrity : Option CacheIntegrityMeta)
  | miss
  | expired
  | unverified
deriving DecidableEq

/-! ### Limits -/

structure Limits where
  ttlMs : Nat
  maxEntryBytes : Nat
  maxEntries : Nat
  maxKeysPerSubject : Nat
  admissionMode : AdmissionMode
  maxKeysPerSubject_pos : 0 < maxKeysPerSubject

/-- A positive integer of the environment under one name. -/
def positiveEnvInt (env : Env) (name : String) : Option Nat :=
  match (readHandlerEnvString env name).bind parseEnvInteger with
  | some value => if 0 < value then some value.toNat else none
  | none => none

/-- The first of the names that holds a positive integer, else the fallback. -/
def readPositiveEnvInt (env : Env) (names : List String) (fallback : Nat) : Nat :=
  (names.findSome? (positiveEnvInt env)).getD fallback

theorem readPositiveEnvInt_pos (env : Env) (names : List String) {fallback : Nat}
    (positive : 0 < fallback) : 0 < readPositiveEnvInt env names fallback := by
  unfold readPositiveEnvInt
  cases found : names.findSome? (positiveEnvInt env) with
  | none => exact positive
  | some value =>
      obtain ⟨name, -, read⟩ := List.exists_of_findSome?_eq_some found
      unfold positiveEnvInt at read
      split at read
      next number parsed =>
        split at read
        next greater =>
          have same : number.toNat = value := by simpa using read
          show 0 < value
          omega
        next => cases read
      next => cases read

def readAdmissionMode (env : Env) : AdmissionMode :=
  match readHandlerEnvString env "GATEWAY_CACHE_ADMISSION_MODE" with
  | some raw => if toLowerCase (trim raw) = js "evict_lru" then .evictLru else .reject
  | none => .reject

def readLimits (env : Env) : Limits where
  ttlMs := readPositiveEnvInt env ["GATEWAY_CACHE_TTL_MS"] 300000
  maxEntryBytes := readPositiveEnvInt env
    ["GATEWAY_CACHE_MAX_ENTRY_BYTES", "GATEWAY_CACHE_ENTRY_MAX_BYTES"] (256 * 1024)
  maxEntries := readPositiveEnvInt env
    ["GATEWAY_CACHE_MAX_ENTRIES", "GATEWAY_CACHE_MAX_COUNT", "GATEWAY_CACHE_ENTRY_LIMIT"] 256
  maxKeysPerSubject := readPositiveEnvInt env ["GATEWAY_CACHE_MAX_KEYS_PER_SUBJECT"] 64
  admissionMode := readAdmissionMode env
  maxKeysPerSubject_pos := readPositiveEnvInt_pos env _ (by decide)

/-! ### The maps -/

structure CacheState where
  store : OrderedMap JsString CacheEntry
  subjects : OrderedMap JsString (KeySet JsString)
  keySubject : OrderedMap JsString JsString

def CacheState.empty : CacheState := ⟨.empty, .empty, .empty⟩

/-- A key without a subject, or with the empty one, stays as it is. -/
def detachKeyFromSubjects (cache : CacheState) (key : JsString) : CacheState :=
  match cache.keySubject.find key with
  | none => cache
  | some subject =>
      if subject = [] then cache
      else
        { cache with
          subjects := Grouping.remove cache.subjects subject key
          keySubject := cache.keySubject.erase key }

/-- Put the key under the subject in both maps. -/
def linkKey (cache : CacheState) (key subject : JsString) : CacheState :=
  { cache with
    subjects := Grouping.insert cache.subjects subject key
    keySubject := cache.keySubject.set key subject }

def attachKeyToSubject (cache : CacheState) (key subject : JsString) : CacheState :=
  linkKey (detachKeyFromSubjects cache key) key subject

def canAdmitSubjectKey (limits : Limits) (cache : CacheState) (key subject : JsString) : Bool :=
  match cache.subjects.find subject with
  | none => true
  | some set => if (set.find key).isSome then true else set.size < limits.maxKeysPerSubject

/-- The entry moves to the end of the insertion order. -/
def touchKey (cache : CacheState) (key : JsString) : CacheState :=
  match cache.store.find key with
  | none => cache
  | some entry => { cache with store := (cache.store.erase key).set key entry }

/-- `store.delete(key)` followed by `detachKeyFromSubjects(key)`. -/
def discard (cache : CacheState) (key : JsString) : CacheState :=
  detachKeyFromSubjects { cache with store := cache.store.erase key } key

/-- `none` when nothing is evicted: also the empty key counts as no key. -/
def evictOldestKey (cache : CacheState) : Option CacheState :=
  match cache.store.keys.head? with
  | none => none
  | some oldest => if oldest = [] then none else some (discard cache oldest)

/-! ### Operations -/

def sweep (cache : CacheState) (now : Int) : CacheState :=
  cache.store.entries.foldl
    (fun swept entry => if entry.2.expiresAt ≤ now then discard swept entry.1 else swept) cache

/-- The cache with room for the key; `none` when there is none. -/
def makeRoom (limits : Limits) (cache : CacheState) (existed : Bool) : Option CacheState :=
  if !existed ∧ limits.maxEntries ≤ cache.store.size then
    match limits.admissionMode with
    | .evictLru => evictOldestKey cache
    | .reject => none
  else some cache

/-- The subject of a stored key: the one given, else the one it has. -/
def assignSubject (cache : CacheState) (key : JsString) (subject : Option JsString)
    (existed : Bool) : CacheState :=
  match subject with
  | some subject => attachKeyToSubject cache key subject
  | none =>
      if existed then
        match cache.keySubject.find key with
        | some previous => if previous = [] then cache else linkKey cache key previous
        | none => cache
      else cache

/-- The clock is read by the sweep and once more for the expiry. -/
def put (limits : Limits) (cache : CacheState) (key : JsString) (value : List UInt8)
    (options : PutOptions) (sweptAt storedAt : Int) : Bool × CacheState :=
  let swept := sweep cache sweptAt
  let subject := options.subject.filter (· ≠ [])
  if limits.maxEntryBytes < value.length then (false, swept)
  else if subject.any fun subject => !canAdmitSubjectKey limits swept key subject then
    (false, swept)
  else
    let existed := (swept.store.find key).isSome
    match makeRoom limits swept existed with
    | none => (false, swept)
    | some room =>
        let cleared := if existed then room.store.erase key else room.store
        let entry := ⟨value, storedAt + limits.ttlMs, options.integrity⟩
        (true, assignSubject { room with store := cleared.set key entry } key subject existed)

def fetchEntry (cache : CacheState) (key : JsString) (options : FetchOptions) (now : Int) :
    CacheFetchResult × CacheState :=
  match cache.store.find key with
  | none => (.miss, cache)
  | some entry =>
      if entry.expiresAt < now then (.expired, discard cache key)
      else if options.requireVerified ∧ ¬entry.integrity.any (·.verified) then (.unverified, cache)
      else (.hit entry.value entry.integrity, touchKey cache key)

/-- One key of a subject that is forgotten, and the count of removed entries. -/
def forgetKey (state : Nat × CacheState) (key : JsString) : Nat × CacheState :=
  if (state.2.store.find key).isSome then
    (state.1 + 1,
      { state.2 with
        store := state.2.store.erase key
        keySubject := state.2.keySubject.erase key })
  else state

def forgetSubject (cache : CacheState) (subject : JsString) : Nat × CacheState :=
  match cache.subjects.find subject with
  | none => (0, cache)
  | some set =>
      let left := set.keys.foldl forgetKey (0, cache)
      (left.1, { left.2 with subjects := left.2.subjects.erase subject })

def dropKey (cache : CacheState) (key : JsString) : Bool × CacheState :=
  if (cache.store.find key).isSome then (true, discard cache key) else (false, cache)

inductive Operation where
  | put (key : JsString) (value : List UInt8) (options : PutOptions) (sweptAt storedAt : Int)
  | fetch (key : JsString) (options : FetchOptions) (now : Int)
  | sweep (now : Int)
  | forget (subject : JsString)
  | drop (key : JsString)

def step (limits : Limits) (cache : CacheState) : Operation → CacheState
  | .put key value options sweptAt storedAt =>
      (put limits cache key value options sweptAt storedAt).2
  | .fetch key options now => (fetchEntry cache key options now).2
  | .sweep now => sweep cache now
  | .forget subject => (forgetSubject cache subject).2
  | .drop key => (dropKey cache key).2

/-- The cache after the operations, from its start. -/
def run (limits : Limits) (operations : List Operation) : CacheState :=
  operations.foldl (step limits) .empty

end DarkmeshGateway.Gateway.Cache
