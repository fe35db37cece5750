import DarkmeshGateway.Gateway.Router

/-!
Contract: what a gateway serves after a subject was forgotten.

Owns the uploads a run has accepted, with the subjects that the cache keeps
them under, that every stored entry is the newest upload for its key and stands
under the subject of that upload, and that no upload under a forgotten subject
is served again.

Does not own who may forget, nor what becomes of the forwarded forget.
-/

namespace DarkmeshGateway.Gateway.ForgetFinality

open Foundation
open Foundation.Js
open Foundation.Machine
open Gateway.Cache
open Gateway.CacheCoherence
open Gateway.Router

/-! ### Attributions -/

section Operations

variable {limits : Limits} {cache : CacheState} {key name : JsString} {entry : CacheEntry}

/-- Every entry behind the operation was there before, under the same subject. -/
def KeepsAttribution (before after : CacheState) : Prop :=
  ∀ name entry, after.store.find name = some entry →
    before.store.find name = some entry ∧ after.keySubject.find name = before.keySubject.find name

theorem KeepsAttribution.refl (cache : CacheState) : KeepsAttribution cache cache :=
  fun _ _ found => ⟨found, rfl⟩

theorem KeepsAttribution.trans {first second third : CacheState}
    (earlier : KeepsAttribution first second) (later : KeepsAttribution second third) :
    KeepsAttribution first third := by
  intro name entry found
  obtain ⟨middle, kept⟩ := later name entry found
  obtain ⟨before, keptBefore⟩ := earlier name entry middle
  exact ⟨before, kept.trans keptBefore⟩

theorem discard_keeps (indexed : Indexed limits cache) (key : JsString) :
    KeepsAttribution cache (discard cache key) := by
  intro name entry found
  have different : name ≠ key := by
    intro same
    rw [same, discard_store, OrderedMap.find_erase_self] at found
    cases found
  refine ⟨find_of_discard found, ?_⟩
  rw [discard_keySubject indexed, OrderedMap.find_erase_other _ different]

theorem sweep_keeps (coherent : Coherent limits cache) (now : Int) :
    KeepsAttribution cache (sweep cache now) := by
  intro name entry found
  refine ⟨find_of_sweep found, ?_⟩
  rw [sweep_keySubject coherent, OrderedMap.find_filter]
  cases cache.keySubject.find name with
  | none => rfl
  | some owner => simp [found]

theorem touchKey_keeps (cache : CacheState) (key : JsString) :
    KeepsAttribution cache (touchKey cache key) := by
  intro name entry found
  refine ⟨find_of_touchKey found, ?_⟩
  unfold touchKey
  split <;> rfl

theorem fetchEntry_keeps (coherent : Coherent limits cache) (key : JsString)
    (options : FetchOptions) (now : Int) :
    KeepsAttribution cache (fetchEntry cache key options now).2 := by
  unfold fetchEntry
  split
  next => exact .refl cache
  next =>
    split
    next => exact discard_keeps coherent.toIndexed key
    next =>
      split
      next => exact .refl cache
      next => exact touchKey_keeps cache key

theorem dropKey_keeps (coherent : Coherent limits cache) (key : JsString) :
    KeepsAttribution cache (dropKey cache key).2 := by
  unfold dropKey
  split
  next => exact discard_keeps coherent.toIndexed key
  next => exact .refl cache

/-- What is left after a subject is forgotten was under another one. -/
theorem forgetSubject_keeps (coherent : Coherent limits cache) (subject : JsString) :
    KeepsAttribution cache (forgetSubject cache subject).2 ∧
      ∀ name entry, (forgetSubject cache subject).2.store.find name = some entry →
        cache.keySubject.find name ≠ some subject := by
  have forgotten := forgetSubject_forgotten coherent subject
  have left (name : JsString) (entry : CacheEntry)
      (found : (forgetSubject cache subject).2.store.find name = some entry) :
      cache.keySubject.find name ≠ some subject := by
    intro attributed
    have missed := forgotten.unfetchable name attributed {} 0
    unfold fetchEntry at missed
    rw [found] at missed
    simp only at missed
    split at missed
    next => cases missed
    next =>
      split at missed
      next => cases missed
      next => cases missed
  refine ⟨?_, left⟩
  intro name entry found
  obtain ⟨store, keySubject⟩ := forgotten.others name (left name entry found)
  exact ⟨by rw [← store, found], keySubject⟩

theorem makeRoom_keeps (coherent : Coherent limits cache) {existed : Bool} {room : CacheState}
    (made : makeRoom limits cache existed = some room) : KeepsAttribution cache room := by
  unfold makeRoom at made
  split at made
  next =>
    split at made
    next =>
      obtain ⟨oldest, -, rfl⟩ := evictOldestKey_eq_some made
      exact discard_keeps coherent.toIndexed oldest
    next => cases made
  next =>
    obtain rfl := Option.some.inj made
    exact .refl cache

/-- A stored entry is found under its key, and under its subject when it has one. -/
theorem assignSubject_key (indexed : Indexed limits cache) (key : JsString)
    {subject : JsString} (existed : Bool) :
    (assignSubject cache key (some subject) existed).keySubject.find key = some subject := by
  unfold assignSubject
  rw [attach_keySubject indexed, OrderedMap.find_set_self]

theorem assignSubject_other (indexed : Indexed limits cache) {key name : JsString}
    (different : name ≠ key) (subject : Option JsString) (existed : Bool) :
    (assignSubject cache key subject existed).keySubject.find name =
      cache.keySubject.find name := by
  unfold assignSubject
  cases subject with
  | some subject =>
      dsimp only
      rw [attach_keySubject indexed, OrderedMap.find_set_other _ different,
        OrderedMap.find_erase_other _ different]
  | none =>
      dsimp only
      split
      next =>
        split
        next =>
          split
          next => rfl
          next => exact OrderedMap.find_set_other _ different _
        next => rfl
      next => rfl

/-- What an accepted put leaves: its entry under its subject, and other entries
as they were. -/
structure PutLeaves (before after : CacheState) (key : JsString) (value : List UInt8)
    (subject : Option JsString) : Prop where
  stored : ∃ entry, after.store.find key = some entry ∧ entry.value = value
  attributed : ∀ owner, subject = some owner → after.keySubject.find key = some owner
  others : ∀ name entry, name ≠ key → after.store.find name = some entry →
    before.store.find name = some entry ∧ after.keySubject.find name = before.keySubject.find name

theorem put_leaves (coherent : Coherent limits cache) (key : JsString) (value : List UInt8)
    (options : PutOptions) (sweptAt storedAt : Int) :
    let outcome := put limits cache key value options sweptAt storedAt
    (outcome.1 = false → KeepsAttribution cache outcome.2) ∧
      (outcome.1 = true → PutLeaves cache outcome.2 key value (namedSubject options)) := by
  intro outcome
  have swept := coherent.sweep sweptAt
  have keeps := sweep_keeps coherent sweptAt
  rcases put_cases limits cache key value options sweptAt storedAt with
    refused | ⟨room, -, made, accepted⟩
  · have same : outcome = (false, sweep cache sweptAt) := refused
    rw [same]
    exact ⟨fun _ => keeps, by simp⟩
  · have same : outcome = (true, placed limits (sweep cache sweptAt) room key value options
        storedAt) := accepted
    rw [same]
    refine ⟨by simp, fun _ => ?_⟩
    have roomFor := makeRoom_spec swept made
    have roomKeeps := keeps.trans (makeRoom_keeps swept made)
    have indexed : ∀ store, Indexed limits { room with store := store } :=
      roomFor.coherent.toIndexed.of_store
    constructor
    · refine ⟨⟨value, storedAt + limits.ttlMs, options.integrity⟩, ?_, rfl⟩
      simp only [placed, assignSubject_store, OrderedMap.find_set_self]
    · intro owner named
      simp only [placed, named]
      exact assignSubject_key (indexed _) key _
    · intro name entry different found
      simp only [placed, assignSubject_store, OrderedMap.find_set_other _ different] at found
      have inRoom : room.store.find name = some entry := by
        split at found
        next => exact OrderedMap.find_of_erase found
        next => exact found
      obtain ⟨before, attributed⟩ := roomKeeps name entry inRoom
      refine ⟨before, ?_⟩
      simp only [placed]
      rw [assignSubject_other (indexed _) different]
      exact attributed

end Operations

/-! ### Uploads -/

/-- An upload as its request names it; an empty subject is none. -/
structure Upload where
  key : JsString
  body : List UInt8
  subject : Option JsString
deriving DecidableEq

def uploadOf (request : HttpRequest) : Option Upload :=
  match routeOf request.pathname with
  | .entry key =>
      if cacheMethod request.method = .put then
        some ⟨key, request.body, (request.headers (js "x-subject")).filter (· ≠ [])⟩
      else none
  | _ => none

/-- An accepted upload, with the subject it stands under: the one that it names, or
the one that the entry before it has left to its key. -/
structure Accepted extends Upload where
  owner : Option JsString
deriving DecidableEq

def isStored (outcome : Outcome) : Bool :=
  match outcome.reply with
  | .response response => response = VerifiedCache.respond "stored" 201
  | _ => false

/-- The upload that an event has brought into the cache. -/
def acceptedUpload (event : Event) (next : System) : Option Accepted :=
  match event with
  | .serve id _ request _ _ =>
      (if (next.outcomes id).any isStored then uploadOf request else none).map fun upload =>
        { upload with owner := next.memory.cache.keySubject.find upload.key }
  | _ => none

/-- A gateway with the uploads it has accepted, the newest first. -/
structure Tracked where
  system : System
  uploads : List Accepted

def track (platform : Platform) (tracked : Tracked) (event : Event) : Option Tracked :=
  (step platform tracked.system event).map fun next =>
    ⟨next, (acceptedUpload event next).toList ++ tracked.uploads⟩

def start : Tracked := ⟨initial, []⟩

def newest (uploads : List Accepted) (key : JsString) : Option Accepted :=
  uploads.find? (·.key = key)

def Tracked.cache (tracked : Tracked) : CacheState := tracked.system.memory.cache

/-- What a served request does to the cache: it stores the upload that it makes,
or it stores nothing. -/
inductive Serves (platform : Platform) (before : CacheState) (request : HttpRequest)
    (outcome : Outcome) (after : CacheState) : Prop where
  | keeps (coherent : Coherent (Cache.readLimits platform.env) after)
      (kept : KeepsAttribution before after)
      (refused : (if isStored outcome then uploadOf request else none) = none)
  | stores (upload : Upload) (made : uploadOf request = some upload)
      (accepted : isStored outcome = true)
      (coherent : Coherent (Cache.readLimits platform.env) after)
      (left : PutLeaves before after upload.key upload.body upload.subject)

section Serving

variable {platform : Platform} {limits : Limits} {cache : CacheState}

theorem isStored_refused {response : VerifiedCache.Response} (other : response.status ≠ 201) :
    isStored ⟨.response response, []⟩ = false := by
  simp only [isStored, decide_eq_false_iff_not]
  rintro rfl
  exact other rfl

/-- An outcome that stores nothing, over a cache that keeps its attributions. -/
theorem Serves.quiet {request : HttpRequest} {outcome : Outcome} {after : CacheState}
    (coherent : Coherent (Cache.readLimits platform.env) after)
    (kept : KeepsAttribution cache after)
    (refused : isStored outcome = false ∨ uploadOf request = none) :
    Serves platform cache request outcome after := by
  refine .keeps coherent kept ?_
  rcases refused with refused | other
  · rw [refused]
    rfl
  · rw [other, ite_self]

/-- The checks of an upload refuse with an error. -/
theorem verifyUpload_status {cachePlatform : VerifiedCache.Platform}
    {context : VerifiedCache.IntegrityContext} {request : VerifiedCache.CacheRequest}
    {verifiedAt : Int} {refusal : VerifiedCache.Response}
    (checked : VerifiedCache.verifyUpload cachePlatform context request verifiedAt =
      .error refusal) : refusal.status ≠ 201 := by
  unfold VerifiedCache.verifyUpload at checked
  split at checked
  next =>
    obtain rfl := Except.error.inj checked
    decide
  next =>
    dsimp only at checked
    split at checked
    next =>
      obtain rfl := Except.error.inj checked
      decide
    next =>
      split at checked
      next code _ =>
        obtain rfl := Except.error.inj checked
        cases code <;> decide
      next => cases checked

/-- The upload behind its checks. -/
theorem storeUpload_serves (coherent : Coherent (Cache.readLimits platform.env) cache)
    {request : HttpRequest} {key : JsString} (routed : routeOf request.pathname = .entry key)
    (isPut : cacheMethod request.method = .put) (integrity : Option CacheIntegrityMeta)
    (times : VerifiedCache.Times) :
    let stored := VerifiedCache.storeUpload (cachePlatform platform) cache key
      (cacheRequest request) integrity times
    Serves platform cache request ⟨.response stored.1, []⟩ stored.2 := by
  have made : uploadOf request =
      some ⟨key, request.body, (request.headers (js "x-subject")).filter (· ≠ [])⟩ := by
    simp only [uploadOf, routed, if_pos isPut]
  let options : PutOptions :=
    { subject := (request.headers (js "x-subject")).filter (· ≠ []), integrity }
  have named : namedSubject options = (request.headers (js "x-subject")).filter (· ≠ []) := by
    simp [namedSubject, options, Option.filter_filter]
  have after := coherent.put key request.body options times.sweptAt times.now
  obtain ⟨refusal, acceptance⟩ :=
    put_leaves coherent key request.body options times.sweptAt times.now
  rw [named] at acceptance
  unfold VerifiedCache.storeUpload
  dsimp only
  split
  next accepted => exact .stores _ made rfl after (acceptance accepted)
  next refused =>
    refine .quiet after (refusal (eq_false_of_ne_true refused)) (Or.inl (isStored_refused ?_))
    show 507 ≠ 201
    decide

theorem handleUpload_serves (coherent : Coherent (Cache.readLimits platform.env) cache)
    {request : HttpRequest} {key : JsString} (routed : routeOf request.pathname = .entry key)
    (isPut : cacheMethod request.method = .put) (context : VerifiedCache.IntegrityContext)
    (times : VerifiedCache.Times) :
    let handled := VerifiedCache.handleUpload (cachePlatform platform) context cache key
      (cacheRequest request) times
    Serves platform cache request ⟨.response handled.1, []⟩ handled.2 := by
  unfold VerifiedCache.handleUpload
  dsimp only
  split
  next =>
    refine .quiet coherent (.refl cache) (Or.inl (isStored_refused ?_))
    show VerifiedCache.policyPausedResponse.status ≠ 201
    decide
  next =>
    split
    next =>
      split
      next refusal checked =>
        have other : refusal.status ≠ 201 := verifyUpload_status checked
        exact .quiet coherent (.refl cache) (Or.inl (isStored_refused other))
      next integrity checked =>
        exact storeUpload_serves coherent routed isPut (some integrity) times
    next => exact storeUpload_serves coherent routed isPut none times

theorem handleCache_serves (coherent : Coherent (Cache.readLimits platform.env) cache)
    {request : HttpRequest} {key : JsString} (routed : routeOf request.pathname = .entry key)
    (context : VerifiedCache.IntegrityContext) (times : VerifiedCache.Times) :
    let handled := VerifiedCache.handleCache (cachePlatform platform) context cache key
      (cacheRequest request) times
    Serves platform cache request ⟨.response handled.1, []⟩ handled.2 := by
  have other (isNot : cacheMethod request.method ≠ .put) : uploadOf request = none := by
    simp only [uploadOf, routed, if_neg isNot]
  unfold VerifiedCache.handleCache
  cases method : (cacheRequest request).method with
  | put => exact handleUpload_serves coherent routed method context times
  | get =>
      have isNot : cacheMethod request.method ≠ .put := by
        rw [show cacheMethod request.method = .get from method]
        simp
      exact .quiet (coherent.fetchEntry ..) (fetchEntry_keeps coherent key _ _) (Or.inr (other isNot))
  | post =>
      have isNot : cacheMethod request.method ≠ .put := by
        rw [show cacheMethod request.method = .post from method]
        simp
      exact .quiet coherent (.refl cache) (Or.inr (other isNot))
  | other =>
      have isNot : cacheMethod request.method ≠ .put := by
        rw [show cacheMethod request.method = .other from method]
        simp
      exact .quiet coherent (.refl cache) (Or.inr (other isNot))

/-- A forget that names a subject and a key. -/
theorem forget_keeps (coherent : Coherent limits cache) (subject key : Option JsString) :
    Coherent limits (VerifiedCache.forget cache subject key).2 ∧
      KeepsAttribution cache (VerifiedCache.forget cache subject key).2 := by
  have forgotten : Coherent limits (VerifiedCache.forget cache subject none).2 ∧
      KeepsAttribution cache (VerifiedCache.forget cache subject none).2 := by
    cases subject with
    | none => exact ⟨coherent, .refl cache⟩
    | some subject =>
        exact ⟨coherent.forgetSubject subject, (forgetSubject_keeps coherent subject).1⟩
  cases key with
  | none => exact forgotten
  | some key =>
      exact ⟨forgotten.1.dropKey key, forgotten.2.trans (dropKey_keeps forgotten.1 key)⟩

/-- An answer that forgets nothing. -/
def TurnedAway (cache : CacheState) (handled : VerifiedCache.Answer × CacheState) : Prop :=
  handled.2 = cache ∧ ∀ response, handled.1 = .response response → response.status ≠ 200

theorem turnedAway_text (cache : CacheState) (content : String) {status : Nat}
    (failure : status ≠ 200) :
    TurnedAway cache (.response (VerifiedCache.respond content status), cache) := by
  refine ⟨rfl, ?_⟩
  intro response answered
  obtain rfl := VerifiedCache.Answer.response.inj answered
  exact failure

/-- A forget is turned away, or it forgets what its body names. -/
theorem handleForget_cases (cachePlatform : VerifiedCache.Platform)
    (context : VerifiedCache.IntegrityContext) (cache : CacheState)
    (request : VerifiedCache.CacheRequest) (forwarded : Bool) :
    let body := (cachePlatform.parseJson request.body).getD (.obj [])
    let forgotten := VerifiedCache.forget cache (VerifiedCache.namedProperty body "subject")
      (VerifiedCache.namedProperty body "key")
    let handled := VerifiedCache.handleForget cachePlatform context cache request forwarded
    handled = (.response (VerifiedCache.forgetResponse forgotten.1 forwarded), forgotten.2) ∨
      TurnedAway cache handled := by
  unfold VerifiedCache.handleForget
  dsimp only
  split
  next => exact Or.inr (turnedAway_text cache _ (by decide))
  next =>
    split
    next => exact Or.inr (turnedAway_text cache _ (by decide))
    next =>
      split
      next => exact Or.inr (turnedAway_text cache _ (by decide))
      next =>
        split
        next => exact Or.inr (turnedAway_text cache _ (by decide))
        next =>
          split
          next => exact Or.inr (turnedAway_text cache _ (by decide))
          next =>
            split
            next => exact Or.inr ⟨rfl, by simp⟩
            next => exact Or.inl rfl

theorem serveEntry_serves {memory : Memory}
    (coherent : Coherent (Cache.readLimits platform.env) memory.cache) {request : HttpRequest}
    {key : JsString} (routed : routeOf request.pathname = .entry key) (context : IntegrityContext)
    (moment : Moment) :
    let effect := serveEntry platform memory context request moment key
    Serves platform memory.cache request effect.2 effect.1.cache := by
  unfold serveEntry VerifiedCache.serve
  dsimp only
  split
  next =>
    refine .quiet coherent (.refl _) (Or.inl (isStored_refused ?_))
    show 404 ≠ 201
    decide
  next => exact handleCache_serves coherent routed (cacheContext context) moment.cache

/-- A request to a route without uploads. -/
theorem uploadOf_other {request : HttpRequest}
    (other : ∀ key, routeOf request.pathname ≠ .entry key) : uploadOf request = none := by
  unfold uploadOf
  split
  next key routed => exact absurd routed (other key)
  next => rfl

theorem forgetRoute_keeps (coherent : Coherent limits cache)
    (cachePlatform : VerifiedCache.Platform) (context : VerifiedCache.IntegrityContext)
    (request : VerifiedCache.CacheRequest) (forwarded : Bool) :
    let handled := VerifiedCache.handleForget cachePlatform context cache request forwarded
    Coherent limits handled.2 ∧ KeepsAttribution cache handled.2 := by
  intro handled
  rcases handleForget_cases cachePlatform context cache request forwarded with
    forgotten | ⟨same, -⟩
  · have after : handled.2 = _ := congrArg Prod.snd forgotten
    rw [after]
    exact forget_keeps coherent _ _
  · have after : handled.2 = cache := same
    rw [after]
    exact ⟨coherent, .refl cache⟩

theorem entry_of_cache {route : Route} {key : JsString}
    (asked : route.cache = some (.entry key)) : route = .entry key := by
  cases route with
  | entry other =>
      obtain rfl := VerifiedCache.Route.entry.inj (Option.some.inj asked)
      rfl
  | _ => cases asked

/-- Apart from uploads, the cache only loses entries. -/
theorem cacheMove_keeps (coherent : Coherent limits cache) {context : IntegrityContext}
    {request : HttpRequest} (other : ∀ key, routeOf request.pathname ≠ .entry key)
    {after : CacheState} (moved : CacheMove platform context request cache after) :
    Coherent limits after ∧ KeepsAttribution cache after := by
  cases moved with
  | same => exact ⟨coherent, .refl _⟩
  | swept now => exact ⟨coherent.sweep now, sweep_keeps coherent now⟩
  | routed route times forwarded asked =>
      cases route with
      | forget => exact forgetRoute_keeps coherent _ _ _ forwarded
      | entry key => exact absurd (entry_of_cache asked) (other key)

/-- What any request does to the cache. -/
theorem serve_serves {memory : Memory}
    (coherent : Coherent (Cache.readLimits platform.env) memory.cache) (request : HttpRequest)
    (context : IntegrityContext) (moment : Moment) (outside : Outside) :
    let effect := serve platform memory context request moment outside
    Serves platform memory.cache request effect.2 effect.1.cache := by
  intro effect
  by_cases entry : ∃ key, routeOf request.pathname = .entry key
  · obtain ⟨key, routed⟩ := entry
    have same : effect = serveEntry platform memory context request moment key := by
      simp only [effect, serve, routed]
    rw [same]
    exact serveEntry_serves coherent routed context moment
  · have other : ∀ key, routeOf request.pathname ≠ .entry key := not_exists.mp entry
    obtain ⟨after, kept⟩ := cacheMove_keeps coherent other
      (serve_cache platform memory context request moment outside)
    exact .quiet after kept (Or.inr (uploadOf_other other))

end Serving

/-! ### Steps -/

/-- What a step of the gateway does to its cache and to the accepted uploads. -/
inductive Moves (platform : Platform) (before after : Tracked) : Prop where
  | keeps (coherent : Coherent (Cache.readLimits platform.env) after.cache)
      (kept : KeepsAttribution before.cache after.cache) (uploads : after.uploads = before.uploads)
  | stores (upload : Accepted) (coherent : Coherent (Cache.readLimits platform.env) after.cache)
      (left : PutLeaves before.cache after.cache upload.key upload.body upload.subject)
      (attributed : after.cache.keySubject.find upload.key = upload.owner)
      (uploads : after.uploads = upload :: before.uploads)

/-- The routes in front of the memory are no uploads. -/
theorem acceptedUpload_kept {event : Event} {next : System}
    (other : ∀ id now request moment outside, event = .serve id now request moment outside →
      ∀ key, routeOf request.pathname ≠ .entry key) : acceptedUpload event next = none := by
  cases event with
  | serve id now request moment outside =>
      simp only [acceptedUpload, uploadOf_other (other id now request moment outside rfl), ite_self,
        Option.map_none]
  | start id now => rfl
  | refreshDone id now refresh => rfl
  | notifyDone id now ok => rfl

theorem track_moves {platform : Platform} {before after : Tracked} {event : Event}
    (coherent : Coherent (Cache.readLimits platform.env) before.cache)
    (tracked : track platform before event = some after) : Moves platform before after := by
  obtain ⟨next, stepped, rfl⟩ := Option.map_eq_some_iff.mp tracked
  have quiet (same : next.memory = before.system.memory)
      (none : acceptedUpload event next = none) :
      Moves platform before ⟨next, (acceptedUpload event next).toList ++ before.uploads⟩ := by
    have cache : (⟨next, (acceptedUpload event next).toList ++ before.uploads⟩ : Tracked).cache =
        before.cache := congrArg Memory.cache same
    refine .keeps ?_ ?_ (by rw [none]; rfl)
    · rw [cache]
      exact coherent
    · rw [cache]
      exact .refl _
  cases event with
  | start id now =>
      obtain ⟨policy, -, rfl⟩ := Option.map_eq_some_iff.mp stepped
      exact quiet rfl rfl
  | refreshDone id now refresh =>
      obtain ⟨policy, -, rfl⟩ := Option.map_eq_some_iff.mp stepped
      exact quiet rfl rfl
  | notifyDone id now ok =>
      obtain ⟨policy, -, rfl⟩ := Option.map_eq_some_iff.mp stepped
      exact quiet rfl rfl
  | serve id now request moment outside =>
      rcases step_serve stepped with
        ⟨isIncident, policy, -, rfl⟩ | ⟨-, -, -, effect, answered, rfl⟩
      · refine quiet rfl (acceptedUpload_kept ?_)
        rintro _ _ _ _ _ same key routed
        cases same
        rw [isIncident] at routed
        cases routed
      · have reply : (before.system.finish id now effect).outcomes id = some effect.2 :=
          Function.update_self ..
        have accepted : acceptedUpload (.serve id now request moment outside)
            (before.system.finish id now effect) =
              (if isStored effect.2 then uploadOf request else none).map fun upload =>
                { upload with owner := effect.1.cache.keySubject.find upload.key } := by
          simp only [acceptedUpload, reply, Option.any_some]
          rfl
        cases answered with
        | health asked =>
            refine quiet rfl (acceptedUpload_kept ?_)
            rintro _ _ _ _ _ same key routed
            cases same
            rw [asked] at routed
            cases routed
        | route context resolved behind =>
            rw [accepted]
            cases serve_serves coherent request context moment outside with
            | keeps coherent kept refused =>
                rw [refused]
                exact .keeps coherent kept rfl
            | stores upload made stored coherent left =>
                rw [stored, made]
                exact .stores ⟨upload, _⟩ coherent left rfl rfl

/-! ### Runs -/

/-- Every entry is the newest upload for its key, and stands under its owner, the subject
that it names if it names one. -/
structure Owned (platform : Platform) (tracked : Tracked) : Prop where
  coherent : Coherent (Cache.readLimits platform.env) tracked.cache
  newest : ∀ key entry, tracked.cache.store.find key = some entry →
    ∃ upload, newest tracked.uploads key = some upload ∧ upload.body = entry.value ∧
      tracked.cache.keySubject.find key = upload.owner ∧
        ∀ subject, upload.subject = some subject → upload.owner = some subject

theorem newest_self (upload : Accepted) (uploads : List Accepted) :
    newest (upload :: uploads) upload.key = some upload := by
  simp [newest]

theorem newest_other {upload : Accepted} {key : JsString} (different : key ≠ upload.key)
    (uploads : List Accepted) : newest (upload :: uploads) key = newest uploads key := by
  simp [newest, Ne.symm different]

theorem owned_start (platform : Platform) : Owned platform start where
  coherent := coherent_empty _
  newest key entry found := by
    simp [start, Tracked.cache, initial, Memory.empty, CacheState.empty] at found

theorem Owned.track {platform : Platform} {before after : Tracked} {event : Event}
    (owned : Owned platform before)
    (tracked : ForgetFinality.track platform before event = some after) : Owned platform after := by
  cases track_moves owned.coherent tracked with
  | keeps coherent kept uploads =>
      refine ⟨coherent, ?_⟩
      intro key entry found
      obtain ⟨earlier, attributed⟩ := kept key entry found
      rw [uploads, attributed]
      exact owned.newest key entry earlier
  | stores upload coherent left attributed uploads =>
      refine ⟨coherent, ?_⟩
      intro key entry found
      rw [uploads]
      by_cases same : key = upload.key
      · subst same
        obtain ⟨stored, present, value⟩ := left.stored
        rw [present, Option.some.injEq] at found
        refine ⟨upload, newest_self upload _, by rw [← found, value], attributed, ?_⟩
        intro subject named
        rw [← attributed, left.attributed subject named]
      · obtain ⟨earlier, attributed⟩ := left.others key entry same found
        rw [newest_other same, attributed]
        exact owned.newest key entry earlier

/-- The upload stands under the subject, or its request names it. -/
def Accepted.Under (upload : Accepted) (subject : JsString) : Prop :=
  upload.owner = some subject ∨ upload.subject = some subject

/-- No entry stands for an upload under the subject that is among the uploads
of the base. -/
structure Rid (subject : JsString) (base : List Accepted) (tracked : Tracked) : Prop where
  grown : ∃ fresh, tracked.uploads = fresh ++ base
  absent : ∀ key entry upload, tracked.cache.store.find key = some entry →
    newest tracked.uploads key = some upload → upload.Under subject →
      ∃ fresh, tracked.uploads = fresh ++ base ∧ upload ∈ fresh

theorem Rid.track {platform : Platform} {subject : JsString} {base : List Accepted}
    {before after : Tracked} {event : Event}
    (coherent : Coherent (Cache.readLimits platform.env) before.cache)
    (rid : Rid subject base before)
    (tracked : ForgetFinality.track platform before event = some after) :
    Rid subject base after := by
  obtain ⟨fresh, grown⟩ := rid.grown
  cases track_moves coherent tracked with
  | keeps coherent kept uploads =>
      constructor
      · exact ⟨fresh, by rw [uploads, grown]⟩
      · intro key entry upload found
        rw [uploads]
        exact rid.absent key entry upload (kept key entry found).1
  | stores upload coherent left attributed uploads =>
      constructor
      · exact ⟨upload :: fresh, by rw [uploads, grown]; rfl⟩
      · intro key entry latest found isNewest under
        rw [uploads] at isNewest ⊢
        by_cases same : key = upload.key
        · subst same
          rw [newest_self, Option.some.injEq] at isNewest
          exact ⟨upload :: fresh, by rw [grown]; rfl, by simp [isNewest]⟩
        · rw [newest_other same] at isNewest
          obtain ⟨earlier, -⟩ := left.others key entry same found
          obtain ⟨since, grownSince, member⟩ := rid.absent key entry latest earlier isNewest under
          exact ⟨upload :: since, by rw [grownSince]; rfl, List.mem_cons_of_mem _ member⟩

/-- The subject that the body of a forget names. -/
def forgottenSubject (platform : Platform) (request : HttpRequest) : Option JsString :=
  VerifiedCache.namedProperty
    (((cachePlatform platform).parseJson request.body).getD (.obj [])) "subject"

/-- The step carries out a forget of the subject. -/
def Forgets (platform : Platform) (before after : Tracked) (subject : JsString) : Prop :=
  ∃ id now request moment outside response calls,
    track platform before (.serve id now request moment outside) = some after ∧
      routeOf request.pathname = .forget ∧ forgottenSubject platform request = some subject ∧
      after.system.outcomes id = some ⟨.response response, calls⟩ ∧ response.status = 200

/-- The step answers a request for the key with a body. -/
def Answers (platform : Platform) (before : Tracked) (key : JsString) (body : List UInt8) : Prop :=
  ∃ after id now request moment outside calls,
    track platform before (.serve id now request moment outside) = some after ∧
      routeOf request.pathname = .entry key ∧ request.method = js "GET" ∧
      after.system.outcomes id = some ⟨.response ⟨200, .bytes body⟩, calls⟩

/-- A forget of the subject leaves no entry that stands under it. -/
theorem forget_unattributed {limits : Limits} {cache : CacheState} {subject : JsString}
    (coherent : Coherent limits cache) (key : Option JsString) {name : JsString}
    {entry : CacheEntry}
    (found : (VerifiedCache.forget cache (some subject) key).2.store.find name = some entry) :
    cache.store.find name = some entry ∧ cache.keySubject.find name ≠ some subject := by
  have inForgotten : (forgetSubject cache subject).2.store.find name = some entry := by
    cases key with
    | none => exact found
    | some key => exact find_of_dropKey found
  obtain ⟨kept, left⟩ := forgetSubject_keeps coherent subject
  exact ⟨(kept name entry inForgotten).1, left name entry inForgotten⟩

/-- A served request ended as its route answers it. -/
theorem track_serve {platform : Platform} {before after : Tracked} {id : Nat} {now : Int}
    {request : HttpRequest} {moment : Moment} {outside : Outside} {outcome : Outcome}
    (tracked : track platform before (.serve id now request moment outside) = some after)
    (behind : routeOf request.pathname ≠ .incident ∧ routeOf request.pathname ≠ .health)
    (ended : after.system.outcomes id = some outcome) :
    ∃ context, let effect := serve platform before.system.memory context request moment outside
      outcome = effect.2 ∧ after.cache = effect.1.cache := by
  obtain ⟨next, stepped, rfl⟩ := Option.map_eq_some_iff.mp tracked
  rcases step_serve stepped with ⟨isIncident, -⟩ | ⟨-, -, -, effect, answered, rfl⟩
  · exact absurd isIncident behind.1
  · have reply : (before.system.finish id now effect).outcomes id = some effect.2 :=
      Function.update_self ..
    have same : outcome = effect.2 := (Option.some.inj (reply.symm.trans ended)).symm
    cases answered with
    | health asked => exact absurd asked behind.2
    | route context resolved behind => exact ⟨context, same, rfl⟩

theorem cacheAnswer_response {answer : VerifiedCache.Answer} {response : VerifiedCache.Response}
    (same : cacheAnswer answer = .response response) : answer = .response response := by
  cases answer with
  | response other =>
      obtain rfl := Reply.response.inj same
      rfl
  | exception => cases same

/-- A forget that is answered with 200 was carried out. -/
theorem serveForget_ok {platform : Platform} {memory : Memory} {context : IntegrityContext}
    {request : HttpRequest} {outside : Outside} {response : VerifiedCache.Response}
    (answered : (serveForget platform memory context request outside).2.reply =
      .response response) (success : response.status = 200) :
    (serveForget platform memory context request outside).1.cache =
      (VerifiedCache.forget memory.cache (forgottenSubject platform request)
        (VerifiedCache.namedProperty
          (((cachePlatform platform).parseJson request.body).getD (.obj [])) "key")).2 := by
  unfold serveForget at answered ⊢
  dsimp only at answered ⊢
  rcases handleForget_cases (cachePlatform platform) (cacheContext context) memory.cache
      (cacheRequest request) _ with forgotten | ⟨-, refused⟩
  · exact congrArg Prod.snd forgotten
  · exact absurd success (refused response (cacheAnswer_response answered))

theorem Owned.forgets {platform : Platform} {before after : Tracked} {subject : JsString}
    (owned : Owned platform before) (forgets : Forgets platform before after subject) :
    Rid subject after.uploads after := by
  obtain ⟨id, now, request, moment, outside, response, calls, tracked, routed, names, ended,
    success⟩ := forgets
  obtain ⟨context, same, cache⟩ := track_serve tracked (by simp [routed]) ended
  have uploads : after.uploads = before.uploads := by
    obtain ⟨next, -, rfl⟩ := Option.map_eq_some_iff.mp tracked
    have none : uploadOf request = none := uploadOf_other (by simp [routed])
    simp [acceptedUpload, none]
  refine ⟨⟨[], rfl⟩, ?_⟩
  intro key entry upload found isNewest under
  have isForget : serve platform before.system.memory context request moment outside =
      serveForget platform before.system.memory context request outside := by
    simp only [serve, routed]
  rw [isForget] at same cache
  rw [cache, serveForget_ok (congrArg Outcome.reply same).symm success, names] at found
  obtain ⟨earlier, unattributed⟩ := forget_unattributed owned.coherent _ found
  rw [uploads] at isNewest
  obtain ⟨newer, known, -, attributed, named⟩ := owned.newest key entry earlier
  obtain rfl := Option.some.inj (known.symm.trans isNewest)
  have owner : newer.owner = some subject := under.elim (fun stands => stands) (named subject)
  exact absurd (attributed.trans owner) unattributed

/-- Once a forget of a subject was carried out, every body that is served is the
newest upload for its key, and it was uploaded after the forget if it stands
under that subject or names it. -/
theorem forgotten_upload_not_served {platform : Platform} {before since : List Event}
    {tracked forgotten later : Tracked} {subject key : JsString} {body : List UInt8}
    (reached : run (track platform) start before = some tracked)
    (forgets : Forgets platform tracked forgotten subject)
    (continued : run (track platform) forgotten since = some later)
    (served : Answers platform later key body) :
    ∃ upload, newest later.uploads key = some upload ∧ upload.body = body ∧
      (upload.Under subject →
        ∃ fresh, later.uploads = fresh ++ forgotten.uploads ∧ upload ∈ fresh) := by
  have owned : Owned platform tracked :=
    run_invariant_always (Owned platform) Owned.track (owned_start platform) reached
  have ownedAfter : Owned platform forgotten := by
    obtain ⟨_, _, _, _, _, _, _, stepped, -⟩ := forgets
    exact owned.track stepped
  have kept : Owned platform later ∧ Rid subject forgotten.uploads later := by
    apply run_invariant_always
      (fun state => Owned platform state ∧ Rid subject forgotten.uploads state) _
      ⟨ownedAfter, owned.forgets forgets⟩ continued
    rintro state next event ⟨owns, rid⟩ stepped
    exact ⟨owns.track stepped, rid.track owns.coherent stepped⟩
  obtain ⟨after, id, now, request, moment, outside, calls, stepped, routed, isGet, ended⟩ := served
  obtain ⟨context, same, -⟩ := track_serve stepped (by simp [routed]) ended
  have isEntry : serve platform later.system.memory context request moment outside =
      serveEntry platform later.system.memory context request moment key := by
    simp only [serve, routed]
  rw [isEntry] at same
  have method : (cacheRequest request).method = .get := by
    simp only [cacheRequest, isGet]
    decide
  obtain ⟨entry, found, value⟩ := VerifiedCache.served_body method
    (cacheAnswer_response (congrArg Outcome.reply same).symm)
  obtain ⟨upload, known, sameBody, -⟩ := kept.1.newest key entry found
  exact ⟨upload, known, sameBody.trans value, kept.2.absent key entry upload found known⟩

/-- A gateway that reads the one body of the forget below. -/
def forgettingGateway : Platform :=
  quietPlatform (fun _ => none) fun text =>
    if text = js "alice" then some (.obj [(js "subject", .str (js "alice"))]) else none

def aliceUpload (body : List UInt8) : HttpRequest where
  method := js "PUT"
  pathname := js "/cache/profile"
  host := js "gateway"
  searchParams := []
  headers name := if name = js "x-subject" then some (js "alice") else none
  body

/-- An upload for the same key that names no subject. -/
def refreshProfile : HttpRequest := { aliceUpload [3] with headers := fun _ => none }

def forgetAlice : HttpRequest :=
  ⟨js "POST", js "/cache/forget", js "gateway", [], fun _ => none, (js "alice").map (·.toUInt8)⟩

def fetchProfile : HttpRequest :=
  ⟨js "GET", js "/cache/profile", js "gateway", [], fun _ => none, []⟩

/-- An upload under the subject, and one that stands under it without its name. -/
def beforeForget : List Event :=
  [.start 0 1000, .refreshDone 0 1001 (.failed none), quietServe 0 1002 (aliceUpload [1]),
    .start 1 1002, quietServe 1 1002 refreshProfile, .start 2 1003]

/-- A new upload under the subject, behind its forget. -/
def afterForget : List Event :=
  [.start 3 1005, quietServe 3 1006 (aliceUpload [2]), .start 4 1007]

set_option maxRecDepth 20000 in
theorem forgotten_upload_not_served_profile :
    ∃ tracked forgotten later, run (track forgettingGateway) start beforeForget = some tracked ∧
      track forgettingGateway tracked (quietServe 2 1004 forgetAlice) = some forgotten ∧
      run (track forgettingGateway) forgotten afterForget = some later ∧
      newest tracked.uploads (js "profile") =
        some ⟨⟨js "profile", [3], none⟩, some (js "alice")⟩ ∧
      ∃ upload, newest later.uploads (js "profile") = some upload ∧ upload.body = [2] ∧
        (upload.Under (js "alice") →
          ∃ fresh, later.uploads = fresh ++ forgotten.uploads ∧ upload ∈ fresh) := by
  refine ⟨_, _, _, rfl, rfl, rfl, rfl, ?_⟩
  exact @forgotten_upload_not_served forgettingGateway beforeForget afterForget _ _ _
    (js "alice") (js "profile") [2] rfl
    ⟨2, 1004, forgetAlice, _, silence, _, _, rfl, by decide, by decide, rfl, rfl⟩ rfl
    ⟨_, 4, 1008, fetchProfile, ⟨1008, ⟨1008, 1008, 1008⟩, 1008, 1008, 1008, []⟩, silence, _, rfl,
      by decide, rfl, rfl⟩

end DarkmeshGateway.Gateway.ForgetFinality
