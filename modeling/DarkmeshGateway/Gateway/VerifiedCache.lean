import DarkmeshGateway.Foundation.Machine
import DarkmeshGateway.Gateway.CacheCoherence
import DarkmeshGateway.Gateway.IntegrityIncident
import DarkmeshGateway.Gateway.IntegrityVerifier

/-!
Contract: the cache routes of the gateway under a changing integrity policy.

Owns the routes below `/cache/`, their runs, and which uploads a served entry
can come from when only verified entries are served.

Does not own how the policy is fetched, nor the forwarding of a forget.
-/

namespace DarkmeshGateway.Gateway.VerifiedCache

open Foundation
open Foundation.Js
open Foundation.Machine
open Gateway.Cache
open Gateway.CacheCoherence
open Gateway.Environment
open Gateway.IntegrityIncident (tokenEquals)
open Gateway.IntegrityVerifier

/-! ### Requests and answers -/

/-- The environment, `Request.json()` of a body and the hex SHA-256 of a body. -/
structure Platform where
  env : Env
  parseJson : List UInt8 → Option Json
  sha256Hex : List UInt8 → JsString

inductive Method where
  | put
  | get
  | post
  | other
deriving DecidableEq

/-- A request; a header that is missing is `none`. -/
structure CacheRequest where
  method : Method
  pathname : JsString
  subject : Option JsString := none
  integrityRoot : Option JsString := none
  integrityHash : Option JsString := none
  authorization : Option JsString := none
  forgetToken : Option JsString := none
  body : List UInt8 := []

/-- The clock while a request is handled: when its entry is verified, when the
cache is swept, and when it is read for an expiry. -/
structure Times where
  verifiedAt : Int
  sweptAt : Int
  now : Int

inductive ResponseBody where
  | text (content : String)
  | bytes (content : List UInt8)
deriving DecidableEq

structure Response where
  status : Nat
  body : ResponseBody
deriving DecidableEq

/-- What becomes of a request; a handler can also reject with an exception. -/
inductive Answer where
  | response (response : Response)
  | exception
deriving DecidableEq

def respond (content : String) (status : Nat) : Response := ⟨status, .text content⟩

def errorResponse (code : String) (status : Nat) : Response :=
  respond ("\x7b\"error\":\"" ++ code ++ "\"\x7d") status

def policyPausedResponse : Response :=
  respond ("\x7b\"error\":\"policy_paused\",\"reason\":\"integrity_policy_paused\"," ++
    "\"paused\":true,\"retryable\":false\x7d") 503

/-! ### Policy -/

/-- The part of an integrity snapshot that the cache routes read. -/
structure IntegritySnapshot where
  activeRoot : JsString
  paused : Bool
  releaseRoot : JsString
  pendingUpgradeRoot : Option JsString
  compatibilityRoot : Option JsString

/-- The policy a request is handled under. -/
structure IntegrityContext where
  paused : Bool
  snapshot : Option IntegritySnapshot

def requireVerifiedCache (env : Env) : Bool :=
  readHandlerStrictEnabledFlag env "GATEWAY_INTEGRITY_REQUIRE_VERIFIED_CACHE"

/-- The trusted roots of a snapshot. -/
def collectTrustedRoots (snapshot : IntegritySnapshot) : List JsString :=
  ([snapshot.activeRoot, snapshot.releaseRoot] ++ snapshot.pendingUpgradeRoot.toList ++
    snapshot.compatibilityRoot.toList).filter (· ≠ []) |>.eraseDups

def integrityErrorStatus : IntegrityCheckCode → Nat
  | .policyPaused => 503
  | .missingTrustedRoot => 503
  | .integrityMismatch => 422

def integrityErrorCode : IntegrityCheckCode → String
  | .policyPaused => "policy_paused"
  | .missingTrustedRoot => "missing_trusted_root"
  | .integrityMismatch => "integrity_mismatch"

inductive InternalPlaneRoute where
  | cache
  | forget
deriving DecidableEq

def isInternalPlaneRouteEnabled (env : Env) (route : InternalPlaneRoute) : Bool :=
  if !isProductionLikeMode env then true
  else if readHandlerStrictEnabledFlag env "GATEWAY_INTERNAL_PLANE_ALLOW_MUTATIONS" then true
  else match route with
    | .cache => readHandlerStrictEnabledFlag env "GATEWAY_INTERNAL_PLANE_ALLOW_CACHE"
    | .forget => readHandlerStrictEnabledFlag env "GATEWAY_INTERNAL_PLANE_ALLOW_FORGET"

/-! ### The entry route -/

/-- A header as text. -/
def header (value : Option JsString) : JsString := value.getD []

/-- The checks of an upload when entries are verified, and what is kept of them. -/
def verifyUpload (platform : Platform) (context : IntegrityContext) (request : CacheRequest)
    (verifiedAt : Int) : Except Response CacheIntegrityMeta :=
  match context.snapshot.filter (·.activeRoot ≠ []) with
  | none => .error (errorResponse "missing_trusted_root" 503)
  | some snapshot =>
      let root := trim (header request.integrityRoot)
      let declaredHash := trim (header request.integrityHash)
      let actualHash := platform.sha256Hex request.body
      if declaredHash ≠ [] ∧ declaredHash ≠ actualHash then
        .error (errorResponse "integrity_mismatch" 422)
      else
        let verify := verifyManifestEntry { root := some root, hash := some actualHash }
          { activeRoot := some snapshot.activeRoot
            trustedRoots := collectTrustedRoots snapshot
            expectedHash := if declaredHash = [] then none else some declaredHash
            paused := snapshot.paused }
        match verify with
        | .error code => .error (errorResponse (integrityErrorCode code) (integrityErrorStatus code))
        | .ok () =>
            .ok { verified := true, root := some root, hash := some actualHash,
                  verifiedAt := some verifiedAt }

/-- The entry is put, or the budget of the cache is exceeded. -/
def storeUpload (platform : Platform) (cache : CacheState) (key : JsString)
    (request : CacheRequest) (integrity : Option CacheIntegrityMeta) (times : Times) :
    Response × CacheState :=
  let stored := put (readLimits platform.env) cache key request.body
    { subject := request.subject.filter (· ≠ []), integrity } times.sweptAt times.now
  if stored.1 then (respond "stored" 201, stored.2)
  else (errorResponse "cache_budget_exceeded" 507, stored.2)

def handleUpload (platform : Platform) (context : IntegrityContext) (cache : CacheState)
    (key : JsString) (request : CacheRequest) (times : Times) : Response × CacheState :=
  if context.paused then (policyPausedResponse, cache)
  else if requireVerifiedCache platform.env then
    match verifyUpload platform context request times.verifiedAt with
    | .error refusal => (refusal, cache)
    | .ok integrity => storeUpload platform cache key request (some integrity) times
  else storeUpload platform cache key request none times

def fetchResponse : CacheFetchResult → Response
  | .hit value _ => ⟨200, .bytes value⟩
  | .unverified => errorResponse "integrity_mismatch" 503
  | .miss => respond "miss" 404
  | .expired => respond "miss" 404

def handleCache (platform : Platform) (context : IntegrityContext) (cache : CacheState)
    (key : JsString) (request : CacheRequest) (times : Times) : Response × CacheState :=
  match request.method with
  | .put => handleUpload platform context cache key request times
  | .get =>
      let fetched := fetchEntry cache key ⟨requireVerifiedCache platform.env⟩ times.now
      (fetchResponse fetched.1, fetched.2)
  | .post => (respond "method" 405, cache)
  | .other => (respond "method" 405, cache)

/-! ### The forget route -/

def readBearerToken (authorization : JsString) : JsString :=
  match authorization.drop 6 with
  | space :: _ =>
      if toLowerCase (authorization.take 6) = js "bearer" ∧ isWhitespace space then
        trim (authorization.drop 6)
      else []
  | [] => []

/-- The request presents the forget token in one of three ways. -/
def presentsForgetToken (request : CacheRequest) (token : JsString) : Bool :=
  let authorization := header request.authorization
  tokenEquals token (readBearerToken authorization) || tokenEquals token (trim authorization) ||
    tokenEquals token (trim (header request.forgetToken))

/-- A property that names something in the cache: only a nonempty string does. -/
def namedProperty (body : Json) (name : String) : Option JsString :=
  match body with
  | .obj fields =>
      match Fields.get fields (js name) with
      | some (.str text) => if text = [] then none else some text
      | _ => none
  | _ => none

/-- The subject is forgotten, then the key is dropped. -/
def forget (cache : CacheState) (subject key : Option JsString) : Nat × CacheState :=
  let forgotten := match subject with
    | some subject => forgetSubject cache subject
    | none => (0, cache)
  match key with
  | none => forgotten
  | some key =>
      let dropped := dropKey forgotten.2 key
      (if dropped.1 then 1 else forgotten.1, dropped.2)

def forgetResponse (removed : Nat) (forwarded : Bool) : Response :=
  respond ("\x7b\"removed\":" ++ toString removed ++ ",\"forwarded\":" ++ toString forwarded ++
    "\x7d") 200

/-- The forget route; `forwarded` is the outcome of the forwarding. -/
def handleForget (platform : Platform) (context : IntegrityContext) (cache : CacheState)
    (request : CacheRequest) (forwarded : Bool) : Answer × CacheState :=
  let token := readHandlerEnvString platform.env "GATEWAY_FORGET_TOKEN"
  if !isInternalPlaneRouteEnabled platform.env .forget then
    (.response (respond "not found" 404), cache)
  else if request.method ≠ .post then (.response (respond "method" 405), cache)
  else if context.paused then (.response policyPausedResponse, cache)
  else if isProductionLikeMode platform.env ∧ token = none then
    (.response (respond "forget_auth_not_configured" 500), cache)
  else if token.any fun token => !presentsForgetToken request token then
    (.response (respond "unauthorized" 401), cache)
  else
    match (platform.parseJson request.body).getD (.obj []) with
    | .null => (.exception, cache)
    | body =>
        let forgotten := forget cache (namedProperty body "subject") (namedProperty body "key")
        (.response (forgetResponse forgotten.1 forwarded), forgotten.2)

/-! ### Runs -/

inductive Route where
  | forget
  | entry (key : JsString)
deriving DecidableEq

def routeOf (pathname : JsString) : Option Route :=
  if startsWith pathname (js "/cache/forget") then some .forget
  else if startsWith pathname (js "/cache/") then some (.entry (pathname.drop 7))
  else none

/-- A request to one of the routes. -/
def serve (platform : Platform) (context : IntegrityContext) (cache : CacheState)
    (request : CacheRequest) (times : Times) (forwarded : Bool) : Route → Answer × CacheState
  | .forget => handleForget platform context cache request forwarded
  | .entry key =>
      if !isInternalPlaneRouteEnabled platform.env .cache then
        (.response (respond "not found" 404), cache)
      else
        let handled := handleCache platform context cache key request times
        (.response handled.1, handled.2)

structure System where
  cache : CacheState
  policy : IntegrityContext

/-- A request to a cache route, a change of the policy, and the sweep that a
request to another path makes. -/
inductive Event where
  | request (request : CacheRequest) (times : Times) (forwarded : Bool)
  | policy (policy : IntegrityContext)
  | sweep (now : Int)

def initial (policy : IntegrityContext) : System := ⟨.empty, policy⟩

/-- Only a request to a cache route is one. -/
def step (platform : Platform) (system : System) : Event → Option System
  | .request request times forwarded =>
      (routeOf request.pathname).map fun route =>
        { system with
          cache := (serve platform system.policy system.cache request times forwarded route).2 }
  | .policy policy => some { system with policy }
  | .sweep now => some { system with cache := Cache.sweep system.cache now }

/-! ### Where a served entry comes from -/

/-- The policy trusts the root of an upload: it is not paused, and the root is a
trusted root of its snapshot up to the spelling of the token. -/
def TrustsRoot (context : IntegrityContext) (request : CacheRequest) : Prop :=
  context.paused = false ∧ ∃ snapshot, context.snapshot = some snapshot ∧
    snapshot.activeRoot ≠ [] ∧ snapshot.paused = false ∧
      ∃ token, normalizeIntegrityToken (some (header request.integrityRoot)) = some token ∧
        ∃ root ∈ collectTrustedRoots snapshot, normalizeIntegrityToken (some root) = some token

/-- The upload declares the hash of its body. -/
def DeclaresHash (platform : Platform) (request : CacheRequest) : Prop :=
  ∃ declared, request.integrityHash = some declared ∧
    trim declared = platform.sha256Hex request.body

/-- The events hold an upload of the body for the key that was accepted, under a
policy that trusted its root at that point, and that declared its hash. -/
def Uploaded (platform : Platform) (start : System) (events : List Event) (key : JsString)
    (body : List UInt8) : Prop :=
  ∃ early late request times forwarded system,
    events = early ++ .request request times forwarded :: late ∧
      run (step platform) start early = some system ∧
      routeOf request.pathname = some (.entry key) ∧ request.method = .put ∧
      (serve platform system.policy system.cache request times forwarded (.entry key)).1 =
        .response (respond "stored" 201) ∧
      request.body = body ∧ TrustsRoot system.policy request ∧ DeclaresHash platform request

/-- Every body that a request for a key is answered with, with status 200, is the
body of an earlier upload for the key with the documented headers. -/
def ServesUploads (platform : Platform) (start : System) (events : List Event) : Prop :=
  ∀ before request times forwarded after system key body,
    events = before ++ .request request times forwarded :: after →
      run (step platform) start before = some system →
      routeOf request.pathname = some (.entry key) → request.method = .get →
      (serve platform system.policy system.cache request times forwarded (.entry key)).1 =
        .response ⟨200, .bytes body⟩ →
      Uploaded platform start before key body

/-- An upload that the policy lets through carries a hash header that is not blank. -/
def HashGiven (system : System) : Event → Prop
  | .request request _ _ =>
      request.method = .put → TrustsRoot system.policy request →
        trim (header request.integrityHash) ≠ []
  | .policy _ => True
  | .sweep _ => True

/-! ### Accepted uploads -/

variable {platform : Platform} {context : IntegrityContext} {request : CacheRequest}

theorem trim_normalize (text : JsString) :
    normalizeIntegrityToken (some (trim text)) = normalizeIntegrityToken (some text) := by
  simp [normalizeIntegrityToken]

/-- What the checks of an upload establish. -/
theorem verifyUpload_ok {verifiedAt : Int} {integrity : CacheIntegrityMeta}
    (unpaused : context.paused = false)
    (verified : verifyUpload platform context request verifiedAt = .ok integrity) :
    TrustsRoot context request ∧ (trim (header request.integrityHash) ≠ [] →
      DeclaresHash platform request) := by
  unfold verifyUpload at verified
  split at verified
  next => cases verified
  next snapshot present =>
    simp only at verified
    obtain ⟨known, active⟩ := Option.filter_eq_some_iff.mp present
    split at verified
    next => cases verified
    next agrees =>
      split at verified
      next => cases verified
      next accepted =>
        obtain ⟨snapshotUnpaused, token, normalized, member⟩ := verifyManifestEntry_ok accepted
        rw [trim_normalize] at normalized
        constructor
        · refine ⟨unpaused, snapshot, known, by simpa using active, snapshotUnpaused, token,
            normalized, ?_⟩
          rcases mem_collectTrustedRoots.mp member with isActive | listed
          · refine ⟨snapshot.activeRoot, ?_, isActive⟩
            rw [collectTrustedRoots, List.mem_eraseDups, List.mem_filter]
            exact ⟨by simp, active⟩
          · exact listed
        · intro given
          cases declared : request.integrityHash with
          | none =>
              rw [declared] at given
              exact absurd trim_nil given
          | some hash =>
              rw [declared] at given agrees
              refine ⟨hash, declared, ?_⟩
              by_contra different
              exact agrees ⟨given, different⟩

/-- An entry behind the entry route was there before, or is the body of an
accepted upload for its key. -/
theorem find_of_handleUpload (required : requireVerifiedCache platform.env = true)
    {cache : CacheState} {key name : JsString} {times : Times} {entry : CacheEntry}
    (found : (handleUpload platform context cache key request times).2.store.find name =
      some entry) :
    cache.store.find name = some entry ∨
      (name = key ∧ entry.value = request.body ∧
        (handleUpload platform context cache key request times).1 = respond "stored" 201 ∧
        TrustsRoot context request ∧
        (trim (header request.integrityHash) ≠ [] → DeclaresHash platform request)) := by
  unfold handleUpload at found ⊢
  split at found
  next => exact Or.inl found
  next unpaused =>
    have open' : context.paused = false := by simpa using unpaused
    simp only [required, if_true] at found ⊢
    cases outcome : verifyUpload platform context request times.verifiedAt with
    | error refusal =>
        simp only [outcome] at found
        exact Or.inl found
    | ok integrity =>
        have checked := verifyUpload_ok open' outcome
        simp only [outcome, open', Bool.false_eq_true, if_false] at found ⊢
        unfold storeUpload at found ⊢
        simp only at found ⊢
        split at found
        next =>
          rcases find_of_put found with ⟨rfl, -, rfl⟩ | before
          · right
            rename_i stored
            rw [if_pos stored]
            exact ⟨rfl, rfl, rfl, checked⟩
          · exact Or.inl before
        next refused =>
          rcases find_of_put found with ⟨-, stored, -⟩ | before
          · exact absurd stored refused
          · exact Or.inl before

theorem find_of_forget {cache : CacheState} {subject key : Option JsString} {name : JsString}
    {entry : CacheEntry} (found : (forget cache subject key).2.store.find name = some entry) :
    cache.store.find name = some entry := by
  unfold forget at found
  cases subject with
  | none =>
      cases key with
      | none => exact found
      | some key => exact find_of_dropKey found
  | some subject =>
      cases key with
      | none => exact find_of_forgetSubject found
      | some key => exact find_of_forgetSubject (find_of_dropKey found)

theorem find_of_handleForget {cache : CacheState} {forwarded : Bool} {name : JsString}
    {entry : CacheEntry}
    (found : (handleForget platform context cache request forwarded).2.store.find name =
      some entry) : cache.store.find name = some entry := by
  unfold handleForget at found
  simp only at found
  repeat' split at found
  all_goals first
    | exact found
    | exact find_of_forget found

/-- An entry behind a request was there before, or is the body of an upload that
the request made. -/
theorem find_of_serve (required : requireVerifiedCache platform.env = true) {cache : CacheState}
    {times : Times} {forwarded : Bool} {route : Route} {name : JsString} {entry : CacheEntry}
    (found : (serve platform context cache request times forwarded route).2.store.find name =
      some entry) :
    cache.store.find name = some entry ∨
      (route = .entry name ∧ request.method = .put ∧ entry.value = request.body ∧
        (serve platform context cache request times forwarded (.entry name)).1 =
          .response (respond "stored" 201) ∧
        TrustsRoot context request ∧
        (trim (header request.integrityHash) ≠ [] → DeclaresHash platform request)) := by
  cases route with
  | forget => exact Or.inl (find_of_handleForget found)
  | entry key =>
      unfold serve at found ⊢
      simp only at found ⊢
      split at found
      next => exact Or.inl found
      next enabled =>
        unfold handleCache at found ⊢
        cases method : request.method with
        | put =>
            simp only [method] at found ⊢
            rcases find_of_handleUpload required found with before | ⟨rfl, value, stored, rest⟩
            · exact Or.inl before
            · right
              rw [if_neg enabled, stored]
              exact ⟨rfl, trivial, value, rfl, rest⟩
        | get =>
            simp only [method] at found
            exact Or.inl (find_of_fetchEntry found)
        | post =>
            simp only [method] at found
            exact Or.inl found
        | other =>
            simp only [method] at found
            exact Or.inl found

/-! ### Runs -/

/-- Every stored entry is the body of an accepted upload with the documented headers. -/
def Traced (platform : Platform) (start : System) (events : List Event) (system : System) : Prop :=
  ∀ key entry, system.cache.store.find key = some entry →
    Uploaded platform start events key entry.value

/-- An upload stays in the events that follow it. -/
theorem Uploaded.later {start : System} {events : List Event} {key : JsString}
    {body : List UInt8} (uploaded : Uploaded platform start events key body) (event : Event) :
    Uploaded platform start (events ++ [event]) key body := by
  obtain ⟨early, late, request, times, forwarded, system, rfl, rest⟩ := uploaded
  exact ⟨early, late ++ [event], request, times, forwarded, system, by simp, rest⟩

theorem Traced.step (required : requireVerifiedCache platform.env = true) {start : System}
    {before : List Event} {system next : System} {event : Event}
    (reached : run (step platform) start before = some system)
    (traced : Traced platform start before system) (given : HashGiven system event)
    (stepped : VerifiedCache.step platform system event = some next) :
    Traced platform start (before ++ [event]) next := by
  intro key entry found
  cases event with
  | request request times forwarded =>
      obtain ⟨route, routed, rfl⟩ := Option.map_eq_some_iff.mp stepped
      rcases find_of_serve required found with
        earlier | ⟨rfl, method, value, stored, trusted, declared⟩
      · exact (traced key entry earlier).later _
      · exact ⟨before, [], request, times, forwarded, system, rfl, reached, routed, method, stored,
          value.symm, trusted, declared (given method trusted)⟩
  | policy policy =>
      obtain rfl := Option.some.inj stepped
      exact (traced key entry found).later _
  | sweep now =>
      obtain rfl := Option.some.inj stepped
      exact (traced key entry (find_of_sweep found)).later _

/-- A request for a key that is answered with a body reads a stored entry. -/
theorem served_body {cache : CacheState} {key : JsString} {times : Times} {forwarded : Bool}
    {body : List UInt8} (isGet : request.method = .get)
    (served : (serve platform context cache request times forwarded (.entry key)).1 =
      .response ⟨200, .bytes body⟩) :
    ∃ entry, cache.store.find key = some entry ∧ entry.value = body := by
  unfold serve handleCache at served
  simp only [isGet] at served
  split at served
  next => cases served
  next =>
    cases outcome : (fetchEntry cache key ⟨requireVerifiedCache platform.env⟩ times.now).1 with
    | hit value integrity =>
        rw [outcome] at served
        obtain ⟨expiresAt, found, -⟩ := fetchEntry_hit outcome
        have same : value = body := by simpa [fetchResponse] using served
        exact ⟨_, found, same⟩
    | miss =>
        rw [outcome] at served
        simp [fetchResponse, respond] at served
    | expired =>
        rw [outcome] at served
        simp [fetchResponse, respond] at served
    | unverified =>
        rw [outcome] at served
        simp [fetchResponse, errorResponse, respond] at served

/-- With verified entries required, a run serves uploads with the documented
headers only, if every upload that the policy lets through gives a hash. -/
theorem verified_cache_serves_uploads (platform : Platform)
    (required : requireVerifiedCache platform.env = true) (policy : IntegrityContext)
    (events : List Event) (given : Meets (step platform) HashGiven (initial policy) events) :
    ServesUploads platform (initial policy) events := by
  rintro before request times forwarded after system key body rfl reached routed isGet served
  have traced : Traced platform (initial policy) before system := by
    apply run_history_invariant (Traced platform (initial policy)) (Traced.step required)
    · intro name entry found
      simp [initial, CacheState.empty] at found
    · exact given.before
    · exact reached
  obtain ⟨entry, found, rfl⟩ := served_body isGet served
  exact traced key entry found

/-- A gateway that requires verified entries; its hash is the one of `tpl`. -/
def verifyingGateway : Platform where
  env name := if name = "GATEWAY_INTEGRITY_REQUIRE_VERIFIED_CACHE" then some (js "1") else none
  parseJson _ := none
  sha256Hex _ := js "63bce8d4edf0cd46fffe9c93a06ed34806202956d17a36a94df37388d9149b51"

def openPolicy : IntegrityContext where
  paused := false
  snapshot := some ⟨js "root-abc", false, js "root-abc", none, none⟩

/-- An upload of `tpl` under the key `index`. -/
def uploadTemplate (hash : Option JsString) : CacheRequest where
  method := .put
  pathname := js "/cache/index"
  integrityRoot := some (js "root-abc")
  integrityHash := hash
  body := [116, 112, 108]

def fetchTemplate : CacheRequest where
  method := .get
  pathname := js "/cache/index"

def uploadTimes : Times := ⟨1000, 1000, 1000⟩

/-- The cache behind the upload. -/
def uploadedCache (hash : Option JsString) : CacheState :=
  (serve verifyingGateway openPolicy .empty (uploadTemplate hash) uploadTimes false
    (.entry (js "index"))).2

/-- The upload, then a request for its key. -/
def uploadRun (hash : Option JsString) : List Event :=
  [.request (uploadTemplate hash) uploadTimes false, .request fetchTemplate uploadTimes false]

theorem uploadTemplate_stepped (hash : Option JsString) :
    step verifyingGateway (initial openPolicy) (.request (uploadTemplate hash) uploadTimes false) =
      some ⟨uploadedCache hash, openPolicy⟩ := by
  have routed : routeOf (uploadTemplate hash).pathname = some (.entry (js "index")) := by
    show routeOf (js "/cache/index") = some (.entry (js "index"))
    decide
  simp only [step, routed, Option.map_some]
  rfl

/-- An upload without a hash is served as verified. -/
theorem undeclared_upload_served :
    requireVerifiedCache verifyingGateway.env = true ∧
      ¬ServesUploads verifyingGateway (initial openPolicy) (uploadRun none) := by
  refine ⟨by decide, ?_⟩
  intro serves
  have served : (serve verifyingGateway openPolicy (uploadedCache none) fetchTemplate uploadTimes
      false (.entry (js "index"))).1 = .response ⟨200, .bytes [116, 112, 108]⟩ := by decide
  obtain ⟨early, late, request, times, forwarded, system, events, -, -, -, -, -, -, declared⟩ :=
    serves [.request (uploadTemplate none) uploadTimes false] fetchTemplate uploadTimes false []
      ⟨uploadedCache none, openPolicy⟩ (js "index") [116, 112, 108] rfl
      (run_cons_eq_some.mpr ⟨_, uploadTemplate_stepped none, rfl⟩) (by decide) rfl served
  have onlyUpload : Event.request request times forwarded ∈
      [Event.request (uploadTemplate none) uploadTimes false] := by
    rw [events]
    simp
  obtain ⟨rfl, -, -⟩ := Event.request.inj (List.mem_singleton.mp onlyUpload)
  obtain ⟨hash, given, -⟩ := declared
  cases given

/-- A run with a declared upload, and a request that is served from it. -/
theorem verified_cache_serves_uploads_index :
    let declared := some (verifyingGateway.sha256Hex [116, 112, 108])
    ServesUploads verifyingGateway (initial openPolicy) (uploadRun declared) ∧
      (serve verifyingGateway openPolicy (uploadedCache declared) fetchTemplate uploadTimes false
        (.entry (js "index"))).1 = .response ⟨200, .bytes [116, 112, 108]⟩ := by
  intro declared
  refine ⟨verified_cache_serves_uploads verifyingGateway (by decide) openPolicy (uploadRun declared)
    ?_, by decide⟩
  refine Meets.cons (uploadTemplate_stepped declared) ?_ ?_
  · intro _ _
    show trim (verifyingGateway.sha256Hex [116, 112, 108]) ≠ []
    decide
  · refine ⟨?_, fun _ _ => trivial⟩
    intro isPut
    cases isPut

end DarkmeshGateway.Gateway.VerifiedCache
