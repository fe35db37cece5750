import DarkmeshGateway.Foundation.Js.Double
import DarkmeshGateway.Foundation.Js.Url
import DarkmeshGateway.Foundation.Retry
import DarkmeshGateway.Gateway.Environment
import DarkmeshGateway.Gateway.IntegrityRecords

/-!
Contract: the fetch of an integrity snapshot from its upstream and its mirrors.

Owns the fetch control with its bounds, the attempts of one fetch, the mirror
settings, the comparison of mirrors, and what a fetch admits.

Does not own the time between attempts, the host parser of the platform, or
what answers the requests: a request takes its outcome from any world.
-/

namespace DarkmeshGateway.Gateway.IntegrityClient

open Foundation
open Foundation.Js
open Gateway.Environment
open Gateway.IntegrityRecords (IntegritySnapshot IntegritySnapshotError Parse normalizeTrustedRoot
  parseSnapshot Admitted)

/-! ### Fetch control -/

inductive GatewayResourceProfile where
  | vpsSmall
  | vpsMedium
  | diskless
deriving DecidableEq, Repr

def resolveGatewayResourceProfile (raw : Option JsString) : Option GatewayResourceProfile :=
  let value := toLowerCase (trim (raw.getD []))
  if [js "vps-small", js "small", js "s", js "vps_small"].contains value then some .vpsSmall
  else if [js "vps-medium", js "medium", js "m", js "default", js "vps_medium"].contains value then
    some .vpsMedium
  else if [js "diskless", js "memory-only", js "memory_only", js "ephemeral"].contains value then
    some .diskless
  else none

structure IntegrityFetchControl where
  timeoutMs : Nat
  retryAttempts : Nat
  retryBackoffMs : Nat
  retryJitterMs : Nat

def profileDefaults : GatewayResourceProfile → IntegrityFetchControl
  | .vpsSmall => ⟨4000, 2, 75, 25⟩
  | .vpsMedium => ⟨5000, 3, 100, 25⟩
  | .diskless => ⟨4000, 2, 75, 25⟩

/-- The floor of a number from `min` on, at most `max`; else the fallback. -/
def normalizeBoundedInteger (value : Option Double) (fallback min max : Nat) : Nat :=
  match value with
  | some (.finite number) => if number < min then fallback else Nat.min number.floor.toNat max
  | _ => fallback

def readBoundedInteger (env : Env) (name : String) (fallback min max : Nat) : Nat :=
  let value := ((readHandlerEnvString env name).bind parseEnvInteger).getD fallback
  normalizeBoundedInteger (some (.finite value)) fallback min max

/-- The options that override the configured control. -/
structure Overrides where
  timeoutMs : Option Double := none
  retryAttempts : Option Double := none
  retryBackoffMs : Option Double := none
  retryJitterMs : Option Double := none

def resolveIntegrityFetchControl (env : Env) (overrides : Overrides) : IntegrityFetchControl :=
  let profile := resolveGatewayResourceProfile (readHandlerEnvString env "GATEWAY_RESOURCE_PROFILE")
  let defaults := profileDefaults (profile.getD .vpsMedium)
  { timeoutMs := normalizeBoundedInteger overrides.timeoutMs
      (readBoundedInteger env "AO_INTEGRITY_FETCH_TIMEOUT_MS" defaults.timeoutMs 1 60000) 1 60000
    retryAttempts := normalizeBoundedInteger overrides.retryAttempts
      (readBoundedInteger env "AO_INTEGRITY_FETCH_RETRY_ATTEMPTS" defaults.retryAttempts 1 5) 1 5
    retryBackoffMs := normalizeBoundedInteger overrides.retryBackoffMs
      (readBoundedInteger env "AO_INTEGRITY_FETCH_RETRY_BACKOFF_MS" defaults.retryBackoffMs 0 5000)
      0 5000
    retryJitterMs := normalizeBoundedInteger overrides.retryJitterMs
      (readBoundedInteger env "AO_INTEGRITY_FETCH_RETRY_JITTER_MS" defaults.retryJitterMs 0 500)
      0 500 }

/-! ### One fetch -/

/-- What a rejected request throws. -/
inductive Thrown where
  | snapshotError (error : IntegritySnapshotError)
  | error (message : JsString)
  | other (isAbortError : Bool)

/-- `response.json()`; a body that fails to parse throws an error with a message,
or something else. -/
inductive Body where
  | parsed (raw : Json)
  | unparsed (message : Option JsString)

inductive FetchOutcome where
  | responded (status : Nat) (body : Body)
  | rejected (thrown : Thrown)

/-- `response.ok`. -/
def isOk (status : Nat) : Bool := 200 ≤ status && status < 300

def isTransientIntegrityFetchStatus (status : Nat) : Bool :=
  [408, 425, 429, 500, 502, 503, 504].contains status

def fetchFailed (message : JsString) : IntegritySnapshotError := ⟨.integrityFetchFailed, message⟩

/-- `isAbortError(error) || error instanceof Error`. -/
def Thrown.isNetworkError : Thrown → Bool
  | .snapshotError _ => false
  | .error _ => true
  | .other isAbortError => isAbortError

/-- `error instanceof Error ? error.message : 'request failed'`. -/
def Thrown.message : Thrown → JsString
  | .snapshotError failure => failure.message
  | .error message => message
  | .other _ => js "request failed"

/-- One pass of the loop: its result, or `none` to try again. -/
def judgeOutcome (another : Bool) : FetchOutcome → Option (Parse IntegritySnapshot)
  | .responded status body =>
      if isOk status then
        match body with
        | .unparsed message =>
            some (.error ⟨.integrityInvalidSnapshot, message.getD (js "invalid json")⟩)
        | .parsed raw => some (parseSnapshot raw)
      else if isTransientIntegrityFetchStatus status && another then none
      else some (.error (fetchFailed (js "upstream returned " ++ decimalDigits status)))
  | .rejected (.snapshotError error) => some (.error error)
  | .rejected thrown =>
      if thrown.isNetworkError && another then none else some (.error (fetchFailed thrown.message))

/-- The requests of one fetch, in order, and its result. -/
structure SnapshotFetch where
  url : JsString
  requests : List FetchOutcome
  result : Parse IntegritySnapshot

/-- `fetch`: what answers a request may depend on anything that happened before. -/
abbrev FetchImpl (World : Type) := JsString → World → FetchOutcome × World

def fetchSnapshotFromUrl {World : Type} (fetchImpl : FetchImpl World)
    (fetchControl : IntegrityFetchControl) (url : JsString) (world : World) :
    SnapshotFetch × World :=
  let trace := Retry.loop (fetchImpl url) judgeOutcome (.error (fetchFailed (js "request failed")))
    fetchControl.retryAttempts world
  (⟨url, trace.outcomes, trace.result⟩, trace.state)

/-! ### Mirrors -/

def readStringConfig (env : Env) (name : String) : Option JsString :=
  (readHandlerEnvString env name).bind fun loaded =>
    let trimmed := trim loaded
    if trimmed = [] then none else some trimmed

structure Platform (World : Type) where
  env : Env
  parseHost : Url.Kind → JsString → Option JsString
  fetch : Option (FetchImpl World)

/-- `new URL(value).protocol`, without its colon; `none` is a thrown `TypeError`. -/
def urlProtocol (parseHost : Url.Kind → JsString → Option JsString) (value : JsString) :
    Option JsString :=
  (Url.urlHostname parseHost value).bind fun _ =>
    (Url.splitScheme (Url.clean value)).map fun split => toLowerCase split.1

def isMirrorUrlCandidate (parseHost : Url.Kind → JsString → Option JsString) (value : JsString) :
    Bool :=
  (urlProtocol parseHost value).any fun protocol => protocol = js "http" || protocol = js "https"

structure IntegrityMirrorSettings where
  urls : List JsString
  strict : Bool

def parseMirrorSettings {World : Type} (platform : Platform World) : IntegrityMirrorSettings where
  urls :=
    ((((readStringConfig platform.env "AO_INTEGRITY_MIRROR_URLS").getD []).splitOn 44).map
      trim).filter fun value => value ≠ [] && isMirrorUrlCandidate platform.parseHost value
  strict := readStringConfig platform.env "AO_INTEGRITY_MIRROR_STRICT" = some (js "1")

def compareMirrorSnapshot (primary mirror : IntegritySnapshot) : List JsString :=
  (if normalizeTrustedRoot primary.release.root ≠ normalizeTrustedRoot mirror.release.root then
    [js "release.root"] else []) ++
  (if normalizeTrustedRoot primary.policy.activeRoot ≠
      normalizeTrustedRoot mirror.policy.activeRoot then [js "policy.activeRoot"] else []) ++
  (if primary.release.version ≠ mirror.release.version then [js "release.version"] else [])

/-- What is wrong with a mirror. -/
def mirrorIssue (primary : IntegritySnapshot) (fetch : SnapshotFetch) : Option JsString :=
  match fetch.result with
  | .ok mirror =>
      let mismatches := compareMirrorSnapshot primary mirror
      if mismatches = [] then none
      else some (fetch.url ++ js ": " ++ List.intercalate (js ", ") mismatches)
  | .error error => some (fetch.url ++ js ": " ++ error.message)

def fetchMirrors {World : Type} (fetchImpl : FetchImpl World)
    (fetchControl : IntegrityFetchControl) :
    List JsString → World → List SnapshotFetch × World
  | [], world => ([], world)
  | url :: rest, world =>
      let fetched := fetchSnapshotFromUrl fetchImpl fetchControl url world
      let more := fetchMirrors fetchImpl fetchControl rest fetched.2
      (fetched.1 :: more.1, more.2)

/-! ### The whole fetch -/

structure FetchIntegritySnapshotOptions (World : Type) where
  url : Option JsString := none
  fetchImpl : Option (FetchImpl World) := none
  timeoutMs : Option Double := none
  retryAttempts : Option Double := none
  retryBackoffMs : Option Double := none

/-- The result, and the fetches that were made: the first one is the primary. -/
structure Run where
  result : Parse IntegritySnapshot
  fetches : List SnapshotFetch

def fetchControlOf {World : Type} (platform : Platform World)
    (opts : FetchIntegritySnapshotOptions World) : IntegrityFetchControl :=
  resolveIntegrityFetchControl platform.env
    { timeoutMs := opts.timeoutMs
      retryAttempts := opts.retryAttempts
      retryBackoffMs := opts.retryBackoffMs }

def fetchIntegritySnapshot {World : Type} (platform : Platform World)
    (opts : FetchIntegritySnapshotOptions World) (world : World) : Run :=
  match (opts.url.filter (· ≠ [])).or (readStringConfig platform.env "AO_INTEGRITY_URL") with
  | none => ⟨.error (fetchFailed (js "AO_INTEGRITY_URL is not configured")), []⟩
  | some url =>
      match opts.fetchImpl.or platform.fetch with
      | none => ⟨.error (fetchFailed (js "fetch is not available")), []⟩
      | some fetchImpl =>
          let fetchControl := fetchControlOf platform opts
          let (fetched, behind) := fetchSnapshotFromUrl fetchImpl fetchControl url world
          match fetched.result with
          | .error error => ⟨.error error, [fetched]⟩
          | .ok primary =>
              -- Without mirrors there is nothing to fetch and no issue.
              let mirrors := parseMirrorSettings platform
              let fetches := (fetchMirrors fetchImpl fetchControl mirrors.urls behind).1
              let issues := fetches.filterMap (mirrorIssue primary)
              if mirrors.strict && issues ≠ [] then
                ⟨.error (fetchFailed (js "mirror consistency check failed: " ++
                  List.intercalate (js "; ") issues)), fetched :: fetches⟩
              else ⟨.ok primary, fetched :: fetches⟩

/-! ### How many requests are sent -/

theorem normalizeBoundedInteger_bounds {value : Option Double} {fallback min max : Nat}
    (low : min ≤ fallback) (high : fallback ≤ max) (ordered : min ≤ max) :
    min ≤ normalizeBoundedInteger value fallback min max ∧
      normalizeBoundedInteger value fallback min max ≤ max := by
  unfold normalizeBoundedInteger
  split
  next number =>
    split
    next => exact ⟨low, high⟩
    next atLeast =>
      have floored : (min : Int) ≤ number.floor := by
        rw [Rat.le_floor_iff]
        exact_mod_cast not_lt.mp atLeast
      exact ⟨le_min (by omega) ordered, Nat.min_le_right _ _⟩
  next => exact ⟨low, high⟩

theorem readBoundedInteger_bounds (env : Env) (name : String) {fallback min max : Nat}
    (low : min ≤ fallback) (high : fallback ≤ max) (ordered : min ≤ max) :
    min ≤ readBoundedInteger env name fallback min max ∧
      readBoundedInteger env name fallback min max ≤ max := by
  unfold readBoundedInteger
  exact normalizeBoundedInteger_bounds low high ordered

/-- Between one and five requests, whatever is configured. -/
theorem retryAttempts_bounds (env : Env) (overrides : Overrides) :
    1 ≤ (resolveIntegrityFetchControl env overrides).retryAttempts ∧
      (resolveIntegrityFetchControl env overrides).retryAttempts ≤ 5 := by
  have defaults (profile : GatewayResourceProfile) :
      1 ≤ (profileDefaults profile).retryAttempts ∧ (profileDefaults profile).retryAttempts ≤ 5 := by
    cases profile <;> decide
  have profile := defaults ((resolveGatewayResourceProfile
    (readHandlerEnvString env "GATEWAY_RESOURCE_PROFILE")).getD .vpsMedium)
  have configured := readBoundedInteger_bounds env "AO_INTEGRITY_FETCH_RETRY_ATTEMPTS"
    profile.1 profile.2 (by decide)
  exact normalizeBoundedInteger_bounds configured.1 configured.2 (by decide)

/-- Why a request is repeated: a transient status, or a network error. -/
def FetchOutcome.IsTransient : FetchOutcome → Prop
  | .responded status _ => isTransientIntegrityFetchStatus status = true
  | .rejected thrown => thrown.isNetworkError = true

theorem judgeOutcome_repeats {outcome : FetchOutcome}
    (again : judgeOutcome true outcome = none) : outcome.IsTransient := by
  unfold judgeOutcome at again
  split at again
  next status body =>
    split at again
    next =>
      split at again
      next => cases again
      next => cases again
    next =>
      split at again
      next transient =>
        rw [Bool.and_true] at transient
        exact transient
      next => cases again
  next => cases again
  next thrown _ =>
    split at again
    next network =>
      rw [Bool.and_true] at network
      exact network
    next => cases again

/-- The last attempt gives a result. -/
theorem judgeOutcome_settles (outcome : FetchOutcome) : (judgeOutcome false outcome).isSome := by
  unfold judgeOutcome
  split
  next status body =>
    split
    next =>
      split
      next => rfl
      next => rfl
    next => simp
  next => rfl
  next => simp

/-- A snapshot is read from a body that parses, of a response that is `ok`. -/
theorem judgeOutcome_eq_ok {another : Bool} {outcome : FetchOutcome} {snapshot : IntegritySnapshot}
    (judged : judgeOutcome another outcome = some (.ok snapshot)) :
    ∃ status raw, outcome = .responded status (.parsed raw) ∧ isOk status = true ∧
      parseSnapshot raw = .ok snapshot := by
  unfold judgeOutcome at judged
  split at judged
  next status body =>
    split at judged
    next accepted =>
      split at judged
      next => cases judged
      next raw => exact ⟨status, raw, rfl, accepted, Option.some.inj judged⟩
    next =>
      split at judged
      next => cases judged
      next => cases judged
  next => cases judged
  next =>
    split at judged
    next => cases judged
    next => cases judged

/-- At most so many requests, each but the last repeated for a transient reason. -/
structure SnapshotFetch.Bounded (attempts : Nat) (fetch : SnapshotFetch) : Prop where
  few : fetch.requests.length ≤ attempts
  transient : ∀ before outcome after, fetch.requests = before ++ outcome :: after → after ≠ [] →
    outcome.IsTransient

/-- The last request gave the snapshot. -/
def SnapshotFetch.Answered (fetch : SnapshotFetch) (snapshot : IntegritySnapshot) : Prop :=
  ∃ status raw, fetch.requests.getLast? = some (.responded status (.parsed raw)) ∧
    isOk status = true ∧ parseSnapshot raw = .ok snapshot

variable {World : Type}

theorem fetchSnapshotFromUrl_bounded (fetchImpl : FetchImpl World)
    (fetchControl : IntegrityFetchControl) (url : JsString) (world : World) :
    (fetchSnapshotFromUrl fetchImpl fetchControl url world).1.Bounded
      fetchControl.retryAttempts where
  few := Retry.length_outcomes_le _ _
  transient _ _ _ split followed :=
    judgeOutcome_repeats (Retry.repeated_of_followed split followed)

theorem fetchSnapshotFromUrl_answered {fetchImpl : FetchImpl World}
    {fetchControl : IntegrityFetchControl} (attempted : 0 < fetchControl.retryAttempts)
    {url : JsString} {world : World} {snapshot : IntegritySnapshot}
    (fetched : (fetchSnapshotFromUrl fetchImpl fetchControl url world).1.result = .ok snapshot) :
    (fetchSnapshotFromUrl fetchImpl fetchControl url world).1.Answered snapshot := by
  obtain ⟨outcome, more, last, judged⟩ : ∃ outcome more,
      (fetchSnapshotFromUrl fetchImpl fetchControl url world).1.requests.getLast? = some outcome ∧
        judgeOutcome more outcome =
          some (fetchSnapshotFromUrl fetchImpl fetchControl url world).1.result :=
    Retry.result_of_last judgeOutcome_settles attempted world
  have settled : judgeOutcome more outcome = some (.ok snapshot) :=
    judged.trans (congrArg some fetched)
  obtain ⟨status, raw, same, accepted, parsed⟩ := judgeOutcome_eq_ok settled
  exact ⟨status, raw, last.trans (congrArg some same), accepted, parsed⟩

/-! ### What a fetch admits -/

/-- Both roots up to trimming, and the version. -/
structure Agrees (primary mirror : IntegritySnapshot) : Prop where
  releaseRoot : trim primary.release.root = trim mirror.release.root
  activeRoot : trim primary.policy.activeRoot = trim mirror.policy.activeRoot
  version : primary.release.version = mirror.release.version

theorem compareMirrorSnapshot_eq_nil {primary mirror : IntegritySnapshot}
    (matching : compareMirrorSnapshot primary mirror = []) : Agrees primary mirror := by
  have equal {first second field : JsString}
      (part : (if first ≠ second then [field] else []) = []) : first = second := by
    by_contra different
    rw [if_pos different] at part
    cases part
  obtain ⟨roots, version⟩ := List.append_eq_nil_iff.mp matching
  obtain ⟨releaseRoot, activeRoot⟩ := List.append_eq_nil_iff.mp roots
  exact ⟨equal releaseRoot, equal activeRoot, equal version⟩

/-- A mirror without issue returned a snapshot that agrees. -/
theorem mirrorIssue_eq_none {primary : IntegritySnapshot} {fetch : SnapshotFetch}
    (fine : mirrorIssue primary fetch = none) :
    ∃ mirror, fetch.result = .ok mirror ∧ Agrees primary mirror := by
  unfold mirrorIssue at fine
  split at fine
  next mirror returned =>
    dsimp only at fine
    split at fine
    next matching => exact ⟨mirror, returned, compareMirrorSnapshot_eq_nil matching⟩
    next => cases fine
  next => cases fine

/-- The mirrors are fetched one after the other. -/
theorem fetchMirrors_urls (fetchImpl : FetchImpl World) (fetchControl : IntegrityFetchControl)
    (urls : List JsString) (world : World) :
    (fetchMirrors fetchImpl fetchControl urls world).1.map SnapshotFetch.url = urls := by
  induction urls generalizing world with
  | nil => rfl
  | cons url rest inductionHypothesis =>
      rw [fetchMirrors, List.map_cons, inductionHypothesis]
      rfl

theorem mem_fetchMirrors {fetchImpl : FetchImpl World} {fetchControl : IntegrityFetchControl}
    {urls : List JsString} {world : World} {fetch : SnapshotFetch}
    (member : fetch ∈ (fetchMirrors fetchImpl fetchControl urls world).1) :
    ∃ url before, fetch = (fetchSnapshotFromUrl fetchImpl fetchControl url before).1 := by
  induction urls generalizing world with
  | nil => exact absurd member List.not_mem_nil
  | cons url rest inductionHypothesis =>
      rcases List.mem_cons.mp member with same | later
      · exact ⟨url, world, same⟩
      · exact inductionHypothesis later

/-- Without an issue every mirror answered with a snapshot that agrees. -/
theorem fetchMirrors_agree {fetchImpl : FetchImpl World} {fetchControl : IntegrityFetchControl}
    (attempted : 0 < fetchControl.retryAttempts) {urls : List JsString} {world : World}
    {primary : IntegritySnapshot}
    (fine : (fetchMirrors fetchImpl fetchControl urls world).1.filterMap (mirrorIssue primary) = [])
    {fetch : SnapshotFetch} (member : fetch ∈ (fetchMirrors fetchImpl fetchControl urls world).1) :
    ∃ mirror, fetch.Answered mirror ∧ Agrees primary mirror := by
  have noIssue : mirrorIssue primary fetch = none := List.filterMap_eq_nil_iff.mp fine fetch member
  obtain ⟨mirror, returned, agrees⟩ := mirrorIssue_eq_none noIssue
  obtain ⟨url, before, rfl⟩ := mem_fetchMirrors member
  exact ⟨mirror, fetchSnapshotFromUrl_answered attempted returned, agrees⟩

/-- What a run of the fetch guarantees. The fetches of the run are the primary
followed by the mirrors. -/
structure Admission (settings : IntegrityMirrorSettings) (attempts : Nat) (run : Run) : Prop where
  admitted : ∀ snapshot, run.result = .ok snapshot → Admitted snapshot
  strict : ∀ snapshot, run.result = .ok snapshot → settings.strict = true →
    ∃ primary mirrors, run.fetches = primary :: mirrors ∧ primary.Answered snapshot ∧
      mirrors.map SnapshotFetch.url = settings.urls ∧
      ∀ fetch ∈ mirrors, ∃ mirror, fetch.Answered mirror ∧ Agrees snapshot mirror
  lenient : settings.strict = false → ∀ primary mirrors, run.fetches = primary :: mirrors →
    ∀ snapshot, primary.result = .ok snapshot → run.result = .ok snapshot
  bounded : ∀ fetch ∈ run.fetches, fetch.Bounded attempts

/-- For every world that answers the requests. -/
theorem fetchIntegritySnapshot_admission (platform : Platform World)
    (opts : FetchIntegritySnapshotOptions World) (world : World) :
    Admission (parseMirrorSettings platform) (fetchControlOf platform opts).retryAttempts
      (fetchIntegritySnapshot platform opts world) := by
  have refused (error : IntegritySnapshotError) : Admission (parseMirrorSettings platform)
      (fetchControlOf platform opts).retryAttempts ⟨.error error, []⟩ := by
    refine ⟨?_, ?_, ?_, ?_⟩
    · intro snapshot returned
      cases returned
    · intro snapshot returned
      cases returned
    · intro _ primary mirrors empty
      cases empty
    · intro fetch member
      exact absurd member List.not_mem_nil
  unfold fetchIntegritySnapshot
  split
  next => exact refused _
  next url _ =>
    split
    next => exact refused _
    next fetchImpl _ =>
      dsimp only
      have attempted : 0 < (fetchControlOf platform opts).retryAttempts :=
        (retryAttempts_bounds platform.env _).1
      have primaryBounded := fetchSnapshotFromUrl_bounded fetchImpl (fetchControlOf platform opts)
        url world
      split
      next error failed =>
        refine ⟨?_, ?_, ?_, ?_⟩
        · intro snapshot returned
          cases returned
        · intro snapshot returned
          cases returned
        · rintro _ primary mirrors ⟨⟩ snapshot returned
          rw [failed] at returned
          cases returned
        · intro fetch member
          rw [List.mem_singleton.mp member]
          exact primaryBounded
      next snapshot fetched =>
        have answered := fetchSnapshotFromUrl_answered attempted fetched
        have bounded : ∀ fetch ∈ (fetchSnapshotFromUrl fetchImpl (fetchControlOf platform opts) url
            world).1 :: (fetchMirrors fetchImpl (fetchControlOf platform opts)
              (parseMirrorSettings platform).urls (fetchSnapshotFromUrl fetchImpl
                (fetchControlOf platform opts) url world).2).1,
            fetch.Bounded (fetchControlOf platform opts).retryAttempts := by
          intro fetch member
          rcases List.mem_cons.mp member with rfl | mirror
          · exact primaryBounded
          · obtain ⟨mirrorUrl, before, rfl⟩ := mem_fetchMirrors mirror
            exact fetchSnapshotFromUrl_bounded _ _ _ _
        split
        next refuses =>
          rw [Bool.and_eq_true] at refuses
          refine ⟨?_, ?_, ?_, bounded⟩
          · intro other returned
            cases returned
          · intro other returned
            cases returned
          · intro lenient
            rw [lenient] at refuses
            exact absurd refuses.1 Bool.false_ne_true
        next accepts =>
          refine ⟨?_, ?_, ?_, bounded⟩
          · rintro _ ⟨⟩
            obtain ⟨status, raw, -, -, parsed⟩ := answered
            exact IntegrityRecords.parseSnapshot_admitted parsed
          · rintro _ ⟨⟩ isStrict
            have fine := accepts
            rw [isStrict, Bool.true_and, decide_eq_true_eq, not_not] at fine
            refine ⟨_, _, rfl, answered, fetchMirrors_urls _ _ _ _, ?_⟩
            intro fetch member
            exact fetchMirrors_agree attempted fine member
          · rintro _ primary mirrors ⟨⟩ other returned
            rw [fetched] at returned
            exact returned

end DarkmeshGateway.Gateway.IntegrityClient
