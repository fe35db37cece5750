import DarkmeshGateway.Foundation.Machine
import DarkmeshGateway.Foundation.OrderedMap
import DarkmeshGateway.Gateway.SiteResolver

/-!
Contract: the lookup of a host through the AO resolver.

Owns the runtime hints and the site id read from an answer, the caches of
answers and failures, the circuit breaker, and a lookup as the two blocks in
front of and behind its request.

Does not own the request: a lookup is given its answer. The base URL is one
that parses.
-/

namespace DarkmeshGateway.Gateway.SiteLookup

open Foundation
open Foundation.Js
open Gateway.Environment
open Gateway.SiteResolver

/-! ### Runtime hints -/

def runtimePointerFields : List String :=
  ["processId", "siteProcessId", "readProcessId", "writeProcessId", "catalogProcessId",
    "accessProcessId", "ingestProcessId", "registryProcessId", "workerId", "workerUrl",
    "updatedAt", "sitePid", "readPid", "writePid", "catalogPid", "accessPid", "ingestPid",
    "registryPid", "workerPid", "site_process_id", "read_process_id", "write_process_id",
    "catalog_process_id", "access_process_id", "ingest_process_id", "registry_process_id",
    "worker_id", "worker_url", "ProcessId", "Process-Id", "process_id", "UpdatedAt",
    "Updated-At", "updated_at", "moduleId", "ModuleId", "Module-Id", "module_id", "scheduler",
    "Scheduler", "Scheduler-Id", "schedulerId", "scheduler_id", "templateTxId", "TemplateTxId",
    "Template-Tx-Id", "template_tx_id", "manifestTxId", "ManifestTxId", "Manifest-Tx-Id",
    "manifest_tx_id", "templateSha256", "TemplateSha256", "Template-Sha256", "template_sha256",
    "templateVariant", "TemplateVariant", "Template-Variant", "template_variant"]

/-- `{ ...base, ...extra }`. -/
def mergeFields (base extra : Fields) : Fields :=
  extra.foldl (fun merged property => merged.set property.1 property.2) base

/-- The pointer fields that are texts; `undefined` when there are none. -/
def collectScalarRuntimePointers (source : Fields) : Option Fields :=
  let out := runtimePointerFields.filterMap fun key =>
    let value := trimString (source.get (js key))
    if value = [] then none else some (js key, Json.str value)
  if out = [] then none else some out

/-- The first of some properties that is a record. -/
def firstRecordOf (record : Fields) (names : List String) : Option Fields :=
  names.findSome? fun name => asRecord (record.get (js name))

def collectRuntimeHintsFromRecord (record : Option Fields) : Option RuntimeRoutingHints :=
  record.bind fun record =>
    let runtime := firstRecordOf record ["runtime", "Runtime"]
    let runtimePointers := firstRecordOf record
      ["runtimePointers", "RuntimePointers", "runtimePointer", "RuntimePointer"]
    let scalarPointers := collectScalarRuntimePointers record
    let pointers := if runtimePointers.isSome || scalarPointers.isSome then
      some (mergeFields (runtimePointers.getD []) (scalarPointers.getD [])) else none
    if runtime.isNone && pointers.isNone then none else some ⟨runtime, pointers⟩

/-- One part of merged hints: the secondary one below the primary one. -/
def mergePart (primary secondary : Option Fields) : Option Fields :=
  if primary.isSome || secondary.isSome then
    some (mergeFields (secondary.getD []) (primary.getD []))
  else none

def mergeRuntimeHints (primary secondary : Option RuntimeRoutingHints) :
    Option RuntimeRoutingHints :=
  let runtime := mergePart (primary.bind (·.runtime)) (secondary.bind (·.runtime))
  let pointers :=
    mergePart (primary.bind (·.runtimePointers)) (secondary.bind (·.runtimePointers))
  if runtime.isNone && pointers.isNone then none else some ⟨runtime, pointers⟩

/-- The site and the hints an answer names. -/
structure ResolverBody where
  siteId : Option JsString
  runtimeHints : Option RuntimeRoutingHints

/-- The first of some texts that is not blank, trimmed. -/
def firstSite : List JsString → Option JsString
  | [] => none
  | site :: rest => if site = [] then firstSite rest else some site

def parseResolverBody (body : Option Json) : ResolverBody :=
  match asRecord body with
  | none => ⟨none, none⟩
  | some record =>
      let payload := asRecord (record.get (js "payload"))
      let data := asRecord (record.get (js "data"))
      { siteId := firstSite [trimString (record.get (js "siteId")),
          trimString (payload.bind fun fields => fields.get (js "siteId")),
          trimString (data.bind fun fields => fields.get (js "siteId"))]
        runtimeHints := mergeRuntimeHints (collectRuntimeHintsFromRecord (payload.or data))
          (collectRuntimeHintsFromRecord (some record)) }

/-! ### The state of the resolver -/

structure CachedAoResolution where
  siteId : Option JsString
  runtimeHints : Option RuntimeRoutingHints
  expiresAt : Int

structure CachedAoUnavailable where
  error : String
  status : Nat
  expiresAt : Int

structure ResolverCircuitState where
  failures : Nat
  windowStartMs : Int
  openUntilMs : Int

/-- `aoResolutionCache`, `aoUnavailableCache`, `globalAoUnavailableCache` and
`resolverCircuit`. -/
structure ResolverState where
  resolutions : OrderedMap JsString CachedAoResolution
  unavailable : OrderedMap JsString CachedAoUnavailable
  globalUnavailable : Option CachedAoUnavailable
  circuit : ResolverCircuitState

def ResolverState.initial : ResolverState := ⟨.empty, .empty, none, ⟨0, 0, 0⟩⟩

def cachedAoLookup (state : ResolverState) (host : JsString) (now : Int) :
    ResolverState × Option CachedAoResolution :=
  match state.resolutions.find host with
  | none => (state, none)
  | some cached =>
      if cached.expiresAt ≤ now then
        ({ state with resolutions := state.resolutions.erase host }, none)
      else (state, some cached)

def cachedAoUnavailable (state : ResolverState) (host : JsString) (now : Int) :
    ResolverState × Option CachedAoUnavailable :=
  match state.unavailable.find host with
  | none => (state, none)
  | some cached =>
      if cached.expiresAt ≤ now then
        ({ state with unavailable := state.unavailable.erase host }, none)
      else (state, some cached)

def cachedGlobalAoUnavailable (state : ResolverState) (now : Int) :
    ResolverState × Option CachedAoUnavailable :=
  match state.globalUnavailable with
  | none => (state, none)
  | some cached =>
      if cached.expiresAt ≤ now then ({ state with globalUnavailable := none }, none)
      else (state, some cached)

def storeAoLookup (env : Env) (state : ResolverState) (host : JsString) (siteId : Option JsString)
    (runtimeHints : Option RuntimeRoutingHints) (now : Int) : ResolverState :=
  let ttlMs := readPositiveIntEnv env "GATEWAY_SITE_RESOLVE_CACHE_TTL_MS" 30000
  { state with
    resolutions := state.resolutions.set host ⟨siteId, runtimeHints, now + ttlMs⟩
    unavailable := state.unavailable.erase host
    globalUnavailable := none }

def storeAoUnavailable (env : Env) (state : ResolverState) (host : JsString) (error : String)
    (status : Nat) (now : Int) : ResolverState :=
  let ttlMs := readPositiveIntEnv env "GATEWAY_SITE_RESOLVE_UNAVAILABLE_CACHE_TTL_MS" 5000
  let globalTtlMs :=
    readPositiveIntEnv env "GATEWAY_SITE_RESOLVE_GLOBAL_UNAVAILABLE_CACHE_TTL_MS" 0
  { state with
    unavailable := state.unavailable.set host ⟨error, status, now + ttlMs⟩
    globalUnavailable :=
      if 0 < globalTtlMs then some ⟨error, status, now + globalTtlMs⟩
      else state.globalUnavailable }

def noteResolverSuccess (state : ResolverState) (now : Int) : ResolverState :=
  { state with circuit := ⟨0, now, 0⟩ }

def noteResolverFailure (env : Env) (state : ResolverState) (now : Int) : ResolverState :=
  let windowMs := readPositiveIntEnv env "GATEWAY_SITE_RESOLVE_BREAKER_WINDOW_MS" 20000
  let threshold := readPositiveIntEnv env "GATEWAY_SITE_RESOLVE_BREAKER_THRESHOLD" 3
  let openMs := readPositiveIntEnv env "GATEWAY_SITE_RESOLVE_BREAKER_OPEN_MS" 15000
  let circuit := state.circuit
  let started := if circuit.windowStartMs ≤ 0 ∨ windowMs < now - circuit.windowStartMs then
    { circuit with windowStartMs := now, failures := 0 } else circuit
  let counted := { started with failures := started.failures + 1 }
  { state with
    circuit :=
      if threshold ≤ counted.failures then { counted with openUntilMs := now + openMs }
      else counted }

/-! ### A lookup -/

/-- What a lookup has before its request. -/
inductive LookupStart where
  | answered (result : AoLookupResult)
  | asks

/-- How the request ends; an answer has a body when it parses as JSON. -/
inductive ResolverResponse where
  | answered (status : Nat) (body : Option Json)
  | timedOut
  | failed

/-- `lookupSiteIdViaAo` up to its request. -/
def startLookup (env : Env) (state : ResolverState) (host : JsString) (now : Int) :
    ResolverState × LookupStart :=
  if now < state.circuit.openUntilMs then
    (state, .answered (.unavailable "site_resolver_circuit_open" 503))
  else
    match cachedGlobalAoUnavailable state now with
    | (state, some cached) => (state, .answered (.unavailable cached.error cached.status))
    | (state, none) =>
        match cachedAoUnavailable state host now with
        | (state, some cached) => (state, .answered (.unavailable cached.error cached.status))
        | (state, none) =>
            match cachedAoLookup state host now with
            | (state, some cached) =>
                (state, .answered (cached.siteId.elim .notFound fun siteId =>
                  .resolved siteId cached.runtimeHints))
            | (state, none) =>
                if (readResolverBaseUrl env).isNone then
                  (state, .answered (.unavailable "site_resolver_not_configured" 503))
                else (state, .asks)

/-- A failed request: it counts against the circuit and is remembered. -/
def failLookup (env : Env) (state : ResolverState) (host : JsString) (error : String)
    (status : Nat) (now : Int) : ResolverState × AoLookupResult :=
  (storeAoUnavailable env (noteResolverFailure env state now) host error status now,
    .unavailable error status)

/-- `lookupSiteIdViaAo` behind its request. -/
def finishLookup (env : Env) (state : ResolverState) (host : JsString)
    (response : ResolverResponse) (now : Int) : ResolverState × AoLookupResult :=
  match response with
  | .timedOut => failLookup env state host "site_resolver_timeout" 504 now
  | .failed => failLookup env state host "site_resolver_unavailable" 503 now
  | .answered status body =>
      if status = 404 then
        (noteResolverSuccess (storeAoLookup env state host none none now) now, .notFound)
      else if status < 200 ∨ 300 ≤ status then
        failLookup env state host "site_resolver_unavailable" 503 now
      else
        let parsed := parseResolverBody body
        match parsed.siteId with
        | none => (noteResolverSuccess (storeAoLookup env state host none none now) now, .notFound)
        | some siteId =>
            (noteResolverSuccess
              (storeAoLookup env state host (some siteId) parsed.runtimeHints now) now,
              .resolved siteId parsed.runtimeHints)

/-- A whole lookup whose request, if it makes one, ends as given. -/
def lookupSiteIdViaAo (env : Env) (state : ResolverState) (response : ResolverResponse)
    (startedAt endedAt : Int) (host : JsString) : AoLookupResult :=
  match startLookup env state host startedAt with
  | (_, .answered result) => result
  | (started, .asks) => (finishLookup env started host response endedAt).2

/-! ### Interleaved lookups -/

/-- A block of some lookup of some host. -/
inductive Event where
  | start (host : JsString) (now : Int)
  | finish (host : JsString) (response : ResolverResponse) (now : Int)

/-- Any block may run next. -/
def step (env : Env) (state : ResolverState) : Event → Option ResolverState
  | .start host now => some (startLookup env state host now).1
  | .finish host response now => some (finishLookup env state host response now).1

/-! ### What is resolved is a site id -/

/-- A text that is not blank and has no surrounding space. -/
structure SiteName (site : JsString) : Prop where
  named : site ≠ []
  trimmed : trim site = site

theorem SiteName.ofTrim {text : JsString} (named : trim text ≠ []) : SiteName (trim text) :=
  ⟨named, trim_trim text⟩

theorem trimString_name {value : Option Json} (named : trimString value ≠ []) :
    SiteName (trimString value) := by
  unfold trimString at named ⊢
  split
  next text => exact SiteName.ofTrim named
  next absent =>
    apply False.elim
    apply named
    split
    next text => exact absurd rfl (absent text)
    next => rfl

private theorem firstSite_name {candidates : List JsString} {site : JsString}
    (names : ∀ candidate ∈ candidates, candidate ≠ [] → SiteName candidate)
    (first : firstSite candidates = some site) : SiteName site := by
  induction candidates with
  | nil => exact absurd first (by simp [firstSite])
  | cons candidate rest inductionHypothesis =>
      unfold firstSite at first
      split at first
      next =>
        apply inductionHypothesis _ first
        intro other member
        exact names other (List.mem_cons_of_mem _ member)
      next named =>
        have same : candidate = site := Option.some.inj first
        rw [← same]
        exact names candidate List.mem_cons_self named

theorem parseResolverBody_name {body : Option Json} {site : JsString}
    (parsed : (parseResolverBody body).siteId = some site) : SiteName site := by
  unfold parseResolverBody at parsed
  split at parsed
  next => exact absurd parsed (by simp)
  next record _ =>
    apply firstSite_name _ parsed
    intro candidate member named
    simp only [List.mem_cons, List.not_mem_nil, or_false] at member
    rcases member with rfl | rfl | rfl
    · exact trimString_name named
    · exact trimString_name named
    · exact trimString_name named

/-- Every site the resolver remembers is a site id. -/
def Remembers (state : ResolverState) : Prop :=
  ∀ host cached, state.resolutions.find host = some cached →
    ∀ site, cached.siteId = some site → SiteName site

/-- A lookup that resolves answers a site id. -/
def AnswersNames (result : AoLookupResult) : Prop :=
  ∀ site hints, result = .resolved site hints → SiteName site

theorem remembers_initial : Remembers .initial := by
  intro host cached found
  exact absurd found (by simp [ResolverState.initial])

private theorem cachedGlobalAoUnavailable_resolutions (state : ResolverState) (now : Int) :
    (cachedGlobalAoUnavailable state now).1.resolutions = state.resolutions := by
  unfold cachedGlobalAoUnavailable
  split
  · rfl
  · split
    · rfl
    · rfl

theorem cachedAoUnavailable_resolutions (state : ResolverState) (host : JsString)
    (now : Int) : (cachedAoUnavailable state host now).1.resolutions = state.resolutions := by
  unfold cachedAoUnavailable
  split
  · rfl
  · split
    · rfl
    · rfl

/-- An answer is read from the cache, which loses at most the host's own entry. -/
private theorem cachedAoLookup_cases (state : ResolverState) (host : JsString) (now : Int) :
    ((cachedAoLookup state host now).1.resolutions = state.resolutions ∨
        (cachedAoLookup state host now).1.resolutions = state.resolutions.erase host) ∧
      ∀ cached, (cachedAoLookup state host now).2 = some cached →
        state.resolutions.find host = some cached := by
  unfold cachedAoLookup
  split
  next absent => exact ⟨Or.inl rfl, by simp⟩
  next cached found =>
    split
    next => exact ⟨Or.inr rfl, by simp⟩
    next =>
      refine ⟨Or.inl rfl, ?_⟩
      intro other same
      rw [found]
      exact same

/-- The block in front of the request keeps the resolutions of other hosts, and
resolves a host only as it is remembered. -/
theorem startLookup_resolutions (env : Env) (state : ResolverState) (host : JsString) (now : Int) :
    ((startLookup env state host now).1.resolutions = state.resolutions ∨
        (startLookup env state host now).1.resolutions = state.resolutions.erase host) ∧
      ∀ site hints, (startLookup env state host now).2 = .answered (.resolved site hints) →
        ∃ cached, state.resolutions.find host = some cached ∧ cached.siteId = some site ∧
          cached.runtimeHints = hints := by
  unfold startLookup
  split
  next => exact ⟨Or.inl rfl, by simp⟩
  next =>
    have globalKept := cachedGlobalAoUnavailable_resolutions state now
    split
    next afterGlobal cached asked =>
      rw [asked] at globalKept
      exact ⟨Or.inl globalKept, by simp⟩
    next afterGlobal asked =>
      rw [asked] at globalKept
      have unavailableKept := cachedAoUnavailable_resolutions afterGlobal host now
      split
      next afterUnavailable cached asked =>
        rw [asked] at unavailableKept
        exact ⟨Or.inl (unavailableKept.trans globalKept), by simp⟩
      next afterUnavailable asked =>
        rw [asked] at unavailableKept
        have same := unavailableKept.trans globalKept
        obtain ⟨kept, remembered⟩ := cachedAoLookup_cases afterUnavailable host now
        rw [same] at kept remembered
        split
        next afterLookup cached asked =>
          rw [asked] at kept remembered
          refine ⟨kept, ?_⟩
          intro site hints answered
          refine ⟨cached, remembered cached rfl, ?_⟩
          cases resolved : cached.siteId with
          | none => simp [resolved] at answered
          | some found =>
              simp only [resolved, Option.elim_some, LookupStart.answered.injEq,
                AoLookupResult.resolved.injEq] at answered
              exact ⟨congrArg some answered.1, answered.2⟩
        next afterLookup asked =>
          rw [asked] at kept
          split
          next => exact ⟨kept, by simp⟩
          next => exact ⟨kept, by simp⟩

/-- The block behind the request stores what it answers. -/
theorem finishLookup_resolutions (env : Env) (state : ResolverState) (host : JsString)
    (response : ResolverResponse) (now : Int) :
    ((finishLookup env state host response now).1.resolutions = state.resolutions ∨
        ∃ cached, (finishLookup env state host response now).1.resolutions =
            state.resolutions.set host cached ∧
          ∀ site, cached.siteId = some site → SiteName site) ∧
      AnswersNames (finishLookup env state host response now).2 := by
  unfold finishLookup
  split
  next => exact ⟨Or.inl rfl, by simp [AnswersNames, failLookup]⟩
  next => exact ⟨Or.inl rfl, by simp [AnswersNames, failLookup]⟩
  next status body =>
    split
    next => exact ⟨Or.inr ⟨_, rfl, by simp⟩, by simp [AnswersNames]⟩
    next =>
      split
      next => exact ⟨Or.inl rfl, by simp [AnswersNames, failLookup]⟩
      next =>
        dsimp only
        split
        next => exact ⟨Or.inr ⟨_, rfl, by simp⟩, by simp [AnswersNames]⟩
        next site parsed =>
          have name : SiteName site := parseResolverBody_name parsed
          refine ⟨Or.inr ⟨_, rfl, ?_⟩, ?_⟩
          · intro other same
            exact Option.some.inj same ▸ name
          · intro other hints same
            exact (AoLookupResult.resolved.inj same).1 ▸ name

private theorem Remembers.erase {state next : ResolverState} {host : JsString}
    (remembers : Remembers state)
    (kept : next.resolutions = state.resolutions ∨
      next.resolutions = state.resolutions.erase host) : Remembers next := by
  intro other cached found
  rcases kept with same | erased
  · exact remembers other cached (same ▸ found)
  · rw [erased] at found
    exact remembers other cached (OrderedMap.find_of_erase found)

theorem remembers_step {env : Env} {state next : ResolverState} {event : Event}
    (remembers : Remembers state) (stepped : step env state event = some next) :
    Remembers next := by
  cases event with
  | start host now =>
      rw [← Option.some.inj stepped]
      exact remembers.erase (startLookup_resolutions env state host now).1
  | finish host response now =>
      rw [← Option.some.inj stepped]
      intro other cached found
      rcases (finishLookup_resolutions env state host response now).1 with
        same | ⟨added, set, names⟩
      · exact remembers other cached (same ▸ found)
      · rw [set] at found
        by_cases sameHost : other = host
        · rw [sameHost, OrderedMap.find_set_self] at found
          exact Option.some.inj found ▸ names
        · rw [OrderedMap.find_set_other _ sameHost] at found
          exact remembers other cached found

/-- A state left by any blocks of any lookups. -/
def Reachable (env : Env) (state : ResolverState) : Prop :=
  ∃ events, Machine.run (step env) .initial events = some state

theorem Reachable.remembers {env : Env} {state : ResolverState} (reachable : Reachable env state) :
    Remembers state := by
  obtain ⟨events, reached⟩ := reachable
  exact Machine.run_invariant_always Remembers remembers_step remembers_initial reached

/-- A resolved lookup names a site. -/
theorem lookupSiteIdViaAo_name {env : Env} {state : ResolverState} (remembers : Remembers state)
    (response : ResolverResponse) (startedAt endedAt : Int) (host : JsString) :
    AnswersNames (lookupSiteIdViaAo env state response startedAt endedAt host) := by
  unfold lookupSiteIdViaAo
  split
  next started result asked =>
    intro site hints resolved
    have answered : (startLookup env state host startedAt).2 =
        .answered (.resolved site hints) := by rw [asked, resolved]
    obtain ⟨cached, found, named, -⟩ :=
      (startLookup_resolutions env state host startedAt).2 site hints answered
    exact remembers host cached found site named
  next started asked => exact (finishLookup_resolutions env started host response endedAt).2

end DarkmeshGateway.Gateway.SiteLookup
