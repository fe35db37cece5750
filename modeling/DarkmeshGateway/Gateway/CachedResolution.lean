import DarkmeshGateway.Gateway.SiteLookup

/-!
Contract: what a cached resolution of a host is worth while lookups of other
hosts fail.

Owns which hosts the resolution asks the AO resolver for, resolutions
interleaved with pending lookups, and when a cached site is what a resolution
returns.

Does not own the caches, the circuit breaker or the two blocks of a lookup.
-/

namespace DarkmeshGateway.Gateway.CachedResolution

open Foundation
open Foundation.Js
open Gateway.Environment
open Gateway.SiteResolver
open Gateway.SiteLookup

/-! ### Which hosts the resolver is asked for -/

/-- The resolver is configured, and neither the mode nor the host map answers. -/
def asksResolver (parseJson : JsString → Option Json) (env : Env) (host : JsString) : Bool :=
  let mode := readResolveMode env
  let mapRaw := readHandlerEnvString env "GATEWAY_SITE_ID_BY_HOST_MAP"
  (readResolverBaseUrl env).isSome && mode ≠ .map &&
    (if mode = .ao then none else mapRaw).elim true fun raw =>
      (parseHostMap parseJson raw).any fun map => !(mappedSite map host).truthy

/-- A refused lookup leaves the site to the body of the request. -/
def fallbackAllowed (env : Env) (productionLikeMode : Bool) : Bool :=
  allowFallback env || (!productionLikeMode &&
    (readHandlerEnvString env "GATEWAY_SITE_ID_BY_HOST_MAP").isNone)

/-- What a resolution makes of a lookup. -/
def resolutionOf (fallbackAllowed : Bool) : AoLookupResult → HostSiteResolution
  | .resolved siteId runtimeHints => .ok (some (.text siteId)) runtimeHints
  | .notFound => failOrFallback fallbackAllowed 403 "site_host_not_allowed"
  | .unavailable error status => failOrFallback fallbackAllowed status error

variable {parseJson : JsString → Option Json} {env : Env}

private theorem resolveViaAo_configured {host : JsString} {mode : ResolveMode}
    {mapParsed fallbackAllowed productionLikeMode : Bool}
    (configured : (readResolverBaseUrl env).isSome = true) (lookup : JsString → AoLookupResult) :
    resolveViaAo env lookup host mode mapParsed fallbackAllowed productionLikeMode =
      resolutionOf fallbackAllowed (lookup host) := by
  obtain ⟨baseUrl, present⟩ := Option.isSome_iff_exists.mp configured
  simp only [resolveViaAo, present]
  cases lookup host with
  | resolved siteId runtimeHints => rfl
  | notFound => rfl
  | unavailable error status => rfl

/-- A host the resolver is asked for is answered by its lookup. -/
theorem resolve_asked {hostRaw : JsString}
    (asks : asksResolver parseJson env (normalizeHost hostRaw) = true)
    (lookup : JsString → AoLookupResult) (productionLikeMode : Bool) :
    resolveTemplateSiteIdFromHost parseJson env lookup hostRaw productionLikeMode =
      resolutionOf (fallbackAllowed env productionLikeMode) (lookup (normalizeHost hostRaw)) := by
  simp only [asksResolver, Bool.and_eq_true, decide_eq_true_eq] at asks
  obtain ⟨⟨configured, notMap⟩, unmapped⟩ := asks
  unfold resolveTemplateSiteIdFromHost
  dsimp only
  split
  next noMap =>
    rw [if_neg notMap]
    exact resolveViaAo_configured configured lookup
  next raw hasMap =>
    rw [hasMap, Option.elim_some, Option.any_eq_true] at unmapped
    obtain ⟨map, parsed, missing⟩ := unmapped
    rw [parsed]
    simp only [Bool.not_eq_true'] at missing
    simp only [missing, Bool.false_eq_true, if_false, if_neg notMap]
    exact resolveViaAo_configured configured lookup

/-! ### Interleaved resolutions -/

/-- The resolver with the hosts whose lookups await their answer. -/
structure System where
  resolver : ResolverState
  pending : List JsString

def initial : System := ⟨.initial, []⟩

inductive Event where
  | resolve (hostRaw : JsString) (now : Nat)
  | finish (host : JsString) (response : ResolverResponse) (now : Nat)

def System.resolve (env : Env) (system : System) (host : JsString) (now : Nat) : System :=
  match startLookup env system.resolver host now with
  | (resolver, .answered _) => { system with resolver := resolver }
  | (resolver, .asks) => ⟨resolver, host :: system.pending⟩

/-- A resolution may begin at any time, and any pending lookup may end. -/
def step (parseJson : JsString → Option Json) (env : Env) (system : System) :
    Event → Option System
  | .resolve hostRaw now =>
      if asksResolver parseJson env (normalizeHost hostRaw) then
        some (system.resolve env (normalizeHost hostRaw) now)
      else some system
  | .finish host response now =>
      if host ∈ system.pending then
        some ⟨(finishLookup env system.resolver host response now).1, system.pending.erase host⟩
      else none

/-! ### What happened so far -/

/-- The lookup fails: it times out, throws, or has a status that is neither 404
nor a success. -/
def Fails : ResolverResponse → Bool
  | .timedOut => true
  | .failed => true
  | .answered status _ => status ≠ 404 && (status < 200 || 300 ≤ status)

/-- How many lookups failed since the last one that did not. -/
def failuresInARow (events : List Event) : Nat :=
  events.foldl count 0
where
  count (failures : Nat) : Event → Nat
    | .resolve _ _ => failures
    | .finish _ response _ => if Fails response then failures + 1 else 0

/-- The last lookup of the host to end failed. -/
def lastFailed (host : JsString) (events : List Event) : Bool :=
  events.foldl note false
where
  note (failed : Bool) : Event → Bool
    | .resolve _ _ => failed
    | .finish other response _ => if other = host then Fails response else failed

@[simp] theorem failuresInARow_resolve (events : List Event) (hostRaw : JsString) (now : Nat) :
    failuresInARow (events ++ [.resolve hostRaw now]) = failuresInARow events := by
  simp [failuresInARow, failuresInARow.count]

@[simp] theorem failuresInARow_finish (events : List Event) (host : JsString)
    (response : ResolverResponse) (now : Nat) :
    failuresInARow (events ++ [.finish host response now]) =
      if Fails response then failuresInARow events + 1 else 0 := by
  simp [failuresInARow, failuresInARow.count]

@[simp] theorem lastFailed_resolve (events : List Event) (host hostRaw : JsString) (now : Nat) :
    lastFailed host (events ++ [.resolve hostRaw now]) = lastFailed host events := by
  simp [lastFailed, lastFailed.note]

@[simp] theorem lastFailed_finish (events : List Event) (host other : JsString)
    (response : ResolverResponse) (now : Nat) :
    lastFailed host (events ++ [.finish other response now]) =
      if other = host then Fails response else lastFailed host events := by
  simp [lastFailed, lastFailed.note]

/-! ### What a lookup changes -/

/-- The later state lost at most cache entries. -/
structure Forgets (state later : ResolverState) : Prop where
  resolutions : ∀ host cached, later.resolutions.find host = some cached →
    state.resolutions.find host = some cached
  unavailable : ∀ host cached, later.unavailable.find host = some cached →
    state.unavailable.find host = some cached
  globalUnavailable : state.globalUnavailable = none → later.globalUnavailable = none
  circuit : later.circuit = state.circuit

theorem Forgets.refl (state : ResolverState) : Forgets state state :=
  ⟨fun _ _ found => found, fun _ _ found => found, fun absent => absent, rfl⟩

theorem Forgets.trans {state middle later : ResolverState} (first : Forgets state middle)
    (second : Forgets middle later) : Forgets state later where
  resolutions host cached found := first.resolutions host cached (second.resolutions _ _ found)
  unavailable host cached found := first.unavailable host cached (second.unavailable _ _ found)
  globalUnavailable absent := second.globalUnavailable (first.globalUnavailable absent)
  circuit := second.circuit.trans first.circuit

private theorem cachedGlobalAoUnavailable_forgets (state : ResolverState) (now : Int) :
    Forgets state (cachedGlobalAoUnavailable state now).1 := by
  unfold cachedGlobalAoUnavailable
  split
  next => exact Forgets.refl state
  next cached present =>
    split
    next =>
      exact ⟨fun _ _ found => found, fun _ _ found => found, fun _ => rfl, rfl⟩
    next => exact Forgets.refl state

private theorem cachedAoUnavailable_forgets (state : ResolverState) (host : JsString)
    (now : Int) : Forgets state (cachedAoUnavailable state host now).1 := by
  unfold cachedAoUnavailable
  split
  next => exact Forgets.refl state
  next cached present =>
    split
    next =>
      exact ⟨fun _ _ found => found, fun _ _ found => OrderedMap.find_of_erase found,
        fun absent => absent, rfl⟩
    next => exact Forgets.refl state

private theorem cachedAoLookup_forgets (state : ResolverState) (host : JsString) (now : Int) :
    Forgets state (cachedAoLookup state host now).1 := by
  unfold cachedAoLookup
  split
  next => exact Forgets.refl state
  next cached present =>
    split
    next =>
      exact ⟨fun _ _ found => OrderedMap.find_of_erase found, fun _ _ found => found,
        fun absent => absent, rfl⟩
    next => exact Forgets.refl state

theorem startLookup_forgets (env : Env) (state : ResolverState) (host : JsString) (now : Int) :
    Forgets state (startLookup env state host now).1 := by
  unfold startLookup
  split
  next => exact Forgets.refl state
  next =>
    have first := cachedGlobalAoUnavailable_forgets state now
    split
    next afterGlobal cached asked =>
      rw [asked] at first
      exact first
    next afterGlobal asked =>
      rw [asked] at first
      have second := cachedAoUnavailable_forgets afterGlobal host now
      split
      next afterUnavailable cached asked =>
        rw [asked] at second
        exact first.trans second
      next afterUnavailable asked =>
        rw [asked] at second
        have third := cachedAoLookup_forgets afterUnavailable host now
        split
        next afterLookup cached asked =>
          rw [asked] at third
          exact first.trans (second.trans third)
        next afterLookup asked =>
          rw [asked] at third
          split
          next => exact first.trans (second.trans third)
          next => exact first.trans (second.trans third)

/-- A lookup that fails is noted by the circuit and remembered for its host; any
other is stored and closes the circuit. -/
theorem finishLookup_cases (env : Env) (state : ResolverState) (host : JsString)
    (response : ResolverResponse) (now : Int) :
    (Fails response = true ∧ ∃ error status,
        (finishLookup env state host response now).1 =
          storeAoUnavailable env (noteResolverFailure env state now) host error status now) ∨
      (Fails response = false ∧ ∃ siteId runtimeHints,
        (finishLookup env state host response now).1 =
          noteResolverSuccess (storeAoLookup env state host siteId runtimeHints now) now) := by
  unfold finishLookup
  split
  next => exact Or.inl ⟨rfl, _, _, rfl⟩
  next => exact Or.inl ⟨rfl, _, _, rfl⟩
  next status body =>
    split
    next notFound => exact Or.inr ⟨by simp [Fails, notFound], _, _, rfl⟩
    next other =>
      split
      next refused => exact Or.inl ⟨by simpa [Fails, other] using refused, _, _, rfl⟩
      next accepted =>
        have succeeds : Fails (.answered status body) = false := by
          simp only [Fails, Bool.and_eq_false_iff, Bool.or_eq_false_iff, decide_eq_false_iff_not]
          omega
        dsimp only
        split
        next => exact Or.inr ⟨succeeds, _, _, rfl⟩
        next => exact Or.inr ⟨succeeds, _, _, rfl⟩

/-! ### Invariant -/

def breakerThreshold (env : Env) : Nat :=
  readPositiveIntEnv env "GATEWAY_SITE_RESOLVE_BREAKER_THRESHOLD" 3

/-- What the events so far tell about the caches and the circuit, while failures
are not remembered for all hosts together. -/
structure Invariant (parseJson : JsString → Option Json) (env : Env) (events : List Event)
    (system : System) : Prop where
  noGlobal : system.resolver.globalUnavailable = none
  counted : system.resolver.circuit.failures ≤ failuresInARow events
  opened : 0 < system.resolver.circuit.openUntilMs →
    breakerThreshold env ≤ failuresInARow events
  remembered : ∀ host cached, system.resolver.unavailable.find host = some cached →
    lastFailed host events = true
  asked : ∀ host ∈ system.pending, asksResolver parseJson env host = true
  cached : ∀ host cached, system.resolver.resolutions.find host = some cached →
    asksResolver parseJson env host = true

theorem Invariant.initially (parseJson : JsString → Option Json) (env : Env) :
    Invariant parseJson env [] initial where
  noGlobal := rfl
  counted := Nat.le_refl 0
  opened later := absurd later (by decide)
  remembered host cached found := absurd found (by simp [initial, ResolverState.initial])
  asked host member := absurd member (by simp [initial])
  cached host cached found := absurd found (by simp [initial, ResolverState.initial])

variable {events : List Event} {system : System}

/-- Forgetting keeps what is known, whatever is asked for by now. -/
theorem Invariant.forget (invariant : Invariant parseJson env events system)
    {later : ResolverState} (forgets : Forgets system.resolver later) {pending : List JsString}
    (asked : ∀ host ∈ pending, asksResolver parseJson env host = true) (hostRaw : JsString)
    (now : Nat) :
    Invariant parseJson env (events ++ [.resolve hostRaw now]) ⟨later, pending⟩ where
  noGlobal := forgets.globalUnavailable invariant.noGlobal
  counted := by
    rw [forgets.circuit, failuresInARow_resolve]
    exact invariant.counted
  opened := by
    rw [forgets.circuit, failuresInARow_resolve]
    exact invariant.opened
  remembered host cached found := by
    rw [lastFailed_resolve]
    exact invariant.remembered host cached (forgets.unavailable host cached found)
  asked := asked
  cached host cached found :=
    invariant.cached host cached (forgets.resolutions host cached found)

theorem Invariant.resolve (invariant : Invariant parseJson env events system)
    (hostRaw : JsString) (now : Nat)
    (asks : asksResolver parseJson env (normalizeHost hostRaw) = true) :
    Invariant parseJson env (events ++ [.resolve hostRaw now])
      (system.resolve env (normalizeHost hostRaw) now) := by
  have forgets := startLookup_forgets env system.resolver (normalizeHost hostRaw) now
  unfold System.resolve
  split
  next resolver result started =>
    rw [started] at forgets
    exact invariant.forget forgets invariant.asked hostRaw now
  next resolver started =>
    rw [started] at forgets
    refine invariant.forget forgets ?_ hostRaw now
    intro host member
    rcases List.mem_cons.mp member with rfl | before
    · exact asks
    · exact invariant.asked host before

/-- A failure is one more in a row; it opens the circuit from the threshold on. -/
private theorem noteResolverFailure_circuit (env : Env) (state : ResolverState) (now : Int) :
    let circuit := (noteResolverFailure env state now).circuit
    circuit.failures ≤ state.circuit.failures + 1 ∧
      (0 < circuit.openUntilMs →
        0 < state.circuit.openUntilMs ∨ breakerThreshold env ≤ circuit.failures) := by
  unfold noteResolverFailure breakerThreshold
  dsimp only
  split
  next restarted =>
    split
    next reached => exact ⟨by simp, fun _ => Or.inr reached⟩
    next => exact ⟨by simp, fun later => Or.inl later⟩
  next =>
    split
    next reached => exact ⟨by simp, fun _ => Or.inr reached⟩
    next => exact ⟨by simp, fun later => Or.inl later⟩

theorem Invariant.finish (invariant : Invariant parseJson env events system)
    (noGlobalCache :
      readPositiveIntEnv env "GATEWAY_SITE_RESOLVE_GLOBAL_UNAVAILABLE_CACHE_TTL_MS" 0 = 0)
    {host : JsString} (isPending : host ∈ system.pending) (response : ResolverResponse)
    (now : Nat) :
    Invariant parseJson env (events ++ [.finish host response now])
      ⟨(finishLookup env system.resolver host response now).1, system.pending.erase host⟩ := by
  have asked : ∀ other ∈ system.pending.erase host, asksResolver parseJson env other = true :=
    fun other member => invariant.asked other (List.mem_of_mem_erase member)
  rcases finishLookup_cases env system.resolver host response now with
    ⟨fails, error, status, failed⟩ | ⟨succeeds, siteId, runtimeHints, stored⟩
  · rw [failed]
    obtain ⟨counted, opened⟩ := noteResolverFailure_circuit env system.resolver now
    have row : failuresInARow (events ++ [.finish host response now]) =
        failuresInARow events + 1 := by rw [failuresInARow_finish, if_pos fails]
    have before := invariant.counted
    refine ⟨?_, ?_, ?_, ?_, asked, invariant.cached⟩
    · show (if 0 < _ then _ else _) = none
      rw [noGlobalCache, if_neg (Nat.lt_irrefl 0)]
      exact invariant.noGlobal
    · rw [row]
      exact counted.trans (Nat.succ_le_succ before)
    · intro later
      rw [row]
      rcases opened later with earlier | reached
      · have held := invariant.opened earlier
        omega
      · exact reached.trans (counted.trans (Nat.succ_le_succ before))
    · intro other cached found
      rw [lastFailed_finish]
      split
      next => exact fails
      next different =>
        have kept : system.resolver.unavailable.find other = some cached :=
          (OrderedMap.find_set_other _ (Ne.symm different) _).symm.trans found
        exact invariant.remembered other cached kept
  · rw [stored]
    refine ⟨rfl, Nat.zero_le _, fun later => absurd later (by simp [noteResolverSuccess]), ?_,
      asked, ?_⟩
    · intro other cached found
      have different : host ≠ other := by
        rintro rfl
        exact absurd found (by simp [noteResolverSuccess, storeAoLookup])
      rw [lastFailed_finish, if_neg different]
      exact invariant.remembered other cached (OrderedMap.find_of_erase found)
    · intro other cached found
      by_cases same : other = host
      · exact same ▸ invariant.asked host isPending
      · have kept : system.resolver.resolutions.find other = some cached :=
          (OrderedMap.find_set_other _ same _).symm.trans found
        exact invariant.cached other cached kept

theorem Invariant.step {next : System} {event : Event}
    (invariant : Invariant parseJson env events system)
    (noGlobalCache :
      readPositiveIntEnv env "GATEWAY_SITE_RESOLVE_GLOBAL_UNAVAILABLE_CACHE_TTL_MS" 0 = 0)
    (stepped : step parseJson env system event = some next) :
    Invariant parseJson env (events ++ [event]) next := by
  unfold CachedResolution.step at stepped
  cases event with
  | resolve hostRaw now =>
      dsimp only at stepped
      split at stepped
      next asks =>
        rw [← Option.some.inj stepped]
        exact invariant.resolve hostRaw now asks
      next =>
        rw [← Option.some.inj stepped]
        exact invariant.forget (Forgets.refl _) invariant.asked hostRaw now
  | finish host response now =>
      dsimp only at stepped
      split at stepped
      next isPending =>
        rw [← Option.some.inj stepped]
        exact invariant.finish noGlobalCache isPending response now
      next => cases stepped

theorem run_invariant
    (noGlobalCache :
      readPositiveIntEnv env "GATEWAY_SITE_RESOLVE_GLOBAL_UNAVAILABLE_CACHE_TTL_MS" 0 = 0)
    (reached : Machine.run (step parseJson env) initial events = some system) :
    Invariant parseJson env events system := by
  refine Machine.run_history_invariant (Invariant parseJson env) ?_
    (Invariant.initially parseJson env) (Machine.Meets.of_forall (fun _ _ => trivial) initial)
    reached
  intro before state next event _ invariant _ stepped
  exact invariant.step noGlobalCache stepped

/-! ### Cached resolutions -/

/-- An unexpired site of the host is in the cache. -/
def CachedSite (state : ResolverState) (host : JsString) (now : Nat) (site : JsString)
    (hints : Option RuntimeRoutingHints) : Prop :=
  ∃ entry ∈ state.resolutions.find host, (now : Int) < entry.expiresAt ∧
    entry.siteId = some site ∧ entry.runtimeHints = hints

abbrev CircuitOpen (state : ResolverState) (now : Nat) : Prop :=
  (now : Int) < state.circuit.openUntilMs

/-- A failed lookup of the host is remembered. -/
def FailureRemembered (state : ResolverState) (host : JsString) (now : Nat) : Prop :=
  ∃ entry ∈ state.unavailable.find host, (now : Int) < entry.expiresAt

instance (state : ResolverState) (host : JsString) (now : Nat) (site : JsString) :
    Decidable (CachedSite state host now site none) :=
  inferInstanceAs (Decidable (∃ _ ∈ _, _))

instance (state : ResolverState) (host : JsString) (now : Nat) :
    Decidable (FailureRemembered state host now) :=
  inferInstanceAs (Decidable (∃ _ ∈ _, _))

/-- The resolution of the host, whatever its request would be answered. -/
def Resolves (parseJson : JsString → Option Json) (env : Env) (state : ResolverState)
    (hostRaw : JsString) (productionLikeMode : Bool) (now : Nat) (resolution : HostSiteResolution) :
    Prop :=
  ∀ response endedAt, resolveTemplateSiteIdFromHost parseJson env
    (lookupSiteIdViaAo env state response now endedAt) hostRaw productionLikeMode = resolution

/-- A lookup that is answered without a request. -/
private theorem lookup_answered {state : ResolverState} {host : JsString} {now : Nat}
    {result : AoLookupResult} (answered : (startLookup env state host now).2 = .answered result)
    (response : ResolverResponse) (endedAt : Int) :
    lookupSiteIdViaAo env state response now endedAt host = result := by
  unfold lookupSiteIdViaAo
  split
  next started other asked =>
    rw [asked] at answered
    exact LookupStart.answered.inj answered
  next started asked =>
    rw [asked] at answered
    cases answered

theorem startLookup_open {state : ResolverState} {now : Nat} (opened : CircuitOpen state now)
    (host : JsString) : (startLookup env state host now).2 =
      .answered (.unavailable "site_resolver_circuit_open" 503) := by
  unfold startLookup
  rw [if_pos opened]

private theorem cachedAoUnavailable_isSome_iff (state : ResolverState) (host : JsString)
    (now : Nat) :
    (cachedAoUnavailable state host now).2.isSome = true ↔ FailureRemembered state host now := by
  unfold cachedAoUnavailable FailureRemembered
  split
  next absent => simp [absent]
  next entry found =>
    split
    next expired => simp [found, expired]
    next alive => simp [found, not_le.mp alive]

theorem startLookup_remembered {state : ResolverState} {host : JsString} {now : Nat}
    (closed : ¬CircuitOpen state now) (noGlobal : state.globalUnavailable = none)
    (remembered : FailureRemembered state host now) :
    ∃ error status, (startLookup env state host now).2 = .answered (.unavailable error status) := by
  have noneGlobal : cachedGlobalAoUnavailable state now = (state, none) := by
    simp [cachedGlobalAoUnavailable, noGlobal]
  have present := (cachedAoUnavailable_isSome_iff state host now).mpr remembered
  obtain ⟨cached, known⟩ := Option.isSome_iff_exists.mp present
  unfold startLookup
  rw [if_neg closed, noneGlobal]
  dsimp only
  split
  next later asked => exact ⟨_, _, rfl⟩
  next later asked =>
    rw [asked] at known
    cases known

theorem startLookup_cached {state : ResolverState} {host : JsString} {now : Nat}
    {site : JsString} {hints : Option RuntimeRoutingHints}
    (cached : CachedSite state host now site hints) (closed : ¬CircuitOpen state now)
    (noGlobal : state.globalUnavailable = none) (forgotten : ¬FailureRemembered state host now) :
    (startLookup env state host now).2 = .answered (.resolved site hints) := by
  have noneGlobal : cachedGlobalAoUnavailable state now = (state, none) := by
    simp [cachedGlobalAoUnavailable, noGlobal]
  have kept := cachedAoUnavailable_resolutions state host now
  rw [← cachedAoUnavailable_isSome_iff] at forgotten
  obtain ⟨entry, found, alive, siteEq, hintsEq⟩ := cached
  unfold startLookup
  rw [if_neg closed, noneGlobal]
  dsimp only
  split
  next later failure asked =>
    rw [asked] at forgotten
    exact absurd rfl forgotten
  next later asked =>
    rw [asked] at kept
    have held : cachedAoLookup later host now = (later, some entry) := by
      unfold cachedAoLookup
      rw [kept, found]
      dsimp only
      rw [if_neg (by omega)]
    rw [held]
    dsimp only
    rw [siteEq, Option.elim_some, hintsEq]

/-- What a lookup is answered without a request, the resolution makes of it. -/
private theorem resolves_of_answered {state : ResolverState} {hostRaw : JsString} {now : Nat}
    {result : AoLookupResult}
    (asks : asksResolver parseJson env (normalizeHost hostRaw) = true)
    (answered : (startLookup env state (normalizeHost hostRaw) now).2 = .answered result)
    (productionLikeMode : Bool) :
    Resolves parseJson env state hostRaw productionLikeMode now
      (resolutionOf (fallbackAllowed env productionLikeMode) result) := by
  intro response endedAt
  rw [resolve_asked asks, lookup_answered answered]

/-- A cached site is withheld while the circuit is open or a failed lookup of the
host is remembered. -/
theorem not_resolves_of_refused {state : ResolverState} {hostRaw : JsString} {now : Nat}
    (asks : asksResolver parseJson env (normalizeHost hostRaw) = true)
    (noGlobal : state.globalUnavailable = none)
    (refused : CircuitOpen state now ∨ FailureRemembered state (normalizeHost hostRaw) now)
    (productionLikeMode : Bool) (site : Value) (hints : Option RuntimeRoutingHints) :
    ¬Resolves parseJson env state hostRaw productionLikeMode now (.ok (some site) hints) := by
  have unavailable : ∃ error status,
      (startLookup env state (normalizeHost hostRaw) now).2 =
        .answered (.unavailable error status) := by
    by_cases opened : CircuitOpen state now
    · exact ⟨_, _, startLookup_open opened _⟩
    · exact startLookup_remembered opened noGlobal (refused.resolve_left opened)
  obtain ⟨error, status, answered⟩ := unavailable
  intro returned
  have failed := resolves_of_answered asks answered productionLikeMode .timedOut now
  exact failOrFallback_site (failed.symm.trans (returned .timedOut now))

/-- What a cached site is worth: it is returned exactly while the circuit is
closed and no failure of the host itself is remembered. Failures of other hosts
take it away only by opening the circuit, with a row of them as long as the
threshold. -/
structure Shielded (parseJson : JsString → Option Json) (env : Env) (events : List Event)
    (state : ResolverState) (hostRaw : JsString) (productionLikeMode : Bool) (now : Nat)
    (site : JsString) (hints : Option RuntimeRoutingHints) : Prop where
  returned : Resolves parseJson env state hostRaw productionLikeMode now
      (.ok (some (.text site)) hints) ↔
    ¬CircuitOpen state now ∧ ¬FailureRemembered state (normalizeHost hostRaw) now
  circuit : CircuitOpen state now → breakerThreshold env ≤ failuresInARow events ∧
    Resolves parseJson env state hostRaw productionLikeMode now
      (failOrFallback (fallbackAllowed env productionLikeMode) 503 "site_resolver_circuit_open")
  ownFailure : FailureRemembered state (normalizeHost hostRaw) now →
    lastFailed (normalizeHost hostRaw) events = true

/-- In every interleaving, without a cache of failures for all hosts together. -/
theorem cached_site_shielded
    (noGlobalCache :
      readPositiveIntEnv env "GATEWAY_SITE_RESOLVE_GLOBAL_UNAVAILABLE_CACHE_TTL_MS" 0 = 0)
    (reached : Machine.run (step parseJson env) initial events = some system)
    {hostRaw : JsString} {now : Nat} {site : JsString} {hints : Option RuntimeRoutingHints}
    (cached : CachedSite system.resolver (normalizeHost hostRaw) now site hints)
    (productionLikeMode : Bool) :
    Shielded parseJson env events system.resolver hostRaw productionLikeMode now site hints := by
  have invariant := run_invariant noGlobalCache reached
  have asks : asksResolver parseJson env (normalizeHost hostRaw) = true := by
    obtain ⟨entry, found, -⟩ := cached
    exact invariant.cached _ entry found
  refine ⟨⟨?_, ?_⟩, ?_, ?_⟩
  · intro returned
    have neither {refused : Prop} (impossible : refused → CircuitOpen system.resolver now ∨
        FailureRemembered system.resolver (normalizeHost hostRaw) now) : ¬refused := fun holds =>
      not_resolves_of_refused asks invariant.noGlobal (impossible holds) productionLikeMode _ _
        returned
    exact ⟨neither Or.inl, neither Or.inr⟩
  · intro shielded
    have answered : (startLookup env system.resolver (normalizeHost hostRaw) now).2 =
        .answered (.resolved site hints) :=
      startLookup_cached cached shielded.1 invariant.noGlobal shielded.2
    exact resolves_of_answered asks answered productionLikeMode
  · intro opened
    have later : 0 < system.resolver.circuit.openUntilMs := by
      have ahead : (now : Int) < system.resolver.circuit.openUntilMs := opened
      omega
    have refused := resolves_of_answered asks (startLookup_open opened _) productionLikeMode
    exact ⟨invariant.opened later, refused⟩
  · intro remembered
    obtain ⟨entry, found, -⟩ := remembered
    exact invariant.remembered _ entry found

/-- Every setting but the resolver's address is the default. -/
def defaultEnv : Env := fun name =>
  if name = "GATEWAY_SITE_RESOLVE_AO_URL" then some (js "https://resolver.example") else none

def noMap : JsString → Option Json := fun _ => none

def shop : JsString := js "shop.example"

def shopAnswer : ResolverResponse := .answered 200 (some (.obj [(js "siteId", .str (js "site-1"))]))

/-- The shop is resolved, and the lookups of two other hosts fail. -/
def twoFailures : List Event :=
  [.resolve shop 1000, .finish shop shopAnswer 1100, .resolve (js "a.example") 1200,
    .resolve (js "b.example") 1200, .finish (js "a.example") .timedOut 2000,
    .finish (js "b.example") .failed 2001]

/-- The shop is still resolved. -/
theorem two_failures_shielded :
    ∃ system ∈ Machine.run (step noMap defaultEnv) initial twoFailures,
      Resolves noMap defaultEnv system.resolver shop true 2002
        (.ok (some (.text (js "site-1"))) none) := by
  have noGlobalCache : readPositiveIntEnv defaultEnv
      "GATEWAY_SITE_RESOLVE_GLOBAL_UNAVAILABLE_CACHE_TTL_MS" 0 = 0 := by decide +kernel
  have computed : ∃ system ∈ Machine.run (step noMap defaultEnv) initial twoFailures,
      CachedSite system.resolver (normalizeHost shop) 2002 (js "site-1") none ∧
        ¬CircuitOpen system.resolver 2002 ∧
        ¬FailureRemembered system.resolver (normalizeHost shop) 2002 := by decide +kernel
  obtain ⟨system, reached, cached, undisturbed⟩ := computed
  exact ⟨system, reached,
    (cached_site_shielded noGlobalCache reached cached true).returned.mpr undisturbed⟩

/-- A third failure opens the circuit. -/
def threeFailures : List Event :=
  twoFailures ++ [.resolve (js "c.example") 2002, .finish (js "c.example") .failed 2003]

/-- Two lookups of the shop: the one that ends last times out. -/
def overlappingLookups : List Event :=
  [.resolve shop 1000, .resolve shop 1001, .finish shop shopAnswer 1100,
    .finish shop .timedOut 6001]

/-- The shop's site is cached and not returned: after failures of three other
hosts, and after a failed lookup of its own. -/
theorem cached_site_withheld :
    (∃ system ∈ Machine.run (step noMap defaultEnv) initial threeFailures,
      CachedSite system.resolver (normalizeHost shop) 2004 (js "site-1") none ∧
      ¬Resolves noMap defaultEnv system.resolver shop true 2004
        (.ok (some (.text (js "site-1"))) none)) ∧
    ∃ system ∈ Machine.run (step noMap defaultEnv) initial overlappingLookups,
      CachedSite system.resolver (normalizeHost shop) 6002 (js "site-1") none ∧
      ¬Resolves noMap defaultEnv system.resolver shop true 6002
        (.ok (some (.text (js "site-1"))) none) := by
  have asks : asksResolver noMap defaultEnv (normalizeHost shop) = true := by decide +kernel
  have noGlobalCache : readPositiveIntEnv defaultEnv
      "GATEWAY_SITE_RESOLVE_GLOBAL_UNAVAILABLE_CACHE_TTL_MS" 0 = 0 := by decide +kernel
  have opened : ∃ system ∈ Machine.run (step noMap defaultEnv) initial threeFailures,
      CachedSite system.resolver (normalizeHost shop) 2004 (js "site-1") none ∧
        CircuitOpen system.resolver 2004 := by decide +kernel
  have remembered : ∃ system ∈ Machine.run (step noMap defaultEnv) initial overlappingLookups,
      CachedSite system.resolver (normalizeHost shop) 6002 (js "site-1") none ∧
        FailureRemembered system.resolver (normalizeHost shop) 6002 := by decide +kernel
  constructor
  · obtain ⟨system, reached, cached, refused⟩ := opened
    have noGlobal := (run_invariant noGlobalCache reached).noGlobal
    exact ⟨system, reached, cached,
      not_resolves_of_refused asks noGlobal (Or.inl refused) true _ _⟩
  · obtain ⟨system, reached, cached, refused⟩ := remembered
    have noGlobal := (run_invariant noGlobalCache reached).noGlobal
    exact ⟨system, reached, cached,
      not_resolves_of_refused asks noGlobal (Or.inr refused) true _ _⟩

end DarkmeshGateway.Gateway.CachedResolution
