import DarkmeshGateway.AsyncWorker.RefreshSoundness
import DarkmeshGateway.Foundation.Machine

/-!
Contract: whether an entry of the domain map belongs to one config.

Owns the runs of refreshes and probes of one domain over the store, the
routing fields they leave in its record, and when these are the ones of the
config refreshed last.

Does not own the records of other domains.
-/

namespace DarkmeshGateway.AsyncWorker.EntryCoherence

open Foundation
open Foundation.Js
open Foundation.Outcome
open AsyncWorker.ConfigSignature (Platform)
open AsyncWorker.DomainMap
open AsyncWorker.DomainState
open AsyncWorker.Refresh
open AsyncWorker.RefreshSoundness

/-! ### Runs -/

/-- A tracked refresh of the domain, or the outcome of a probe that is put. -/
inductive Event where
  | refresh (env : Env) (input : DomainRefreshRequest) (answers : Answers)
      (persistence : PersistenceAnswers)
  | probe (outcome : DomainProbeOutcome) (nowMs : Int)

/-- One event of a domain; `none` when it is not one. -/
def step (platform : Platform) (domain : JsString) (store : Store) : Event → Option Store
  | .refresh env input answers persistence =>
      if normalizeDomain (some (.str input.domain)) = .ok domain then
        some (Store.putAll store
          (runDomainRefreshTracked platform env input answers store persistence).puts)
      else none
  | .probe outcome nowMs => do
      let current ← getDomainMapEntry store domain nowMs
      let entry ← applyProbeOutcome current outcome domain nowMs
      let key ← domainMapKey entry.host
      return DomainMap.Store.put store key entry

/-! ### Routing fields -/

/-- The fields a refresh takes from a config. -/
structure Served where
  cfgTx : Option JsString
  resolvedTarget : Option JsString
  writeProcess : Option JsString
  configHash : Option JsString
deriving DecidableEq

def Served.none : Served := ⟨.none, .none, .none, .none⟩

def servedBy (entry : DomainMapEntry) : Served :=
  ⟨entry.cfgTx, entry.resolvedTarget, entry.writeProcess, entry.configHash⟩

/-- The fields of the config a refresh has read. -/
def servedOf (result : RefreshResult) : Served :=
  ⟨some result.cfgTx, some result.resolvedTarget, result.writeProcess, some result.configHash⟩

/-- What a put does to the fields: a success routes by its config, anything
else keeps them. -/
inductive Effect where
  | routed (result : RefreshResult)
  | kept

def Effect.apply (effect : Effect) (served : Option Served) : Served :=
  let before := served.getD Served.none
  match effect with
  | .routed result =>
      { servedOf result with writeProcess := result.writeProcess.or before.writeProcess }
  | .kept => before

/-- The put of a persistence takes effect. -/
def StoreBehaviour.lands (behaviour : StoreBehaviour) : Bool :=
  !behaviour.readThrows && behaviour.put ≠ .lost

/-- The persistence throws. -/
def StoreBehaviour.throws (behaviour : StoreBehaviour) : Bool :=
  behaviour.readThrows || behaviour.put ≠ .written

/-- The puts of an event, in their order. -/
def effects (platform : Platform) (domain : JsString) : Event → List Effect
  | .probe _ _ => [.kept]
  | .refresh env input answers persistence =>
      let failed := if StoreBehaviour.lands persistence.failure then [Effect.kept] else []
      if !env.domainMapKv then []
      else
        match runDomainRefresh platform env { input with domain } answers with
        | .error _ => failed
        | .ok result =>
            (if StoreBehaviour.lands persistence.success then [Effect.routed result] else []) ++
              if StoreBehaviour.throws persistence.success then failed else []

/-- The fields left by a list of puts. -/
def servedAfter (served : Option Served) (effects : List Effect) : Option Served :=
  effects.foldl (fun served effect => some (effect.apply served)) served

/-! ### The record of a domain -/

/-- The key of a domain. -/
def recordKey (domain : JsString) : JsString := js "domain:" ++ domain

/-- A current entry of the domain with the fields. -/
structure EntryOf (domain : JsString) (served : Served) (entry : DomainMapEntry) : Prop where
  version : entry.schemaVersion = 2
  host : entry.host = domain
  fields : servedBy entry = served

/-- The store holds such an entry, or none at all. -/
def Stored (domain : JsString) (served : Option Served) (store : Store) : Prop :=
  match served with
  | none => store (recordKey domain) = none
  | some served => ∃ entry, EntryOf domain served entry ∧
      store (recordKey domain) = some (.json (.obj entry.toFields))

variable {domain : JsString}

theorem domainMapKey_eq (host : normalizeDomainHost domain = some domain) :
    domainMapKey domain = some (recordKey domain) := by
  rw [domainMapKey, host, Option.map_some, recordKey]

/-- Reading the record gives an entry with the same fields. -/
theorem read_stored (host : normalizeDomainHost domain = some domain) {served : Option Served}
    {store : Store} (stored : Stored domain served store) (nowMs : Int) :
    ∃ current, getDomainMapEntry store domain nowMs = some current ∧
      (current = none ∧ served = none ∨
        ∃ entry fields, current = some entry ∧ served = some fields ∧
          EntryOf domain fields entry) := by
  have key := domainMapKey_eq host
  cases served with
  | none =>
      have absent : store (recordKey domain) = none := stored
      refine ⟨none, ?_, Or.inl ⟨rfl, rfl⟩⟩
      simp [getDomainMapEntry, key, absent]
  | some fields =>
      obtain ⟨entry, entryOf, present⟩ := stored
      have normal : normalizeDomainHost entry.host = some entry.host := by
        rw [entryOf.host]
        exact host
      let read := migratedEntry entry.toFields 2 nowMs (emptyEntry entry.host nowMs)
      obtain ⟨cfgTx, resolvedTarget, writeProcess, configHash⟩ :=
        migrated_routing entry 2 nowMs (emptyEntry entry.host nowMs)
      have sameFields : servedBy read = fields := by
        rw [← entryOf.fields]
        simp only [servedBy, read, cfgTx, resolvedTarget, writeProcess, configHash]
      refine ⟨some read, ?_, Or.inr ⟨read, fields, rfl, rfl, rfl, ?_, sameFields⟩⟩
      · simp [getDomainMapEntry, key, present, parse_toFields entryOf.version,
          migrate_toFields normal, read]
      · exact entryOf.host

/-- Every transition starts from an entry of the domain. -/
theorem startingEntry_of_read (host : normalizeDomainHost domain = some domain)
    {served : Option Served} {current : Option DomainMapEntry}
    (read : current = none ∧ served = none ∨
      ∃ entry fields, current = some entry ∧ served = some fields ∧ EntryOf domain fields entry)
    (nowMs : Int) :
    ∃ entry, startingEntry current domain nowMs = some entry ∧
      EntryOf domain (served.getD Served.none) entry := by
  have expired {fields : Served} {entry : DomainMapEntry} (entryOf : EntryOf domain fields entry) :
      EntryOf domain fields (applyHardExpiry entry nowMs) := by
    have routing := applyHardExpiry_routing entry nowMs
    refine ⟨routing.schemaVersion.trans entryOf.version, routing.host.trans entryOf.host, ?_⟩
    rw [← entryOf.fields]
    simp only [servedBy, routing.cfgTx, routing.resolvedTarget, routing.writeProcess,
      routing.configHash]
  rcases read with ⟨rfl, rfl⟩ | ⟨entry, fields, rfl, rfl, entryOf⟩
  · refine ⟨applyHardExpiry (emptyEntry domain nowMs) nowMs, ?_, expired ⟨rfl, rfl, rfl⟩⟩
    simp [startingEntry, createEmptyDomainMapEntry, host]
  · exact ⟨applyHardExpiry entry nowMs, rfl, expired entryOf⟩

/-! ### Steps -/

/-- The effect the put of an outcome has. -/
inductive Causes : DomainRefreshOutcome → Effect → Prop where
  | success (result : RefreshResult) (nowMs : Int) :
      Causes (.success (successOutcome result nowMs)) (.routed result)
  | failure (error : OutcomeError) : Causes (.failure error) .kept

theorem applyRefreshOutcome_causes (host : normalizeDomainHost domain = some domain)
    {served : Option Served} {current : Option DomainMapEntry}
    (read : current = none ∧ served = none ∨
      ∃ entry fields, current = some entry ∧ served = some fields ∧ EntryOf domain fields entry)
    {outcome : DomainRefreshOutcome} {effect : Effect} (causes : Causes outcome effect)
    (nowMs : Int) (options : DomainStateMachineOptions) :
    ∃ entry, applyRefreshOutcome current outcome domain nowMs options = some entry ∧
      EntryOf domain (effect.apply served) entry := by
  obtain ⟨starting, started, entryOf⟩ := startingEntry_of_read host read nowMs
  cases causes with
  | success result at_ =>
      refine ⟨succeed starting (successOutcome result at_) nowMs options, ?_, entryOf.version,
        entryOf.host, ?_⟩
      · rw [applyRefreshOutcome, started, Option.map_some]
      · have write : starting.writeProcess = (served.getD Served.none).writeProcess := by
          rw [← entryOf.fields, servedBy]
        simp only [servedBy, succeed, successOutcome, Effect.apply, servedOf, write, Option.some_or]
  | failure error =>
      refine ⟨{ recordError starting error nowMs with
        refreshAttempts := nextAttempt starting.refreshAttempts }, ?_, entryOf.version,
        entryOf.host, entryOf.fields⟩
      rw [applyRefreshOutcome, started, Option.map_some]

theorem applyProbeOutcome_keeps (host : normalizeDomainHost domain = some domain)
    {served : Option Served} {current : Option DomainMapEntry}
    (read : current = none ∧ served = none ∨
      ∃ entry fields, current = some entry ∧ served = some fields ∧ EntryOf domain fields entry)
    (outcome : DomainProbeOutcome) (nowMs : Int) :
    ∃ entry, applyProbeOutcome current outcome domain nowMs = some entry ∧
      EntryOf domain (Effect.kept.apply served) entry := by
  obtain ⟨starting, started, entryOf⟩ := startingEntry_of_read host read nowMs
  simp only [applyProbeOutcome, started, Option.map_some]
  refine ⟨_, rfl, ?_⟩
  cases outcome with
  | success =>
      dsimp only
      split
      · exact ⟨entryOf.version, entryOf.host, entryOf.fields⟩
      · exact ⟨entryOf.version, entryOf.host, entryOf.fields⟩
  | failure error => exact ⟨entryOf.version, entryOf.host, entryOf.fields⟩

private theorem stored_put {fields : Served} {entry : DomainMapEntry}
    (entryOf : EntryOf domain fields entry) (store : Store) :
    Stored domain (some fields) (DomainMap.Store.put store (recordKey domain) entry) :=
  ⟨entry, entryOf, Function.update_self _ _ _⟩

/-- A persistence throws and lands as the store behaves, and its put has the
effect of its outcome. -/
theorem persistOutcome_stored (host : normalizeDomainHost domain = some domain)
    {served : Option Served} {store : Store} (stored : Stored domain served store)
    {outcome : DomainRefreshOutcome} {effect : Effect} (causes : Causes outcome effect) (env : Env)
    (nowMs : Int) (behaviour : StoreBehaviour) :
    let persisted := persistOutcome store domain outcome env nowMs behaviour
    persisted.threw = StoreBehaviour.throws behaviour ∧
      Stored domain
        (servedAfter served (if StoreBehaviour.lands behaviour then [effect] else []))
        (Store.putAll store persisted.puts) := by
  obtain ⟨current, read, related⟩ := read_stored host stored nowMs
  obtain ⟨entry, applied, entryOf⟩ := applyRefreshOutcome_causes host related causes nowMs
    (domainStateOptionsFromEnv env)
  have key : domainMapKey entry.host = some (recordKey domain) := by
    rw [entryOf.host, domainMapKey_eq host]
  have written := stored_put entryOf store
  dsimp only
  obtain ⟨readThrows, put⟩ := behaviour
  cases readThrows with
  | true => exact ⟨rfl, stored⟩
  | false =>
      cases put with
      | written =>
          simp only [persistOutcome, read, applied, key, Option.bind_eq_bind, Option.bind_some]
          exact ⟨rfl, written⟩
      | lost =>
          simp only [persistOutcome, read, applied, key, Option.bind_eq_bind, Option.bind_some]
          exact ⟨rfl, stored⟩
      | late =>
          simp only [persistOutcome, read, applied, key, Option.bind_eq_bind, Option.bind_some]
          exact ⟨rfl, written⟩

theorem servedAfter_append (served : Option Served) (first second : List Effect) :
    servedAfter served (first ++ second) = servedAfter (servedAfter served first) second :=
  List.foldl_append

private theorem putAll_append (store : Store) (first second : List Put) :
    Store.putAll store (first ++ second) = Store.putAll (Store.putAll store first) second :=
  List.foldl_append

/-- A persistence that does not throw has landed. -/
private theorem lands_of_not_throws {behaviour : StoreBehaviour}
    (quiet : StoreBehaviour.throws behaviour = false) :
    StoreBehaviour.lands behaviour = true := by
  simp only [StoreBehaviour.throws, Bool.or_eq_false_iff, decide_eq_false_iff_not,
    not_not] at quiet
  simp [StoreBehaviour.lands, quiet.1, quiet.2]

section Tracked

variable {platform : Platform} {env : Env} {input : DomainRefreshRequest} {answers : Answers}
  {persistence : PersistenceAnswers} {served : Option Served} {store : Store}

/-- A tracked refresh leaves the fields its effects give. -/
theorem tracked_stored (normal : normalizeDomain (some (.str input.domain)) = .ok domain)
    (stored : Stored domain served store) :
    Stored domain
      (servedAfter served (effects platform domain (.refresh env input answers persistence)))
      (Store.putAll store
        (runDomainRefreshTracked platform env input answers store persistence).puts) := by
  have host := normalizeDomain_host normal
  cases bound : env.domainMapKv with
  | false =>
      rw [runDomainRefreshTracked_unbound normal bound]
      simp only [effects, bound, Bool.not_false, if_true]
      exact stored
  | true =>
      simp only [effects, bound, Bool.not_true, Bool.false_eq_true, if_false]
      cases refreshed : runDomainRefresh platform env { input with domain } answers with
      | error failure =>
          rw [runDomainRefreshTracked_error normal bound refreshed]
          exact (persistOutcome_stored host stored (.failure _) env persistence.failureNowMs
            persistence.failure).2
      | ok result =>
          obtain ⟨threw, written⟩ := persistOutcome_stored host stored
            (.success result persistence.successNowMs) env persistence.successNowMs
            persistence.success
          rw [← runDomainRefresh_domain normal refreshed] at threw
          cases throws : StoreBehaviour.throws persistence.success with
          | false =>
              rw [runDomainRefreshTracked_written normal bound refreshed (threw.trans throws)]
              simp only [Bool.false_eq_true, if_false, List.append_nil,
                persistDomainRefreshSuccess, runDomainRefresh_domain normal refreshed]
              exact written
          | true =>
              rw [runDomainRefreshTracked_thrown normal bound refreshed (threw.trans throws)]
              simp only [if_true, putAll_append, servedAfter_append,
                persistDomainRefreshSuccess, runDomainRefresh_domain normal refreshed]
              exact (persistOutcome_stored host written (.failure _) env
                persistence.failureNowMs persistence.failure).2

/-- A tracked refresh with a domain map answers with a result exactly when its
refresh succeeds and the success is put without a throw. -/
theorem tracked_eq_ok (normal : normalizeDomain (some (.str input.domain)) = .ok domain)
    (bound : env.domainMapKv = true) (stored : Stored domain served store)
    {result : RefreshResult} :
    (runDomainRefreshTracked platform env input answers store persistence).outcome = .ok result ↔
      runDomainRefresh platform env { input with domain } answers = .ok result ∧
        StoreBehaviour.throws persistence.success = false := by
  have host := normalizeDomain_host normal
  cases refreshed : runDomainRefresh platform env { input with domain } answers with
  | error failure =>
      rw [runDomainRefreshTracked_error normal bound refreshed]
      simp
  | ok found =>
      obtain ⟨threw, -⟩ := persistOutcome_stored host stored
        (.success found persistence.successNowMs) env persistence.successNowMs
        persistence.success
      rw [← runDomainRefresh_domain normal refreshed] at threw
      cases throws : StoreBehaviour.throws persistence.success with
      | false =>
          rw [runDomainRefreshTracked_written normal bound refreshed (threw.trans throws)]
          simp
      | true =>
          rw [runDomainRefreshTracked_thrown normal bound refreshed (threw.trans throws)]
          simp

/-- A refresh that answers with a result has put exactly that result. -/
theorem effects_of_ok (normal : normalizeDomain (some (.str input.domain)) = .ok domain)
    (bound : env.domainMapKv = true) (stored : Stored domain served store)
    {result : RefreshResult}
    (succeeded : (runDomainRefreshTracked platform env input answers store persistence).outcome =
      .ok result) :
    effects platform domain (.refresh env input answers persistence) = [.routed result] := by
  obtain ⟨refreshed, quiet⟩ := (tracked_eq_ok normal bound stored).mp succeeded
  simp [effects, bound, refreshed, quiet, lands_of_not_throws quiet]

end Tracked

theorem step_stored (host : normalizeDomainHost domain = some domain) {platform : Platform}
    {served : Option Served} {store next : Store} {event : Event}
    (stored : Stored domain served store) (stepped : step platform domain store event = some next) :
    Stored domain (servedAfter served (effects platform domain event)) next := by
  cases event with
  | refresh env input answers persistence =>
      simp only [step, Option.ite_none_right_eq_some, Option.some.injEq] at stepped
      obtain ⟨normal, rfl⟩ := stepped
      exact tracked_stored normal stored
  | probe outcome nowMs =>
      obtain ⟨current, read, related⟩ := read_stored host stored nowMs
      obtain ⟨entry, applied, entryOf⟩ := applyProbeOutcome_keeps host related outcome nowMs
      have key : domainMapKey entry.host = some (recordKey domain) := by
        rw [entryOf.host, domainMapKey_eq host]
      simp only [step, read, applied, key, Option.bind_eq_bind, Option.bind_some, Option.pure_def,
        Option.some.injEq] at stepped
      rw [← stepped]
      exact stored_put entryOf store

/-- A run leaves the fields the effects of its events give. -/
theorem run_stored (host : normalizeDomainHost domain = some domain) {platform : Platform}
    {served : Option Served} {store final : Store} {events : List Event}
    (stored : Stored domain served store)
    (reached : Machine.run (step platform domain) store events = some final) :
    Stored domain (servedAfter served (events.flatMap (effects platform domain))) final := by
  induction events generalizing store served with
  | nil =>
      obtain rfl : store = final := by simpa using reached
      exact stored
  | cons event rest inductionHypothesis =>
      obtain ⟨next, stepped, continued⟩ := Machine.run_cons_eq_some.mp reached
      have after := inductionHypothesis (step_stored host stored stepped) continued
      rwa [List.flatMap_cons, servedAfter_append]

/-! ### Coherence -/

/-- Whenever the record is read it holds the fields of the config of a refresh. -/
def Coherent (domain : JsString) (result : RefreshResult) (store : Store) : Prop :=
  ∀ nowMs, ∃ entry, getDomainMapEntry store domain nowMs = some (some entry) ∧
    servedBy entry = servedOf result

theorem coherent_iff (host : normalizeDomainHost domain = some domain) {fields : Served}
    {store : Store} (stored : Stored domain (some fields) store) (result : RefreshResult) :
    Coherent domain result store ↔ fields = servedOf result := by
  have readable (nowMs : Int) : ∃ entry, getDomainMapEntry store domain nowMs = some (some entry) ∧
      servedBy entry = fields := by
    obtain ⟨current, read, ⟨-, impossible⟩ | ⟨entry, found, rfl, same, entryOf⟩⟩ :=
      read_stored host stored nowMs
    · exact absurd impossible (by simp)
    · obtain rfl := Option.some.inj same
      exact ⟨entry, read, entryOf.fields⟩
  constructor
  · intro coherent
    obtain ⟨entry, read, same⟩ := coherent 0
    obtain ⟨other, again, fieldsOf⟩ := readable 0
    obtain rfl : entry = other := by simpa [read] using again
    exact fieldsOf.symm.trans same
  · rintro rfl nowMs
    exact readable nowMs

/-- No write process is kept exactly when none was there and no config named one. -/
theorem writeProcess_none_iff (served : Option Served) (caused : List Effect) :
    ((servedAfter served caused).getD Served.none).writeProcess = none ↔
      (served.getD Served.none).writeProcess = none ∧
        ∀ result, Effect.routed result ∈ caused → result.writeProcess = none := by
  induction caused generalizing served with
  | nil => simp [servedAfter]
  | cons effect rest inductionHypothesis =>
      have tail := inductionHypothesis (some (effect.apply served))
      have unfolded : servedAfter served (effect :: rest) =
          servedAfter (some (effect.apply served)) rest := rfl
      rw [unfolded, tail, Option.getD_some]
      cases effect with
      | routed first =>
          simp only [Effect.apply, Option.or_eq_none_iff, List.mem_cons, Effect.routed.injEq]
          constructor
          · rintro ⟨⟨unnamed, before⟩, later⟩
            refine ⟨before, ?_⟩
            rintro result (rfl | member)
            · exact unnamed
            · exact later result member
          · rintro ⟨before, all⟩
            exact ⟨⟨all first (Or.inl rfl), before⟩, fun result member => all result (Or.inr member)⟩
      | kept => simp [Effect.apply]

/-- The success of a refresh that an event has put. -/
def Persisted (platform : Platform) (domain : JsString) (event : Event) (result : RefreshResult) :
    Prop :=
  Effect.routed result ∈ effects platform domain event

/-- After any run over a domain without a record, a successful refresh leaves
the entry of its config exactly when the config names a write process or no
config put before it did. -/
theorem entry_coherence_iff {platform : Platform} {store before : Store} {events : List Event}
    {env : Env} {input : DomainRefreshRequest} {answers : Answers}
    {persistence : PersistenceAnswers} {result : RefreshResult}
    (unknown : store (recordKey domain) = none)
    (reached : Machine.run (step platform domain) store events = some before)
    (requested : normalizeDomain (some (.str input.domain)) = .ok domain)
    (bound : env.domainMapKv = true)
    (succeeded : (runDomainRefreshTracked platform env input answers before persistence).outcome =
      .ok result) :
    (∀ final, step platform domain before (.refresh env input answers persistence) = some final →
      Coherent domain result final) ↔
      result.writeProcess ≠ none ∨
        ∀ event ∈ events, ∀ earlier, Persisted platform domain event earlier →
          earlier.writeProcess = none := by
  have host := normalizeDomain_host requested
  have initially : Stored domain none store := unknown
  have stored := run_stored host initially reached
  have after : Stored domain _ (Store.putAll before
      (runDomainRefreshTracked platform env input answers before persistence).puts) :=
    tracked_stored requested stored
  rw [effects_of_ok requested bound stored succeeded] at after
  have unnamed := writeProcess_none_iff none (events.flatMap (effects platform domain))
  generalize servedAfter none (events.flatMap (effects platform domain)) = served at after unnamed
  have onlyFinal : (∀ final, step platform domain before
      (.refresh env input answers persistence) = some final → Coherent domain result final) ↔
      Coherent domain result (Store.putAll before
        (runDomainRefreshTracked platform env input answers before persistence).puts) := by
    simp [step, requested]
  rw [onlyFinal, coherent_iff host after]
  have sameFields : (Effect.routed result).apply served = servedOf result ↔
      result.writeProcess ≠ none ∨ (served.getD Served.none).writeProcess = none := by
    cases named : result.writeProcess with
    | none => simp [Effect.apply, servedOf, named]
    | some writeProcess => simp [Effect.apply, servedOf, named]
  rw [sameFields, unnamed]
  simp only [Option.getD_none, Served.none, true_and, List.mem_flatMap, Persisted]
  constructor
  · rintro (named | all)
    · exact Or.inl named
    · exact Or.inr fun event member earlier put => all earlier ⟨event, member, put⟩
  · rintro (named | all)
    · exact Or.inl named
    · exact Or.inr fun earlier ⟨event, member, put⟩ => all event member earlier put

/-! ### Two refreshes in lenient mode -/

def lenientEnv : Env where
  domainMapKv := true

def shopRequest : DomainRefreshRequest where
  domain := js "shop.example"

def shopPersistence : PersistenceAnswers where
  successNowMs := 1750000000000
  failureNowMs := 1750000000000

/-- The network when the domain has moved to a config without a write process. -/
def movedAnswers : Answers :=
  { alphaAnswers with config := fun _ => .ok [(js "siteProcess", .str alphaProcess)] }

def shopRefresh (answers : Answers) (store : Store) : Tracked :=
  runDomainRefreshTracked alphaPlatform lenientEnv shopRequest answers store shopPersistence

/-- The store after the first refresh, whose config names a write process. -/
def shopStore : Store := Store.putAll Store.empty (shopRefresh alphaAnswers Store.empty).puts

private theorem shop_normal : normalizeDomain (some (.str (js "shop.example"))) =
    .ok (js "shop.example") := by
  decide +kernel

private theorem shop_step (answers : Answers) (store : Store) :
    step alphaPlatform (js "shop.example") store
        (.refresh lenientEnv shopRequest answers shopPersistence) =
      some (Store.putAll store (shopRefresh answers store).puts) := by
  have requested : normalizeDomain (some (.str shopRequest.domain)) = .ok (js "shop.example") :=
    shop_normal
  rw [step, if_pos requested, shopRefresh]

/-- The two configs are accepted, and only the first names a write process. -/
private theorem shop_results :
    (∃ result, runDomainRefresh alphaPlatform lenientEnv shopRequest alphaAnswers = .ok result ∧
      result.writeProcess = some alphaProcess) ∧
    ∃ result, runDomainRefresh alphaPlatform lenientEnv shopRequest movedAnswers = .ok result ∧
      result.writeProcess = none := by
  have evaluated :
      (runDomainRefresh alphaPlatform lenientEnv shopRequest alphaAnswers).toOption.map
          RefreshResult.writeProcess = some (some alphaProcess) ∧
        (runDomainRefresh alphaPlatform lenientEnv shopRequest movedAnswers).toOption.map
          RefreshResult.writeProcess = some none := by
    decide +kernel
  obtain ⟨named, unnamed⟩ := evaluated
  obtain ⟨first, isFirst, write⟩ := Option.map_eq_some_iff.mp named
  obtain ⟨second, isSecond, noWrite⟩ := Option.map_eq_some_iff.mp unnamed
  exact ⟨⟨first, toOption_eq_some.mp isFirst, write⟩,
    second, toOption_eq_some.mp isSecond, noWrite⟩

/-- A refresh of the domain that succeeds is answered and put. -/
private theorem shopRefresh_outcome {answers : Answers} {served : Option Served} {store : Store}
    {result : RefreshResult} (stored : Stored (js "shop.example") served store)
    (refreshed : runDomainRefresh alphaPlatform lenientEnv shopRequest answers = .ok result) :
    (shopRefresh answers store).outcome = .ok result :=
  (tracked_eq_ok shop_normal rfl stored).mpr ⟨refreshed, rfl⟩

/-- A refresh to the config with a write process, after one without it. -/
theorem entry_coherence_shop :
    ∃ before result, Machine.run (step alphaPlatform (js "shop.example")) Store.empty
        [.refresh lenientEnv shopRequest movedAnswers shopPersistence] = some before ∧
      (shopRefresh alphaAnswers before).outcome = .ok result ∧
      ((∀ final, step alphaPlatform (js "shop.example") before
          (.refresh lenientEnv shopRequest alphaAnswers shopPersistence) = some final →
        Coherent (js "shop.example") result final) ↔
        result.writeProcess ≠ none ∨
          ∀ event ∈ [Event.refresh lenientEnv shopRequest movedAnswers shopPersistence],
            ∀ earlier, Persisted alphaPlatform (js "shop.example") event earlier →
              earlier.writeProcess = none) := by
  have host := normalizeDomain_host shop_normal
  obtain ⟨⟨result, refreshed, -⟩, moved, movedOk, -⟩ := shop_results
  have unknown : Stored (js "shop.example") none Store.empty := rfl
  have stored := step_stored host unknown (shop_step movedAnswers Store.empty)
  rw [effects_of_ok shop_normal rfl unknown (shopRefresh_outcome unknown movedOk)] at stored
  have succeeded := shopRefresh_outcome stored refreshed
  have reached : Machine.run (step alphaPlatform (js "shop.example")) Store.empty
      [.refresh lenientEnv shopRequest movedAnswers shopPersistence] =
        some (Store.putAll Store.empty (shopRefresh movedAnswers Store.empty).puts) := by
    rw [Machine.run_cons_eq_some]
    exact ⟨_, shop_step movedAnswers Store.empty, rfl⟩
  exact ⟨_, result, reached, succeeded,
    entry_coherence_iff unknown reached shop_normal rfl succeeded⟩

/-- The second refresh replaces the target and keeps the write process of the first. -/
theorem entry_mixes_configs :
    ¬∀ (events : List Event) (before final : Store) (answers : Answers) (result : RefreshResult),
      Machine.run (step alphaPlatform (js "shop.example")) Store.empty events = some before →
      (shopRefresh answers before).outcome = .ok result →
      step alphaPlatform (js "shop.example") before
        (.refresh lenientEnv shopRequest answers shopPersistence) = some final →
      Coherent (js "shop.example") result final := by
  intro coherent
  have host := normalizeDomain_host shop_normal
  obtain ⟨⟨first, firstOk, write⟩, second, secondOk, noWrite⟩ := shop_results
  have unknown : Stored (js "shop.example") none Store.empty := rfl
  have firstStored : Stored (js "shop.example") (some ((Effect.routed first).apply none))
      shopStore := by
    have stored := step_stored host unknown (shop_step alphaAnswers Store.empty)
    rwa [effects_of_ok shop_normal rfl unknown (shopRefresh_outcome unknown firstOk)] at stored
  have secondStored := step_stored host firstStored (shop_step movedAnswers shopStore)
  have succeeded := shopRefresh_outcome firstStored secondOk
  rw [effects_of_ok shop_normal rfl firstStored succeeded] at secondStored
  have reached : Machine.run (step alphaPlatform (js "shop.example")) Store.empty
      [.refresh lenientEnv shopRequest alphaAnswers shopPersistence] = some shopStore := by
    rw [Machine.run_cons_eq_some]
    exact ⟨shopStore, shop_step alphaAnswers Store.empty, rfl⟩
  have same := (coherent_iff host secondStored second).mp
    (coherent _ _ _ _ second reached succeeded (shop_step movedAnswers shopStore))
  have sameWrite := congrArg Served.writeProcess same
  simp only [Effect.apply, servedOf, write, noWrite, Option.getD_some, Option.none_or,
    Option.some_or] at sameWrite
  exact absurd sameWrite (by simp)

end DarkmeshGateway.AsyncWorker.EntryCoherence
