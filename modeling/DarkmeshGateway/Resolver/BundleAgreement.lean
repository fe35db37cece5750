import DarkmeshGateway.Resolver.BundleReading

/-!
Contract: the bundle builder against the resolver.

Owns what it means that the resolver knows a declared entry, and when it takes
every bundle built from an input and then knows all of its entries.

Does not own the transport between the two.
-/

namespace DarkmeshGateway.Resolver.BundleAgreement

open Foundation
open Foundation.Lua
open Foundation.Document
open Foundation.Outcome
open Foundation.Js (JsString utf8 utf8_injective)
open Resolver.Normalize
open Resolver.Policies
open Resolver.State
open Resolver.PolicyBundle
open BundleBuilder (SiteRuntime Options Bundle Environment)
open BundleEntries
open BundleNormalization
open BundlePolicies
open BundleReading

/-! ### Agreement -/

/-- The process of an entry: its own, else that of another entry of its site. -/
inductive OwnOrSites (declared : List Declared) (one : Declared) (pid : JsString) : Prop where
  | own (process : one.runtime.processId = some pid)
  | sites (free : one.runtime.processId = none) (other : Declared) (member : other ∈ declared)
      (site : other.siteId = one.siteId) (process : other.runtime.processId = some pid)

/-- The resolver holds an entry with its own site and its process. -/
def Represented (declared : List Declared) (one : Declared) (after : ResolverState) : Prop :=
  ∃ policy pid, after.hostPolicies.find (utf8 one.host) = some policy ∧
    policy.siteId = utf8 one.siteId ∧ OwnOrSites declared one pid ∧
    processOf after.sitePolicies policy = some (utf8 pid)

/-- Every resolver takes the bundle, however its document is listed, and then
holds every declared entry. -/
def Agreement (platform : Platform) (bundle : Bundle) (declared : List Declared) : Prop :=
  ∀ table state now msg, Decodes (.obj bundle.fields) (.table table) → Carries msg table →
    (∃ reply, (applyPolicyBundle platform state now msg).2 = .ok reply) ∧
      ∀ one ∈ declared, Represented declared one (applyPolicyBundle platform state now msg).1

/-- What the resolver asks of options and entries beyond the builder. -/
structure Compatible (platform : Platform) (options : Options) (declared : List Declared) :
    Prop where
  hints : options.cacheSwrSec ≤ options.cacheHardMaxStaleSec
  process : ∀ one ∈ declared, one.runtime.processId ≠ none
  sites : ∀ one ∈ declared, ∀ other ∈ declared, one.host = other.host → one.siteId = other.siteId
  fits : ∀ one ∈ declared, HostFits platform one.host one.entry.policy
  routes : ∀ host route, lastRoute declared host = some route → RouteFits platform host route

/-! ### Tables of declared entries -/

theorem lastPolicy_mem {declared : List Declared} {host : JsString}
    {policy : BundleBuilder.HostPolicy} (found : lastPolicy declared host = some policy) :
    ∃ one ∈ declared, one.host = host ∧ one.entry.policy = policy := by
  have member := List.mem_of_getLast? found
  obtain ⟨one, listed, same⟩ := List.mem_map.mp member
  have named := List.mem_filter.mp listed
  exact ⟨one, named.1, by simpa using named.2, same⟩

theorem lastPolicy_isSome {declared : List Declared} {one : Declared} (member : one ∈ declared) :
    ∃ policy, lastPolicy declared one.host = some policy := by
  have listed : one.entry.policy ∈
      (declared.filter (·.host = one.host)).map (·.entry.policy) :=
    List.mem_map_of_mem (List.mem_filter.mpr ⟨member, by simp⟩)
  rw [lastPolicy, List.getLast?_eq_some_getLast (List.ne_nil_of_mem listed)]
  exact ⟨_, rfl⟩

theorem lastRoute_mem {declared : List Declared} {host : JsString}
    {route : BundleBuilder.Route} (found : lastRoute declared host = some route) :
    ∃ one ∈ declared, one.host = host ∧ one.route = some route := by
  have member := List.mem_of_getLast? found
  obtain ⟨one, listed, same⟩ := List.mem_filterMap.mp member
  have named := List.mem_filter.mp listed
  exact ⟨one, named.1, by simpa using named.2, same⟩

section Tables

variable {declared : List Declared} {tables : BundleBuilder.Tables} {platform : Platform}
  {options : Options}

theorem Holds.mem_hosts (holds : Holds declared tables) {host : JsString}
    {policy : BundleBuilder.HostPolicy} (listed : (host, policy) ∈ tables.hostPolicies.entries) :
    ∃ one ∈ declared, one.host = host ∧ one.entry.policy = policy := by
  rw [OrderedMap.mem_entries_iff, holds.hosts] at listed
  exact lastPolicy_mem listed

theorem tablesShape (holds : Holds declared tables)
    (shapes : ∀ one ∈ declared, DeclaredShape one) : TablesShape tables := by
  constructor
  · intro host policy listed
    obtain ⟨one, member, rfl, rfl⟩ := Holds.mem_hosts holds listed
    exact (shapes one member).entry
  · intro siteId runtime listed
    rw [OrderedMap.mem_entries_iff] at listed
    obtain ⟨one, member, rfl, rfl⟩ := holds.sites siteId runtime listed
    exact ⟨(shapes one member).entry.siteId, (shapes one member).entry.runtime⟩
  · intro host proof listed
    rw [OrderedMap.mem_entries_iff] at listed
    obtain ⟨one, member, rfl⟩ := holds.proofs host proof listed
    exact (shapes one member).entry.host
  · intro host route listed
    rw [OrderedMap.mem_entries_iff, holds.routes] at listed
    obtain ⟨one, member, rfl, own⟩ := lastRoute_mem listed
    exact ⟨(shapes one member).entry.host, (shapes one member).route route own⟩

theorem tablesFit (holds : Holds declared tables)
    (compatible : Compatible platform options declared) : TablesFit platform tables := by
  constructor
  · intro host policy listed
    obtain ⟨one, member, rfl, rfl⟩ := Holds.mem_hosts holds listed
    exact compatible.fits one member
  · intro siteId runtime listed
    rw [OrderedMap.mem_entries_iff] at listed
    obtain ⟨one, member, rfl, rfl⟩ := holds.sites siteId runtime listed
    have fits := compatible.fits one member
    exact ⟨fits.siteId, fits.runtime⟩
  · intro host proof listed
    rw [OrderedMap.mem_entries_iff] at listed
    obtain ⟨one, member, rfl⟩ := holds.proofs host proof listed
    exact (compatible.fits one member).host
  · intro host route listed
    rw [OrderedMap.mem_entries_iff, holds.routes] at listed
    exact compatible.routes host route listed

/-- Entries of one host and one site have one policy. -/
theorem policy_of_site (holds : Holds declared tables) {one other : Declared}
    (member : one ∈ declared) (otherMember : other ∈ declared)
    (site : one.siteId = other.siteId) : one.entry.policy = other.entry.policy := by
  have runtime := holds.same_site member otherMember site
  calc one.entry.policy = ⟨one.siteId, one.runtime⟩ := rfl
    _ = ⟨other.siteId, other.runtime⟩ := by rw [site, runtime]
    _ = other.entry.policy := rfl

end Tables

/-! ### Documents -/

theorem optionalField_readable (name : String) (value : Option JsString) :
    ∀ field ∈ BundleBuilder.optionalField name value, Readable field.2 := by
  cases value with
  | none => simp [BundleBuilder.optionalField]
  | some text => simp [BundleBuilder.optionalField, Readable]

theorem runtime_readable (runtime : SiteRuntime) :
    ∀ field ∈ runtime.fields, Readable field.2 := by
  simp only [SiteRuntime.fields, List.forall_mem_append]
  exact ⟨⟨⟨⟨optionalField_readable _ _, optionalField_readable _ _⟩, optionalField_readable _ _⟩,
    optionalField_readable _ _⟩, optionalField_readable _ _⟩

theorem policy_readable (policy : BundleBuilder.HostPolicy) :
    ∀ field ∈ policy.fields, Readable field.2 := by
  rw [BundleBuilder.HostPolicy.fields, List.forall_mem_cons]
  exact ⟨trivial, runtime_readable policy.runtime⟩

theorem proof_readable (proof : BundleBuilder.Proof) :
    ∀ field ∈ proof.fields, Readable field.2 := by
  simp only [BundleBuilder.Proof.fields, List.forall_mem_append, List.forall_mem_cons]
  have none_left : ∀ field ∈ ([] : Js.Fields), Readable field.2 := by simp
  exact ⟨⟨⟨⟨trivial, trivial, none_left⟩, optionalField_readable _ _⟩, trivial, none_left⟩,
    optionalField_readable _ _⟩

theorem readableElements_iff {elements : List Js.Json} :
    ReadableElements elements ↔ ∀ element ∈ elements, Readable element := by
  induction elements with
  | nil => simp [ReadableElements]
  | cons element rest inductionHypothesis =>
      rw [ReadableElements, List.forall_mem_cons, inductionHypothesis]

theorem rule_readable (rule : BundleBuilder.RouteRule) :
    ∀ field ∈ rule.fields, Readable field.2 := by
  rw [BundleBuilder.RouteRule.fields, List.forall_mem_cons, List.forall_mem_append]
  refine ⟨trivial, ?_, optionalField_readable _ _⟩
  cases rule.methods with
  | none => simp [BundleBuilder.methodsFields]
  | some names => simp [BundleBuilder.methodsFields, Readable, readableElements_iff]

theorem route_readable (route : BundleBuilder.Route) :
    ∀ field ∈ route.fields, Readable field.2 := by
  rw [BundleBuilder.Route.fields, List.forall_mem_append]
  refine ⟨optionalField_readable _ _, ?_⟩
  unfold BundleBuilder.rulesFields
  split
  · simp
  · rw [List.forall_mem_singleton, Readable, readableElements_iff, List.forall_mem_map]
    intro rule _
    exact readableFields_iff.mpr (rule_readable rule)

theorem table_readable {α : Type} {name : String} {fields : α → Js.Fields}
    (table : BundleBuilder.Table α) (readable : ∀ item, ∀ field ∈ fields item, Readable field.2) :
    Readable (BundleBuilder.tableField name fields table).2 := by
  rw [BundleBuilder.tableField, Readable, readableFields_iff, List.forall_mem_map]
  intro entry _
  exact readableFields_iff.mpr (readable entry.2)

theorem hint_readable (options : Options) :
    ∀ field ∈ BundleBuilder.hintFields options, Readable field.2 := by
  have whole {value low high : Int} (range : low ≤ value ∧ value ≤ high)
      (bounds : 0 ≤ low ∧ high ≤ 172800) : Readable (.num (.ofInt value)) :=
    ⟨value, Js.Number.toDouble_ofInt (small_of_range range bounds)⟩
  simp only [BundleBuilder.hintFields, List.forall_mem_cons]
  exact ⟨whole options.positiveRange (by decide), whole options.negativeRange (by decide),
    whole options.swrRange (by decide), whole options.hardMaxStaleRange (by decide), by simp⟩

/-- The document of a bundle is read as a table. -/
theorem exists_bundleTable (bundle : Bundle) :
    ∃ table, Decodes (.obj bundle.fields) (.table table) := by
  apply exists_table
  rw [readableFields_iff, Bundle.fields]
  have routes : ∀ field ∈ BundleBuilder.routesFields bundle.tables.routePolicies,
      Readable field.2 := by
    unfold BundleBuilder.routesFields
    split
    · simp
    · rw [List.forall_mem_singleton]
      exact table_readable _ route_readable
  simp only [List.forall_mem_append, List.forall_mem_cons]
  refine ⟨⟨⟨trivial, trivial, trivial, trivial, trivial, trivial, ?_, ?_, ?_, by simp⟩, routes⟩,
    ?_, by simp⟩
  · exact table_readable _ policy_readable
  · exact table_readable _ runtime_readable
  · exact table_readable _ proof_readable
  · exact readableFields_iff.mpr (hint_readable bundle.options)

/-! ### The claim's two sides -/

section Sides

variable {platform : Platform} {bundle : Bundle} {declared : List Declared}

theorem related_hints (state : ResolverState) (options : Options) :
    Related (state.cacheHints.merge (some (hintsOf options))) ↔
      options.cacheSwrSec ≤ options.cacheHardMaxStaleSec := Iff.rfl

theorem agreement_of_compatible (laws : PlatformLaws platform)
    (holds : Holds declared bundle.tables) (shapes : ∀ one ∈ declared, DeclaredShape one)
    (compatible : Compatible platform bundle.options declared) :
    Agreement platform bundle declared := by
  intro table state now msg decoded carries
  have shape := tablesShape holds shapes
  have read := bundleRead_of_decodes decoded
  have processes : ∀ host policy, (host, policy) ∈ bundle.tables.hostPolicies.entries →
      policy.runtime.processId ≠ none := by
    intro host policy listed
    obtain ⟨one, member, rfl, rfl⟩ := Holds.mem_hosts holds listed
    exact compatible.process one member
  obtain ⟨update, accepted⟩ := exists_readBundle laws state shape carries read
    (tablesFit holds compatible) processes
  obtain ⟨_, hints, hosts, sites, hostsKept, sitesKept, normalized⟩ :=
    readBundle_taken laws shape carries read accepted
  have related : Related (state.cacheHints.merge update.cacheHints) := by
    rw [hints]
    exact (related_hints state bundle.options).mpr compatible.hints
  rw [applyPolicyBundle, accepted]
  simp only [if_pos related]
  refine ⟨⟨_, rfl⟩, fun one member => ?_⟩
  have hostsAfter : (commitBundle (assignPolicies state update) now
      (state.cacheHints.merge update.cacheHints) update).hostPolicies = hosts := by
    show update.hosts.getD state.hostPolicies = hosts
    rw [hostsKept, Option.getD_some]
  obtain ⟨policy, last⟩ := lastPolicy_isSome member
  have found : hosts.find (utf8 one.host) = some (readHostPolicy policy) := by
    rw [normalized.host, holds.hosts, last, Option.map_some]
  obtain ⟨final, finalMember, named, rfl⟩ := lastPolicy_mem last
  have site := compatible.sites final finalMember one member named
  obtain ⟨pid, process⟩ := Option.ne_none_iff_exists'.mp (compatible.process one member)
  have runtime := holds.same_site finalMember member site
  refine ⟨_, pid, hostsAfter ▸ found, congrArg utf8 site, .own process, ?_⟩
  have own : (readHostPolicy final.entry.policy).processId = some (utf8 pid) := by
    show final.runtime.processId.map utf8 = some (utf8 pid)
    rw [runtime, process, Option.map_some]
  rw [processOf, own, Option.some_or]

theorem compatible_of_agreement (laws : PlatformLaws platform)
    (holds : Holds declared bundle.tables) (shapes : ∀ one ∈ declared, DeclaredShape one)
    (agreement : Agreement platform bundle declared) :
    Compatible platform bundle.options declared := by
  obtain ⟨table, decoded⟩ := exists_bundleTable bundle
  have carries : Carries [(.str (lua "Bundle"), .table table)] table := by
    constructor
    · simp [field]
    · intro entry member
      rw [List.mem_singleton.mp member]
      exact ⟨"Bundle", by decide, rfl⟩
  obtain ⟨⟨reply, applied⟩, represented⟩ := agreement table defaultState 0 _ decoded carries
  have shape := tablesShape holds shapes
  have read := bundleRead_of_decodes decoded
  have effect := applyPolicyBundle_effect platform defaultState 0
    [(.str (lua "Bundle"), .table table)]
  rw [applied] at effect
  generalize (applyPolicyBundle platform defaultState 0
    [(.str (lua "Bundle"), .table table)]).1 = after at effect represented
  cases effect with
  | applied update _ accepted related =>
      obtain ⟨fits, hints, hosts, sites, hostsKept, sitesKept, normalized⟩ :=
        readBundle_taken laws shape carries read accepted
      have held : ∀ one ∈ declared, ∃ last ∈ declared, last.host = one.host ∧
          last.siteId = one.siteId ∧ lastPolicy declared one.host = some last.entry.policy := by
        intro one member
        obtain ⟨policy, pid, found, site, _, _⟩ := represented one member
        have hostsAfter : (commitBundle (assignPolicies defaultState update) 0
            (defaultState.cacheHints.merge update.cacheHints) update).hostPolicies = hosts := by
          show update.hosts.getD defaultState.hostPolicies = hosts
          rw [hostsKept, Option.getD_some]
        rw [hostsAfter, normalized.host, holds.hosts, Option.map_eq_some_iff] at found
        obtain ⟨own, last, rfl⟩ := found
        obtain ⟨final, finalMember, named, rfl⟩ := lastPolicy_mem last
        exact ⟨final, finalMember, named, utf8_injective site, last⟩
      constructor
      · rw [hints] at related
        exact (related_hints defaultState bundle.options).mp related
      · intro one member
        obtain ⟨_, pid, _, _, process, _⟩ := represented one member
        cases process with
        | own process => simp [process]
        | sites free other otherMember site process =>
            have runtime := holds.same_site otherMember member site
            rw [runtime, free] at process
            contradiction
      · intro one member other otherMember hosts
        obtain ⟨_, _, _, site, last⟩ := held one member
        obtain ⟨_, _, _, otherSite, otherLast⟩ := held other otherMember
        rw [hosts, otherLast, Option.some.injEq] at last
        rw [← site, ← otherSite]
        exact congrArg BundleBuilder.HostPolicy.siteId last.symm
      · intro one member
        obtain ⟨final, finalMember, named, site, last⟩ := held one member
        rw [← policy_of_site holds finalMember member site]
        apply fits.hosts
        rw [OrderedMap.mem_entries_iff, holds.hosts, last]
      · intro host route last
        apply fits.routes
        rw [OrderedMap.mem_entries_iff, holds.routes, last]

end Sides

/-- Resolvers take a built bundle and know every entry of its input exactly when
the hints are related, every entry has a process, no host is declared for two
sites, and the entries and the last route of each host fit. -/
theorem bundle_agreement_iff {platform : Platform} (laws : PlatformLaws platform)
    {environment : Environment} {input : Js.Json} {options : Options} {bundle : Bundle}
    (built : BundleBuilder.buildBundle environment input options = .ok bundle) :
    ∃ declared, declaredHosts environment options input = .ok declared ∧
      (Agreement platform bundle declared ↔ Compatible platform options declared) := by
  obtain ⟨declared, read, reached, rfl⟩ := buildBundle_ok built
  have holds := run_holds reached
  have shapes : ∀ one ∈ declared, DeclaredShape one := by
    obtain ⟨hosts, _, listed⟩ := bind_eq_ok.mp read
    exact readHosts_ok listed
  exact ⟨declared, read, compatible_of_agreement laws holds shapes,
    agreement_of_compatible laws holds shapes⟩

/-- A parser that keeps every host, dates that never parse, and a fixed clock. -/
def fixtureEnvironment : Environment where
  parseHost _ host := some host
  parseDate _ := none
  entryTime _ := Js.js "2026-04-15T00:00:00.000Z"
  bundleTime := Js.js "2026-04-15T00:00:00.000Z"

def fixtureEntry (siteId : String) : Js.Json :=
  .obj [(Js.js "host", .str (Js.js "a.io")), (Js.js "siteId", .str (Js.js siteId)),
    (Js.js "processId", .str (Js.js "pid-0123456789abcdef"))]

/-- One host, declared for each of the sites. -/
def fixtureInput (sites : List String) : Js.Json :=
  .obj [(Js.js "hosts", .arr (sites.map fixtureEntry))]

/-- What the input declares for a site. -/
def fixtureDeclared (siteId : String) : Declared where
  entry := ⟨Js.js "a.io", Js.js siteId, some (Js.js "pid-0123456789abcdef"), none, none, none,
    none⟩
  proof := ⟨Js.js "unchecked", Js.js "2026-04-15T00:00:00.000Z", none, Js.js "bundle-generator",
    none⟩
  route := none

theorem exists_built {input : Js.Json} (accepted : (BundleBuilder.buildBundle fixtureEnvironment
    input BundleBuilder.defaultOptions).isOk = true) :
    ∃ bundle, BundleBuilder.buildBundle fixtureEnvironment input
      BundleBuilder.defaultOptions = .ok bundle := by
  cases built : BundleBuilder.buildBundle fixtureEnvironment input
    BundleBuilder.defaultOptions with
  | error failure => simp [built, Except.isOk, Except.toBool] at accepted
  | ok bundle => exact ⟨bundle, rfl⟩

theorem bundle_agreement_fixture :
    ∃ bundle, BundleBuilder.buildBundle fixtureEnvironment (fixtureInput ["one"])
        BundleBuilder.defaultOptions = .ok bundle ∧
      ∃ declared, declaredHosts fixtureEnvironment BundleBuilder.defaultOptions
          (fixtureInput ["one"]) = .ok declared ∧
        (Agreement fixturePlatform bundle declared ↔
          Compatible fixturePlatform BundleBuilder.defaultOptions declared) := by
  obtain ⟨bundle, built⟩ := exists_built (show (BundleBuilder.buildBundle fixtureEnvironment
    (fixtureInput ["one"]) BundleBuilder.defaultOptions).isOk = true by decide)
  exact ⟨bundle, built, bundle_agreement_iff fixture_laws built⟩

/-- A host declared for two sites is accepted, and the later site overwrites the first. -/
theorem repeated_host_overwritten :
    ¬∀ (platform : Platform) (environment : Environment) (input : Js.Json) (options : Options)
      (bundle : Bundle), PlatformLaws platform →
      BundleBuilder.buildBundle environment input options = .ok bundle →
        ∃ declared, declaredHosts environment options input = .ok declared ∧
          Agreement platform bundle declared := by
  intro claim
  obtain ⟨bundle, built⟩ := exists_built (show (BundleBuilder.buildBundle fixtureEnvironment
    (fixtureInput ["one", "two"]) BundleBuilder.defaultOptions).isOk = true by decide)
  obtain ⟨declared, read, agreement⟩ := claim fixturePlatform _ _ _ bundle fixture_laws built
  obtain ⟨_, listed, reached, options⟩ := buildBundle_ok built
  obtain rfl := Except.ok.inj (listed.symm.trans read)
  have two : declaredHosts fixtureEnvironment BundleBuilder.defaultOptions
      (fixtureInput ["one", "two"]) = .ok [fixtureDeclared "one", fixtureDeclared "two"] := rfl
  obtain rfl := Except.ok.inj (two.symm.trans read)
  have shapes : ∀ one ∈ [fixtureDeclared "one", fixtureDeclared "two"], DeclaredShape one := by
    obtain ⟨hosts, _, hostsRead⟩ := bind_eq_ok.mp read
    exact readHosts_ok hostsRead
  have compatible := compatible_of_agreement fixture_laws (run_holds reached) shapes agreement
  have same : Js.js "one" = Js.js "two" :=
    compatible.sites (fixtureDeclared "one") (by simp) (fixtureDeclared "two") (by simp) rfl
  exact absurd same (by decide)

end DarkmeshGateway.Resolver.BundleAgreement
