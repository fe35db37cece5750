import DarkmeshGateway.Foundation.Machine
import DarkmeshGateway.Foundation.Outcome
import DarkmeshGateway.Resolver.BundleBuilder

/-!
Contract: what the entries of an accepted input declare.

Owns the shape of every text the builder accepts, the tables as a run over the
declared entries, and what they hold behind that run.

Does not own how a bundle is read.
-/

namespace DarkmeshGateway.Resolver.BundleEntries

open Foundation
open Foundation.Js
open Foundation.Outcome
open BundleBuilder

/-! ### Texts -/

/-- A trimmed text of at most `maxLen` units. -/
structure Tidy (maxLen : Nat) (text : JsString) : Prop where
  trimmed : trim text = text
  visible : text ≠ []
  short : text.length ≤ maxLen

structure ProcessName (text : JsString) : Prop where
  long : 20 ≤ text.length
  short : text.length ≤ 128
  units : ∀ unit ∈ text, isProcessUnit unit = true

structure RoutePath (text : JsString) : Prop where
  tidy : Tidy 1024 text
  rooted : text.head? = some 47

structure HostLabel (label : JsString) : Prop where
  visible : label ≠ []
  short : label.length ≤ 63
  units : ∀ unit ∈ label, isLabelUnit unit = true
  head : label.head? ≠ some 45
  last : label.getLast? ≠ some 45

/-- Labels joined by dots. -/
structure HostName (host : JsString) : Prop where
  short : host.length ≤ 253
  labels : ∀ label ∈ host.splitOn 46, HostLabel label

theorem readOptionalString_ok {value : Option Json} {field text : JsString} {maxLen : Nat}
    (read : readOptionalString value field maxLen = .ok (some text)) : Tidy maxLen text := by
  unfold readOptionalString at read
  split at read
  · simp at read
  · next raw _ =>
      split at read
      · simp [invalid] at read
      · next visible =>
          split at read
          · simp [invalid] at read
          · next short =>
              obtain rfl : trim raw = text := by simpa using read
              exact ⟨trim_trim raw, visible, Nat.le_of_not_lt short⟩
  · simp [invalid] at read

theorem readRequiredString_ok {value : Option Json} {field text : JsString} {maxLen : Nat}
    (read : readRequiredString value field maxLen = .ok text) : Tidy maxLen text := by
  obtain ⟨found, optionalRead, rest⟩ := bind_eq_ok.mp read
  cases found with
  | none => exact absurd rest throw_ne_ok
  | some raw =>
      obtain rfl : raw = text := pure_eq_ok.mp rest
      exact readOptionalString_ok optionalRead

theorem readOptionalProcessLike_ok {value : Option Json} {field text : JsString}
    (read : readOptionalProcessLike value field = .ok (some text)) : ProcessName text := by
  obtain ⟨found, _, rest⟩ := bind_eq_ok.mp read
  cases found with
  | none => simp [pure, Except.pure] at rest
  | some raw =>
      dsimp only at rest
      split at rest
      · simp [invalid] at rest
      · next named =>
          obtain rfl : raw = text := by simpa [pure, Except.pure] using rest
          simp only [not_or, Bool.not_eq_false] at named
          exact ⟨Nat.le_of_not_lt named.1, Nat.le_of_not_lt named.2.1,
            List.all_eq_true.mp named.2.2⟩

theorem readRoutePrefix_ok {value : Option Json} {field text : JsString}
    (read : readRoutePrefix value field = .ok (some text)) : RoutePath text := by
  obtain ⟨found, optionalRead, rest⟩ := bind_eq_ok.mp read
  cases found with
  | none => simp [pure, Except.pure] at rest
  | some raw =>
      dsimp only at rest
      split at rest
      · next rooted =>
          obtain rfl : raw = text := by simpa [pure, Except.pure] using rest
          exact ⟨readOptionalString_ok optionalRead, rooted⟩
      · simp [invalid] at rest

theorem checkLabel_ok {field label : JsString} (checked : checkLabel field label = .ok ()) :
    HostLabel label := by
  unfold checkLabel at checked
  split at checked
  · simp [invalid] at checked
  · next sized =>
      split at checked
      · simp [invalid] at checked
      · next spelled =>
          simp only [not_or, Bool.not_eq_false] at sized spelled
          exact ⟨sized.1, Nat.le_of_not_lt sized.2, List.all_eq_true.mp spelled.1, spelled.2.1,
            spelled.2.2⟩

/-- A loop of checks goes through exactly when every check does. -/
theorem forM_eq_ok {ε α : Type} {check : α → Except ε Unit} {items : List α} :
    items.forM check = .ok () ↔ ∀ item ∈ items, check item = .ok () := by
  induction items with
  | nil => simp [pure, Except.pure]
  | cons item rest inductionHypothesis =>
      show (check item >>= fun _ => rest.forM check) = .ok () ↔ _
      rw [bind_eq_ok, List.forall_mem_cons, inductionHypothesis]
      constructor
      · rintro ⟨_, first, others⟩
        exact ⟨first, others⟩
      · intro both
        exact ⟨(), both⟩

theorem canonicalHost_ok {environment : Environment} {raw : Option Json} {field host : JsString}
    (read : canonicalHost environment raw field = .ok host) : HostName host := by
  unfold canonicalHost at read
  split at read
  · simp only [invalid, error_guard_eq_ok, bind_eq_ok] at read
    obtain ⟨_, _, _, parsed, _, _, short, _, labels, named⟩ := read
    obtain rfl : parsed = host := pure_eq_ok.mp named
    exact ⟨Nat.le_of_not_lt short, fun label member =>
      checkLabel_ok (forM_eq_ok.mp labels label member)⟩
  · simp [invalid] at read

/-! ### Entries -/

structure RuntimeShape (runtime : SiteRuntime) : Prop where
  processId : ∀ id ∈ runtime.processId, ProcessName id
  moduleId : ∀ id ∈ runtime.moduleId, ProcessName id
  scheduler : ∀ id ∈ runtime.scheduler, ProcessName id
  routePrefix : ∀ path ∈ runtime.routePrefix, RoutePath path
  status : ∀ status ∈ runtime.status, Tidy 64 status

structure EntryShape (entry : HostEntry) : Prop where
  host : HostName entry.host
  siteId : Tidy 128 entry.policy.siteId
  runtime : RuntimeShape entry.policy.runtime

theorem readEntry_ok {environment : Environment} {index : Nat} {fields : Fields}
    {entry : HostEntry} (read : readEntry environment index fields = .ok entry) :
    EntryShape entry := by
  simp only [readEntry, bind_eq_ok] at read
  obtain ⟨host, hostRead, siteId, siteRead, processId, processRead, moduleId, moduleRead,
    scheduler, schedulerRead, routePrefix, prefixRead, status, statusRead, made⟩ := read
  obtain rfl := pure_eq_ok.mp made
  refine ⟨canonicalHost_ok hostRead, readRequiredString_ok siteRead, ?_⟩
  constructor
  · rintro id rfl
    exact readOptionalProcessLike_ok processRead
  · rintro id rfl
    exact readOptionalProcessLike_ok moduleRead
  · rintro id rfl
    exact readOptionalProcessLike_ok schedulerRead
  · rintro path rfl
    exact readRoutePrefix_ok prefixRead
  · rintro text rfl
    exact readOptionalString_ok statusRead

/-! ### Routes -/

structure RuleShape (rule : RouteRule) : Prop where
  pathPrefix : RoutePath rule.pathPrefix
  methods : ∀ names ∈ rule.methods, ∀ name ∈ names, name ∈ validRouteMethods
  actionHint : ∀ hint ∈ rule.actionHint, Tidy 128 hint

structure RouteShape (route : Route) : Prop where
  defaultActionHint : ∀ hint ∈ route.defaultActionHint, Tidy 128 hint
  rules : ∀ rule ∈ route.rules, RuleShape rule

theorem normalizeMethodList_ok {field : JsString} {raws : List Json} {before out : List JsString}
    (read : normalizeMethodList field raws before = .ok out)
    (valid : ∀ name ∈ before, name ∈ validRouteMethods) :
    ∀ name ∈ out, name ∈ validRouteMethods := by
  induction raws generalizing before with
  | nil =>
      obtain rfl : before = out := by simpa [normalizeMethodList] using read
      exact valid
  | cons raw rest inductionHypothesis =>
      cases raw with
      | str text =>
          unfold normalizeMethodList at read
          dsimp only at read
          split at read
          · next known =>
              apply inductionHypothesis read
              intro name member
              split at member
              · exact valid name member
              · rcases List.mem_append.mp member with old | new
                · exact valid name old
                · rw [List.mem_singleton.mp new]
                  exact known
          · simp at read
      | null => simp [normalizeMethodList, invalid] at read
      | bool flag => simp [normalizeMethodList, invalid] at read
      | num number => simp [normalizeMethodList, invalid] at read
      | arr elements => simp [normalizeMethodList, invalid] at read
      | obj fields => simp [normalizeMethodList, invalid] at read

theorem normalizeMethods_ok {raw : Option Json} {field : JsString} {names : List JsString}
    (read : normalizeMethods raw field = .ok (some names)) :
    ∀ name ∈ names, name ∈ validRouteMethods := by
  unfold normalizeMethods at read
  split at read
  · simp at read
  · obtain ⟨out, listed, made⟩ := bind_eq_ok.mp read
    have kept := pure_eq_ok.mp made
    split at kept
    · contradiction
    · obtain rfl : out = names := by simpa using kept
      exact normalizeMethodList_ok listed (by simp)
  · simp [invalid] at read

theorem normalizeRule_ok {host : JsString} {index : Nat} {raw : Json} {rule : RouteRule}
    (read : normalizeRule host index raw = .ok rule) : RuleShape rule := by
  unfold normalizeRule at read
  split at read
  · simp only [bind_eq_ok] at read
    obtain ⟨found, pathRead, path, named, actionHint, hintRead, methods, methodsRead, made⟩ := read
    obtain rfl := pure_eq_ok.mp made
    cases found with
    | none => exact absurd named throw_ne_ok
    | some text =>
        obtain rfl : text = path := pure_eq_ok.mp named
        constructor
        · exact readRoutePrefix_ok pathRead
        · rintro names rfl
          exact normalizeMethods_ok methodsRead
        · rintro hint rfl
          exact readOptionalString_ok hintRead
  · simp at read

theorem normalizeRules_ok {host : JsString} {index : Nat} {raws : List Json}
    {rules : List RouteRule} (read : normalizeRules host index raws = .ok rules) :
    ∀ rule ∈ rules, RuleShape rule := by
  induction raws generalizing index rules with
  | nil =>
      obtain rfl : [] = rules := by simpa [normalizeRules] using read
      simp
  | cons raw rest inductionHypothesis =>
      simp only [normalizeRules, bind_eq_ok] at read
      obtain ⟨first, firstRead, others, othersRead, made⟩ := read
      rw [← pure_eq_ok.mp made, List.forall_mem_cons]
      exact ⟨normalizeRule_ok firstRead, inductionHypothesis othersRead⟩

theorem normalizeRoute_ok {raw : Option Json} {host : JsString} {route : Route}
    (read : normalizeRoute raw host = .ok (some route)) : RouteShape route := by
  unfold normalizeRoute at read
  split at read
  · simp at read
  · simp only [bind_eq_ok] at read
    obtain ⟨hint, hintRead, rules, rulesRead, made⟩ := read
    have kept := pure_eq_ok.mp made
    split at kept
    · contradiction
    · obtain rfl := Option.some.inj kept
      constructor
      · rintro text rfl
        exact readOptionalString_ok hintRead
      · unfold normalizeRouteRules at rulesRead
        split at rulesRead
        · obtain rfl : [] = rules := by simpa using rulesRead
          simp
        · exact normalizeRules_ok rulesRead
        · simp at rulesRead
  · simp at read

/-! ### Sites -/

theorem get_append (left right : Fields) (key : JsString) :
    Fields.get (left ++ right) key = (left.get key).or (right.get key) := List.lookup_append

theorem get_optionalField (name : String) (value : Option JsString) (key : JsString) :
    (optionalField name value).get key = if key = js name then value.map Json.str else none := by
  cases value with
  | none => simp [optionalField, Fields.get]
  | some text =>
      by_cases same : key = js name
      · simp [optionalField, Fields.get, same]
      · have miss : (key == js name) = false := by simpa using same
        simp [optionalField, Fields.get, List.lookup_cons, miss, same]

private theorem optionalField_regular {name : String} {value : Option JsString} :
    ∀ field ∈ optionalField name value, field.2.Regular = true := by
  cases value with
  | none => simp [optionalField]
  | some text => simp [optionalField, Json.Regular]

/-- Sites with one text are one site. -/
theorem text_injective : Function.Injective SiteRuntime.text := by
  intro left right same
  have regular (runtime : SiteRuntime) : (Json.obj runtime.fields).Regular = true := by
    rw [Json.Regular, fieldsRegular_iff]
    simp only [SiteRuntime.fields, List.forall_mem_append]
    exact ⟨⟨⟨⟨optionalField_regular, optionalField_regular⟩, optionalField_regular⟩,
      optionalField_regular⟩, optionalField_regular⟩
  have stops : Stops [] := by simp [Stops]
  have unique := Json.stringify_unique _ _ [] [] (regular left) (regular right) stops stops
    (congrArg (· ++ []) same)
  have found (key : JsString) : left.fields.get key = right.fields.get key := by
    rw [Json.obj.inj unique.1]
  have strings : Function.Injective (Option.map Json.str) :=
    Option.map_injective fun _ _ equal => Json.str.inj equal
  have processId := found (js "processId")
  have moduleId := found (js "moduleId")
  have scheduler := found (js "scheduler")
  have routePrefix := found (js "routePrefix")
  have status := found (js "status")
  simp +decide only [SiteRuntime.fields, get_append, get_optionalField, if_true,
    if_false, Option.or_none, Option.none_or] at processId moduleId scheduler routePrefix status
  cases left
  cases right
  simp only [SiteRuntime.mk.injEq]
  exact ⟨strings processId, strings moduleId, strings scheduler, strings routePrefix,
    strings status⟩

/-- What a successful check leaves: the site holds the entry's text. -/
theorem addSite_held {sites next : Table SiteRuntime} {siteId : JsString} {runtime : SiteRuntime}
    (added : addSite sites siteId runtime = .ok next) :
    heldSite next siteId = some (some runtime.text) := by
  unfold addSite at added
  split at added
  · obtain rfl := Except.ok.inj added
    simp [heldSite]
  · next held found =>
      split at added
      · next same =>
          obtain rfl := Except.ok.inj added
          rw [found, same]
      · simp at added

/-- A site that holds something keeps it. -/
theorem addSite_keeps {sites next : Table SiteRuntime} {siteId other : JsString}
    {runtime : SiteRuntime} {held : Option JsString}
    (added : addSite sites siteId runtime = .ok next) (found : heldSite sites other = some held) :
    heldSite next other = some held := by
  unfold addSite at added
  split at added
  · next free =>
      obtain rfl := Except.ok.inj added
      have different : other ≠ siteId := by
        rintro rfl
        rw [found] at free
        contradiction
      rw [heldSite, OrderedMap.find_set_other _ different]
      exact found
  · split at added
    · obtain rfl := Except.ok.inj added
      exact found
    · simp at added

/-- A site is the new one or was there before. -/
theorem addSite_find {sites next : Table SiteRuntime} {siteId other : JsString}
    {runtime site : SiteRuntime} (added : addSite sites siteId runtime = .ok next)
    (found : next.find other = some site) :
    (other = siteId ∧ site = runtime) ∨ sites.find other = some site := by
  unfold addSite at added
  split at added
  · obtain rfl := Except.ok.inj added
    by_cases same : other = siteId
    · rw [same, OrderedMap.find_set_self, Option.some.injEq] at found
      exact Or.inl ⟨same, found.symm⟩
    · rw [OrderedMap.find_set_other _ same] at found
      exact Or.inr found
  · split at added
    · obtain rfl := Except.ok.inj added
      exact Or.inr found
    · simp at added

/-! ### Runs -/

/-- What one entry of the input declares. -/
structure Declared where
  entry : HostEntry
  proof : Proof
  route : Option Route

def Declared.host (declared : Declared) : JsString := declared.entry.host

def Declared.siteId (declared : Declared) : JsString := declared.entry.policy.siteId

def Declared.runtime (declared : Declared) : SiteRuntime := declared.entry.policy.runtime

/-- An entry on its own, without the tables. -/
def readDeclared (environment : Environment) (options : Options) (index : Nat) :
    Json → Except Message Declared
  | .obj fields => do
      let entry ← readEntry environment index fields
      let proof ← normalizeProof environment options index (Fields.get fields (js "proof"))
        entry.host
      let route ← normalizeRoute (Fields.get fields (js "route")) entry.host
      return ⟨entry, proof, route⟩
  | _ => .error (js "hosts[" ++ decimalDigits index ++ js "] must be object")

def readHosts (environment : Environment) (options : Options) : Nat → List Json →
    Except Message (List Declared)
  | _, [] => .ok []
  | index, raw :: rest => do
      let first ← readDeclared environment options index raw
      let others ← readHosts environment options (index + 1) rest
      return first :: others

/-- The entries of an input. -/
def declaredHosts (environment : Environment) (options : Options) (input : Json) :
    Except Message (List Declared) := do
  let hosts ← inputHosts input
  readHosts environment options 0 hosts

/-- The tables with an entry in place; `none` is a conflict. -/
def record (tables : Tables) (declared : Declared) : Option Tables :=
  (addSite tables.sitePolicies declared.siteId declared.runtime).toOption.map fun sitePolicies =>
    { hostPolicies := tables.hostPolicies.set declared.host declared.entry.policy
      sitePolicies
      dnsProofState := tables.dnsProofState.set declared.host declared.proof
      routePolicies := tables.addRoute declared.host declared.route }

theorem addEntry_ok {environment : Environment} {options : Options} {tables next : Tables}
    {index : Nat} {raw : Json}
    (added : addEntry environment options tables index raw = .ok next) :
    ∃ declared, readDeclared environment options index raw = .ok declared ∧
      record tables declared = some next := by
  unfold addEntry at added
  split at added
  · next fields =>
      simp only [bind_eq_ok] at added
      obtain ⟨entry, entryRead, sites, siteAdded, proof, proofRead, route, routeRead, made⟩ := added
      refine ⟨⟨entry, proof, route⟩, ?_, ?_⟩
      · simp only [readDeclared, bind_eq_ok]
        exact ⟨entry, entryRead, proof, proofRead, route, routeRead, rfl⟩
      · rw [record, Option.map_eq_some_iff]
        exact ⟨sites, toOption_eq_some.mpr siteAdded, pure_eq_ok.mp made⟩
  · simp at added

theorem addEntries_ok {environment : Environment} {options : Options} {tables final : Tables}
    {index : Nat} {raws : List Json}
    (added : addEntries environment options index raws tables = .ok final) :
    ∃ declared, readHosts environment options index raws = .ok declared ∧
      Machine.run record tables declared = some final := by
  induction raws generalizing index tables with
  | nil =>
      obtain rfl : tables = final := by simpa [addEntries] using added
      exact ⟨[], rfl, rfl⟩
  | cons raw rest inductionHypothesis =>
      obtain ⟨next, first, others⟩ := bind_eq_ok.mp added
      obtain ⟨declared, read, recorded⟩ := addEntry_ok first
      obtain ⟨more, readMore, continued⟩ := inductionHypothesis others
      refine ⟨declared :: more, ?_, Machine.run_cons_eq_some.mpr ⟨next, recorded, continued⟩⟩
      simp only [readHosts, bind_eq_ok]
      exact ⟨declared, read, more, readMore, rfl⟩

/-- An accepted input declares entries, and the tables of its bundle are theirs. -/
theorem buildBundle_ok {environment : Environment} {input : Json} {options : Options}
    {bundle : Bundle} (built : buildBundle environment input options = .ok bundle) :
    ∃ declared, declaredHosts environment options input = .ok declared ∧
      Machine.run record .empty declared = some bundle.tables ∧ bundle.options = options := by
  simp only [buildBundle, bind_eq_ok] at built
  obtain ⟨hosts, listed, tables, added, made⟩ := built
  obtain rfl := pure_eq_ok.mp made
  obtain ⟨declared, read, recorded⟩ := addEntries_ok added
  exact ⟨declared, bind_eq_ok.mpr ⟨hosts, listed, read⟩, recorded, rfl⟩

structure DeclaredShape (declared : Declared) : Prop where
  entry : EntryShape declared.entry
  route : ∀ route ∈ declared.route, RouteShape route

theorem readDeclared_ok {environment : Environment} {options : Options} {index : Nat} {raw : Json}
    {declared : Declared} (read : readDeclared environment options index raw = .ok declared) :
    DeclaredShape declared := by
  unfold readDeclared at read
  split at read
  · simp only [bind_eq_ok] at read
    obtain ⟨entry, entryRead, proof, _, route, routeRead, made⟩ := read
    obtain rfl := pure_eq_ok.mp made
    constructor
    · exact readEntry_ok entryRead
    · rintro found rfl
      exact normalizeRoute_ok routeRead
  · simp at read

theorem readHosts_ok {environment : Environment} {options : Options} {index : Nat}
    {raws : List Json} {declared : List Declared}
    (read : readHosts environment options index raws = .ok declared) :
    ∀ one ∈ declared, DeclaredShape one := by
  induction raws generalizing index declared with
  | nil =>
      obtain rfl : [] = declared := by simpa [readHosts] using read
      simp
  | cons raw rest inductionHypothesis =>
      simp only [readHosts, bind_eq_ok] at read
      obtain ⟨first, firstRead, others, othersRead, made⟩ := read
      rw [← pure_eq_ok.mp made, List.forall_mem_cons]
      exact ⟨readDeclared_ok firstRead, inductionHypothesis othersRead⟩

/-! ### Tables behind a run -/

/-- The policy of the last entry with a host. -/
def lastPolicy (declared : List Declared) (host : JsString) : Option HostPolicy :=
  ((declared.filter (·.host = host)).map (·.entry.policy)).getLast?

/-- The route of the last entry with a host and a route. -/
def lastRoute (declared : List Declared) (host : JsString) : Option Route :=
  ((declared.filter (·.host = host)).filterMap Declared.route).getLast?

/-- The tables behind the declared entries. -/
structure Holds (declared : List Declared) (tables : Tables) : Prop where
  hosts : ∀ host, tables.hostPolicies.find host = lastPolicy declared host
  routes : ∀ host, tables.routePolicies.find host = lastRoute declared host
  proofs : ∀ host proof, tables.dnsProofState.find host = some proof →
    ∃ one ∈ declared, one.host = host
  sites : ∀ siteId site, tables.sitePolicies.find siteId = some site →
    ∃ one ∈ declared, one.siteId = siteId ∧ one.runtime = site
  held : ∀ one ∈ declared, heldSite tables.sitePolicies one.siteId = some (some one.runtime.text)

theorem Holds.record {before : List Declared} {tables next : Tables} {declared : Declared}
    (holds : Holds before tables) (recorded : record tables declared = some next) :
    Holds (before ++ [declared]) next := by
  obtain ⟨sites, added, rfl⟩ := Option.map_eq_some_iff.mp recorded
  rw [toOption_eq_some] at added
  constructor
  · intro host
    by_cases same : declared.host = host
    · simp [lastPolicy, ← same]
    · simp [lastPolicy, OrderedMap.find_set_other _ (Ne.symm same), same, holds.hosts]
  · intro host
    cases route : declared.route with
    | none =>
        by_cases same : declared.host = host <;>
          simp [lastRoute, Tables.addRoute, route, same, holds.routes]
    | some found =>
        by_cases same : declared.host = host
        · simp [lastRoute, Tables.addRoute, route, ← same]
        · simp [lastRoute, Tables.addRoute, OrderedMap.find_set_other _ (Ne.symm same), same,
            holds.routes]
  · intro host proof found
    by_cases same : declared.host = host
    · exact ⟨declared, by simp, same⟩
    · rw [OrderedMap.find_set_other _ (Ne.symm same)] at found
      obtain ⟨one, member, named⟩ := holds.proofs host proof found
      exact ⟨one, List.mem_append_left _ member, named⟩
  · intro siteId site found
    rcases addSite_find added found with ⟨named, same⟩ | old
    · exact ⟨declared, by simp, named.symm, same.symm⟩
    · obtain ⟨one, member, named⟩ := holds.sites siteId site old
      exact ⟨one, List.mem_append_left _ member, named⟩
  · intro one member
    rcases List.mem_append.mp member with old | new
    · exact addSite_keeps added (holds.held one old)
    · rw [List.mem_singleton.mp new]
      exact addSite_held added

theorem Holds.empty : Holds [] .empty where
  hosts _ := rfl
  routes _ := rfl
  proofs _ _ found := by simp [Tables.empty, OrderedMap.empty, OrderedMap.find] at found
  sites _ _ found := by simp [Tables.empty, OrderedMap.empty, OrderedMap.find] at found
  held _ member := by simp at member

/-- Behind every run the tables hold what its entries declare. -/
theorem run_holds {declared : List Declared} {tables : Tables}
    (reached : Machine.run BundleEntries.record .empty declared = some tables) :
    Holds declared tables := by
  have always : Machine.Meets BundleEntries.record (fun _ _ => True) .empty declared :=
    Machine.Meets.of_forall (fun _ _ => trivial) _
  exact Machine.run_history_invariant Holds (fun _ holds _ recorded => holds.record recorded)
    .empty always reached

/-- Entries of one site share its runtime. -/
theorem Holds.same_site {declared : List Declared} {tables : Tables}
    (holds : Holds declared tables) {first second : Declared} (firstMember : first ∈ declared)
    (secondMember : second ∈ declared) (sites : first.siteId = second.siteId) :
    first.runtime = second.runtime := by
  have firstHeld := holds.held first firstMember
  rw [sites, holds.held second secondMember] at firstHeld
  exact text_injective (Option.some.inj (Option.some.inj firstHeld)).symm

end DarkmeshGateway.Resolver.BundleEntries
