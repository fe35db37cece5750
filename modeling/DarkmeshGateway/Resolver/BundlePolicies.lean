import DarkmeshGateway.Resolver.BundleNormalization
import DarkmeshGateway.Resolver.Policies

/-!
Contract: how the resolver normalises the policies of a built bundle.

Owns when the resolver takes a host, site, proof or route entry read from a
bundle, and what it keeps of it.

Does not own the tables the entries are part of.
-/

namespace DarkmeshGateway.Resolver.BundlePolicies

open Foundation
open Foundation.Lua
open Foundation.Document
open Foundation.Outcome
open Foundation.Js (JsString utf8 utf8Length)
open Resolver.Normalize
open Resolver.Policies
open BundleBuilder (SiteRuntime)
open BundleEntries
open BundleNormalization

variable {platform : Platform} {host : JsString}

/-! ### Properties -/

variable {fields : Js.Fields} {spec : Entries}

/-- An ASCII name. -/
def asciiName (name : String) : Bool := name.toList.all (·.toNat < 0x80)

theorem field_text (decoded : Decodes (.obj fields) (.table spec))
    (distinct : (fields.map Prod.fst).Nodup) {name : String} (ascii : asciiName name = true)
    {value : Option JsString} (held : fields.get (Js.js name) = value.map Js.Json.str) :
    field spec name = value.map readText := by
  cases value with
  | none => exact decoded.field_none ascii held
  | some text =>
      obtain ⟨read, found, reads⟩ := decoded.field_some distinct ascii held
      cases reads with
      | str => exact found

/-- A field with other spellings that are not there. -/
theorem anyField_text (decoded : Decodes (.obj fields) (.table spec))
    (distinct : (fields.map Prod.fst).Nodup) {name : String} {others : List String}
    (ascii : (name :: others).all asciiName = true) {value : Option JsString}
    (held : fields.get (Js.js name) = value.map Js.Json.str)
    (absent : ∀ other ∈ others, fields.get (Js.js other) = none) :
    anyField spec (name :: others) = value.map readText := by
  rw [List.all_cons, Bool.and_eq_true, List.all_eq_true] at ascii
  have first := field_text decoded distinct ascii.1 held
  have rest : ∀ other ∈ others, field spec other = none := fun other member =>
    decoded.field_none (ascii.2 other member) (absent other member)
  rw [anyField, List.map_cons, first]
  have nothing : firstOf (others.map (field spec)) = none := by
    clear ascii absent held first
    induction others with
    | nil => rfl
    | cons other more inductionHypothesis =>
        rw [List.forall_mem_cons] at rest
        rw [List.map_cons, rest.1]
        cases more with
        | nil => rfl
        | cons next later => exact inductionHypothesis rest.2
  cases others with
  | nil => rfl
  | cons other more =>
      cases value with
      | none => exact nothing
      | some text => rfl

theorem optionalField_keys (name : String) (value : Option JsString) :
    ((BundleBuilder.optionalField name value).map Prod.fst).Sublist [Js.js name] := by
  cases value with
  | none => exact List.nil_sublist _
  | some text => exact List.Sublist.refl _

theorem runtime_keys (runtime : SiteRuntime) :
    (runtime.fields.map Prod.fst).Sublist
      (([Js.js "processId"] ++ [Js.js "moduleId"] ++ [Js.js "scheduler"] ++
        [Js.js "routePrefix"]) ++ [Js.js "status"]) := by
  simp only [SiteRuntime.fields, List.map_append]
  exact (((((optionalField_keys _ _).append (optionalField_keys _ _)).append
    (optionalField_keys _ _)).append (optionalField_keys _ _)).append (optionalField_keys _ _))

/-! ### Runtimes -/

/-- A table that holds a runtime under the names of the builder. -/
structure RuntimeRead (spec : Entries) (runtime : SiteRuntime) : Prop where
  processId : anyField spec ["processId", "Process-Id", "process_id"] =
    runtime.processId.map readText
  moduleId : anyField spec ["moduleId", "Module-Id", "module_id"] = runtime.moduleId.map readText
  scheduler : anyField spec ["scheduler", "Scheduler-Id", "scheduler_id"] =
    runtime.scheduler.map readText
  routePrefix : anyField spec ["routePrefix", "Route-Prefix", "route_prefix"] =
    runtime.routePrefix.map readText
  status : field spec "status" = runtime.status.map readText

/-- The names under which a document holds a runtime. -/
def runtimeNames : List JsString :=
  [Js.js "processId", Js.js "moduleId", Js.js "scheduler", Js.js "routePrefix", Js.js "status"]

theorem runtime_get_unknown (runtime : SiteRuntime) {key : JsString}
    (unknown : key ∉ runtimeNames) : runtime.fields.get key = none := by
  simp only [runtimeNames, List.mem_cons, List.not_mem_nil, or_false, not_or] at unknown
  simp only [SiteRuntime.fields, get_append, get_optionalField, if_neg unknown.1,
    if_neg unknown.2.1, if_neg unknown.2.2.1, if_neg unknown.2.2.2.1, if_neg unknown.2.2.2.2,
    Option.or_none]

theorem runtimeRead_of_get {runtime : SiteRuntime}
    (decoded : Decodes (.obj fields) (.table spec)) (distinct : (fields.map Prod.fst).Nodup)
    (held : ∀ key, key ≠ Js.js "siteId" → fields.get key = runtime.fields.get key) :
    RuntimeRead spec runtime := by
  have spelled {name : String} {others : List String} {value : Option JsString}
      (ascii : (name :: others).all asciiName = true) (own : Js.js name ≠ Js.js "siteId")
      (unknown : ∀ other ∈ others, Js.js other ≠ Js.js "siteId" ∧ Js.js other ∉ runtimeNames)
      (found : runtime.fields.get (Js.js name) = value.map Js.Json.str) :
      anyField spec (name :: others) = value.map readText := by
    apply anyField_text decoded distinct ascii
    · rw [held _ own, found]
    · intro other member
      rw [held _ (unknown other member).1, runtime_get_unknown runtime (unknown other member).2]
  constructor
  · apply spelled (by decide) (by decide) (by decide)
    simp +decide only [SiteRuntime.fields, get_append, get_optionalField, if_true,
      if_false, Option.or_none]
  · apply spelled (by decide) (by decide) (by decide)
    simp +decide only [SiteRuntime.fields, get_append, get_optionalField, if_true,
      if_false, Option.or_none, Option.none_or]
  · apply spelled (by decide) (by decide) (by decide)
    simp +decide only [SiteRuntime.fields, get_append, get_optionalField, if_true,
      if_false, Option.or_none, Option.none_or]
  · apply spelled (by decide) (by decide) (by decide)
    simp +decide only [SiteRuntime.fields, get_append, get_optionalField, if_true,
      if_false, Option.or_none, Option.none_or]
  · apply field_text decoded distinct (by decide)
    rw [held _ (by decide)]
    simp +decide only [SiteRuntime.fields, get_append, get_optionalField, if_true,
      if_false, Option.none_or]

/-- The resolver takes what a site and its hosts share. -/
structure RuntimeFits (platform : Platform) (runtime : SiteRuntime) : Prop where
  routePrefix : ∀ path ∈ runtime.routePrefix, PathFits platform path
  status : ∀ status ∈ runtime.status, utf8Length status ≤ 64

/-- The process fields of a runtime as the resolver keeps them. -/
def readRuntime (runtime : SiteRuntime) : ProcessFields where
  processId := runtime.processId.map utf8
  moduleId := runtime.moduleId.map utf8
  scheduler := runtime.scheduler.map utf8
  routePrefix := runtime.routePrefix.map (utf8 ∘ frontPart)

theorem normalizeProcessFields_ok_iff (laws : PlatformLaws platform) {runtime : SiteRuntime}
    (shape : RuntimeShape runtime) (read : RuntimeRead spec runtime) {result : ProcessFields} :
    normalizeProcessFields platform spec = .ok result ↔
      (∀ path ∈ runtime.routePrefix, PathFits platform path) ∧ result = readRuntime runtime := by
  simp only [normalizeProcessFields, read.processId, read.moduleId, read.scheduler,
    read.routePrefix, normalizeProcessIdentifier_read laws shape.processId,
    normalizeProcessIdentifier_read laws shape.moduleId,
    normalizeProcessIdentifier_read laws shape.scheduler, bind_eq_ok, Except.ok.injEq,
    exists_eq_left']
  cases prefixed : runtime.routePrefix with
  | none =>
      simp only [Option.map_none, readRuntime, prefixed, pure_eq_ok]
      simp [eq_comm]
  | some path =>
      have rooted := shape.routePrefix path prefixed
      simp only [Option.map_some, readText, laws.tostring, readRuntime, prefixed]
      simp only [bind_eq_ok, normalizePath_ok_iff laws rooted, Option.mem_some_iff, forall_eq']
      constructor
      · rintro ⟨_, ⟨fits, rfl⟩, made⟩
        exact ⟨fits, (pure_eq_ok.mp made).symm⟩
      · rintro ⟨fits, rfl⟩
        exact ⟨_, ⟨fits, rfl⟩, rfl⟩

theorem normalizeStatus_ok_iff (laws : PlatformLaws platform) {runtime : SiteRuntime}
    (shape : RuntimeShape runtime) (read : RuntimeRead spec runtime) {blank : LuaString}
    {result : Option LuaString} :
    normalizeStatus platform spec blank = .ok result ↔
      (∀ status ∈ runtime.status, utf8Length status ≤ 64) ∧ result = runtime.status.map utf8 := by
  rw [normalizeStatus, read.status]
  cases stated : runtime.status with
  | none => simp [eq_comm]
  | some status =>
      have tidy := shape.status status stated
      have nonempty : utf8 status ≠ [] := fun empty => tidy.visible (Js.utf8_eq_nil_iff.mp empty)
      simp only [Option.map_some, readText, laws.tostring, trim_utf8 tidy.trimmed,
        if_neg nonempty, Option.mem_some_iff, forall_eq']
      rw [bind_eq_ok]
      simp only [laws.checkLength, Js.utf8_length]
      constructor
      · rintro ⟨_, short, made⟩
        exact ⟨short, (pure_eq_ok.mp made).symm⟩
      · rintro ⟨short, rfl⟩
        exact ⟨(), short, rfl⟩

/-! ### Hosts and sites -/

/-- The resolver takes an entry of `hostPolicies`. -/
structure HostFits (platform : Platform) (host : JsString) (policy : BundleBuilder.HostPolicy) :
    Prop where
  host : host.length ≤ platform.maxHostBytes
  siteId : utf8Length policy.siteId ≤ 128
  runtime : RuntimeFits platform policy.runtime

/-- A host policy as the resolver keeps it. -/
def readHostPolicy (policy : BundleBuilder.HostPolicy) : HostPolicy where
  siteId := utf8 policy.siteId
  processId := policy.runtime.processId.map utf8
  moduleId := policy.runtime.moduleId.map utf8
  scheduler := policy.runtime.scheduler.map utf8
  routePrefix := policy.runtime.routePrefix.map (utf8 ∘ frontPart)
  status := policy.runtime.status.map utf8

def readSitePolicy (runtime : SiteRuntime) : SitePolicy where
  processId := runtime.processId.map utf8
  moduleId := runtime.moduleId.map utf8
  scheduler := runtime.scheduler.map utf8
  routePrefix := runtime.routePrefix.map (utf8 ∘ frontPart)
  status := runtime.status.map utf8

theorem hostPolicy_keys (policy : BundleBuilder.HostPolicy) :
    (policy.fields.map Prod.fst).Nodup := by
  have names : (policy.fields.map Prod.fst).Sublist (Js.js "siteId" ::
      (([Js.js "processId"] ++ [Js.js "moduleId"] ++ [Js.js "scheduler"] ++
        [Js.js "routePrefix"]) ++ [Js.js "status"])) :=
    (runtime_keys policy.runtime).cons_cons _
  exact names.nodup (by decide)

theorem site_keys (runtime : SiteRuntime) : (runtime.fields.map Prod.fst).Nodup :=
  (runtime_keys runtime).nodup (by decide)

private theorem get_behind_siteId (policy : BundleBuilder.HostPolicy) {key : JsString}
    (other : key ≠ Js.js "siteId") : policy.fields.get key = policy.runtime.fields.get key := by
  have miss : (key == Js.js "siteId") = false := by simpa using other
  rw [BundleBuilder.HostPolicy.fields, Js.Fields.get, List.lookup_cons, miss]
  rfl

theorem normalizeHostEntry_ok_iff (laws : PlatformLaws platform) {entry : BundleBuilder.HostEntry}
    (shape : EntryShape entry) (decoded : Decodes (.obj entry.policy.fields) (.table spec))
    {result : LuaString × HostPolicy} :
    normalizeHostEntry platform (keyOf entry.host) spec = .ok result ↔
      HostFits platform entry.host entry.policy ∧
        result = (utf8 entry.host, readHostPolicy entry.policy) := by
  have distinct := hostPolicy_keys entry.policy
  have runtime : RuntimeRead spec entry.policy.runtime :=
    runtimeRead_of_get decoded distinct fun key other => get_behind_siteId entry.policy other
  have site : anyField spec ["siteId", "Site-Id", "site_id"] =
      some (readText entry.policy.siteId) := by
    have held : entry.policy.fields.get (Js.js "siteId") =
        (some entry.policy.siteId).map Js.Json.str := by
      simp [BundleBuilder.HostPolicy.fields, Js.Fields.get]
    have unknown : ∀ other ∈ ["Site-Id", "site_id"],
        Js.js other ≠ Js.js "siteId" ∧ Js.js other ∉ runtimeNames := by decide
    have absent : ∀ other ∈ ["Site-Id", "site_id"],
        entry.policy.fields.get (Js.js other) = none := by
      intro other member
      rw [get_behind_siteId _ (unknown other member).1,
        runtime_get_unknown _ (unknown other member).2]
    exact anyField_text decoded distinct (by decide) held absent
  have tidy := shape.siteId
  have nonempty : utf8 entry.policy.siteId ≠ [] := fun empty =>
    tidy.visible (Js.utf8_eq_nil_iff.mp empty)
  simp only [normalizeHostEntry, keyOf, Key.value, site, readText, laws.tostring,
    trim_utf8 tidy.trimmed, Option.elim_some, pure_bind]
  rw [bind_eq_ok]
  simp only [normalizeHost_ok_iff laws shape.host, bind_eq_ok, laws.checkLength, Js.utf8_length,
    guard_eq_ok, normalizeProcessFields_ok_iff laws shape.runtime runtime,
    normalizeStatus_ok_iff laws shape.runtime runtime]
  constructor
  · rintro ⟨_, ⟨short, rfl⟩, _, site, _, _, ⟨paths, rfl⟩, _, ⟨status, rfl⟩, made⟩
    exact ⟨⟨short, site, paths, status⟩, (pure_eq_ok.mp made).symm⟩
  · rintro ⟨fits, rfl⟩
    exact ⟨_, ⟨fits.host, rfl⟩, (), fits.siteId, nonempty, _, ⟨fits.runtime.routePrefix, rfl⟩, _,
      ⟨fits.runtime.status, rfl⟩, rfl⟩

/-- The resolver takes an entry of `sitePolicies`. -/
structure SiteFits (platform : Platform) (siteId : JsString) (runtime : SiteRuntime) : Prop where
  siteId : utf8Length siteId ≤ 128
  runtime : RuntimeFits platform runtime

theorem normalizeSiteEntry_ok_iff (laws : PlatformLaws platform) {siteId : JsString}
    {runtime : SiteRuntime} (tidy : Tidy 128 siteId) (shape : RuntimeShape runtime)
    (decoded : Decodes (.obj runtime.fields) (.table spec)) {result : LuaString × SitePolicy} :
    normalizeSiteEntry platform (keyOf siteId) spec = .ok result ↔
      SiteFits platform siteId runtime ∧ result = (utf8 siteId, readSitePolicy runtime) := by
  have distinct := site_keys runtime
  have read : RuntimeRead spec runtime :=
    runtimeRead_of_get decoded distinct fun _ _ => rfl
  have unnamed : anyField spec ["siteId", "Site-Id", "site_id"] = none := by
    have unknown : ∀ name ∈ ["siteId", "Site-Id", "site_id"], Js.js name ∉ runtimeNames := by
      decide
    have absent (name : String) (own : name ∈ ["siteId", "Site-Id", "site_id"]) :
        runtime.fields.get (Js.js name) = none := runtime_get_unknown runtime (unknown name own)
    have held : runtime.fields.get (Js.js "siteId") = none.map Js.Json.str :=
      absent "siteId" (by decide)
    exact anyField_text decoded distinct (by decide) held
      fun other member => absent other (List.mem_cons_of_mem _ member)
  have nonempty : utf8 siteId ≠ [] := fun empty => tidy.visible (Js.utf8_eq_nil_iff.mp empty)
  have named : firstOf [none, some (Key.str (utf8 siteId)).value] = some (.str (utf8 siteId)) := rfl
  simp only [normalizeSiteEntry, keyOf, unnamed, named, Option.map_some, Option.getD_some,
    laws.tostring]
  rw [bind_eq_ok]
  simp only [bind_eq_ok, laws.checkLength, Js.utf8_length, guard_eq_ok,
    normalizeProcessFields_ok_iff laws shape read, normalizeStatus_ok_iff laws shape read]
  constructor
  · rintro ⟨_, short, _, _, ⟨paths, rfl⟩, _, ⟨status, rfl⟩, made⟩
    exact ⟨⟨short, paths, status⟩, (pure_eq_ok.mp made).symm⟩
  · rintro ⟨fits, rfl⟩
    exact ⟨(), fits.siteId, nonempty, _, ⟨fits.runtime.routePrefix, rfl⟩, _,
      ⟨fits.runtime.status, rfl⟩, rfl⟩

/-! ### Proofs and routes -/

theorem normalizeDnsEntry_isOk_iff (laws : PlatformLaws platform) (named : HostName host) :
    (∃ result, normalizeDnsEntry platform (keyOf host) spec = .ok result) ↔
      host.length ≤ platform.maxHostBytes := by
  simp only [normalizeDnsEntry, keyOf, Key.value, bind_eq_ok, normalizeHost_ok_iff laws named]
  constructor
  · rintro ⟨_, _, ⟨short, _⟩, _⟩
    exact short
  · intro short
    exact ⟨_, _, ⟨short, rfl⟩, rfl⟩

/-- The resolver takes a rule. -/
structure RuleFits (platform : Platform) (rule : BundleBuilder.RouteRule) : Prop where
  pathPrefix : PathFits platform rule.pathPrefix
  methods : ∀ names ∈ rule.methods, ∀ name ∈ names, name.length ≤ platform.maxMethodBytes
  actionHint : ∀ hint ∈ rule.actionHint, utf8Length hint ≤ 128

/-- The resolver takes an entry of `routePolicies`. -/
structure RouteFits (platform : Platform) (host : JsString) (route : BundleBuilder.Route) :
    Prop where
  host : host.length ≤ platform.maxHostBytes
  defaultActionHint : ∀ hint ∈ route.defaultActionHint, utf8Length hint ≤ 128
  rules : ∀ rule ∈ route.rules, RuleFits platform rule

/-- A loop of readings goes through exactly when every reading does. -/
theorem mapM_isOk_iff {ε α β : Type} {read : α → Except ε β} {items : List α} :
    (∃ out, items.mapM read = .ok out) ↔ ∀ item ∈ items, ∃ result, read item = .ok result := by
  induction items with
  | nil => simp [pure, Except.pure]
  | cons item rest inductionHypothesis =>
      simp only [List.mapM_cons, bind_eq_ok, List.forall_mem_cons, ← inductionHypothesis]
      constructor
      · rintro ⟨_, first, firstRead, others, othersRead, _⟩
        exact ⟨⟨first, firstRead⟩, ⟨others, othersRead⟩⟩
      · rintro ⟨⟨first, firstRead⟩, ⟨others, othersRead⟩⟩
        exact ⟨_, first, firstRead, others, othersRead, rfl⟩

theorem sequence_texts {names : List JsString} {entries : Entries}
    (decoded : Decodes (.arr (names.map Js.Json.str)) (.table entries)) :
    sequence entries = names.map readText := by
  have elements := decoded.sequence
  generalize sequence entries = values at elements
  clear decoded
  induction names generalizing values with
  | nil =>
      cases elements with
      | nil => rfl
  | cons name rest inductionHypothesis =>
      cases elements with
      | cons first others =>
          cases first with
          | str =>
              rw [inductionHypothesis _ others, List.map_cons]
              rfl

theorem normalizeMethodSet_isOk_iff (laws : PlatformLaws platform) {names : List JsString}
    (valid : ∀ name ∈ names, name ∈ BundleBuilder.validRouteMethods) {entries : Entries}
    (decoded : Decodes (.arr (names.map Js.Json.str)) (.table entries)) :
    (∃ result, normalizeMethodSet platform (some (.table entries)) = .ok result) ↔
      ∀ name ∈ names, name.length ≤ platform.maxMethodBytes := by
  have loop : (∃ result, normalizeMethodSet platform (some (.table entries)) = .ok result) ↔
      ∃ out, (names.map readText).mapM
        (fun method => normalizeMethod platform method (lua "methods")) = .ok out := by
    rw [normalizeMethodSet, sequence_texts decoded]
    cases (names.map readText).mapM
      (fun method => normalizeMethod platform method (lua "methods")) with
    | error failure => simp [Except.map]
    | ok out => simp [Except.map]
  rw [loop, mapM_isOk_iff, List.forall_mem_map]
  apply forall₂_congr
  intro name member
  simp only [readText, normalizeMethod_ok_iff laws (valid name member)]
  constructor
  · rintro ⟨_, short, _⟩
    exact short
  · intro short
    exact ⟨_, short, rfl⟩

theorem rule_keys (rule : BundleBuilder.RouteRule) : (rule.fields.map Prod.fst).Nodup := by
  have names : (rule.fields.map Prod.fst).Sublist
      (Js.js "pathPrefix" :: ([Js.js "methods"] ++ [Js.js "actionHint"])) := by
    rw [BundleBuilder.RouteRule.fields, List.map_cons, List.map_append]
    have methods : ((BundleBuilder.methodsFields rule.methods).map Prod.fst).Sublist
        [Js.js "methods"] := by
      cases rule.methods with
      | none => exact List.nil_sublist _
      | some found => exact List.Sublist.refl _
    exact (methods.append (optionalField_keys _ _)).cons_cons _
  exact names.nodup (by decide)

theorem get_methodsFields (methods : Option (List JsString)) (key : JsString) :
    (BundleBuilder.methodsFields methods).get key =
      if key = Js.js "methods" then methods.map fun names => .arr (names.map Js.Json.str)
      else none := by
  cases methods with
  | none => simp [BundleBuilder.methodsFields, Js.Fields.get]
  | some names =>
      by_cases same : key = Js.js "methods"
      · simp [BundleBuilder.methodsFields, Js.Fields.get, same]
      · have miss : (key == Js.js "methods") = false := by simpa using same
        simp [BundleBuilder.methodsFields, Js.Fields.get, List.lookup_cons, miss, same]

theorem get_behind_path (rule : BundleBuilder.RouteRule) {key : JsString}
    (other : key ≠ Js.js "pathPrefix") :
    rule.fields.get key = ((BundleBuilder.methodsFields rule.methods).get key).or
      ((BundleBuilder.optionalField "actionHint" rule.actionHint).get key) := by
  have miss : (key == Js.js "pathPrefix") = false := by simpa using other
  rw [BundleBuilder.RouteRule.fields, Js.Fields.get, List.lookup_cons, miss]
  exact get_append _ _ key

theorem normalizeRule_isOk_iff (laws : PlatformLaws platform) {rule : BundleBuilder.RouteRule}
    (shape : RuleShape rule) (decoded : Decodes (.obj rule.fields) (.table spec))
    {defaultHint : Option LuaString} (short : ∀ hint ∈ defaultHint, hint.length ≤ 128) :
    (∃ result, normalizeRule platform defaultHint spec = .ok result) ↔ RuleFits platform rule := by
  have distinct := rule_keys rule
  have path : field spec "pathPrefix" = some (readText rule.pathPrefix) := by
    have held : rule.fields.get (Js.js "pathPrefix") =
        (some rule.pathPrefix).map Js.Json.str := by
      simp [BundleBuilder.RouteRule.fields, Js.Fields.get]
    exact field_text decoded distinct (by decide) held
  have hint : field spec "actionHint" = rule.actionHint.map readText := by
    apply field_text decoded distinct (by decide)
    rw [get_behind_path rule (by decide), get_methodsFields, if_neg (by decide),
      get_optionalField, if_pos rfl, Option.none_or]
  have found : rule.fields.get (Js.js "methods") =
      rule.methods.map fun names => .arr (names.map Js.Json.str) := by
    rw [get_behind_path rule (by decide), get_methodsFields, if_pos rfl, get_optionalField,
      if_neg (by decide), Option.or_none]
  have methods : (∃ result, normalizeMethodSet platform (field spec "methods") = .ok result) ↔
      ∀ names ∈ rule.methods, ∀ name ∈ names, name.length ≤ platform.maxMethodBytes := by
    cases listed : rule.methods with
    | none =>
        rw [listed] at found
        rw [decoded.field_none (by decide) found]
        simp [normalizeMethodSet]
    | some names =>
        rw [listed] at found
        obtain ⟨read, held, reads⟩ := decoded.field_some distinct (by decide) found
        obtain ⟨entries, rfl⟩ : ∃ entries, read = .table entries := by
          cases reads
          exact ⟨_, rfl⟩
        rw [held, normalizeMethodSet_isOk_iff laws (shape.methods names listed) reads]
        simp
  have given : firstOf [some (readText rule.pathPrefix), field spec "path",
      some (.str (lua "/"))] = some (readText rule.pathPrefix) := rfl
  simp only [normalizeRule, path, hint, given, Option.getD_some, bind_eq_ok]
  rw [readText]
  simp only [normalizePath_ok_iff laws shape.pathPrefix, laws.checkLength]
  have hintLength : (if truthy (rule.actionHint.map readText) then
      ((rule.actionHint.map readText).map platform.tostring).getD []
      else defaultHint.getD (lua "read")).length ≤ 128 ↔
        ∀ hint ∈ rule.actionHint, utf8Length hint ≤ 128 := by
    cases rule.actionHint with
    | none =>
        cases defaultHint with
        | none => simp [truthy, lua]
        | some text =>
            have fits := short text rfl
            simpa [truthy] using fits
    | some text => simp [truthy, readText, laws.tostring, Js.utf8_length]
  rw [hintLength]
  constructor
  · rintro ⟨_, _, ⟨fits, _⟩, _, read, _, hinted, _⟩
    exact ⟨fits, methods.mp ⟨_, read⟩, hinted⟩
  · intro fits
    obtain ⟨set, read⟩ := methods.mpr fits.methods
    exact ⟨_, _, ⟨fits.pathPrefix, rfl⟩, set, read, (), fits.actionHint, rfl⟩

/-- The rules of a route, in the order of its document. -/
theorem normalizeRules_isOk_iff (laws : PlatformLaws platform)
    {rules : List BundleBuilder.RouteRule} (shape : ∀ rule ∈ rules, RuleShape rule)
    {values : List Value}
    (decoded : List.Forall₂ Decodes (rules.map fun rule => .obj rule.fields) values)
    {defaultHint : Option LuaString} (short : ∀ hint ∈ defaultHint, hint.length ≤ 128) :
    (∃ result, normalizeRules platform defaultHint values = .ok result) ↔
      ∀ rule ∈ rules, RuleFits platform rule := by
  induction rules generalizing values with
  | nil =>
      cases decoded with
      | nil => simp [normalizeRules]
  | cons rule rest inductionHypothesis =>
      rw [List.forall_mem_cons] at shape ⊢
      cases decoded with
      | @cons _ value _ others first decodedRest =>
          obtain ⟨entries, rfl⟩ : ∃ entries, value = .table entries := by
            cases first
            exact ⟨_, rfl⟩
          rw [← normalizeRule_isOk_iff laws shape.1 first short,
            ← inductionHypothesis shape.2 decodedRest]
          simp only [normalizeRules, bind_eq_ok]
          constructor
          · rintro ⟨_, one, read, more, readMore, _⟩
            exact ⟨⟨one, read⟩, ⟨more, readMore⟩⟩
          · rintro ⟨⟨one, read⟩, ⟨more, readMore⟩⟩
            exact ⟨_, one, read, more, readMore, rfl⟩

theorem route_keys (route : BundleBuilder.Route) : (route.fields.map Prod.fst).Nodup := by
  have rules : ((BundleBuilder.rulesFields route.rules).map Prod.fst).Sublist
      [Js.js "rules"] := by
    unfold BundleBuilder.rulesFields
    split
    · exact List.nil_sublist _
    · exact List.Sublist.refl _
  have names : (route.fields.map Prod.fst).Sublist
      ([Js.js "defaultActionHint"] ++ [Js.js "rules"]) := by
    rw [BundleBuilder.Route.fields, List.map_append]
    exact (optionalField_keys _ _).append rules
  exact names.nodup (by decide)

theorem get_rulesFields (rules : List BundleBuilder.RouteRule) (key : JsString) :
    (BundleBuilder.rulesFields rules).get key =
      if key = Js.js "rules" ∧ rules ≠ [] then
        some (.arr (rules.map fun rule => .obj rule.fields)) else none := by
  by_cases empty : rules = []
  · simp [BundleBuilder.rulesFields, empty, Js.Fields.get]
  · by_cases same : key = Js.js "rules"
    · simp [BundleBuilder.rulesFields, Js.Fields.get, same, empty]
    · have miss : (key == Js.js "rules") = false := by simpa using same
      simp [BundleBuilder.rulesFields, Js.Fields.get, List.lookup_cons, miss, same, empty]

theorem normalizeDefaultActionHint_ok_iff (laws : PlatformLaws platform)
    {hint : Option JsString} (held : field spec "defaultActionHint" = hint.map readText)
    {result : Option LuaString} :
    normalizeDefaultActionHint platform spec = .ok result ↔
      (∀ text ∈ hint, utf8Length text ≤ 128) ∧ result = hint.map utf8 := by
  rw [normalizeDefaultActionHint, held]
  cases hint with
  | none => simp [eq_comm]
  | some text =>
      simp only [Option.map_some, readText, laws.tostring, bind_eq_ok, laws.checkLength,
        Js.utf8_length, Option.mem_some_iff, forall_eq']
      constructor
      · rintro ⟨_, short, made⟩
        exact ⟨short, (pure_eq_ok.mp made).symm⟩
      · rintro ⟨short, rfl⟩
        exact ⟨(), short, rfl⟩

theorem normalizeRouteEntry_isOk_iff (laws : PlatformLaws platform) (named : HostName host)
    {route : BundleBuilder.Route} (shape : RouteShape route)
    (decoded : Decodes (.obj route.fields) (.table spec)) :
    (∃ result, normalizeRouteEntry platform (keyOf host) spec = .ok result) ↔
      RouteFits platform host route := by
  have distinct := route_keys route
  have held : field spec "defaultActionHint" = route.defaultActionHint.map readText := by
    have other : ¬(Js.js "defaultActionHint" = Js.js "rules" ∧ route.rules ≠ []) := fun same =>
      absurd same.1 (by decide)
    apply field_text decoded distinct (by decide)
    rw [BundleBuilder.Route.fields, get_append, get_optionalField, if_pos rfl, get_rulesFields,
      if_neg other, Option.or_none]
  have found : route.fields.get (Js.js "rules") =
      if route.rules ≠ [] then some (.arr (route.rules.map fun rule => .obj rule.fields))
      else none := by
    rw [BundleBuilder.Route.fields, get_append, get_optionalField, if_neg (by decide),
      get_rulesFields, Option.none_or]
    simp
  have rules (short : ∀ hint ∈ route.defaultActionHint, utf8Length hint ≤ 128) :
      (∃ entries, (if truthy (field spec "rules") then field spec "rules" else some (.table [])) =
        some (.table entries) ∧ ((∃ result, normalizeRules platform
          (route.defaultActionHint.map utf8) (sequence entries) = .ok result) ↔
            ∀ rule ∈ route.rules, RuleFits platform rule)) := by
    by_cases empty : route.rules = []
    · rw [if_neg (not_not.mpr empty)] at found
      rw [decoded.field_none (by decide) found]
      rw [empty]
      exact ⟨[], rfl, iff_of_true ⟨[], rfl⟩ (by simp)⟩
    · rw [if_pos empty] at found
      obtain ⟨read, listed, reads⟩ := decoded.field_some distinct (by decide) found
      obtain ⟨entries, rfl⟩ : ∃ entries, read = .table entries := by
        cases reads
        exact ⟨_, rfl⟩
      refine ⟨entries, by rw [listed]; rfl, ?_⟩
      apply normalizeRules_isOk_iff laws shape.rules reads.sequence
      intro hint member
      obtain ⟨text, own, rfl⟩ := Option.mem_map.mp member
      rw [Js.utf8_length]
      exact short text own
  simp only [normalizeRouteEntry, keyOf, Key.value, bind_eq_ok, normalizeHost_ok_iff laws named,
    normalizeDefaultActionHint_ok_iff laws held]
  constructor
  · rintro ⟨_, _, ⟨short, _⟩, _, ⟨hinted, rfl⟩, made⟩
    obtain ⟨entries, table, fits⟩ := rules hinted
    rw [table] at made
    obtain ⟨read, rulesRead, _⟩ := bind_eq_ok.mp made
    exact ⟨short, hinted, fits.mp ⟨read, rulesRead⟩⟩
  · intro fits
    obtain ⟨entries, table, iff⟩ := rules fits.defaultActionHint
    obtain ⟨read, rulesRead⟩ := iff.mpr fits.rules
    refine ⟨(utf8 host, ⟨route.defaultActionHint.map utf8, read⟩), _, ⟨fits.host, rfl⟩, _,
      ⟨fits.defaultActionHint, rfl⟩, ?_⟩
    rw [table]
    exact bind_eq_ok.mpr ⟨read, rulesRead, rfl⟩

end DarkmeshGateway.Resolver.BundlePolicies
