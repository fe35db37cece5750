import DarkmeshGateway.Resolver.BundlePolicies
import DarkmeshGateway.Resolver.PolicyBundle

/-!
Contract: how `ApplyPolicyBundle` reads a built bundle.

Owns what is found in the table of a bundle, the message that carries it, when
its four tables are taken and what is kept of them.

Does not own which bundles are built, nor what the handler assigns.
-/

namespace DarkmeshGateway.Resolver.BundleReading

open Foundation
open Foundation.Lua
open Foundation.Document
open Foundation.Outcome
open Foundation.Js (JsString utf8 utf8Length utf8_injective)
open Resolver.Normalize
open Resolver.Policies
open Resolver.State
open Resolver.PolicyBundle
open BundleBuilder (SiteRuntime Options Bundle)
open BundleEntries
open BundleNormalization
open BundlePolicies

/-! ### Tables -/

section Tables

variable {α : Type} {entry : Key → Entries → Except LuaString (LuaString × α)}
  {input : Entries}

/-- Every table in the input is taken. -/
def AllTaken (entry : Key → Entries → Except LuaString (LuaString × α)) (input : Entries) :
    Prop :=
  ∀ key spec, (key, Value.table spec) ∈ input → ∃ result, entry key spec = .ok result

theorem allTaken_cons {key : Key} {value : Value} {rest : Entries} :
    AllTaken entry ((key, value) :: rest) ↔
      (∀ spec, value = .table spec → ∃ result, entry key spec = .ok result) ∧
        AllTaken entry rest := by
  constructor
  · intro all
    refine ⟨?_, fun other spec member => all other spec (List.mem_cons_of_mem _ member)⟩
    rintro spec rfl
    exact all key spec List.mem_cons_self
  · rintro ⟨first, others⟩ other spec member
    rcases List.mem_cons.mp member with same | later
    · obtain ⟨rfl, value⟩ := Prod.mk.inj same
      exact first spec value.symm
    · exact others other spec later

theorem normalizeEntries_isOk_iff {out : OrderedMap LuaString α} :
    (∃ result, normalizeEntries entry input out = .ok result) ↔ AllTaken entry input := by
  induction input generalizing out with
  | nil => simp [normalizeEntries, AllTaken]
  | cons head rest inductionHypothesis =>
      obtain ⟨key, value⟩ := head
      rw [allTaken_cons]
      cases value with
      | table spec =>
          simp only [normalizeEntries, Value.table.injEq, forall_eq']
          cases read : entry key spec with
          | error failure => simp
          | ok named => simp [inductionHypothesis]
      | bool flag => simp [normalizeEntries, inductionHypothesis]
      | num number => simp [normalizeEntries, inductionHypothesis]
      | str text => simp [normalizeEntries, inductionHypothesis]

/-- What is kept was there before or was read from a table of the input. -/
theorem normalizeEntries_sound {out result : OrderedMap LuaString α}
    (read : normalizeEntries entry input out = .ok result) {name : LuaString} {policy : α}
    (found : result.find name = some policy) :
    out.find name = some policy ∨
      ∃ key spec, (key, Value.table spec) ∈ input ∧ entry key spec = .ok (name, policy) := by
  induction input generalizing out with
  | nil =>
      obtain rfl : out = result := by simpa [normalizeEntries] using read
      exact Or.inl found
  | cons head rest inductionHypothesis =>
      obtain ⟨key, value⟩ := head
      have later {out : OrderedMap LuaString α}
          (read : normalizeEntries entry rest out = .ok result) :
          out.find name = some policy ∨ ∃ other spec,
            (other, Value.table spec) ∈ (key, value) :: rest ∧
              entry other spec = .ok (name, policy) := by
        rcases inductionHypothesis read with old | ⟨other, spec, member, reads⟩
        · exact Or.inl old
        · exact Or.inr ⟨other, spec, List.mem_cons_of_mem _ member, reads⟩
      cases value with
      | table spec =>
          simp only [normalizeEntries] at read
          cases here : entry key spec with
          | error failure => simp [here] at read
          | ok named =>
              obtain ⟨other, kept⟩ := named
              simp only [here] at read
              rcases later read with old | new
              · by_cases same : name = other
                · rw [same, OrderedMap.find_set_self, Option.some.injEq] at old
                  rw [same, ← old]
                  exact Or.inr ⟨key, spec, List.mem_cons_self, here⟩
                · rw [OrderedMap.find_set_other _ same] at old
                  exact Or.inl old
              · exact Or.inr new
      | bool flag => exact later read
      | num number => exact later read
      | str text => exact later read

/-- A name that is kept stays. -/
theorem normalizeEntries_keeps {out result : OrderedMap LuaString α}
    (read : normalizeEntries entry input out = .ok result) {name : LuaString}
    (kept : (out.find name).isSome) : (result.find name).isSome := by
  induction input generalizing out with
  | nil =>
      obtain rfl : out = result := by simpa [normalizeEntries] using read
      exact kept
  | cons head rest inductionHypothesis =>
      obtain ⟨key, value⟩ := head
      cases value with
      | table spec =>
          simp only [normalizeEntries] at read
          cases here : entry key spec with
          | error failure => simp [here] at read
          | ok named =>
              simp only [here] at read
              apply inductionHypothesis read
              by_cases same : name = named.1
              · simp [same]
              · rwa [OrderedMap.find_set_other _ same]
      | bool flag => exact inductionHypothesis read kept
      | num number => exact inductionHypothesis read kept
      | str text => exact inductionHypothesis read kept

/-- The name of every table of the input is kept. -/
theorem normalizeEntries_complete {out result : OrderedMap LuaString α}
    (read : normalizeEntries entry input out = .ok result) {key : Key} {spec : Entries}
    (member : (key, Value.table spec) ∈ input) {name : LuaString} {policy : α}
    (reads : entry key spec = .ok (name, policy)) : (result.find name).isSome := by
  induction input generalizing out with
  | nil => simp at member
  | cons head rest inductionHypothesis =>
      obtain ⟨other, value⟩ := head
      rcases List.mem_cons.mp member with same | later
      · obtain ⟨rfl, rfl⟩ := Prod.mk.inj same
        simp only [normalizeEntries, reads] at read
        exact normalizeEntries_keeps read (by simp)
      · cases value with
        | table otherSpec =>
            simp only [normalizeEntries] at read
            cases here : entry other otherSpec with
            | error failure => simp [here] at read
            | ok named =>
                simp only [here] at read
                exact inductionHypothesis read later
        | bool flag => exact inductionHypothesis read later
        | num number => exact inductionHypothesis read later
        | str text => exact inductionHypothesis read later

variable {β : Type} {fields : β → Js.Fields} {table : BundleBuilder.Table β}

/-- The document of a table of the bundle. -/
def tableDocument (fields : β → Js.Fields) (table : BundleBuilder.Table β) : Js.Json :=
  .obj (table.entries.map fun entry => (entry.1, .obj (fields entry.2)))

/-- The tables read from the entries of a table. -/
theorem mem_tableDocument (decoded : Decodes (tableDocument fields table) (.table input))
    {key : Key} {spec : Entries} (member : (key, Value.table spec) ∈ input) :
    ∃ name item, (name, item) ∈ table.entries ∧ key = keyOf name ∧
      Decodes (.obj (fields item)) (.table spec) := by
  obtain ⟨name, document, listed, named, reads⟩ := decoded.of_entry member
  obtain ⟨⟨_, item⟩, own, same⟩ := List.mem_map.mp listed
  obtain ⟨rfl, rfl⟩ := Prod.mk.inj same
  exact ⟨_, item, own, named, reads⟩

theorem exists_tableDocument (decoded : Decodes (tableDocument fields table) (.table input))
    {name : JsString} {item : β} (own : (name, item) ∈ table.entries) :
    ∃ spec, (keyOf name, Value.table spec) ∈ input ∧ Decodes (.obj (fields item)) (.table spec) := by
  have listed : (name, Js.Json.obj (fields item)) ∈
      table.entries.map fun entry => (entry.1, Js.Json.obj (fields entry.2)) :=
    List.mem_map.mpr ⟨(name, item), own, rfl⟩
  obtain ⟨found, member, reads⟩ := decoded.entry listed
  cases reads with
  | obj read order => exact ⟨_, member, .obj read order⟩

/-- The resolver takes a table when it takes each of its entries. -/
theorem allTaken_iff {Fits : JsString → β → Prop}
    (decoded : Decodes (tableDocument fields table) (.table input))
    (taken : ∀ name item spec, (name, item) ∈ table.entries →
      Decodes (.obj (fields item)) (.table spec) →
        ((∃ result, entry (keyOf name) spec = .ok result) ↔ Fits name item)) :
    AllTaken entry input ↔ ∀ name item, (name, item) ∈ table.entries → Fits name item := by
  constructor
  · intro all name item own
    obtain ⟨spec, member, reads⟩ := exists_tableDocument decoded own
    exact (taken name item spec own reads).mp (all _ spec member)
  · intro fits key spec member
    obtain ⟨name, item, own, rfl, reads⟩ := mem_tableDocument decoded member
    exact (taken name item spec own reads).mpr (fits name item own)

variable {keep : β → α} {result : OrderedMap LuaString α}

/-- What is kept of a table of the bundle are its entries. -/
theorem mem_kept (decoded : Decodes (tableDocument fields table) (.table input))
    (reads : ∀ name item spec read, (name, item) ∈ table.entries →
      Decodes (.obj (fields item)) (.table spec) → entry (keyOf name) spec = .ok read →
        read = (utf8 name, keep item))
    (read : normalizeEntries entry input .empty = .ok result) {text : LuaString} {policy : α}
    (found : result.find text = some policy) :
    ∃ name item, (name, item) ∈ table.entries ∧ text = utf8 name ∧ policy = keep item := by
  rcases normalizeEntries_sound read found with nothing | ⟨key, spec, member, kept⟩
  · simp [OrderedMap.empty, OrderedMap.find] at nothing
  · obtain ⟨name, item, own, rfl, document⟩ := mem_tableDocument decoded member
    obtain ⟨rfl, rfl⟩ := Prod.mk.inj (reads name item spec _ own document kept)
    exact ⟨name, item, own, rfl, rfl⟩

theorem find_kept (decoded : Decodes (tableDocument fields table) (.table input))
    (reads : ∀ name item spec read, (name, item) ∈ table.entries →
      Decodes (.obj (fields item)) (.table spec) → entry (keyOf name) spec = .ok read →
        read = (utf8 name, keep item))
    (read : normalizeEntries entry input .empty = .ok result) (name : JsString) :
    result.find (utf8 name) = (table.find name).map keep := by
  cases found : result.find (utf8 name) with
  | some policy =>
      obtain ⟨other, item, own, same, rfl⟩ := mem_kept decoded reads read found
      rw [utf8_injective same, (table.mem_entries_iff other item).mp own]
      rfl
  | none =>
      cases held : table.find name with
      | none => rfl
      | some item =>
          have own := (table.mem_entries_iff name item).mpr held
          obtain ⟨spec, member, document⟩ := exists_tableDocument decoded own
          obtain ⟨⟨text, policy⟩, taken⟩ :=
            normalizeEntries_isOk_iff.mp ⟨result, read⟩ _ spec member
          have same := reads name item spec _ own document taken
          rw [same] at taken
          have kept := normalizeEntries_complete read member taken
          rw [found] at kept
          contradiction

end Tables

/-! ### The document of a bundle -/

/-- A value of a document that is read. -/
structure ReadAs (table : Entries) (name : String) (document : Js.Json) (value : Value) :
    Prop where
  found : field table name = some value
  reads : Decodes document value

theorem routesFields_keys (routes : BundleBuilder.Table BundleBuilder.Route) :
    ((BundleBuilder.routesFields routes).map Prod.fst).Sublist [Js.js "routePolicies"] := by
  unfold BundleBuilder.routesFields
  split
  · exact List.nil_sublist _
  · exact List.Sublist.refl _

def bundleNames : List JsString :=
  [Js.js "schemaVersion", Js.js "snapshotId", Js.js "version", Js.js "generatedAt",
    Js.js "policyMode", Js.js "failOpen", Js.js "hostPolicies", Js.js "sitePolicies",
    Js.js "dnsProofState"]

theorem bundle_keys (bundle : Bundle) : (bundle.fields.map Prod.fst).Nodup := by
  have names : (bundle.fields.map Prod.fst).Sublist
      (bundleNames ++ [Js.js "routePolicies"] ++ [Js.js "cacheHints"]) := by
    rw [Bundle.fields, List.map_append, List.map_append]
    exact ((List.Sublist.refl bundleNames).append (routesFields_keys _)).append
      (List.Sublist.refl _)
  exact names.nodup (by decide)

theorem get_routesFields (routes : BundleBuilder.Table BundleBuilder.Route) (key : JsString) :
    (BundleBuilder.routesFields routes).get key =
      if key = Js.js "routePolicies" ∧ routes.entries ≠ [] then
        some (tableDocument BundleBuilder.Route.fields routes) else none := by
  by_cases empty : routes.entries = []
  · simp [BundleBuilder.routesFields, empty, Js.Fields.get]
  · by_cases same : key = Js.js "routePolicies"
    · simp [BundleBuilder.routesFields, BundleBuilder.tableField, tableDocument, Js.Fields.get,
        same, empty]
    · have miss : (key == Js.js "routePolicies") = false := by simpa using same
      simp [BundleBuilder.routesFields, BundleBuilder.tableField, Js.Fields.get, List.lookup_cons,
        miss, same, empty]

/-- What a resolver finds in the table of a bundle. -/
structure BundleRead (bundle : Bundle) (table : Entries) : Prop where
  mode : field table "policyMode" = some (readText bundle.options.mode)
  failOpen : field table "failOpen" = some (.bool bundle.options.failOpen)
  hosts : ∃ input, ReadAs table "hostPolicies" (tableDocument BundleBuilder.HostPolicy.fields
    bundle.tables.hostPolicies) (.table input)
  sites : ∃ input, ReadAs table "sitePolicies" (tableDocument SiteRuntime.fields
    bundle.tables.sitePolicies) (.table input)
  proofs : ∃ input, ReadAs table "dnsProofState" (tableDocument BundleBuilder.Proof.fields
    bundle.tables.dnsProofState) (.table input)
  routes : bundle.tables.routePolicies.entries ≠ [] → ∃ input, ReadAs table "routePolicies"
    (tableDocument BundleBuilder.Route.fields bundle.tables.routePolicies) (.table input)
  noRoutes : bundle.tables.routePolicies.entries = [] → field table "routePolicies" = none
  unnamedRoutes : field table "routes" = none
  hints : ∃ input, ReadAs table "cacheHints" (.obj (BundleBuilder.hintFields bundle.options))
    (.table input)

theorem bundleRead_of_decodes {bundle : Bundle} {table : Entries}
    (decoded : Decodes (.obj bundle.fields) (.table table)) : BundleRead bundle table := by
  have distinct := bundle_keys bundle
  have object {name : String} {fields : Js.Fields} (ascii : asciiName name = true)
      (held : bundle.fields.get (Js.js name) = some (.obj fields)) :
      ∃ input, ReadAs table name (.obj fields) (.table input) := by
    obtain ⟨value, found, reads⟩ := decoded.field_some distinct ascii held
    cases reads with
    | obj read order => exact ⟨_, found, .obj read order⟩
  have behind {key : JsString} (other : key ∉ bundleNames) :
      bundle.fields.get key = ((BundleBuilder.routesFields bundle.tables.routePolicies).get key).or
        (Js.Fields.get [(Js.js "cacheHints",
          Js.Json.obj (BundleBuilder.hintFields bundle.options))] key) := by
    have front {fields : Js.Fields} (names : fields.map Prod.fst = bundleNames) :
        fields.get key = none := by
      rw [Js.Fields.get, List.lookup_eq_none_iff]
      intro field member
      have named : field.1 ∈ bundleNames := names ▸ List.mem_map_of_mem member
      have different : key ≠ field.1 := fun same => other (same ▸ named)
      simpa using different
    rw [Bundle.fields, get_append, get_append, front rfl, Option.none_or]
  constructor
  · have held : bundle.fields.get (Js.js "policyMode") =
        (some bundle.options.mode).map Js.Json.str := rfl
    exact field_text decoded distinct (by decide) held
  · have held : bundle.fields.get (Js.js "failOpen") =
        some (.bool bundle.options.failOpen) := rfl
    obtain ⟨value, found, reads⟩ := decoded.field_some distinct (by decide) held
    cases reads with
    | bool => exact found
  · exact object (by decide) rfl
  · exact object (by decide) rfl
  · exact object (by decide) rfl
  · intro some_
    apply object (by decide)
    rw [behind (by decide), get_routesFields, if_pos ⟨rfl, some_⟩]
    rfl
  · intro empty
    have other : ¬(Js.js "routePolicies" = Js.js "routePolicies" ∧
        bundle.tables.routePolicies.entries ≠ []) := fun both => both.2 empty
    apply decoded.field_none (by decide)
    rw [behind (by decide), get_routesFields, if_neg other]
    rfl
  · have other : ¬(Js.js "routes" = Js.js "routePolicies" ∧
        bundle.tables.routePolicies.entries ≠ []) := fun both => absurd both.1 (by decide)
    apply decoded.field_none (by decide)
    rw [behind (by decide), get_routesFields, if_neg other]
    rfl
  · have other : ¬(Js.js "cacheHints" = Js.js "routePolicies" ∧
        bundle.tables.routePolicies.entries ≠ []) := fun both => absurd both.1 (by decide)
    apply object (by decide)
    rw [behind (by decide), get_routesFields, if_neg other]
    rfl

/-! ### Reading a bundle -/

/-- A message of the handler that carries the table of a bundle. -/
structure Carries (msg table : Entries) : Prop where
  bundle : field msg "Bundle" = some (.table table)
  allowed : ∀ entry ∈ msg, ∃ name ∈ bundleFields, entry.1 = .str (lua name)

theorem Carries.absent {msg table : Entries} (carries : Carries msg table) {name : String}
    (foreign : ∀ known ∈ bundleFields, lua known ≠ lua name) : field msg name = none := by
  rw [field, List.lookup_eq_none_iff]
  intro entry member
  obtain ⟨known, listed, named⟩ := carries.allowed entry member
  rw [named]
  simpa using (foreign known listed).symm

theorem firstOf_found {value : Value} {rest : List (Option Value)}
    (found : truthy (some value) = true) : firstOf (some value :: rest) = some value := by
  cases rest with
  | nil => rfl
  | cons operand more => simp [firstOf, found]

theorem bundleField_found {table msg : Entries} {name : String} {names msgNames : List String}
    {value : Value} (found : field table name = some value) (holds : truthy (some value) = true) :
    bundleField table msg (name :: names) msgNames = some value := by
  rw [bundleField, List.map_cons, found, List.cons_append]
  exact firstOf_found holds

variable {platform : Platform}

theorem parseMode_valid {mode : JsString} (valid : mode ∈ BundleBuilder.validPolicyModes) :
    ∃ known, parseMode (lower (utf8 mode)) = some known := by
  have all : ∀ mode ∈ BundleBuilder.validPolicyModes,
      (parseMode (lower (utf8 mode))).isSome = true := by decide
  exact Option.isSome_iff_exists.mp (all mode valid)

theorem bundleMode_ok (laws : PlatformLaws platform) (state : ResolverState) {table msg : Entries}
    {mode : JsString} (valid : mode ∈ BundleBuilder.validPolicyModes)
    (held : field table "policyMode" = some (readText mode)) :
    ∃ known, bundleMode platform state table msg = .ok known := by
  obtain ⟨known, parsed⟩ := parseMode_valid valid
  have given : bundleField table msg ["policyMode", "mode"] ["Policy-Mode", "PolicyMode"] =
      some (readText mode) := bundleField_found held rfl
  have normal : normalizeMode platform state.policyMode (some (readText mode)) =
      (known, false) := by
    simp [normalizeMode, truthy, readText, laws.tostring, parsed]
  exact ⟨known, by rw [bundleMode, given, normal]⟩

theorem small_of_range {value low high : Int} (range : low ≤ value ∧ value ≤ high)
    (bounds : 0 ≤ low ∧ high ≤ 172800) : |(value : ℚ)| < 2 ^ (53 : Int) := by
  have below : (value : ℚ) ≤ 172800 := by exact_mod_cast range.2.trans bounds.2
  have above : (0 : ℚ) ≤ value := by exact_mod_cast bounds.1.trans range.1
  rw [abs_lt]
  constructor <;> norm_num <;> linarith

theorem parseCacheHintNumber_ok (laws : PlatformLaws platform) {options : Options}
    {input : Entries} (decoded : Decodes (.obj (BundleBuilder.hintFields options)) (.table input))
    (name : String) (ascii : asciiName name = true) {value low high : Int}
    (held : (BundleBuilder.hintFields options).get (Js.js name) = some (.num (.ofInt value)))
    (range : low ≤ value ∧ value ≤ high) (small : |(value : ℚ)| < 2 ^ (53 : Int)) :
    parseCacheHintNumber platform input name low high = .ok (some value) := by
  have distinct : ((BundleBuilder.hintFields options).map Prod.fst).Nodup := by
    have names : (BundleBuilder.hintFields options).map Prod.fst =
        [Js.js "positiveTtlSec", Js.js "negativeTtlSec", Js.js "staleWhileRevalidateSec",
          Js.js "hardMaxStaleSec"] := rfl
    rw [names]
    decide
  obtain ⟨read, found, reads⟩ := decoded.field_some distinct ascii held
  cases reads with
  | @integer _ number whole written equal =>
      rw [Js.Number.toDouble_ofInt small, Js.Double.finite.injEq, Int.cast_inj] at written
      have between : ¬(value < low ∨ high < value) := by omega
      simp only [parseCacheHintNumber, found, laws.tonumber, Option.bind_some, equal, ← written,
        if_neg between]

/-- The hints of the options. -/
def hintsOf (options : Options) : CacheHintsUpdate where
  positiveTtlSec := some options.cachePositiveSec
  negativeTtlSec := some options.cacheNegativeSec
  staleWhileRevalidateSec := some options.cacheSwrSec
  hardMaxStaleSec := some options.cacheHardMaxStaleSec

theorem normalizeCacheHints_ok (laws : PlatformLaws platform) {options : Options}
    {input : Entries}
    (decoded : Decodes (.obj (BundleBuilder.hintFields options)) (.table input)) :
    normalizeCacheHints platform (some (.table input)) = .ok (some (hintsOf options)) := by
  have positive := parseCacheHintNumber_ok laws decoded "positiveTtlSec" (by decide) rfl
    options.positiveRange (small_of_range options.positiveRange (by decide))
  have negative := parseCacheHintNumber_ok laws decoded "negativeTtlSec" (by decide) rfl
    options.negativeRange (small_of_range options.negativeRange (by decide))
  have swr := parseCacheHintNumber_ok laws decoded "staleWhileRevalidateSec" (by decide) rfl
    options.swrRange (small_of_range options.swrRange (by decide))
  have hardMaxStale := parseCacheHintNumber_ok laws decoded "hardMaxStaleSec" (by decide) rfl
    options.hardMaxStaleRange (small_of_range options.hardMaxStaleRange (by decide))
  simp only [normalizeCacheHints, positive, negative, swr, hardMaxStale]
  rfl

theorem onField_eq_ok {α : Type} {name : String} {read : Except LuaString α} {result : α} :
    onField name read = .ok result ↔ read = .ok result := by
  cases read <;> simp [onField]

theorem normalizeTable_ok_iff {α : Type} {name : String}
    {entry : Key → Entries → Except LuaString (LuaString × α)} {input : Entries}
    {result : Option (OrderedMap LuaString α)} :
    normalizeTable name entry (some (.table input)) = .ok result ↔
      ∃ kept, normalizeEntries entry input .empty = .ok kept ∧ result = some kept := by
  rw [normalizeTable]
  cases normalizeEntries entry input .empty with
  | error failure => simp [Except.map]
  | ok kept => simp [Except.map, eq_comm]

/-- The handler takes every entry of the tables. -/
structure TablesFit (platform : Platform) (tables : BundleBuilder.Tables) : Prop where
  hosts : ∀ host policy, (host, policy) ∈ tables.hostPolicies.entries →
    HostFits platform host policy
  sites : ∀ siteId runtime, (siteId, runtime) ∈ tables.sitePolicies.entries →
    SiteFits platform siteId runtime
  proofs : ∀ host proof, (host, proof) ∈ tables.dnsProofState.entries →
    host.length ≤ platform.maxHostBytes
  routes : ∀ host route, (host, route) ∈ tables.routePolicies.entries →
    RouteFits platform host route

/-- The texts of the tables are those the builder accepts. -/
structure TablesShape (tables : BundleBuilder.Tables) : Prop where
  hosts : ∀ host policy, (host, policy) ∈ tables.hostPolicies.entries → EntryShape ⟨host, policy⟩
  sites : ∀ siteId runtime, (siteId, runtime) ∈ tables.sitePolicies.entries →
    Tidy 128 siteId ∧ RuntimeShape runtime
  proofs : ∀ host proof, (host, proof) ∈ tables.dnsProofState.entries → HostName host
  routes : ∀ host route, (host, route) ∈ tables.routePolicies.entries →
    HostName host ∧ RouteShape route

variable {bundle : Bundle} {msg table hostInput siteInput proofInput : Entries}

/-- The handler reads the four tables and checks the graph of the first two. -/
theorem readBundle_ok_iff (laws : PlatformLaws platform) (state : ResolverState)
    (carries : Carries msg table) (read : BundleRead bundle table)
    (hostsFound : field table "hostPolicies" = some (.table hostInput))
    (sitesFound : field table "sitePolicies" = some (.table siteInput))
    (proofsFound : field table "dnsProofState" = some (.table proofInput)) :
    ∃ mode, ∀ update, readBundle platform state msg = .ok update ↔
      ∃ hosts sites proofs routes,
        normalizeEntries (normalizeHostEntry platform) hostInput .empty = .ok hosts ∧
        normalizeEntries (normalizeSiteEntry platform) siteInput .empty = .ok sites ∧
        normalizeEntries (normalizeDnsEntry platform) proofInput .empty = .ok proofs ∧
        normalizeRoutePolicies platform (field table "routePolicies") = .ok routes ∧
        validatePolicyGraph hosts sites = .ok () ∧
        update =
          { mode, failOpen := bundle.options.failOpen, cacheHints := some (hintsOf bundle.options),
            hosts := some hosts, sites := some sites, routes, dns := some proofs,
            snapshotId := bundleField table msg ["snapshotId"] ["Snapshot-Id", "SnapshotId"],
            version := bundleField table msg ["version"] ["Version"],
            generatedAt :=
              bundleField table msg ["generatedAt"] ["Generated-At", "GeneratedAt"] } := by
  have extras : rejectExtras platform msg bundleFields = .ok () := by
    rw [rejectExtras, laws.requireNoExtras msg bundleFields carries.allowed]
  have carried : bundleTable msg = .ok table := by
    have first : anyField msg ["Bundle", "bundle"] = some (.table table) := by
      rw [anyField, List.map_cons, carries.bundle]
      exact firstOf_found rfl
    rw [bundleTable, first]
  have known : ∃ mode, bundleMode platform state table msg = .ok mode :=
    bundleMode_ok laws state bundle.options.validMode read.mode
  obtain ⟨mode, moded⟩ := known
  have failOpen : bundleFailOpen state table msg = .ok bundle.options.failOpen := by
    rw [bundleFailOpen, read.failOpen]
    rfl
  obtain ⟨hintInput, hintRead⟩ := read.hints
  have hints : bundleField table msg ["cacheHints"] ["Cache-Hints", "CacheHints"] =
      some (.table hintInput) := bundleField_found hintRead.found rfl
  have hosts : bundleField table msg ["hostPolicies", "hosts"] ["Host-Policies", "HostPolicies"] =
      some (.table hostInput) := bundleField_found hostsFound rfl
  have sites : bundleField table msg ["sitePolicies", "sites"] ["Site-Policies", "SitePolicies"] =
      some (.table siteInput) := bundleField_found sitesFound rfl
  have proofs : bundleField table msg ["dnsProofState", "dnsProof"]
      ["DNS-Proof-State", "DnsProofState"] = some (.table proofInput) :=
    bundleField_found proofsFound rfl
  have routes : bundleField table msg ["routePolicies", "routes"]
      ["Route-Policies", "RoutePolicies"] = field table "routePolicies" := by
    by_cases empty : bundle.tables.routePolicies.entries = []
    · have foreign : field msg "Route-Policies" = none := carries.absent (by decide)
      have foreignToo : field msg "RoutePolicies" = none := carries.absent (by decide)
      simp [bundleField, firstOf, truthy, read.noRoutes empty, read.unnamedRoutes, foreign,
        foreignToo]
    · obtain ⟨input, routesRead⟩ := read.routes empty
      rw [routesRead.found]
      exact bundleField_found routesRead.found rfl
  refine ⟨mode, fun update => ?_⟩
  simp only [readBundle, bind_eq_ok, extras, carried, moded, failOpen, Except.ok.injEq,
    exists_eq_left', onField_eq_ok, hints, hosts, sites, proofs, routes, normalizeHostPolicies,
    normalizeSitePolicies, normalizeDnsProofState, normalizeTable_ok_iff,
    normalizeCacheHints_ok laws hintRead.reads]
  constructor
  · rintro ⟨_, _, _, ⟨hosts, hostsRead, rfl⟩, _, ⟨sites, sitesRead, rfl⟩, _,
      ⟨proofs, proofsRead, rfl⟩, routes, routesRead, _, graph, made⟩
    exact ⟨hosts, sites, proofs, routes, hostsRead, sitesRead, proofsRead, routesRead, graph,
      (pure_eq_ok.mp made).symm⟩
  · rintro ⟨hosts, sites, proofs, routes, hostsRead, sitesRead, proofsRead, routesRead, graph, rfl⟩
    exact ⟨(), trivial, _, ⟨hosts, hostsRead, rfl⟩, _, ⟨sites, sitesRead, rfl⟩, _,
      ⟨proofs, proofsRead, rfl⟩, routes, routesRead, (), graph, rfl⟩

theorem routesTaken_iff (laws : PlatformLaws platform) (shape : TablesShape bundle.tables)
    (read : BundleRead bundle table) :
    (∃ routes, normalizeRoutePolicies platform (field table "routePolicies") = .ok routes) ↔
      ∀ host route, (host, route) ∈ bundle.tables.routePolicies.entries →
        RouteFits platform host route := by
  by_cases empty : bundle.tables.routePolicies.entries = []
  · rw [read.noRoutes empty, empty]
    exact iff_of_true ⟨none, rfl⟩ (by simp)
  · obtain ⟨input, routesRead⟩ := read.routes empty
    have taken : AllTaken (normalizeRouteEntry platform) input ↔ _ :=
      allTaken_iff routesRead.reads fun host route spec own decoded =>
        normalizeRouteEntry_isOk_iff laws (shape.routes host route own).1
          (shape.routes host route own).2 decoded
    have loop : (∃ kept, normalizeEntries (normalizeRouteEntry platform) input .empty = .ok kept) ↔
      AllTaken (normalizeRouteEntry platform) input := normalizeEntries_isOk_iff
    rw [routesRead.found, ← taken, ← loop]
    simp only [normalizeRoutePolicies, normalizeTable_ok_iff]
    constructor
    · rintro ⟨_, kept, keptRead, _⟩
      exact ⟨kept, keptRead⟩
    · rintro ⟨kept, keptRead⟩
      exact ⟨_, kept, keptRead, rfl⟩

/-- What is read of the tables when the handler takes them. -/
structure Normalized (bundle : Bundle) (hosts : HostPolicies) (sites : SitePolicies) : Prop where
  host : ∀ host,
    hosts.find (utf8 host) = (bundle.tables.hostPolicies.find host).map readHostPolicy
  site : ∀ siteId,
    sites.find (utf8 siteId) = (bundle.tables.sitePolicies.find siteId).map readSitePolicy
  listed : ∀ text policy, hosts.find text = some policy →
    ∃ host own, (host, own) ∈ bundle.tables.hostPolicies.entries ∧ policy = readHostPolicy own

theorem hostsTaken_iff (laws : PlatformLaws platform) (shape : TablesShape bundle.tables)
    (decoded : Decodes (tableDocument BundleBuilder.HostPolicy.fields bundle.tables.hostPolicies)
      (.table hostInput)) :
    (∃ hosts, normalizeEntries (normalizeHostEntry platform) hostInput .empty = .ok hosts) ↔
      ∀ host policy, (host, policy) ∈ bundle.tables.hostPolicies.entries →
        HostFits platform host policy := by
  rw [normalizeEntries_isOk_iff]
  apply allTaken_iff decoded
  intro host policy spec own reads
  constructor
  · rintro ⟨result, read⟩
    exact ((normalizeHostEntry_ok_iff laws (shape.hosts host policy own) reads).mp read).1
  · intro fits
    exact ⟨_, (normalizeHostEntry_ok_iff laws (shape.hosts host policy own) reads).mpr
      ⟨fits, rfl⟩⟩

theorem sitesTaken_iff (laws : PlatformLaws platform) (shape : TablesShape bundle.tables)
    (decoded : Decodes (tableDocument SiteRuntime.fields bundle.tables.sitePolicies)
      (.table siteInput)) :
    (∃ sites, normalizeEntries (normalizeSiteEntry platform) siteInput .empty = .ok sites) ↔
      ∀ siteId runtime, (siteId, runtime) ∈ bundle.tables.sitePolicies.entries →
        SiteFits platform siteId runtime := by
  rw [normalizeEntries_isOk_iff]
  apply allTaken_iff decoded
  intro siteId runtime spec own reads
  obtain ⟨tidy, runtimeShape⟩ := shape.sites siteId runtime own
  constructor
  · rintro ⟨result, read⟩
    exact ((normalizeSiteEntry_ok_iff laws tidy runtimeShape reads).mp read).1
  · intro fits
    exact ⟨_, (normalizeSiteEntry_ok_iff laws tidy runtimeShape reads).mpr ⟨fits, rfl⟩⟩

theorem proofsTaken_iff (laws : PlatformLaws platform) (shape : TablesShape bundle.tables)
    (decoded : Decodes (tableDocument BundleBuilder.Proof.fields bundle.tables.dnsProofState)
      (.table proofInput)) :
    (∃ proofs, normalizeEntries (normalizeDnsEntry platform) proofInput .empty = .ok proofs) ↔
      ∀ host proof, (host, proof) ∈ bundle.tables.dnsProofState.entries →
        host.length ≤ platform.maxHostBytes := by
  rw [normalizeEntries_isOk_iff]
  apply allTaken_iff decoded
  intro host proof spec own reads
  exact normalizeDnsEntry_isOk_iff laws (shape.proofs host proof own)

theorem normalized_of_kept (laws : PlatformLaws platform) (shape : TablesShape bundle.tables)
    (hostsDecoded : Decodes
      (tableDocument BundleBuilder.HostPolicy.fields bundle.tables.hostPolicies)
      (.table hostInput))
    (sitesDecoded : Decodes (tableDocument SiteRuntime.fields bundle.tables.sitePolicies)
      (.table siteInput))
    {hosts : HostPolicies} {sites : SitePolicies}
    (hostsKept : normalizeEntries (normalizeHostEntry platform) hostInput .empty = .ok hosts)
    (sitesKept : normalizeEntries (normalizeSiteEntry platform) siteInput .empty = .ok sites) :
    Normalized bundle hosts sites := by
  have hostReads : ∀ host policy spec read,
      (host, policy) ∈ bundle.tables.hostPolicies.entries →
        Decodes (.obj (BundleBuilder.HostPolicy.fields policy)) (.table spec) →
          normalizeHostEntry platform (keyOf host) spec = .ok read →
            read = (utf8 host, readHostPolicy policy) := fun host policy _ _ own reads read =>
    ((normalizeHostEntry_ok_iff laws (shape.hosts host policy own) reads).mp read).2
  have siteReads : ∀ siteId runtime spec read,
      (siteId, runtime) ∈ bundle.tables.sitePolicies.entries →
        Decodes (.obj (SiteRuntime.fields runtime)) (.table spec) →
          normalizeSiteEntry platform (keyOf siteId) spec = .ok read →
            read = (utf8 siteId, readSitePolicy runtime) :=
      fun siteId runtime _ _ own reads read =>
    ((normalizeSiteEntry_ok_iff laws (shape.sites siteId runtime own).1
      (shape.sites siteId runtime own).2 reads).mp read).2
  constructor
  · exact find_kept hostsDecoded hostReads hostsKept
  · exact find_kept sitesDecoded siteReads sitesKept
  · intro text policy found
    obtain ⟨host, own, member, _, same⟩ := mem_kept hostsDecoded hostReads hostsKept found
    exact ⟨host, own, member, same⟩

/-- A bundle the handler takes: its tables fit, and they are kept as read. -/
theorem readBundle_taken (laws : PlatformLaws platform) {state : ResolverState}
    (shape : TablesShape bundle.tables) (carries : Carries msg table)
    (read : BundleRead bundle table) {update : BundleUpdate}
    (accepted : readBundle platform state msg = .ok update) :
    TablesFit platform bundle.tables ∧ update.cacheHints = some (hintsOf bundle.options) ∧
      ∃ hosts sites, update.hosts = some hosts ∧ update.sites = some sites ∧
        Normalized bundle hosts sites := by
  obtain ⟨hostInput, hostsRead⟩ := read.hosts
  obtain ⟨siteInput, sitesRead⟩ := read.sites
  obtain ⟨proofInput, proofsRead⟩ := read.proofs
  obtain ⟨mode, readIff⟩ := readBundle_ok_iff laws state carries read hostsRead.found
    sitesRead.found proofsRead.found
  obtain ⟨hosts, sites, proofs, routes, hostsKept, sitesKept, proofsKept, routesKept, _, rfl⟩ :=
    (readIff update).mp accepted
  refine ⟨⟨?_, ?_, ?_, ?_⟩, rfl, hosts, sites, rfl, rfl, ?_⟩
  · exact (hostsTaken_iff laws shape hostsRead.reads).mp ⟨hosts, hostsKept⟩
  · exact (sitesTaken_iff laws shape sitesRead.reads).mp ⟨sites, sitesKept⟩
  · exact (proofsTaken_iff laws shape proofsRead.reads).mp ⟨proofs, proofsKept⟩
  · exact (routesTaken_iff laws shape read).mp ⟨routes, routesKept⟩
  · exact normalized_of_kept laws shape hostsRead.reads sitesRead.reads hostsKept sitesKept

/-- Kept hosts with a process are a graph the handler takes. -/
theorem validatePolicyGraph_ok {hosts : HostPolicies} {sites : SitePolicies}
    (shape : TablesShape bundle.tables) (normalized : Normalized bundle hosts sites)
    (processes : ∀ host policy, (host, policy) ∈ bundle.tables.hostPolicies.entries →
      policy.runtime.processId ≠ none) :
    validatePolicyGraph hosts sites = .ok () := by
  rw [validatePolicyGraph, forM_eq_ok]
  rintro ⟨text, policy⟩ member
  obtain ⟨host, own, listed, rfl⟩ :=
    normalized.listed text policy ((hosts.mem_entries_iff text policy).mp member)
  obtain ⟨pid, process⟩ := Option.ne_none_iff_exists'.mp (processes host own listed)
  have entryShape := shape.hosts host own listed
  have visible : utf8 own.siteId ≠ [] := fun empty =>
    entryShape.siteId.visible (Js.utf8_eq_nil_iff.mp empty)
  have long := (entryShape.runtime.processId pid process).long
  have named : utf8 pid ≠ [] := by
    intro empty
    rw [Js.utf8_eq_nil_iff.mp empty] at long
    simp at long
  have found : processOf sites (readHostPolicy own) = some (utf8 pid) := by
    simp [processOf, readHostPolicy, process]
  have siteId : (readHostPolicy own).siteId ≠ [] := visible
  rw [checkHost, if_neg siteId, found, Option.getD_some, if_neg named]

theorem exists_readBundle (laws : PlatformLaws platform) (state : ResolverState)
    (shape : TablesShape bundle.tables) (carries : Carries msg table)
    (read : BundleRead bundle table) (fits : TablesFit platform bundle.tables)
    (processes : ∀ host policy, (host, policy) ∈ bundle.tables.hostPolicies.entries →
      policy.runtime.processId ≠ none) :
    ∃ update, readBundle platform state msg = .ok update := by
  obtain ⟨hostInput, hostsRead⟩ := read.hosts
  obtain ⟨siteInput, sitesRead⟩ := read.sites
  obtain ⟨proofInput, proofsRead⟩ := read.proofs
  obtain ⟨mode, readIff⟩ := readBundle_ok_iff laws state carries read hostsRead.found
    sitesRead.found proofsRead.found
  obtain ⟨hosts, hostsKept⟩ := (hostsTaken_iff laws shape hostsRead.reads).mpr fits.hosts
  obtain ⟨sites, sitesKept⟩ := (sitesTaken_iff laws shape sitesRead.reads).mpr fits.sites
  obtain ⟨proofs, proofsKept⟩ := (proofsTaken_iff laws shape proofsRead.reads).mpr fits.proofs
  obtain ⟨routes, routesKept⟩ := (routesTaken_iff laws shape read).mpr fits.routes
  have normalized :=
    normalized_of_kept laws shape hostsRead.reads sitesRead.reads hostsKept sitesKept
  have graph := validatePolicyGraph_ok shape normalized processes
  exact ⟨_, (readIff _).mpr ⟨hosts, sites, proofs, routes, hostsKept, sitesKept, proofsKept,
    routesKept, graph, rfl⟩⟩

end DarkmeshGateway.Resolver.BundleReading
