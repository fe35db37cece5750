import DarkmeshGateway.Resolver.BundleReading

/-!
Contract: what a successful `ApplyPolicyBundle` leaves behind.

Owns the sources of a component, the first of them that is not `nil`, the state
in which each supplied component has its value, and the messages whose `false`
the chains of `or` pass by.

Does not own which messages succeed, nor the metadata of a bundle.
-/

namespace DarkmeshGateway.Resolver.BundlePostcondition

open Foundation
open Foundation.Lua
open Foundation.Outcome
open Resolver.Normalize
open Resolver.Policies
open Resolver.State
open Resolver.PolicyBundle
open Resolver.BundleReading (onField_eq_ok)

/-! ### Sources -/

/-- The first source that is not `nil`. -/
def supplied (sources : List (Option Value)) : Option Value := sources.findSome? id

theorem supplied_cons_none (rest : List (Option Value)) : supplied (none :: rest) = supplied rest :=
  rfl

theorem supplied_cons_some (value : Value) (rest : List (Option Value)) :
    supplied (some value :: rest) = some value := rfl

theorem truthy_of_ne_false {value : Value} (differs : value ≠ .bool false) :
    truthy (some value) = true := by
  cases value with
  | bool flag =>
      cases flag with
      | false => exact absurd rfl differs
      | true => rfl
  | num number => rfl
  | str text => rfl
  | table entries => rfl

/-- A chain of `or` gives the first source that is not `nil`, unless that is `false`. -/
theorem firstOf_eq_supplied {sources : List (Option Value)}
    (shown : supplied sources ≠ some (.bool false)) : firstOf sources = supplied sources := by
  induction sources with
  | nil => rfl
  | cons first rest inductionHypothesis =>
      cases first with
      | none =>
          rw [supplied_cons_none] at shown ⊢
          rw [← inductionHypothesis shown]
          cases rest with
          | nil => rfl
          | cons second others => rfl
      | some value =>
          rw [supplied_cons_some] at shown ⊢
          have taken : truthy (some value) = true :=
            truthy_of_ne_false fun same => shown (congrArg some same)
          cases rest with
          | nil => rfl
          | cons second others => exact if_pos taken

/-- The sources of a component, in the order in which the handler tries them. -/
def sources (bundle msg : Entries) (bundleNames msgNames : List String) : List (Option Value) :=
  bundleNames.map (field bundle) ++ msgNames.map (field msg)

/-- The bundle of a message that is not refused for it. -/
def bundleOf (msg : Entries) : Entries :=
  match anyField msg ["Bundle", "bundle"] with
  | some (.table bundle) => bundle
  | _ => []

theorem bundleTable_eq_ok {msg bundle : Entries} (read : bundleTable msg = .ok bundle) :
    bundle = bundleOf msg := by
  unfold bundleTable at read
  unfold bundleOf
  split at read
  next absent =>
    rw [absent]
    exact (Except.ok.inj read).symm
  next table found =>
    rw [found]
    exact (Except.ok.inj read).symm
  next => cases read

/-! ### The postcondition -/

/-- A component after a success: what its first source that is not `nil` stands for,
or what it was without one. -/
def Component {α : Type} (sources : List (Option Value)) (stands : Value → α → Prop)
    (before after : α) : Prop :=
  match supplied sources with
  | some value => stands value after
  | none => after = before

/-- The value is normalised, and the result is put in place. -/
def Takes {α β : Type} (normalize : Option Value → Except LuaString (Option β))
    (place : Option β → α) (value : Value) (after : α) : Prop :=
  ∃ update, normalize (some value) = .ok (some update) ∧ after = place (some update)

def modeSources (bundle msg : Entries) : List (Option Value) :=
  sources bundle msg ["policyMode", "mode"] ["Policy-Mode", "PolicyMode"]

def failOpenSources (bundle msg : Entries) : List (Option Value) :=
  sources bundle msg ["failOpen"] ["Fail-Open", "FailOpen"]

def hintSources (bundle msg : Entries) : List (Option Value) :=
  sources bundle msg ["cacheHints"] ["Cache-Hints", "CacheHints"]

def hostSources (bundle msg : Entries) : List (Option Value) :=
  sources bundle msg ["hostPolicies", "hosts"] ["Host-Policies", "HostPolicies"]

def siteSources (bundle msg : Entries) : List (Option Value) :=
  sources bundle msg ["sitePolicies", "sites"] ["Site-Policies", "SitePolicies"]

def routeSources (bundle msg : Entries) : List (Option Value) :=
  sources bundle msg ["routePolicies", "routes"] ["Route-Policies", "RoutePolicies"]

def dnsSources (bundle msg : Entries) : List (Option Value) :=
  sources bundle msg ["dnsProofState", "dnsProof"] ["DNS-Proof-State", "DnsProofState"]

/-- Every supplied component has its normalised value, every other one what it had,
and the cache is empty. -/
structure Applied (platform : Platform) (before after : ResolverState) (bundle msg : Entries) :
    Prop where
  mode : Component (modeSources bundle msg)
    (fun value mode => normalizeMode platform before.policyMode (some value) = (mode, false))
    before.policyMode after.policyMode
  failOpen : Component (failOpenSources bundle msg)
    (fun value flag => parseFailOpen (some value) before.failOpen = .ok flag)
    before.failOpen after.failOpen
  cacheHints : Component (hintSources bundle msg)
    (Takes (normalizeCacheHints platform) before.cacheHints.merge)
    before.cacheHints after.cacheHints
  hosts : Component (hostSources bundle msg)
    (Takes (normalizeHostPolicies platform) fun table => table.getD before.hostPolicies)
    before.hostPolicies after.hostPolicies
  sites : Component (siteSources bundle msg)
    (Takes (normalizeSitePolicies platform) fun table => table.getD before.sitePolicies)
    before.sitePolicies after.sitePolicies
  routes : Component (routeSources bundle msg)
    (Takes (normalizeRoutePolicies platform) fun table => table.getD before.routePolicies)
    before.routePolicies after.routePolicies
  dns : Component (dnsSources bundle msg)
    (Takes (normalizeDnsProofState platform) fun table => table.getD before.dnsProofState)
    before.dnsProofState after.dnsProofState
  cache : after.resolutionCache = .empty

/-- No `false` that the handler passes by matters. A `false` among the fail-open
fields of the message is followed by a field that also means `false`, or by none
where the flag is down; one among the mode sources by the mode in force, or by
none; the other components have none in front. -/
structure NothingHidden (platform : Platform) (state : ResolverState) (bundle msg : Entries) :
    Prop where
  mode : supplied (modeSources bundle msg) = some (.bool false) →
    ∀ value, firstOf (modeSources bundle msg) = some value → truthy (some value) = true →
      parseMode (lower (platform.tostring value)) = some state.policyMode
  failOpen : field bundle "failOpen" = none → field msg "Fail-Open" = some (.bool false) →
    parseFailOpen (field msg "FailOpen") state.failOpen = .ok false
  cacheHints : supplied (hintSources bundle msg) ≠ some (.bool false)
  hosts : supplied (hostSources bundle msg) ≠ some (.bool false)
  sites : supplied (siteSources bundle msg) ≠ some (.bool false)
  routes : supplied (routeSources bundle msg) ≠ some (.bool false)
  dns : supplied (dnsSources bundle msg) ≠ some (.bool false)

/-! ### Component by component -/

/-- How a table or the hints of a bundle are read: nothing from `nil`, a result from
what is accepted, and never anything from `false`. -/
structure Reader {β : Type} (normalize : Option Value → Except LuaString (Option β)) : Prop where
  absent : normalize none = .ok none
  present : ∀ value update, normalize (some value) = .ok update → ∃ result, update = some result
  notFalse : ∀ update, normalize (some (.bool false)) ≠ .ok update

theorem reader_normalizeTable {α : Type} (name : String)
    (entry : Key → Entries → Except LuaString (LuaString × α)) :
    Reader (normalizeTable name entry) := by
  refine ⟨rfl, ?_, ?_⟩
  · intro value update read
    cases value with
    | table input =>
        rw [normalizeTable] at read
        cases outcome : normalizeEntries entry input .empty with
        | error failure =>
            rw [outcome] at read
            cases read
        | ok result =>
            rw [outcome] at read
            exact ⟨result, (Except.ok.inj read).symm⟩
    | bool flag => cases read
    | num number => cases read
    | str text => cases read
  · intro update read
    cases read

theorem reader_normalizeCacheHints (platform : Platform) :
    Reader (normalizeCacheHints platform) := by
  refine ⟨rfl, ?_, ?_⟩
  · intro value update read
    cases value with
    | table input =>
        simp only [normalizeCacheHints, bind_eq_ok] at read
        obtain ⟨positive, -, negative, -, stale, -, hard, -, made⟩ := read
        exact ⟨_, (pure_eq_ok.mp made).symm⟩
    | bool flag => cases read
    | num number => cases read
    | str text => cases read
  · intro update read
    cases read

/-- Where no `false` is passed by, what the handler reads is what is supplied. -/
theorem component_of_shown {α : Type} {sources : List (Option Value)} {stands : Value → α → Prop}
    {before after : α} (shown : supplied sources ≠ some (.bool false))
    (absent : firstOf sources = none → after = before)
    (present : ∀ value, firstOf sources = some value → stands value after) :
    Component sources stands before after := by
  have same := firstOf_eq_supplied shown
  unfold Component
  cases found : supplied sources with
  | none => exact absent (same.trans found)
  | some value => exact present value (same.trans found)

/-- A component read by a reader is as supplied exactly when its first source is not
`false`. -/
theorem Reader.component_iff {α β : Type}
    {normalize : Option Value → Except LuaString (Option β)} (reader : Reader normalize)
    (place : Option β → α) {before : α} (keeps : place none = before)
    {sources : List (Option Value)} {update : Option β}
    (read : normalize (firstOf sources) = .ok update) :
    Component sources (Takes normalize place) before (place update) ↔
      supplied sources ≠ some (.bool false) := by
  constructor
  · intro component hidden
    unfold Component at component
    rw [hidden] at component
    obtain ⟨result, taken, -⟩ := component
    exact reader.notFalse _ taken
  · intro shown
    apply component_of_shown shown
    · intro absent
      rw [absent, reader.absent] at read
      obtain rfl := Except.ok.inj read
      exact keeps
    · intro value found
      rw [found] at read
      obtain ⟨result, rfl⟩ := reader.present value update read
      exact ⟨result, read, rfl⟩

/-- A mode that is not refused is the one in force, or the one that is named. -/
theorem normalizeMode_taken {platform : Platform} {current mode : PolicyMode}
    {value : Option Value} (read : normalizeMode platform current value = (mode, false)) :
    mode = current ∧ truthy value = false ∨
      ∃ name, value = some name ∧ truthy value = true ∧
        parseMode (lower (platform.tostring name)) = some mode := by
  cases taken : truthy value with
  | false =>
      simp only [normalizeMode, taken] at read
      exact .inl ⟨(Prod.mk.inj read).1.symm, rfl⟩
  | true =>
      cases value with
      | none => cases taken
      | some name =>
          simp only [normalizeMode, taken] at read
          cases known : parseMode (lower (platform.tostring name)) with
          | none => simp [known] at read
          | some named =>
              have same : named = mode := by simpa [known] using read
              exact .inr ⟨name, rfl, rfl, by rw [← same, known]⟩

/-- Behind a `false` the mode in force has to be named again, or none. -/
theorem mode_component_hidden {platform : Platform} {current mode : PolicyMode}
    {sources : List (Option Value)} (hidden : supplied sources = some (.bool false))
    (read : normalizeMode platform current (firstOf sources) = (mode, false)) :
    Component sources
        (fun value mode => normalizeMode platform current (some value) = (mode, false))
        current mode ↔
      ∀ value, firstOf sources = some value → truthy (some value) = true →
        parseMode (lower (platform.tostring value)) = some current := by
  have component : Component sources
      (fun value mode => normalizeMode platform current (some value) = (mode, false))
      current mode ↔ current = mode := by
    unfold Component
    rw [hidden]
    simp [normalizeMode, truthy]
  rw [component]
  rcases normalizeMode_taken read with ⟨rfl, untrue⟩ | ⟨name, found, taken, named⟩
  · apply iff_of_true rfl
    intro value found truth
    rw [found, truth] at untrue
    cases untrue
  · rw [found] at taken ⊢
    constructor
    · rintro rfl other equal -
      obtain rfl := Option.some.inj equal
      exact named
    · intro later
      have equal := later name rfl taken
      rw [named] at equal
      exact (Option.some.inj equal).symm

theorem mode_component_iff {platform : Platform} {current mode : PolicyMode}
    {sources : List (Option Value)}
    (read : normalizeMode platform current (firstOf sources) = (mode, false)) :
    Component sources
        (fun value mode => normalizeMode platform current (some value) = (mode, false))
        current mode ↔
      (supplied sources = some (.bool false) → ∀ value, firstOf sources = some value →
        truthy (some value) = true → parseMode (lower (platform.tostring value)) = some current) := by
  by_cases hidden : supplied sources = some (.bool false)
  · rw [mode_component_hidden hidden read]
    exact ⟨fun named _ => named, fun named => named hidden⟩
  · constructor
    · intro _ impossible
      exact absurd impossible hidden
    · intro _
      apply component_of_shown hidden
      · intro absent
        rw [absent] at read
        simp only [normalizeMode, truthy] at read
        exact (Prod.mk.inj read).1.symm
      · intro value found
        rwa [found] at read

/-- Of two sources only a `false` in front is passed by. -/
theorem firstOf_pair {first : Option Value} (shown : first ≠ some (.bool false))
    (second : Option Value) : firstOf [first, second] = supplied [first, second] := by
  cases first with
  | none =>
      rw [supplied_cons_none]
      cases second <;> rfl
  | some value =>
      apply firstOf_eq_supplied
      rwa [supplied_cons_some]

/-- A supplied flag is in force, except for a `false` of the message that the next
field or the flag in force overrides. -/
theorem failOpen_component_iff {state : ResolverState} {bundle msg : Entries} {flag : Bool}
    (read : bundleFailOpen state bundle msg = .ok flag) :
    Component (failOpenSources bundle msg)
        (fun value flag => parseFailOpen (some value) state.failOpen = .ok flag)
        state.failOpen flag ↔
      (field bundle "failOpen" = none → field msg "Fail-Open" = some (.bool false) →
        parseFailOpen (field msg "FailOpen") state.failOpen = .ok false) := by
  rw [bundleFailOpen, onField_eq_ok] at read
  have chain : anyField msg ["Fail-Open", "FailOpen"] =
      firstOf [field msg "Fail-Open", field msg "FailOpen"] := rfl
  have named : failOpenSources bundle msg =
      [field bundle "failOpen", field msg "Fail-Open", field msg "FailOpen"] := rfl
  rw [chain] at read
  rw [named]
  unfold Component
  cases own : field bundle "failOpen" with
  | some value =>
      rw [own] at read
      rw [supplied_cons_some]
      constructor
      · intro _ impossible
        cases impossible
      · intro _
        exact read
  | none =>
      rw [own] at read
      rw [supplied_cons_none]
      by_cases hidden : field msg "Fail-Open" = some (.bool false)
      · rw [hidden] at read ⊢
        rw [supplied_cons_some]
        replace read : parseFailOpen (field msg "FailOpen") state.failOpen = .ok flag := read
        rw [read]
        constructor
        · intro down _ _
          exact down.symm
        · intro down
          exact (down rfl rfl).symm
      · have same := firstOf_pair hidden (field msg "FailOpen")
        rw [same] at read
        constructor
        · intro _ _ impossible
          exact absurd impossible hidden
        · intro _
          cases found : supplied [field msg "Fail-Open", field msg "FailOpen"] with
          | none =>
              rw [found] at read
              exact (Except.ok.inj read).symm
          | some value =>
              rw [found] at read
              exact read

/-! ### The handler -/

/-- What a successful reading has read. -/
structure Readings (platform : Platform) (state : ResolverState) (bundle msg : Entries)
    (update : BundleUpdate) : Prop where
  mode : normalizeMode platform state.policyMode (firstOf (modeSources bundle msg)) =
    (update.mode, false)
  failOpen : bundleFailOpen state bundle msg = .ok update.failOpen
  cacheHints : normalizeCacheHints platform (firstOf (hintSources bundle msg)) =
    .ok update.cacheHints
  hosts : normalizeHostPolicies platform (firstOf (hostSources bundle msg)) = .ok update.hosts
  sites : normalizeSitePolicies platform (firstOf (siteSources bundle msg)) = .ok update.sites
  routes : normalizeRoutePolicies platform (firstOf (routeSources bundle msg)) = .ok update.routes
  dns : normalizeDnsProofState platform (firstOf (dnsSources bundle msg)) = .ok update.dns

theorem bundleMode_eq_ok {platform : Platform} {state : ResolverState} {bundle msg : Entries}
    {mode : PolicyMode} (read : bundleMode platform state bundle msg = .ok mode) :
    normalizeMode platform state.policyMode (firstOf (modeSources bundle msg)) =
      (mode, false) := by
  unfold bundleMode at read
  split at read
  next => cases read
  next named outcome =>
    obtain rfl := Except.ok.inj read
    exact outcome

theorem readings_of_readBundle {platform : Platform} {state : ResolverState} {msg : Entries}
    {update : BundleUpdate} (read : readBundle platform state msg = .ok update) :
    Readings platform state (bundleOf msg) msg update := by
  simp only [readBundle, bind_eq_ok, onField_eq_ok] at read
  obtain ⟨_, -, bundle, table, mode, moded, failOpen, flagged, hints, hinted, hosts, hosted,
    sites, sited, dns, proved, routes, routed, _, -, made⟩ := read
  obtain rfl := bundleTable_eq_ok table
  obtain rfl := pure_eq_ok.mp made
  exact ⟨bundleMode_eq_ok moded, flagged, hinted, hosted, sited, routed, proved⟩

/-- A successful bundle does what it says exactly when no `false` that the handler
passes by matters. -/
theorem bundle_postcondition_iff (platform : Platform) (state : ResolverState) (now : Int)
    (msg : Entries) (reply : BundleReply)
    (success : (applyPolicyBundle platform state now msg).2 = .ok reply) :
    Applied platform state (applyPolicyBundle platform state now msg).1 (bundleOf msg) msg ↔
      NothingHidden platform state (bundleOf msg) msg := by
  have effect := applyPolicyBundle_effect platform state now msg
  generalize (applyPolicyBundle platform state now msg).1 = after at effect ⊢
  rw [success] at effect
  cases effect with
  | applied update _ read related =>
      have readings := readings_of_readBundle read
      have mode := mode_component_iff readings.mode
      have failOpen := failOpen_component_iff readings.failOpen
      have hints := (reader_normalizeCacheHints platform).component_iff state.cacheHints.merge rfl
        readings.cacheHints
      have hosts := (reader_normalizeTable _ _).component_iff (·.getD state.hostPolicies) rfl
        readings.hosts
      have sites := (reader_normalizeTable _ _).component_iff (·.getD state.sitePolicies) rfl
        readings.sites
      have routes := (reader_normalizeTable _ _).component_iff (·.getD state.routePolicies) rfl
        readings.routes
      have dns := (reader_normalizeTable _ _).component_iff (·.getD state.dnsProofState) rfl
        readings.dns
      constructor
      · intro applied
        exact ⟨mode.mp applied.mode, failOpen.mp applied.failOpen, hints.mp applied.cacheHints,
          hosts.mp applied.hosts, sites.mp applied.sites, routes.mp applied.routes,
          dns.mp applied.dns⟩
      · intro shown
        exact ⟨mode.mpr shown.mode, failOpen.mpr shown.failOpen, hints.mpr shown.cacheHints,
          hosts.mpr shown.hosts, sites.mpr shown.sites, routes.mpr shown.routes,
          dns.mpr shown.dns, rfl⟩

/-- A message that asks for `Fail-Open = false`. -/
def failClosedMessage : Entries :=
  [(.str (lua "Action"), .str (lua "ApplyPolicyBundle")),
    (.str (lua "Fail-Open"), .bool false)]

/-- A message whose bundle asks for it. -/
def failClosedBundle : Entries :=
  [(.str (lua "Action"), .str (lua "ApplyPolicyBundle")),
    (.str (lua "Bundle"), .table [(.str (lua "failOpen"), .bool false)])]

/-- The flag of the message is dropped where it is up. -/
theorem fail_closed_message_dropped :
    (applyPolicyBundle fixturePlatform defaultState 1777000000 failClosedMessage).1.failOpen = true ∧
      ∃ reply, (applyPolicyBundle fixturePlatform defaultState 1777000000 failClosedMessage).2 =
          .ok reply ∧
        ¬ Applied fixturePlatform defaultState
          (applyPolicyBundle fixturePlatform defaultState 1777000000 failClosedMessage).1
          (bundleOf failClosedMessage) failClosedMessage := by
  refine ⟨rfl, _, rfl, ?_⟩
  intro applied
  have down : parseFailOpen (some (.bool false)) true =
      .ok (applyPolicyBundle fixturePlatform defaultState 1777000000 failClosedMessage).1.failOpen :=
    applied.failOpen
  cases down

theorem fail_closed_bundle_applied :
    Applied fixturePlatform defaultState
      (applyPolicyBundle fixturePlatform defaultState 1777000000 failClosedBundle).1
      (bundleOf failClosedBundle) failClosedBundle := by
  apply (bundle_postcondition_iff fixturePlatform defaultState 1777000000 failClosedBundle _ rfl).mpr
  constructor
  all_goals
    intro impossible
    cases impossible

end DarkmeshGateway.Resolver.BundlePostcondition
