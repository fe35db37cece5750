import DarkmeshGateway.Foundation.Js.Json
import DarkmeshGateway.Foundation.Js.Object
import DarkmeshGateway.Gateway.Environment

/-!
Contract: which site a request host is bound to.

Owns host normalisation, the parsing of the host map into a plain object, the
resolution modes, and which hosts the map answers for.

Does not own the lookup of a host through the AO resolver, with its caches and
its circuit breaker: a resolution is given the answers.
-/

namespace DarkmeshGateway.Gateway.SiteResolver

open Foundation.Js
open Gateway.Environment

/-! ### The host map -/

/-- `text.replace(/:\d+$/, '')`. -/
def dropPort (text : JsString) : JsString :=
  let front := text.rdropWhile isDigit
  if front.length < text.length ∧ front.getLast? = some 58 then front.dropLast else text

def normalizeHost (hostRaw : JsString) : JsString := dropPort (toLowerCase (trim hostRaw))

def trimString : Option Json → JsString
  | some (.str text) => trim text
  | _ => []

/-- The map, filled entry by entry; `none` is `{ ok: false }`. -/
def fillHostMap (map : Value) : Fields → Option Value
  | [] => some map
  | (keyRaw, valueRaw) :: rest =>
      let key := normalizeHost keyRaw
      let value := trimString (some valueRaw)
      if key = [] ∨ value = [] then none else fillHostMap (map.assign key (.text value)) rest

def parseHostMap (parseJson : JsString → Option Json) (raw : JsString) : Option Value :=
  (asRecord (parseJson raw)).bind (fillHostMap Value.empty)

/-! ### Resolution -/

inductive ResolveMode where
  | map
  | ao
  | hybrid
deriving DecidableEq

def readResolveMode (env : Env) : ResolveMode :=
  let raw := toLowerCase
    (trim ((readHandlerEnvString env "GATEWAY_SITE_RESOLVE_MODE").getD (js "hybrid")))
  if raw = js "map" then .map
  else if raw = js "ao" then .ao
  else .hybrid

def readResolverBaseUrl (env : Env) : Option JsString :=
  readHandlerEnvString env "GATEWAY_SITE_RESOLVE_AO_URL"

def allowFallback (env : Env) : Bool :=
  readHandlerStrictEnabledFlag env "GATEWAY_SITE_RESOLVE_ALLOW_BODY_FALLBACK"

structure RuntimeRoutingHints where
  runtime : Option Fields
  runtimePointers : Option Fields

inductive AoLookupResult where
  | resolved (siteId : JsString) (runtimeHints : Option RuntimeRoutingHints)
  | notFound
  | unavailable (error : String) (status : Nat)

/-- A resolved site is whatever the map lookup found. -/
inductive HostSiteResolution where
  | ok (siteId : Option Value) (runtimeHints : Option RuntimeRoutingHints)
  | failed (status : Nat) (error : String)

def failOrFallback (fallbackAllowed : Bool) (status : Nat) (error : String) : HostSiteResolution :=
  if fallbackAllowed then .ok none none else .failed status error

/-- `object[key]` on a plain object, whose chain ends at `Object.prototype`. -/
def readPlain (object : Value) (key : JsString) : Value := (object.read key).getD .undefined

/-- `parsedHostMap[host] || parsedHostMap.default`. -/
def mappedSite (map : Value) (host : JsString) : Value :=
  if (readPlain map host).truthy then readPlain map host else readPlain map (js "default")

/-- The resolution behind the map, in the modes that ask the AO resolver. -/
def resolveViaAo (env : Env) (lookup : JsString → AoLookupResult) (host : JsString)
    (mode : ResolveMode) (mapParsed fallbackAllowed productionLikeMode : Bool) :
    HostSiteResolution :=
  match readResolverBaseUrl env with
  | none =>
      if mode = .ao then failOrFallback fallbackAllowed 503 "site_resolver_not_configured"
      else if mapParsed then failOrFallback fallbackAllowed 403 "site_host_not_allowed"
      else if productionLikeMode then
        failOrFallback fallbackAllowed 503 "site_resolver_not_configured"
      else .ok none none
  | some _ =>
      match lookup host with
      | .resolved siteId runtimeHints => .ok (some (.text siteId)) runtimeHints
      | .notFound => failOrFallback fallbackAllowed 403 "site_host_not_allowed"
      | .unavailable error status => failOrFallback fallbackAllowed status error

def resolveTemplateSiteIdFromHost (parseJson : JsString → Option Json) (env : Env)
    (lookup : JsString → AoLookupResult) (hostRaw : JsString) (productionLikeMode : Bool) :
    HostSiteResolution :=
  let mode := readResolveMode env
  let host := normalizeHost hostRaw
  let mapRaw := readHandlerEnvString env "GATEWAY_SITE_ID_BY_HOST_MAP"
  let fallbackAllowed := allowFallback env || (!productionLikeMode && mapRaw.isNone)
  match if mode = .ao then none else mapRaw with
  | none =>
      if mode = .map then failOrFallback fallbackAllowed 503 "site_resolver_not_configured"
      else resolveViaAo env lookup host mode false fallbackAllowed productionLikeMode
  | some raw =>
      match parseHostMap parseJson raw with
      | none => .failed 500 "site_host_map_invalid"
      | some map =>
          let mapped := mappedSite map host
          if mapped.truthy then .ok (some mapped) none
          else if mode = .map then failOrFallback fallbackAllowed 403 "site_host_not_allowed"
          else resolveViaAo env lookup host mode true fallbackAllowed productionLikeMode

/-! ### The shape of a parsed map -/

/-- An own entry of a parsed map: a non-empty site under a name that can be own. -/
def SiteEntry (entry : JsString × Value) : Prop :=
  entry.1 ≠ js "__proto__" ∧ ∃ site, entry.2 = .text site ∧ site ≠ []

/-- A plain object of site entries. -/
def SiteMap (map : Value) : Prop :=
  ∃ own, map = .object own (.prototype .object) ∧ ∀ entry ∈ own, SiteEntry entry

/-- Own properties of a plain object. -/
def ownOf : Value → List (JsString × Value)
  | .object own _ => own
  | _ => []

/-- What holds of every entry a map is filled with holds of its own entries: a
site string never becomes the prototype of the map. -/
theorem parseHostMap_forall {parseJson : JsString → Option Json} {raw : JsString} {map : Value}
    (good : JsString × Value → Prop)
    (filled : ∀ key value, key ≠ js "__proto__" → trimString value ≠ [] →
      good (key, .text (trimString value)))
    (parsed : parseHostMap parseJson raw = some map) :
    ∃ own, map = .object own (.prototype .object) ∧ ∀ entry ∈ own, good entry := by
  obtain ⟨record, -, folded⟩ := Option.bind_eq_some_iff.mp parsed
  have extended {entries : Fields} {current : Value}
      (held : ∃ own, current = .object own (.prototype .object) ∧ ∀ entry ∈ own, good entry)
      (result : fillHostMap current entries = some map) :
      ∃ own, map = .object own (.prototype .object) ∧ ∀ entry ∈ own, good entry := by
    induction entries generalizing current with
    | nil => exact Option.some.inj result ▸ held
    | cons head rest inductionHypothesis =>
        obtain ⟨keyRaw, valueRaw⟩ := head
        obtain ⟨own, rfl, entriesGood⟩ := held
        simp only [fillHostMap] at result
        split at result
        next => exact absurd result (by simp)
        next present =>
          have named : trimString (some valueRaw) ≠ [] := fun blank => present (Or.inr blank)
          apply inductionHypothesis _ result
          by_cases setter : normalizeHost keyRaw = js "__proto__"
          · exact ⟨own, by simp only [Value.assign, if_pos setter], entriesGood⟩
          · refine ⟨setOwn own (normalizeHost keyRaw) (.text (trimString (some valueRaw))),
              by simp only [Value.assign, if_neg setter], ?_⟩
            intro entry member
            rcases mem_setOwn member with rfl | before
            · exact filled _ (some valueRaw) setter named
            · exact entriesGood entry before
  exact extended ⟨[], rfl, by simp⟩ folded

theorem parseHostMap_sites {parseJson : JsString → Option Json} {raw : JsString} {map : Value}
    (parsed : parseHostMap parseJson raw = some map) : SiteMap map :=
  parseHostMap_forall SiteEntry (fun _ _ notProto named => ⟨notProto, _, rfl, named⟩) parsed

/-! ### Which names a map answers -/

/-- No ASCII capital. -/
def Lowered (text : JsString) : Prop := ∀ unit ∈ text, ¬(65 ≤ unit.toNat ∧ unit.toNat ≤ 90)

private theorem lowerUnit_lowered (unit : CodeUnit) : Lowered (lowerUnit unit) := by
  intro part member
  unfold lowerUnit at member
  split at member
  next capital =>
    obtain rfl : part = unit + 32 := by simpa using member
    simp only [Bool.and_eq_true, decide_eq_true_eq] at capital
    have shifted : (unit + 32).toNat = unit.toNat + 32 := by
      rw [UInt16.toNat_add]
      have : (32 : UInt16).toNat = 32 := rfl
      omega
    omega
  next notCapital =>
    split at member
    next =>
      obtain rfl : part = 107 := by simpa using member
      decide
    next =>
      split at member
      next =>
        rcases List.mem_cons.mp member with rfl | later
        · decide
        · obtain rfl : part = 0x307 := by simpa using later
          decide
      next =>
        obtain rfl : part = unit := by simpa using member
        simpa using notCapital

instance (text : JsString) : Decidable (Lowered text) :=
  List.decidableBAll (fun unit : CodeUnit => ¬(65 ≤ unit.toNat ∧ unit.toNat ≤ 90)) text

theorem normalizeHost_lowered (hostRaw : JsString) : Lowered (normalizeHost hostRaw) := by
  have lowered : Lowered (toLowerCase (trim hostRaw)) := by
    intro unit member
    obtain ⟨source, -, part⟩ := List.mem_flatMap.mp member
    exact lowerUnit_lowered source unit part
  unfold normalizeHost dropPort
  dsimp only
  split
  · intro unit member
    have inFront := (List.dropLast_sublist _).subset member
    exact lowered unit ((List.rdropWhile_prefix isDigit _).subset inFront)
  · exact lowered

/-- A lookup by host name ignores what the map inherits. -/
def Uninherited (map : Value) (host : JsString) : Prop :=
  host ≠ js "__proto__" ∧
    (host = js "constructor" → ((ownOf map).lookup (js "constructor")).isSome = true)

/-- Without a capital letter `constructor` is the only name of a method or
constructor of `Object.prototype`. -/
theorem object_property_lowered {key : JsString} (lowered : Lowered key)
    (other : key ≠ js "constructor") : Builtin.object.properties.lookup key = none := by
  have names : ∀ name ∈ Builtin.object.properties.map Prod.fst,
      name = js "constructor" ∨ ¬Lowered name := by decide
  rw [List.lookup_eq_none_iff]
  intro property member
  have named := names property.1 (List.mem_map_of_mem member)
  by_contra same
  have keyEq : key = property.1 := by simpa using same
  rcases named with constructor_ | capital
  · exact other (keyEq.trans constructor_)
  · exact capital (keyEq ▸ lowered)

/-- A read of a site map: an own entry, or what `Object.prototype` has. -/
private theorem readPlain_own {own : List (JsString × Value)} {key : JsString} {value : Value}
    (found : own.lookup key = some value) :
    readPlain (.object own (.prototype .object)) key = value := by
  rw [readPlain, Value.read_own _ found, Option.getD_some]

private theorem readPlain_inherited {own : List (JsString × Value)} {key : JsString}
    (absent : own.lookup key = none) :
    readPlain (.object own (.prototype .object)) key =
      ((standardRead (.object own (.prototype .object)) .object key).getD .undefined) := by
  simp [readPlain, Value.read, Value.readFrom, absent]

private theorem readPlain_missing {own : List (JsString × Value)} {key : JsString}
    (absent : own.lookup key = none) (lowered : Lowered key) (notConstructor : key ≠ js "constructor")
    (notProto : key ≠ js "__proto__") :
    readPlain (.object own (.prototype .object)) key = .undefined := by
  rw [readPlain_inherited absent, standardRead, object_property_lowered lowered notConstructor]
  simp [notProto]

/-- A text read from a plain object is its own: what the object inherits are
functions and prototypes. -/
private def notText : Value → Bool
  | .text _ => false
  | _ => true

theorem readPlain_text {own : List (JsString × Value)} {key text : JsString}
    (read : readPlain (.object own (.prototype .object)) key = .text text) :
    own.lookup key = some (.text text) := by
  cases found : own.lookup key with
  | some value => rw [← readPlain_own found, read]
  | none =>
      rw [readPlain_inherited found, standardRead] at read
      split at read
      next value inherited =>
        have methods : (Builtin.object.properties.all fun property => notText property.2) =
          true := rfl
        have other := List.all_eq_true.mp methods _ (mem_of_lookup inherited)
        rw [Option.getD_some] at read
        simp [read, notText] at other
      next =>
        simp only [reduceCtorEq, false_and, if_false] at read
        split at read
        · have proto : Value.prototype .object = .text text := read
          exact absurd proto (by simp)
        · have missing : Value.undefined = .text text := read
          exact absurd missing (by simp)

/-! ### Host to site binding -/

/-- The mode reads a host map and the configured map parses. -/
structure Configured (parseJson : JsString → Option Json) (env : Env) (map : Value) : Prop where
  mode : readResolveMode env ≠ .ao
  parsed : ∃ raw, readHandlerEnvString env "GATEWAY_SITE_ID_BY_HOST_MAP" = some raw ∧
    parseHostMap parseJson raw = some map

variable {parseJson : JsString → Option Json} {env : Env} {map : Value}

/-- Under a configured map the resolution is the mapped site, or what the mode
does without one. -/
theorem resolve_configured (configured : Configured parseJson env map)
    (lookup : JsString → AoLookupResult) (hostRaw : JsString) (productionLikeMode : Bool) :
    resolveTemplateSiteIdFromHost parseJson env lookup hostRaw productionLikeMode =
      if (mappedSite map (normalizeHost hostRaw)).truthy then
        .ok (some (mappedSite map (normalizeHost hostRaw))) none
      else if readResolveMode env = .map then
        failOrFallback (allowFallback env) 403 "site_host_not_allowed"
      else resolveViaAo env lookup (normalizeHost hostRaw) (readResolveMode env) true
        (allowFallback env) productionLikeMode := by
  obtain ⟨raw, present, parsed⟩ := configured.parsed
  simp only [resolveTemplateSiteIdFromHost, if_neg configured.mode, present, parsed,
    Option.isNone_some, Bool.and_false, Bool.or_false]

/-- The site the map gives, whatever the AO resolver answers. -/
def ReturnsMapped (parseJson : JsString → Option Json) (env : Env) (hostRaw : JsString)
    (productionLikeMode : Bool) (site : Value) : Prop :=
  ∀ lookup, ∃ hints, resolveTemplateSiteIdFromHost parseJson env lookup hostRaw
    productionLikeMode = .ok (some site) hints

theorem failOrFallback_site {fallbackAllowed : Bool} {status : Nat} {error : String}
    {site : Value} {hints : Option RuntimeRoutingHints} :
    failOrFallback fallbackAllowed status error ≠ .ok (some site) hints := by
  unfold failOrFallback
  split <;> simp

/-- Behind the map only a resolved lookup gives a site. -/
theorem resolveViaAo_site {lookup : JsString → AoLookupResult} {host : JsString}
    {mode : ResolveMode} {mapParsed fallbackAllowed productionLikeMode : Bool} {site : Value}
    {hints : Option RuntimeRoutingHints}
    (resolved : resolveViaAo env lookup host mode mapParsed fallbackAllowed productionLikeMode =
      .ok (some site) hints) :
    ∃ text, site = .text text ∧ lookup host = .resolved text hints := by
  unfold resolveViaAo at resolved
  split at resolved
  next =>
    split at resolved
    · exact absurd resolved failOrFallback_site
    · split at resolved
      · exact absurd resolved failOrFallback_site
      · split at resolved
        · exact absurd resolved failOrFallback_site
        · exact absurd resolved (by simp)
  next =>
    split at resolved
    next text answered found =>
      simp only [HostSiteResolution.ok.injEq, Option.some.injEq] at resolved
      exact ⟨text, resolved.1.symm, by rw [found, resolved.2]⟩
    next => exact absurd resolved failOrFallback_site
    next => exact absurd resolved failOrFallback_site

/-- A resolved site is the mapped one, without hints, or what the lookup resolved. -/
theorem resolve_site {lookup : JsString → AoLookupResult} {hostRaw : JsString}
    {productionLikeMode : Bool} {site : Value} {hints : Option RuntimeRoutingHints}
    (resolved : resolveTemplateSiteIdFromHost parseJson env lookup hostRaw productionLikeMode =
      .ok (some site) hints) :
    (∃ raw map, parseHostMap parseJson raw = some map ∧
        mappedSite map (normalizeHost hostRaw) = site ∧ hints = none) ∨
      ∃ text, site = .text text ∧ lookup (normalizeHost hostRaw) = .resolved text hints := by
  unfold resolveTemplateSiteIdFromHost at resolved
  dsimp only at resolved
  split at resolved
  next =>
    split at resolved
    · exact absurd resolved failOrFallback_site
    · exact Or.inr (resolveViaAo_site resolved)
  next raw _ =>
    split at resolved
    next => exact absurd resolved (by simp)
    next map parsed =>
      split at resolved
      next =>
        simp only [HostSiteResolution.ok.injEq, Option.some.injEq] at resolved
        exact Or.inl ⟨raw, map, parsed, resolved.1, resolved.2.symm⟩
      next =>
        split at resolved
        · exact absurd resolved failOrFallback_site
        · exact Or.inr (resolveViaAo_site resolved)

theorem returnsMapped_iff (configured : Configured parseJson env map) (hostRaw : JsString)
    (productionLikeMode : Bool) (site : Value) :
    ReturnsMapped parseJson env hostRaw productionLikeMode site ↔
      mappedSite map (normalizeHost hostRaw) = site ∧ site.truthy = true := by
  simp only [ReturnsMapped, resolve_configured configured]
  by_cases mapped : (mappedSite map (normalizeHost hostRaw)).truthy = true
  · simp only [if_pos mapped, HostSiteResolution.ok.injEq, Option.some.injEq]
    constructor
    · intro returned
      obtain ⟨_, rfl, -⟩ := returned fun _ => .notFound
      exact ⟨rfl, mapped⟩
    · rintro ⟨rfl, -⟩ lookup
      exact ⟨none, rfl, rfl⟩
  · simp only [if_neg mapped]
    constructor
    · intro returned
      obtain ⟨hints, answer⟩ := returned fun _ => .notFound
      split at answer
      · exact absurd answer failOrFallback_site
      · obtain ⟨text, -, found⟩ := resolveViaAo_site answer
        exact absurd found (by simp)
    · rintro ⟨rfl, truthy⟩
      exact absurd truthy mapped

/-- A mapped site is the own entry of the normalised host or of `default`; in
map mode, production-like and without body fallback, a host without either is
refused. -/
structure BoundByMap (parseJson : JsString → Option Json) (env : Env) (map : Value)
    (hostRaw : JsString) (productionLikeMode : Bool) : Prop where
  own : ∀ site, ReturnsMapped parseJson env hostRaw productionLikeMode site →
    (ownOf map).lookup (normalizeHost hostRaw) = some site ∨
      (ownOf map).lookup (js "default") = some site
  others : readResolveMode env = .map → productionLikeMode = true → allowFallback env = false →
    (ownOf map).lookup (normalizeHost hostRaw) = none → (ownOf map).lookup (js "default") = none →
    ∀ lookup, resolveTemplateSiteIdFromHost parseJson env lookup hostRaw productionLikeMode =
      .failed 403 "site_host_not_allowed"

private theorem lookup_site {own : List (JsString × Value)} {key : JsString} {value : Value}
    (sites : ∀ entry ∈ own, SiteEntry entry) (found : own.lookup key = some value) :
    SiteEntry (key, value) := by
  exact sites _ (mem_of_lookup found)

private theorem SiteEntry.truthy {entry : JsString × Value} (site : SiteEntry entry) :
    entry.2.truthy = true := by
  obtain ⟨-, text, same, named⟩ := site
  simpa [same, Value.truthy] using named

/-- An uninherited host is answered by the own entries alone. -/
private theorem mappedSite_own {own : List (JsString × Value)} {host : JsString}
    (sites : ∀ entry ∈ own, SiteEntry entry) (lowered : Lowered host)
    (uninherited : Uninherited (.object own (.prototype .object)) host) :
    mappedSite (.object own (.prototype .object)) host =
      ((own.lookup host).or (own.lookup (js "default"))).getD .undefined := by
  unfold mappedSite
  cases found : own.lookup host with
  | some value =>
      have truthy : value.truthy = true := (lookup_site sites found).truthy
      simp [readPlain_own found, truthy]
  | none =>
      have notConstructor : host ≠ js "constructor" := by
        rintro rfl
        have present := uninherited.2 rfl
        rw [ownOf, found] at present
        exact absurd present (by simp)
      have undefined := readPlain_missing found lowered notConstructor uninherited.1
      rw [undefined, if_neg (by simp [Value.truthy]), Option.none_or]
      cases fallback : own.lookup (js "default") with
      | some value => rw [readPlain_own fallback, Option.getD_some]
      | none =>
          have named : Lowered (js "default") := by decide
          rw [readPlain_missing fallback named (by decide) (by decide), Option.getD_none]

/-- A name the map inherits is answered by a value that is no site. -/
private theorem mappedSite_inherited {own : List (JsString × Value)} {host : JsString}
    (sites : ∀ entry ∈ own, SiteEntry entry)
    (inherited : ¬Uninherited (.object own (.prototype .object)) host) :
    (mappedSite (.object own (.prototype .object)) host).truthy = true ∧
      ∀ text, mappedSite (.object own (.prototype .object)) host ≠ .text text := by
  have answered : ∃ value, readPlain (.object own (.prototype .object)) host = value ∧
      value.truthy = true ∧ ∀ text, value ≠ .text text := by
    by_cases proto : host = js "__proto__"
    · subst proto
      have absent : own.lookup (js "__proto__") = none := by
        cases found : own.lookup (js "__proto__") with
        | none => rfl
        | some value => exact absurd rfl (lookup_site sites found).1
      refine ⟨.prototype .object, ?_, rfl, by simp⟩
      rw [readPlain_inherited absent]
      rfl
    · have captured : host = js "constructor" ∧ own.lookup (js "constructor") = none := by
        by_contra other
        apply inherited
        refine ⟨proto, fun named => ?_⟩
        cases found : own.lookup (js "constructor") with
        | some value => rw [ownOf, found, Option.isSome_some]
        | none => exact absurd ⟨named, found⟩ other
      obtain ⟨rfl, absent⟩ := captured
      refine ⟨.function (js "Object") 1, ?_, rfl, by simp⟩
      rw [readPlain_inherited absent]
      rfl
  obtain ⟨value, read, truthy, notText⟩ := answered
  unfold mappedSite
  rw [read, if_pos truthy]
  exact ⟨truthy, notText⟩

/-- Hosts are bound by own entries exactly when the host is not a name that
every plain object answers. -/
theorem host_site_binding_iff (configured : Configured parseJson env map) (hostRaw : JsString)
    (productionLikeMode : Bool) :
    BoundByMap parseJson env map hostRaw productionLikeMode ↔
      Uninherited map (normalizeHost hostRaw) := by
  obtain ⟨raw, -, parsed⟩ := configured.parsed
  obtain ⟨own, rfl, sites⟩ := parseHostMap_sites parsed
  constructor
  · intro bound
    by_contra inherited
    obtain ⟨truthy, notText⟩ := mappedSite_inherited sites inherited
    have returned := (returnsMapped_iff configured hostRaw productionLikeMode _).mpr ⟨rfl, truthy⟩
    rcases bound.own _ returned with found | found
    · obtain ⟨-, text, same, -⟩ := lookup_site sites found
      exact notText text same
    · obtain ⟨-, text, same, -⟩ := lookup_site sites found
      exact notText text same
  · intro uninherited
    have mapped := mappedSite_own sites (normalizeHost_lowered hostRaw) uninherited
    constructor
    · intro site returned
      obtain ⟨rfl, truthy⟩ := (returnsMapped_iff configured hostRaw productionLikeMode site).mp returned
      rw [mapped] at truthy ⊢
      simp only [ownOf]
      cases found : own.lookup (normalizeHost hostRaw) with
      | some value => exact Or.inl rfl
      | none =>
          rw [found] at truthy
          cases fallback : own.lookup (js "default") with
          | some value => exact Or.inr rfl
          | none =>
              rw [fallback] at truthy
              exact absurd truthy (by simp [Value.truthy])
    · intro mapMode _ strict absent noDefault lookup
      simp only [ownOf] at absent noDefault
      have undefined : mappedSite (.object own (.prototype .object)) (normalizeHost hostRaw) =
          .undefined := by rw [mapped, absent, noDefault]; rfl
      rw [resolve_configured configured, undefined, if_neg (by simp [Value.truthy]), if_pos mapMode,
        strict]
      rfl

/-- One site, bound to one host. -/
def shopMapText : JsString := js "\x7b\"shop.example\":\"site-1\"\x7d"

/-- `JSON.parse` on that text. -/
def parseShopMap (text : JsString) : Option Json :=
  if text = shopMapText then some (.obj [(js "shop.example", .str (js "site-1"))]) else none

/-- Map mode with the shop's map. -/
def shopEnv : Env := fun name =>
  if name = "GATEWAY_SITE_RESOLVE_MODE" then some (js "map")
  else if name = "GATEWAY_SITE_ID_BY_HOST_MAP" then some shopMapText
  else none

def shopMap : Value :=
  .object [(js "shop.example", .text (js "site-1"))] (.prototype .object)

set_option maxRecDepth 20000 in
theorem shopMap_configured : Configured parseShopMap shopEnv shopMap where
  mode := by decide
  parsed := ⟨shopMapText, rfl, rfl⟩

theorem host_site_binding_shop :
    BoundByMap parseShopMap shopEnv shopMap (js "Shop.Example:443") true ↔
      Uninherited shopMap (normalizeHost (js "Shop.Example:443")) :=
  host_site_binding_iff shopMap_configured (js "Shop.Example:443") true

set_option maxRecDepth 20000 in
/-- Host `constructor` is bound to the function `Object`. -/
theorem host_site_binding_fails :
    ¬∀ (parseJson : JsString → Option Json) (env : Env) (map : Value) (hostRaw : JsString)
        (productionLikeMode : Bool),
      Configured parseJson env map → BoundByMap parseJson env map hostRaw productionLikeMode := by
  intro claim
  have bound := claim parseShopMap shopEnv shopMap (js "constructor") true shopMap_configured
  have returned : ReturnsMapped parseShopMap shopEnv (js "constructor") true
      (.function (js "Object") 1) := fun _ => ⟨none, rfl⟩
  have absent : (ownOf shopMap).lookup (normalizeHost (js "constructor")) = none := rfl
  have noDefault : (ownOf shopMap).lookup (js "default") = none := rfl
  rcases bound.own _ returned with found | found
  · exact absurd (absent.symm.trans found) (by simp)
  · exact absurd (noDefault.symm.trans found) (by simp)

end DarkmeshGateway.Gateway.SiteResolver
