import DarkmeshGateway.Foundation.Machine
import DarkmeshGateway.Gateway.TemplateResolution

/-!
Contract: the hashes that a template record pins its page to.

Owns the pins that the deciding entry of a request supplies, what it means that
a request enforces them, and exactly which runs do, under changing hints,
index contents and configuration.

Does not own which ids a deployment pins.
-/

namespace DarkmeshGateway.Gateway.TemplatePins

open Foundation
open Foundation.Js
open Foundation.Machine
open Gateway.Environment
open Gateway.SiteResolver (normalizeHost)
open Gateway.FrontController
open Gateway.TemplateResolution

/-! ### Supplied pins -/

/-- A pin that is there, and not blank. -/
def isSupplied : Json → Bool
  | .null => false
  | .str text => trim text ≠ []
  | _ => true

/-- The pins that an entry supplies. -/
def suppliedPins (entry : Json) : List Json :=
  (pinNames.filterMap (property entry)).filter isSupplied

/-- The pins of the entry that decides, in the source that a record is from. Hints
with a malformed pin give no record. -/
def decidingPins (platform : Platform) (env : Env) (request : Request) :
    TemplateSource → List Json
  | .runtime => []
  | .hostMap =>
      ((asRecord ((readTemplateMap env).bind platform.parseJson)).bind fun fields =>
        decidingField fields (normalizeHost request.host)).elim [] suppliedPins
  | .index =>
      (decidingIndexField platform env request.fetch (normalizeHost request.host)).elim []
        suppliedPins
  | .default => (readFallbackPin env).toList.map .str

/-- The pin that comes first in the deciding entry. -/
def suppliedPin (platform : Platform) (env : Env) (request : Request)
    (resolved : TemplateIndexRecord) : Option Json :=
  (decidingPins platform env request resolved.source).head?

/-- The record carries the pin that is supplied for it: none is passed over. -/
def CarriesPin (platform : Platform) (env : Env) (request : Request)
    (resolved : TemplateIndexRecord) : Prop :=
  ∀ pin, suppliedPin platform env request resolved = some pin →
    ∃ sha, resolved.templateSha256 = some sha ∧ parseSha256 (some pin) = some sha

/-- The pin that is supplied for the record is a digest. -/
def WellFormedPin (platform : Platform) (env : Env) (request : Request)
    (resolved : TemplateIndexRecord) : Prop :=
  ∀ pin, suppliedPin platform env request resolved = some pin → (parseSha256 (some pin)).isSome

theorem parseSha256_unsupplied {pin : Json} (missing : isSupplied pin = false) :
    parseSha256 (some pin) = none := by
  cases pin with
  | str text =>
      have blank : trim text = [] := by simpa [isSupplied] using missing
      simp [parseSha256, TemplateApi.asNonEmptyString, TemplateApi.nonEmpty, blank]
  | null => rfl
  | bool value => cases missing
  | num value => cases missing
  | arr elements => cases missing
  | obj fields => cases missing

/-- The first pin that can be read is the first one supplied, if that one can. -/
theorem findSome_supplied {entry pin : Json} {sha : JsString} (names : List String)
    (first : ((names.filterMap (property entry)).filter isSupplied).head? = some pin)
    (parsed : parseSha256 (some pin) = some sha) :
    names.findSome? (fun name => parseSha256 (property entry name)) = some sha := by
  induction names with
  | nil => cases first
  | cons name rest inductionHypothesis =>
      rw [List.findSome?_cons]
      cases found : property entry name with
      | none =>
          rw [List.filterMap_cons_none found] at first
          exact inductionHypothesis first
      | some value =>
          rw [List.filterMap_cons_some found] at first
          cases supplied : isSupplied value with
          | false =>
              rw [List.filter_cons_of_neg (by simp [supplied])] at first
              rw [parseSha256_unsupplied supplied]
              exact inductionHypothesis first
          | true =>
              rw [List.filter_cons_of_pos supplied, List.head?_cons, Option.some.injEq] at first
              rw [first, parsed]

theorem entry_pin {value pin : Json} {entry : TemplateEntry} {sha : JsString}
    (isEntry : parseEntry value = some entry) (first : (suppliedPins value).head? = some pin)
    (parsed : parseSha256 (some pin) = some sha) : entry.templateSha256 = some sha := by
  obtain ⟨txId, -, rfl⟩ := Option.map_eq_some_iff.mp isEntry
  exact findSome_supplied pinNames first parsed

/-- A well-formed pin is carried. -/
theorem carriesPin_iff {platform : Platform} {env : Env} {request : Request}
    {resolved : TemplateIndexRecord} (origin : Origin platform env request resolved) :
    CarriesPin platform env request resolved ↔ WellFormedPin platform env request resolved := by
  constructor
  · intro carries pin supplied
    obtain ⟨sha, -, parsed⟩ := carries pin supplied
    rw [parsed]
    rfl
  · intro wellFormed pin supplied
    obtain ⟨sha, parsed⟩ := Option.isSome_iff_exists.mp (wellFormed pin supplied)
    refine ⟨sha, ?_, parsed⟩
    unfold suppliedPin at supplied
    cases origin with
    | runtime named =>
        have isRuntime := runtime_source named
        rw [isRuntime] at supplied
        cases supplied
    | mapped raw fields value entry configured object decides isEntry isRecord =>
        subst isRecord
        have pins : decidingPins platform env request .hostMap = suppliedPins value := by
          simp only [decidingPins, configured, Option.bind_some, object, asRecord, decides]
          rfl
        rw [entryRecord, pins] at supplied
        exact entry_pin isEntry supplied parsed
    | inherited raw fields unhinted configured object isInherited unnamed isRecord =>
        subst isRecord
        have pins : decidingPins platform env request .hostMap = [] := by
          simp only [decidingPins, configured, Option.bind_some, object, asRecord, decidingField,
            unnamed, if_pos isInherited]
          rfl
        rw [inheritedRecord, pins] at supplied
        cases supplied
    | indexed value entry configured decides isEntry isRecord =>
        subst isRecord
        have pins : decidingPins platform env request .index = suppliedPins value := by
          simp only [decidingPins, decides]
          rfl
        rw [entryRecord, pins] at supplied
        exact entry_pin isEntry supplied parsed
    | fallback txId configured isRecord =>
        subst isRecord
        show readFallbackExpectedHash env = some sha
        unfold readFallbackExpectedHash
        simp only [decidingPins] at supplied
        cases given : readFallbackPin env with
        | none =>
            rw [given] at supplied
            cases supplied
        | some raw =>
            rw [given] at supplied
            obtain rfl : Json.str raw = pin := by simpa using supplied
            exact parsed

/-! ### Runs -/

/-- A request and the environment it is handled under. -/
structure Call where
  env : Env
  request : Request

def step (platform : Platform) (pages : PageCache) (call : Call) : Option PageCache :=
  some (handleFrontControllerRequest platform call.env pages call.request).2

/-- The page is the one its record asks for: it has the digest that the record
carries, and the record carries one where that is required. -/
def MatchesRecord (platform : Platform) (env : Env) (resolved : TemplateIndexRecord)
    (html : JsString) : Prop :=
  (∀ sha, resolved.templateSha256 = some sha → platform.sha256Hex html = sha) ∧
    (readRequireHash env = true → resolved.templateSha256 ≠ none)

/-- A request that resolves a record passes over no pin supplied for it, and
serves for it only a page that matches it. -/
def EnforcesPins (platform : Platform) (pages : PageCache) (call : Call) : Prop :=
  ∀ resolved, Reaches call.env pages call.request →
    resolution platform call.env call.request = .ok (some resolved) →
      CarriesPin platform call.env call.request resolved ∧
        ∀ page source,
          (handleFrontControllerRequest platform call.env pages call.request).1 = .page page →
            page.source = some source → MatchesRecord platform call.env resolved page.html

/-- Every request of a run enforces the pins. -/
def RunEnforcesPins (platform : Platform) (calls : List Call) : Prop :=
  ∀ before call after pages, calls = before ++ call :: after →
    run (step platform) .empty before = some pages → EnforcesPins platform pages call

/-- The pin that is supplied is a digest, and a cached page with the id of the
record is the one the record asks for. -/
def PinsAgree (platform : Platform) (pages : PageCache) (call : Call) : Prop :=
  ∀ resolved, Reaches call.env pages call.request →
    resolution platform call.env call.request = .ok (some resolved) →
      WellFormedPin platform call.env call.request resolved ∧
        ∀ cached, pages.find (normalizeHost call.request.host) = some cached →
          SamePage call.request resolved cached →
            (∀ sha, resolved.templateSha256 = some sha → cached.templateSha256 = sha) ∧
              (readRequireHash call.env = true → resolved.templateSha256 ≠ none)

/-! ### Cached pages -/

/-- Every cached page is kept with its own digest. -/
def Digested (platform : Platform) (pages : PageCache) : Prop :=
  ∀ host cached, pages.find host = some cached →
    cached.templateSha256 = platform.sha256Hex cached.html

variable {platform : Platform} {pages : PageCache}

theorem Digested.set (digested : Digested platform pages) {host : JsString}
    {template : CachedTemplate}
    (own : template.templateSha256 = platform.sha256Hex template.html) :
    Digested platform (pages.set host template) := by
  intro other cached found
  by_cases same : other = host
  · rw [same, OrderedMap.find_set_self, Option.some.injEq] at found
    rw [← found]
    exact own
  · rw [OrderedMap.find_set_other _ same] at found
    exact digested other cached found

theorem Digested.handle (digested : Digested platform pages) (env : Env) (request : Request) :
    Digested platform (handleFrontControllerRequest platform env pages request).2 := by
  have answered := handle_answered platform env pages request
  generalize handleFrontControllerRequest platform env pages request = outcome at answered ⊢
  cases answered with
  | refused => exact digested
  | cached => exact digested
  | same cached resolved expiresAt reaches resolves found samePage =>
      exact digested.set (digested _ cached found)
  | loaded template resolved expiresAt fetched reaches resolves accepted =>
      exact digested.set (acceptTemplate_ok accepted).2.1

theorem run_digested {calls : List Call} {final : PageCache}
    (reached : run (step platform) .empty calls = some final) : Digested platform final := by
  apply run_invariant_always (Digested platform) _ _ reached
  · intro state next call digested stepped
    obtain rfl := Option.some.inj stepped
    exact digested.handle call.env call.request
  · intro host cached found
    simp at found

/-! ### Requests -/

/-- What a request serves for a record that has the id of the cached page. -/
theorem handle_same {env : Env} {request : Request} {resolved : TemplateIndexRecord}
    {cached : CachedTemplate} (reaches : Reaches env pages request)
    (resolves : resolution platform env request = .ok (some resolved))
    (found : pages.find (normalizeHost request.host) = some cached)
    (samePage : SamePage request resolved cached) :
    ∃ page, (handleFrontControllerRequest platform env pages request).1 = .page page ∧
      page.source = some resolved.source ∧ page.html = cached.html := by
  have resolvesHere : resolveTemplateRecord platform env request.fetch
      (normalizeHost request.host) request.runtimeHints = .ok (some resolved) := resolves
  have shortcut : (pages.find (normalizeHost request.host)).filter (fun cached =>
      cached.txId = resolved.txId && !request.refresh) = some cached := by
    rw [found]
    simp [samePage.1, samePage.2]
  rw [handle_of_reaches reaches]
  simp only [serveUncached, resolvesHere, serveResolved, shortcut]
  exact ⟨_, rfl, rfl, rfl⟩

theorem enforcesPins_iff (digested : Digested platform pages) (call : Call) :
    EnforcesPins platform pages call ↔ PinsAgree platform pages call := by
  constructor
  · intro enforces resolved reaches resolves
    obtain ⟨carries, serves⟩ := enforces resolved reaches resolves
    refine ⟨(carriesPin_iff (resolveTemplateRecord_origin resolves)).mp carries, ?_⟩
    intro cached found samePage
    obtain ⟨page, served, source, html⟩ := handle_same reaches resolves found samePage
    obtain ⟨agrees, required⟩ := serves page resolved.source served source
    refine ⟨?_, required⟩
    intro sha pinned
    rw [digested _ cached found, ← html]
    exact agrees sha pinned
  · intro agree resolved reaches resolves
    obtain ⟨wellFormed, agrees⟩ := agree resolved reaches resolves
    refine ⟨(carriesPin_iff (resolveTemplateRecord_origin resolves)).mpr wellFormed, ?_⟩
    intro page source served fromRecord
    have answered := handle_answered platform call.env pages call.request
    generalize handleFrontControllerRequest platform call.env pages call.request = outcome
      at answered served
    cases answered with
    | refused response noPage => exact absurd served (noPage page)
    | cached cached status found =>
        obtain rfl := Response.page.inj served
        cases fromRecord
    | same cached other expiresAt _ resolvesOther found samePage =>
        obtain rfl : other = resolved := by
          rw [resolves] at resolvesOther
          exact (Option.some.inj (Except.ok.inj resolvesOther)).symm
        obtain rfl := Response.page.inj served
        obtain ⟨pinned, required⟩ := agrees cached found samePage
        refine ⟨?_, required⟩
        intro sha given
        rw [← pinned sha given]
        exact (digested _ cached found).symm
    | loaded template other expiresAt fetched _ resolvesOther accepted =>
        obtain rfl : other = resolved := by
          rw [resolves] at resolvesOther
          exact (Option.some.inj (Except.ok.inj resolvesOther)).symm
        obtain ⟨-, own, pinned, required⟩ := acceptTemplate_ok accepted
        obtain rfl := Response.page.inj served
        refine ⟨?_, required⟩
        intro sha given
        rw [← pinned sha given]
        exact own.symm

/-- A run enforces its pins exactly when at each of its requests the supplied pin
is a digest and agrees with the cached page of the same id. -/
theorem run_enforces_pins_iff (platform : Platform) (calls : List Call) :
    RunEnforcesPins platform calls ↔
      Meets (step platform) (PinsAgree platform) .empty calls := by
  rw [meets_iff_forall]
  constructor
  · intro enforces before call after pages split reached
    exact (enforcesPins_iff (run_digested reached) call).mp
      (enforces before call after pages split reached)
  · intro agree before call after pages split reached
    exact (enforcesPins_iff (run_digested reached) call).mpr
      (agree before call after pages split reached)

/-! ### A pin that changes -/

def enabledGateway (name : String) : Option JsString :=
  if name = "GATEWAY_FRONT_CONTROLLER_ENABLED" then some (js "1") else none

/-- The digest of `page`. -/
def pageDigest : JsString :=
  js "3660315a9af3df255d8f19ab077e4797822b41488a0e2a04bc6af71213c23274"

/-- Every fetched page is `page`. -/
def pagePlatform : Platform := ⟨fun _ => none, fun _ => pageDigest⟩

/-- A request for a host whose hints name a page, and a pin for it or none. -/
def hintedCall (now : Int) (pin : Option JsString) : Call where
  env := enabledGateway
  request :=
    { method := js "GET"
      host := js "shop.example"
      refresh := false
      runtimeHints := some ⟨some ((js "templateTxId", .str (js "tx-hinted")) ::
        (pin.toList.map fun sha => (js "templateSha256", .str sha))), none⟩
      now
      fetch := fun _ => .response 200 none (.ok (js "page")) }

def otherDigest : JsString := List.replicate 64 97

/-- A pin that is set while the page is cached is not checked. -/
theorem changed_pin_served :
    ¬RunEnforcesPins pagePlatform [hintedCall 0 none, hintedCall 60000 (some otherDigest)] := by
  intro enforces
  have reached : run (step pagePlatform) .empty [hintedCall 0 none] = some _ := rfl
  have second := enforces [hintedCall 0 none] (hintedCall 60000 (some otherDigest)) [] _ rfl reached
  have agree := (enforcesPins_iff (run_digested reached) _).mp second
  obtain ⟨-, same⟩ := agree ⟨some (js "tx-hinted"), some otherDigest, none, .runtime⟩
    ⟨Or.inl rfl, by decide, by decide, by decide⟩ (by rfl)
  have pinned := (same ⟨some (js "tx-hinted"), pageDigest, js "page", js "text/html; charset=utf-8",
    60000⟩ (by decide) ⟨rfl, rfl⟩).1 otherDigest rfl
  exact absurd pinned (by decide)

end DarkmeshGateway.Gateway.TemplatePins
