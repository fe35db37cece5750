import DarkmeshGateway.SecretsWorker.ReadAction

/-!
Contract: tenant isolation of the AO bridge.

Owns the journal of the checkout endpoints, and that every message a read or
checkout request sends on is for the one site its template token was checked
for.

Does not own the token map's contents.
-/

namespace DarkmeshGateway.SecretsWorker.BridgeIsolation

open Foundation
open Foundation.Js
open Foundation.Outcome (bind_eq_ok pure_eq_ok guard_eq_ok)
open Foundation.Stateful hiding bind_eq_ok pure_eq_ok
open SecretsWorker.Fields
open SecretsWorker.WriteCommand
open SecretsWorker.ReadAction

/-! ### Checkouts -/

/-- What the checkout endpoints read of a request. -/
def writeCall (runtime : Runtime) (env : BridgeEnv) (call : BridgeCall) : WriteCall where
  body := call.body
  bridgeSiteId := call.bridgeSiteId
  requestIdHeader := call.requestId
  token := requireTemplateApiToken runtime env call
  nowIso := call.nowIso
  random := call.random

def sendWriteCommand (env : BridgeEnv) (command : Fields) : Bridge Unit := do
  let pid := cleanEnv env.writeProcessId
  if pid = [] then fail ⟨500, "missing_write_process_id"⟩
  else record (.pushed pid command)

/-- Rebuild the command of an input, sign it if it needs to be, and push it. -/
def forwardCommand (runtime : Runtime) (env : BridgeEnv) (call : BridgeCall) (route : WriteRoute)
    (siteId : JsString) (input : Fields) : Bridge Unit := do
  let command ← lift (buildWriteCommand (writeCall runtime env call) input route siteId)
  let signed ← lift (maybeSignWriteCommand runtime env.toEnv command)
  sendWriteCommand env signed

/-- A checkout endpoint up to its pushes. -/
def checkoutBridge (runtime : Runtime) (env : BridgeEnv) (call : BridgeCall) (route : WriteRoute) :
    Bridge Unit :=
  authenticated runtime env call (forwardCommand runtime env call route)

/-- The four endpoints behind a token. -/
inductive Endpoint where
  | read (kind : ReadKind)
  | checkout (route : WriteRoute)

/-- What a request to an endpoint checks and sends, in order. -/
def journal (runtime : Runtime) (env : BridgeEnv) (call : BridgeCall) (replies : Replies) :
    Endpoint → List BridgeEvent
  | .read kind => (readRoute runtime env call replies kind []).2
  | .checkout route => (checkoutBridge runtime env call route []).2

/-- A checkout pushes exactly the command its endpoint answers for. -/
theorem checkout_pushed_iff {runtime : Runtime} {env : BridgeEnv} {call : BridgeCall}
    {replies : Replies} {route : WriteRoute} {pid : JsString} {command : Fields} :
    .pushed pid command ∈ journal runtime env call replies (.checkout route) ↔
      checkoutRoute runtime env.toEnv (writeCall runtime env call) route = .ok command ∧
        pid = cleanEnv env.writeProcessId ∧ pid ≠ [] := by
  unfold journal checkoutBridge authenticated checkoutRoute checkoutWrite forwardCommand
    sendWriteCommand acceptToken
  -- Both runs stop at the same step; only the last one leaves a push.
  cases parsed : call.body.bind ownProperties with
  | none => simp [writeCall, parsed, lift, bind, Except.bind, throw, throwThe, MonadExceptOf.throw]
  | some body =>
      cases canonical : canonicalizeGatewayTemplateInput body call.bridgeSiteId with
      | error exception =>
          simp [writeCall, parsed, canonical, lift, bind, Except.bind, pure, Except.pure]
      | ok resolved =>
          cases checked : requireTemplateApiToken runtime env call resolved.1 with
          | error exception =>
              simp [writeCall, parsed, canonical, checked, lift, bind, Except.bind, pure, Except.pure]
          | ok accepted =>
              cases built : buildWriteCommand (writeCall runtime env call) resolved.2 route
                  resolved.1 with
              | error exception =>
                  unfold writeCall at built
                  simp [writeCall, parsed, canonical, checked, built, record, update, lift, bind,
                    Except.bind, pure, Except.pure]
              | ok rebuilt =>
                  unfold writeCall at built
                  cases signed : maybeSignWriteCommand runtime env.toEnv rebuilt with
                  | error exception =>
                      simp [writeCall, parsed, canonical, checked, built, signed, record, update,
                        lift, bind, Except.bind, pure, Except.pure]
                  | ok final =>
                      by_cases missing : cleanEnv env.writeProcessId = []
                      · simp [writeCall, parsed, canonical, checked, built, signed, missing,
                          record, update, lift, fail, bind, Except.bind, pure, Except.pure]
                      · simp [writeCall, parsed, canonical, checked, built, signed, missing,
                          record, update, lift, bind, Except.bind, pure, Except.pure]
                        grind

/-! ### Messages for a site -/

/-- A message names the site, and no other, in its tags and in its data. -/
structure MessageFor (site : JsString) (message : AoMessage) : Prop where
  tagged : (js "Site-Id", site) ∈ message.tags
  tags : ∀ tag ∈ message.tags, tag.1 = js "Site-Id" → tag.2 = site
  data : message.data.get (js "Site-Id") = some (.str site)

/-- A command names the site as its site, as its tenant and in its payload. -/
structure CommandFor (site : JsString) (command : Fields) : Prop where
  siteId : command.get (js "siteId") = some (.str site)
  tenant : command.get (js "tenant") = some (.str site)
  payload : ∃ payload : Fields, command.get (js "payload") = some (.obj payload) ∧
    payload.get (js "siteId") = some (.str site)

/-- What is sent, is sent for the site. -/
def SentFor (site : JsString) : BridgeEvent → Prop
  | .tokenAccepted _ => False
  | .read message => MessageFor site message
  | .pushed _ command => CommandFor site command

private theorem presentText_name {name : String} {value : JsString}
    {parameter : JsString × JsString} (member : parameter ∈ presentText name value) :
    parameter.1 = js name := by
  unfold presentText at member
  split at member
  · exact absurd member (by simp)
  · rw [List.mem_singleton.mp member]

/-- No parameter of a read is a site tag. -/
theorem readParameters_name {kind : ReadKind} {payload : Fields}
    {parameter : JsString × JsString} (member : parameter ∈ readParameters kind payload) :
    parameter.1 ≠ js "Site-Id" := by
  cases kind with
  | resolveRoute =>
      rcases List.mem_cons.mp member with rfl | locale
      · show js "Path" ≠ js "Site-Id"
        decide
      · rw [presentText_name locale]
        decide
  | getPage =>
      simp only [readParameters, List.mem_append] at member
      rcases member with ((pageId | slug) | locale) | version
      · rw [presentText_name pageId]
        decide
      · rw [presentText_name slug]
        decide
      · rw [presentText_name locale]
        decide
      · rw [presentText_name version]
        decide

theorem transportTags_name : ∀ tag ∈ transportTags, tag.1 ≠ js "Site-Id" := by decide

private theorem not_site_tag {name value site : JsString} (differs : name ≠ js "Site-Id")
    (named : (name, value).1 = js "Site-Id") : value = site := absurd named differs

/-- The message of a read is for the site it is built with. -/
theorem readMessage_for (kind : ReadKind) (requestId site sitePid traceId : JsString)
    (payload : Fields) :
    MessageFor site ⟨sitePid, buildReadTags kind requestId site sitePid payload traceId,
      buildReadData kind requestId site payload⟩ := by
  constructor
  · simp [buildReadTags]
  · intro tag member named
    simp only [buildReadTags, List.mem_append, List.mem_cons, List.not_mem_nil, or_false] at member
    rcases member with (((rfl | rfl | rfl | rfl) | transport) | parameter) | trace
    · exact not_site_tag (by decide) named
    · exact not_site_tag (by decide) named
    · rfl
    · exact not_site_tag (by decide) named
    · exact absurd named (transportTags_name tag transport)
    · exact absurd named (readParameters_name parameter)
    · rw [presentText_name trace] at named
      exact absurd named (by decide)
  · rfl

/-- The message of a registry lookup is for the site looked up. -/
theorem lookupMessage_for (requestId registryPid site traceId : JsString) :
    MessageFor site ⟨registryPid, buildSiteRuntimeLookupTags requestId registryPid site traceId,
      buildSiteRuntimeLookupData requestId site⟩ := by
  constructor
  · simp [buildSiteRuntimeLookupTags]
  · intro tag member named
    simp only [buildSiteRuntimeLookupTags, List.mem_append, List.mem_cons, List.not_mem_nil,
      or_false] at member
    rcases member with ((rfl | rfl | rfl | rfl) | transport) | trace
    · exact not_site_tag (by decide) named
    · exact not_site_tag (by decide) named
    · exact not_site_tag (by decide) named
    · rfl
    · exact absurd named (transportTags_name tag transport)
    · rw [presentText_name trace] at named
      exact absurd named (by decide)
  · rfl

/-- A command is built for the authenticated site only. -/
theorem buildWriteCommand_for {call : WriteCall} {input command : Fields} {route : WriteRoute}
    {site : JsString} (built : buildWriteCommand call input route site = .ok command) :
    CommandFor site command := by
  simp only [buildWriteCommand, bind_eq_ok, guard_eq_ok, pure_eq_ok] at built
  obtain ⟨_, -, siteId, -, sameSite, -, sameTenant, rfl⟩ := built
  rw [not_not] at sameSite sameTenant
  rw [sameTenant, sameSite]
  exact ⟨rfl, rfl, _, rfl, Fields.get_set_self ..⟩

/-- Signing leaves the site, the tenant and the payload of a command alone. -/
theorem maybeSignWriteCommand_for {runtime : Runtime} {env : Env} {command signed : Fields}
    {site : JsString} (forSite : CommandFor site command)
    (result : maybeSignWriteCommand runtime env command = .ok signed) : CommandFor site signed := by
  by_cases own : trimString (command.get (js "signature")) ≠ [] ∧
      trimString (command.get (js "signatureRef")) ≠ []
  · rw [maybeSignWriteCommand, if_pos own, pure_eq_ok] at result
    rw [← result]
    exact forSite
  · rw [maybeSignWriteCommand, if_neg own] at result
    simp only [guard_eq_ok, bind_eq_ok, pure_eq_ok] at result
    obtain ⟨-, signing, -, rfl⟩ := result
    have kept {key : JsString} (notSignature : key ≠ js "signature")
        (notReference : key ≠ js "signatureRef") (reference signature : Json) :
        ((command.set (js "signatureRef") reference).set (js "signature") signature).get key =
          command.get key := by
      rw [Fields.get_set_other _ notSignature, Fields.get_set_other _ notReference]
    constructor
    · rw [kept (by decide) (by decide)]
      exact forSite.siteId
    · rw [kept (by decide) (by decide)]
      exact forSite.tenant
    · rw [kept (by decide) (by decide)]
      exact forSite.payload

/-! ### Requests for a site -/

/-- A required site is not blank. -/
theorem envelopeSiteId_named {input : Fields} {header : Option JsString} {site : JsString}
    (located : envelopeSiteId input header = .ok site) : site ≠ [] := by
  simp only [envelopeSiteId, bind_eq_ok] at located
  obtain ⟨inPayload, -, resolved⟩ := located
  unfold resolveCanonicalSiteId at resolved
  split at resolved
  next => exact absurd resolved (by simp)
  next canonical others provided =>
    split at resolved
    next => exact absurd resolved (by simp)
    next =>
      have member : canonical ∈ canonical :: others := List.mem_cons_self
      rw [← provided] at member
      have named := (List.mem_filter.mp member).2
      rw [← Except.ok.inj resolved]
      simpa using named

theorem resolveReadSitePid_for (env : BridgeEnv) (call : BridgeCall) (replies : Replies)
    (site traceId : JsString) :
    Relates (Appends (SentFor site)) (resolveReadSitePid env call replies site traceId) := by
  unfold resolveReadSitePid
  apply relates_ite
  · intro _
    exact relates_pure _
  · intro _
    apply relates_ite
    · intro _
      exact relates_fail _
    · intro _
      apply relates_bind
      · exact relates_record (lookupMessage_for ..)
      · intro _
        apply relates_ite
        · intro _
          exact relates_fail _
        · intro _
          exact relates_pure _

/-- Behind the token every read sends for the site of the token. -/
theorem executeReadAction_for (env : BridgeEnv) (call : BridgeCall) (replies : Replies)
    (kind : ReadKind) (input : Fields) {site : JsString} (named : site ≠ []) :
    Relates (Appends (SentFor site)) (executeReadAction env call replies kind input site) := by
  unfold executeReadAction
  apply relates_lift_bind
  intro siteId _
  apply relates_ite
  · intro _
    exact relates_fail _
  · intro agrees
    have same : siteId = site := by
      by_contra differs
      exact agrees ⟨named, differs⟩
    rw [same]
    apply relates_bind
    · exact resolveReadSitePid_for env call replies site _
    · intro sitePid
      apply relates_bind
      · exact relates_record (readMessage_for ..)
      · intro _
        exact relates_lift _

/-- Behind the token every checkout pushes for the site of the token. -/
theorem forwardCommand_for (runtime : Runtime) (env : BridgeEnv) (call : BridgeCall)
    (route : WriteRoute) (site : JsString) (input : Fields) :
    Relates (Appends (SentFor site)) (forwardCommand runtime env call route site input) := by
  unfold forwardCommand
  apply relates_lift_bind
  intro command built
  apply relates_lift_bind
  intro signed result
  unfold sendWriteCommand
  apply relates_ite
  · intro _
    exact relates_fail _
  · intro _
    exact relates_record (maybeSignWriteCommand_for (buildWriteCommand_for built) result)

/-- A journal that sends only behind an accepted token, and only for its site. -/
def Isolated (runtime : Runtime) (env : BridgeEnv) (call : BridgeCall)
    (events : List BridgeEvent) : Prop :=
  events = [] ∨ ∃ site sent, events = .tokenAccepted site :: sent ∧
    requireTemplateApiToken runtime env call site = .ok () ∧ ∀ event ∈ sent, SentFor site event

/-- An endpoint whose rest sends for its site is isolated. -/
theorem authenticated_isolated {α : Type} {runtime : Runtime} {env : BridgeEnv} {call : BridgeCall}
    {next : JsString → Fields → Bridge α}
    (sends : ∀ site input, site ≠ [] → Relates (Appends (SentFor site)) (next site input)) :
    Isolated runtime env call (authenticated runtime env call next []).2 := by
  have silent : Isolated runtime env call [] := Or.inl rfl
  unfold authenticated
  apply holds_lift_bind silent
  intro body _
  apply holds_lift_bind silent
  intro canonical resolved
  have named : canonical.1 ≠ [] := by
    obtain ⟨located, -⟩ := envelopeSiteId_normalized resolved
    exact envelopeSiteId_named located
  cases checked : requireTemplateApiToken runtime env call canonical.1 with
  | error exception =>
      left
      simp [acceptToken, checked, lift, bind]
  | ok accepted =>
      have start : (acceptToken runtime env call canonical.1 >>= fun _ =>
          next canonical.1 canonical.2) [] = next canonical.1 canonical.2
            [.tokenAccepted canonical.1] := by
        simp [acceptToken, checked, lift, bind, record, update]
      rw [start]
      obtain ⟨sent, grown, forSite⟩ :=
        sends canonical.1 canonical.2 named [.tokenAccepted canonical.1]
      exact Or.inr ⟨canonical.1, sent, grown, checked, forSite⟩

/-- Whatever names a request mixes, what it sends on is for the one site its
token was accepted for. -/
theorem bridge_isolated (runtime : Runtime) (env : BridgeEnv) (call : BridgeCall)
    (replies : Replies) (endpoint : Endpoint) :
    Isolated runtime env call (journal runtime env call replies endpoint) := by
  cases endpoint with
  | read kind =>
      apply authenticated_isolated
      intro site input named
      exact executeReadAction_for env call replies kind input named
  | checkout route =>
      apply authenticated_isolated
      intro site input _
      exact forwardCommand_for runtime env call route site input

end DarkmeshGateway.SecretsWorker.BridgeIsolation
