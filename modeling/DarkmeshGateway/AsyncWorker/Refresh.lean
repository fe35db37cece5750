import DarkmeshGateway.AsyncWorker.ConfigValidator
import DarkmeshGateway.AsyncWorker.DomainState
import DarkmeshGateway.SecretsWorker.DetachedMessage

/-!
Contract: one refresh of a domain.

Owns the checks of a refresh in their order, the routing it extracts, and how
its outcome is persisted in the domain map, failures of the store included.

Does not own the network: a refresh is given the answers of the DNS resolver,
the config gateway, the probe and the route assertion exchange.
-/

namespace DarkmeshGateway.AsyncWorker.Refresh

open Foundation.Js
open Foundation.Outcome
open AsyncWorker.DnsTxt
open AsyncWorker.ConfigSignature
open AsyncWorker.ConfigValidator
open AsyncWorker.DomainMap
open AsyncWorker.DomainState

/-! ### Errors and environment -/

structure ControlledError where
  status : Nat
  code : String
  message : JsString
deriving DecidableEq

/-- What ends a refresh: a controlled error, or any other one with its message. -/
inductive Failure where
  | controlled (error : ControlledError)
  | unexpected (message : JsString)
deriving DecidableEq

def refuse {α : Type} (status : Nat) (code message : String) : Except Failure α :=
  .error (.controlled ⟨status, code, js message⟩)

/-- The bindings a refresh reads. -/
structure Env where
  refreshSignatureStrict : Option JsString := none
  staleGraceSec : Option JsString := none
  secretsWorkerBaseUrl : Option JsString := none
  routeAssertToken : Option JsString := none
  routeAssertRequireVerify : Option JsString := none
  routeAssertHbHostOverride : Option JsString := none
  domainMapKv : Bool := false

def parseBoolean (raw : Option JsString) : Option Bool :=
  raw.bind fun text =>
    let normalized := toLowerCase (trim text)
    if [js "1", js "true", js "yes", js "on"].contains normalized then some true
    else if [js "0", js "false", js "no", js "off"].contains normalized then some false
    else none

def isSignatureStrictMode (env : Env) : Bool := (parseBoolean env.refreshSignatureStrict).getD false

def parsePositiveInt (raw : Option JsString) (fallback : Int) : Int :=
  match raw.filter (· ≠ []) with
  | none => fallback
  | some text =>
      ((parseInt10 text).filter fun value => isFiniteInt value && 0 < value).getD fallback

def domainStateOptionsFromEnv (env : Env) : DomainStateMachineOptions where
  staleIfErrorMs := parsePositiveInt env.staleGraceSec 300 * 1000

def mapConfigOrSignatureCodeToStatus (code : String) : Nat :=
  if startsWith (js code) (js "sig_") then 403 else 422

def mapControlledErrorToHttpStatus (code : String) : Nat :=
  if startsWith (js code) (js "sig_") then 403
  else if [js "txt_", js "config_", js "domain_", js "hb_probe_"].any (startsWith (js code)) then 422
  else 502

def validationFailure {α : Type} (status : Nat) (error : ValidationError) : Except Failure α :=
  .error (.controlled ⟨status, error.code, error.message⟩)

/-! ### Domains -/

/-- `[a-z0-9-]` under the flag `i`. -/
def isHostUnit (unit : CodeUnit) : Bool :=
  let code := unit.toNat
  (97 ≤ code && code ≤ 122) || (65 ≤ code && code ≤ 90) || (48 ≤ code && code ≤ 57) || code == 45

/-- `[a-z]` under the flag `i`. -/
def isLetter (unit : CodeUnit) : Bool :=
  let code := unit.toNat
  (97 ≤ code && code ≤ 122) || (65 ≤ code && code ≤ 90)

/-- `HOST_RE.test(text)`, over the labels between the dots. -/
def matchesHostRe (text : JsString) : Bool :=
  let labels := text.splitOn 46
  1 ≤ text.length && text.length ≤ 253 && text.head? != some 45 && 2 ≤ labels.length &&
    labels.dropLast.all (fun label => 1 ≤ label.length && label.length ≤ 63 && label.all isHostUnit) &&
    labels.getLast?.any fun label => 2 ≤ label.length && label.length ≤ 63 && label.all isLetter

def normalizeDomain (raw : Option Json) : Except Failure JsString :=
  match raw with
  | some (.str text) =>
      let domain := toLowerCase (trim text)
      if matchesHostRe domain then .ok domain
      else refuse 422 "domain_invalid" "domain has invalid format."
  | _ => refuse 422 "domain_invalid" "domain must be a string."

/-! ### Probe and route assertion -/

inductive CheckStatus where
  | ok
  | failed
  | skipped
deriving DecidableEq

structure HbProbe where
  status : CheckStatus
  code : Option String
  target : Option JsString

structure RouteAssertionCheck where
  status : CheckStatus
  required : Bool
  code : Option String

/-- A string property that is not blank, trimmed. -/
def textProperty (config : Fields) (name : String) : Option JsString :=
  match config.get (js name) with
  | some (.str text) => if trim text = [] then none else some (trim text)
  | _ => none

def deriveProbeUrl (requestProbeUrl : Option JsString) (config : Fields) : Option JsString :=
  ((requestProbeUrl.map trim).filter (· ≠ [])).or
    ((textProperty config "hbProbeUrl").or (textProperty config "hbUrl"))

/-- `(value || '').trim()`. -/
def envText (value : Option JsString) : JsString := trim (value.getD [])

def routeAssertionRequired (env : Env) : Bool :=
  (parseBoolean env.routeAssertRequireVerify).getD (envText env.secretsWorkerBaseUrl ≠ [])

def deriveHbHostForAssertion (platform : Platform) (hbProbeTarget rawProbeUrl : Option JsString)
    (env : Env) : Option JsString :=
  if envText env.routeAssertHbHostOverride ≠ [] then
    some (toLowerCase (envText env.routeAssertHbHostOverride))
  else
    ([hbProbeTarget, rawProbeUrl].filterMap id |>.filter (· ≠ [])).findSome? fun candidate =>
      (platform.urlHostname candidate).map toLowerCase

/-- The check behind the configuration of the exchange, and the exchange with
the secrets worker: `none` is a verified assertion, a code a failed one. -/
def verifyRouteAssertion (platform : Platform) (domain cfgTx : JsString) (hbHost : Option JsString)
    (env : Env) (exchange : JsString → JsString → JsString → Option String) :
    RouteAssertionCheck :=
  let required := routeAssertionRequired env
  let base := (envText env.secretsWorkerBaseUrl).rdropWhile (· == 47)
  let token := envText env.routeAssertToken
  let failed (code : String) : RouteAssertionCheck := ⟨.failed, required, some code⟩
  if !required ∧ (base = [] ∨ token = []) then
    ⟨.skipped, required, some "route_assert_not_configured"⟩
  else if base = [] then failed "route_assert_base_url_missing"
  else if token = [] then failed "route_assert_token_missing"
  else
    match hbHost with
    | none => failed "route_assert_hb_host_missing"
    | some host =>
        if host = [] then failed "route_assert_hb_host_missing"
        else if (platform.urlHostname base).isNone then failed "route_assert_base_url_invalid"
        else
          match exchange domain cfgTx host with
          | some code => failed code
          | none => ⟨.ok, required, none⟩

/-! ### Routing -/

/-- Where a domain is served from. -/
structure Routing where
  resolvedTarget : JsString
  writeProcess : Option JsString
deriving DecidableEq

def entryPathOf (config : Fields) : JsString :=
  match config.get (js "entryPath") with
  | some (.str text) => if startsWith (trim text) (js "/") then trim text else js "/"
  | _ => js "/"

/-- The routing of a config object, read from its raw fields. -/
def routingOf (config : Fields) (cfg : JsString) : Routing where
  resolvedTarget :=
    match textProperty config "siteProcess" with
    | some siteProcess => siteProcess ++ entryPathOf config
    | none => js "cfg:" ++ cfg
  writeProcess := textProperty config "writeProcess"

theorem textProperty_of_holds {config : Fields} {name : String} {value : JsString}
    (holds : HoldsString config name value) : textProperty config name = some value := by
  obtain ⟨raw, found, trimmed, named⟩ := holds
  simp only [textProperty, found, trimmed, if_neg named]

/-- The raw fields of an accepted config route as the config read from them does. -/
theorem routingOf_accepted {platform : Platform} {object : Fields} {config : DmConfigV1}
    (accepts : Accepts platform object config) (cfg : JsString) :
    routingOf object cfg =
      ⟨config.siteProcess ++ config.entryPath, some config.writeProcess⟩ := by
  have path : entryPathOf object = config.entryPath := by
    obtain ⟨raw, found, trimmed, -⟩ := accepts.entryPath
    simp only [entryPathOf, found, trimmed, accepts.entryPathSlash, if_true]
  have site := textProperty_of_holds accepts.siteProcess
  have write := textProperty_of_holds accepts.writeProcess
  simp only [routingOf, site, write, path]

/-! ### A refresh -/

structure DomainRefreshRequest where
  domain : JsString
  dryRun : Bool := false
  txtPayload : Option JsString := none
  configJson : Option Json := none
  hbProbeUrl : Option JsString := none

structure RefreshResult where
  domain : JsString
  cfgTx : JsString
  ttlSec : Int
  resolvedTarget : JsString
  writeProcess : Option JsString
  configHash : JsString
  hbProbe : HbProbe
  routeAssertion : RouteAssertionCheck

/-- What the network and the clock answer during a refresh. -/
structure Answers where
  txt : JsString → Except Failure JsString
  config : JsString → Except Failure Fields
  nowSec : Int
  probe : JsString → Except Failure HbProbe
  exchange : JsString → JsString → JsString → Option String

/-- Own properties of a config read by name; an array has none of them. -/
def configFields : Json → Fields
  | .obj fields => fields
  | _ => []

/-- The supplied TXT payload when it is not blank, else the one looked up. -/
def txtPayloadOf (input : DomainRefreshRequest) (domain : JsString) (answers : Answers) :
    Except Failure JsString :=
  match (input.txtPayload.map trim).filter (· ≠ []) with
  | some payload => .ok payload
  | none => answers.txt domain

/-- The supplied config when it is an object, else the one fetched. -/
def configRawOf (input : DomainRefreshRequest) (cfg : JsString) (answers : Answers) :
    Except Failure Json :=
  match input.configJson with
  | some (.obj fields) => .ok (.obj fields)
  | some (.arr elements) => .ok (.arr elements)
  | _ => (answers.config cfg).map .obj

/-- The domain and owner a config claims, by the strict or the lenient reading. -/
structure ConfigIdentity where
  configDomain : Option JsString
  owner : JsString

def configIdentity (platform : Platform) (env : Env) (configRaw : Json) (envelope : DmTxtEnvelope)
    (nowSec : Int) : Except Failure ConfigIdentity :=
  match validateAndVerifyDmConfig platform configRaw envelope.kid nowSec with
  | .error error =>
      if isSignatureStrictMode env then
        validationFailure (mapConfigOrSignatureCodeToStatus error.code) error
      else
        .ok {
          configDomain := match (configFields configRaw).get (js "domain") with
            | some (.str text) => some (toLowerCase (trim text))
            | _ => none
          owner := match (configFields configRaw).get (js "owner") with
            | some (.str text) => trim text
            | _ => [] }
  | .ok config =>
      match validateConfigKidAgainstTxt config envelope with
      | .error error =>
          if isSignatureStrictMode env then
            validationFailure (mapConfigOrSignatureCodeToStatus error.code) error
          else .ok ⟨some config.domain, config.owner⟩
      | .ok _ => .ok ⟨some config.domain, config.owner⟩

/-- The cross-checks of a config against the request and the TXT record. -/
def checkIdentity (identity : ConfigIdentity) (domain : JsString) (envelope : DmTxtEnvelope) :
    Except Failure Unit := do
  if identity.configDomain.any fun configDomain => configDomain ≠ [] ∧ configDomain ≠ domain then
    refuse 422 "config_domain_mismatch" "Config domain does not match request domain."
  if identity.owner ≠ [] ∧ identity.owner ≠ envelope.kid then
    refuse 422 "config_owner_mismatch" "Config owner does not match TXT kid."

/-- The integrity probe of a refresh. -/
def probeStep (input : DomainRefreshRequest) (probeUrl : Option JsString) (answers : Answers) :
    Except Failure HbProbe := do
  let hbProbe ← match probeUrl with
    | some url => answers.probe url
    | none => pure ⟨.skipped, some "hb_probe_target_missing", none⟩
  if hbProbe.status = .failed ∧ !input.dryRun then
    refuse 502 (hbProbe.code.getD "hb_probe_failed") "HB integrity probe failed."
  return hbProbe

/-- The route assertion of a refresh. -/
def assertionStep (platform : Platform) (input : DomainRefreshRequest) (domain cfgTx : JsString)
    (hbHost : Option JsString) (env : Env) (answers : Answers) :
    Except Failure RouteAssertionCheck := do
  let routeAssertion := verifyRouteAssertion platform domain cfgTx hbHost env answers.exchange
  if routeAssertion.status = .failed ∧ routeAssertion.required ∧ !input.dryRun then
    let code := routeAssertion.code.getD "route_assert_verify_failed"
    refuse (mapControlledErrorToHttpStatus code) code "Route assertion verification failed."
  return routeAssertion

/-- The same text as the secrets worker's copy. -/
def stableStringify (value : Json) : JsString := SecretsWorker.DetachedMessage.stableStringify value

def parseEnvelope (txtPayload : JsString) : Except Failure DmTxtEnvelope :=
  match parseAndValidateDmTxtEnvelope txtPayload with
  | .error error => validationFailure 422 error
  | .ok envelope => .ok envelope

def runDomainRefresh (platform : Platform) (env : Env) (input : DomainRefreshRequest)
    (answers : Answers) : Except Failure RefreshResult := do
  let domain ← normalizeDomain (some (.str input.domain))
  let txtPayload ← txtPayloadOf input domain answers
  let envelope ← parseEnvelope txtPayload
  let configRaw ← configRawOf input envelope.cfg answers
  let identity ← configIdentity platform env configRaw envelope answers.nowSec
  checkIdentity identity domain envelope
  let probeUrl := deriveProbeUrl input.hbProbeUrl (configFields configRaw)
  let hbProbe ← probeStep input probeUrl answers
  let hbHost := deriveHbHostForAssertion platform hbProbe.target probeUrl env
  let routeAssertion ← assertionStep platform input domain envelope.cfg hbHost env answers
  let routing := routingOf (configFields configRaw) envelope.cfg
  return {
    domain
    cfgTx := envelope.cfg
    ttlSec := envelope.ttl
    resolvedTarget := routing.resolvedTarget
    writeProcess := routing.writeProcess
    configHash := platform.sha256Hex (stableStringify configRaw)
    hbProbe
    routeAssertion }

/-! ### Persistence -/

/-- What a put does: it is written, it throws without effect, or it throws
after taking effect. -/
inductive PutOutcome where
  | written
  | lost
  | late
deriving DecidableEq

/-- The store's behaviour during one persistence: whether the read throws, and the put. -/
structure StoreBehaviour where
  readThrows : Bool := false
  put : PutOutcome := .written

/-- An entry put under its key. -/
structure Put where
  key : JsString
  entry : DomainMapEntry

/-- The puts that took effect, and whether the persistence threw. -/
structure Persistence where
  puts : List Put
  threw : Bool

def Store.putAll (store : Store) (puts : List Put) : Store :=
  puts.foldl (fun store put => DomainMap.Store.put store put.key put.entry) store

/-- Read the entry of a domain, apply an outcome and put the next entry. -/
def persistOutcome (store : Store) (domain : JsString) (outcome : DomainRefreshOutcome) (env : Env)
    (nowMs : Int) (behaviour : StoreBehaviour) : Persistence :=
  if behaviour.readThrows then ⟨[], true⟩
  else
    let next := do
      let current ← getDomainMapEntry store domain nowMs
      let entry ← applyRefreshOutcome current outcome domain nowMs (domainStateOptionsFromEnv env)
      let key ← domainMapKey entry.host
      return (⟨key, entry⟩ : Put)
    match next with
    | none => ⟨[], true⟩
    | some put =>
        match behaviour.put with
        | .written => ⟨[put], false⟩
        | .lost => ⟨[], true⟩
        | .late => ⟨[put], true⟩

def successOutcome (result : RefreshResult) (nowMs : Int) : DomainRefreshSuccess where
  cfgTx := result.cfgTx
  resolvedTarget := result.resolvedTarget
  ttlMs := result.ttlSec * 1000
  writeProcess := result.writeProcess
  configHash := some result.configHash
  hbVerifiedAt := if result.hbProbe.status = .ok then some nowMs else none

def persistDomainRefreshSuccess (result : RefreshResult) (env : Env) (store : Store) (nowMs : Int)
    (behaviour : StoreBehaviour) : Persistence :=
  persistOutcome store result.domain (.success (successOutcome result nowMs)) env nowMs behaviour

def failureOutcome (failure : Failure) (nowMs : Int) : OutcomeError :=
  match failure with
  | .controlled error => .record (js error.code) error.message (some nowMs)
  | .unexpected message => .record (js "unexpected_error") message (some nowMs)

def persistDomainRefreshFailure (domain : JsString) (failure : Failure) (env : Env) (store : Store)
    (nowMs : Int) (behaviour : StoreBehaviour) : Persistence :=
  persistOutcome store domain (.failure (failureOutcome failure nowMs)) env nowMs behaviour

/-- The clock and the store during the persistence of a success and of a failure. -/
structure PersistenceAnswers where
  successNowMs : Int
  success : StoreBehaviour := {}
  failureNowMs : Int
  failure : StoreBehaviour := {}

/-- The answer of a tracked refresh and the entries it put. -/
structure Tracked where
  outcome : Except Failure RefreshResult
  puts : List Put

def domainMapWriteFailed : Failure :=
  .controlled ⟨500, "domain_map_write_failed",
    js "Domain map state write failed after successful refresh."⟩

def runDomainRefreshWithDomainState (platform : Platform) (env : Env) (input : DomainRefreshRequest)
    (answers : Answers) (store : Store) (persistence : PersistenceAnswers) : Tracked :=
  match runDomainRefresh platform env input answers with
  | .error failure => ⟨.error failure, []⟩
  | .ok result =>
      if !env.domainMapKv then ⟨.ok result, []⟩
      else
        let persisted := persistDomainRefreshSuccess result env store persistence.successNowMs
          persistence.success
        ⟨if persisted.threw then .error domainMapWriteFailed else .ok result, persisted.puts⟩

def runDomainRefreshTracked (platform : Platform) (env : Env) (input : DomainRefreshRequest)
    (answers : Answers) (store : Store) (persistence : PersistenceAnswers) : Tracked :=
  match normalizeDomain (some (.str input.domain)) with
  | .error failure => ⟨.error failure, []⟩
  | .ok domain =>
      let run := runDomainRefreshWithDomainState platform env { input with domain } answers store
        persistence
      match run.outcome with
      | .ok result => ⟨.ok result, run.puts⟩
      | .error failure =>
          if !env.domainMapKv then ⟨.error failure, run.puts⟩
          else
            -- The failure is recorded over whatever the success path has already put.
            let recorded := persistDomainRefreshFailure domain failure env
              (Store.putAll store run.puts) persistence.failureNowMs persistence.failure
            ⟨.error failure, run.puts ++ recorded.puts⟩

/-! ### What a refresh went through -/

/-- A normalised domain is normal. -/
theorem normalizeDomain_normal {raw domain : JsString}
    (accepted : normalizeDomain (some (.str raw)) = .ok domain) :
    normalizeDomain (some (.str domain)) = .ok domain := by
  simp only [normalizeDomain] at accepted
  split at accepted
  next matched =>
    obtain rfl := Except.ok.inj accepted
    simp only [normalizeDomain, trim_toLowerCase_trim, toLowerCase_toLowerCase, matched, if_true]
  next => exact absurd accepted (by simp [refuse])

/-- A text ends with the last of its labels. -/
private theorem intercalate_ends {labels : List JsString} {last : JsString}
    (ends : labels.getLast? = some last) :
    ∃ before, List.intercalate [46] labels = before ++ last := by
  induction labels with
  | nil => simp at ends
  | cons label rest inductionHypothesis =>
      cases rest with
      | nil =>
          obtain rfl : label = last := by simpa using ends
          exact ⟨[], by simp⟩
      | cons next others =>
          rw [List.getLast?_cons_cons] at ends
          obtain ⟨before, same⟩ := inductionHypothesis ends
          refine ⟨label ++ [46] ++ before, ?_⟩
          rw [List.intercalate_cons_cons, same]
          simp

theorem matchesHostRe_ends {text : JsString} (matched : matchesHostRe text = true) :
    ∃ unit, text.getLast? = some unit ∧ isLetter unit = true := by
  simp only [matchesHostRe, Bool.and_eq_true] at matched
  obtain ⟨-, endsInLetters⟩ := matched
  cases final : (text.splitOn 46).getLast? with
  | none => simp [final] at endsInLetters
  | some label =>
      simp only [final, Option.any_some, Bool.and_eq_true, decide_eq_true_eq] at endsInLetters
      obtain ⟨⟨long, -⟩, letters⟩ := endsInLetters
      obtain ⟨before, same⟩ := intercalate_ends final
      rw [List.intercalate_splitOn] at same
      have nonempty : label ≠ [] := by
        rintro rfl
        simp at long
      refine ⟨label.getLast nonempty, ?_,
        List.all_eq_true.mp letters _ (List.getLast_mem nonempty)⟩
      rw [same, List.getLast?_append_of_ne_nil _ nonempty, List.getLast?_eq_some_getLast nonempty]

/-- A normalised domain is its own key in the domain map. -/
theorem normalizeDomain_host {raw domain : JsString}
    (accepted : normalizeDomain (some (.str raw)) = .ok domain) :
    normalizeDomainHost domain = some domain := by
  simp only [normalizeDomain] at accepted
  split at accepted
  next matched =>
    obtain rfl := Except.ok.inj accepted
    obtain ⟨unit, ends, letter⟩ := matchesHostRe_ends matched
    have noDot : unit ≠ 46 := by
      rintro rfl
      exact absurd letter (by decide)
    have kept : dropFinalDot (toLowerCase (trim raw)) = toLowerCase (trim raw) := by
      rw [dropFinalDot, if_neg]
      rw [ends]
      simpa using noDot
    have nonempty : toLowerCase (trim raw) ≠ [] := by
      intro empty
      rw [empty] at ends
      simp at ends
    simp only [normalizeDomainHost, trim_toLowerCase_trim, toLowerCase_toLowerCase, kept,
      if_neg nonempty]
  next => exact absurd accepted (by simp [refuse])

/-- A required assertion is verified or failed, never skipped. -/
theorem verifyRouteAssertion_required {platform : Platform} {domain cfgTx : JsString}
    {hbHost : Option JsString} {env : Env}
    {exchange : JsString → JsString → JsString → Option String}
    (required : (verifyRouteAssertion platform domain cfgTx hbHost env exchange).required = true) :
    (verifyRouteAssertion platform domain cfgTx hbHost env exchange).status ≠ .skipped := by
  have flag : (verifyRouteAssertion platform domain cfgTx hbHost env exchange).required =
      routeAssertionRequired env := by
    simp only [verifyRouteAssertion]
    repeat' split
    all_goals rfl
  rw [flag] at required
  simp only [verifyRouteAssertion, required]
  repeat' split
  all_goals simp_all

/-- The steps of a successful refresh and what each established. -/
structure Refreshed (platform : Platform) (env : Env) (input : DomainRefreshRequest)
    (answers : Answers) (domain txtPayload : JsString) (envelope : DmTxtEnvelope)
    (configRaw : Json) (identity : ConfigIdentity) (result : RefreshResult) : Prop where
  normalised : normalizeDomain (some (.str input.domain)) = .ok domain
  txtRead : txtPayloadOf input domain answers = .ok txtPayload
  parsed : parseAndValidateDmTxtEnvelope txtPayload = .ok envelope
  configRead : configRawOf input envelope.cfg answers = .ok configRaw
  identified : configIdentity platform env configRaw envelope answers.nowSec = .ok identity
  checked : checkIdentity identity domain envelope = .ok ()
  probed : result.hbProbe.status = .failed → input.dryRun = true
  asserted : result.routeAssertion.status = .failed → result.routeAssertion.required = true →
    input.dryRun = true
  assertion : ∃ hbHost, result.routeAssertion =
    verifyRouteAssertion platform domain envelope.cfg hbHost env answers.exchange
  resultDomain : result.domain = domain
  cfgTx : result.cfgTx = envelope.cfg
  ttlSec : result.ttlSec = envelope.ttl
  resolvedTarget :
    result.resolvedTarget = (routingOf (configFields configRaw) envelope.cfg).resolvedTarget
  writeProcess :
    result.writeProcess = (routingOf (configFields configRaw) envelope.cfg).writeProcess
  configHash : result.configHash = platform.sha256Hex (stableStringify configRaw)

theorem refuse_ne_ok {α : Type} {status : Nat} {code message : String} {value : α} :
    (refuse status code message : Except Failure α) ≠ .ok value := by
  simp [refuse]

/-- A refusal in front of a run lets it through exactly when its test fails. -/
theorem refusal_eq_ok {α : Type} {refused : Prop} [Decidable refused] {status : Nat}
    {code message : String} {next : Except Failure α} {value : α} :
    (if refused then (refuse status code message : Except Failure PUnit) >>= fun _ => next
      else next) = .ok value ↔ ¬refused ∧ next = .ok value :=
  error_guard_eq_ok

theorem parseEnvelope_eq_ok {txtPayload : JsString} {envelope : DmTxtEnvelope} :
    parseEnvelope txtPayload = .ok envelope ↔
      parseAndValidateDmTxtEnvelope txtPayload = .ok envelope := by
  unfold parseEnvelope
  split
  next refused => simp [validationFailure, refused]
  next accepted => simp [accepted]

private theorem probeStep_failed {input : DomainRefreshRequest} {probeUrl : Option JsString}
    {answers : Answers} {hbProbe : HbProbe} (passed : probeStep input probeUrl answers = .ok hbProbe)
    (failed : hbProbe.status = .failed) : input.dryRun = true := by
  by_contra wet
  cases probeUrl with
  | none =>
      simp only [probeStep, bind_eq_ok, pure_eq_ok, refusal_eq_ok] at passed
      obtain ⟨_, -, kept, rfl⟩ := passed
      exact kept ⟨failed, by simpa using wet⟩
  | some url =>
      simp only [probeStep, bind_eq_ok, pure_eq_ok, refusal_eq_ok] at passed
      obtain ⟨_, -, kept, rfl⟩ := passed
      exact kept ⟨failed, by simpa using wet⟩

theorem runDomainRefresh_steps {platform : Platform} {env : Env} {input : DomainRefreshRequest}
    {answers : Answers} {result : RefreshResult}
    (succeeded : runDomainRefresh platform env input answers = .ok result) :
    ∃ domain txtPayload envelope configRaw identity,
      Refreshed platform env input answers domain txtPayload envelope configRaw identity result := by
  simp only [runDomainRefresh, bind_eq_ok, pure_eq_ok, parseEnvelope_eq_ok, assertionStep,
    refusal_eq_ok] at succeeded
  obtain ⟨domain, domainOk, txtPayload, txtOk, envelope, envelopeOk, configRaw, configOk, identity,
    identityOk, _, checked, hbProbe, probed, routeAssertion, ⟨asserted, rfl⟩, rfl⟩ := succeeded
  refine ⟨domain, txtPayload, envelope, configRaw, identity, domainOk, txtOk, envelopeOk, configOk,
    identityOk, checked, ?_, ?_, ⟨_, rfl⟩, rfl, rfl, rfl, rfl, rfl, rfl⟩
  · intro failed
    exact probeStep_failed probed failed
  · intro failed required
    by_contra wet
    exact asserted ⟨failed, required, by simpa using wet⟩

/-! ### What a refresh persists -/

theorem persistOutcome_put {store : Store} {domain : JsString} {outcome : DomainRefreshOutcome}
    {env : Env} {nowMs : Int} {behaviour : StoreBehaviour} {put : Put}
    (persisted : put ∈ (persistOutcome store domain outcome env nowMs behaviour).puts) :
    ∃ current, getDomainMapEntry store domain nowMs = some current ∧
      applyRefreshOutcome current outcome domain nowMs (domainStateOptionsFromEnv env) =
        some put.entry ∧ domainMapKey put.entry.host = some put.key := by
  unfold persistOutcome at persisted
  split at persisted
  next => simp at persisted
  next =>
    dsimp only at persisted
    split at persisted
    next => simp at persisted
    next written computed =>
      have same : put = written := by
        split at persisted
        next => exact List.mem_singleton.mp persisted
        next => simp at persisted
        next => exact List.mem_singleton.mp persisted
      subst same
      simp only [Option.bind_eq_bind, Option.bind_eq_some_iff, Option.pure_def,
        Option.some.injEq] at computed
      obtain ⟨current, read, entry, applied, key, keyed, rfl⟩ := computed
      exact ⟨current, read, applied, keyed⟩

/-- A refresh of a normalised domain answers for that domain. -/
theorem runDomainRefresh_domain {platform : Platform} {env : Env} {input : DomainRefreshRequest}
    {answers : Answers} {domain : JsString} {result : RefreshResult}
    (normal : normalizeDomain (some (.str input.domain)) = .ok domain)
    (refreshed : runDomainRefresh platform env { input with domain } answers = .ok result) :
    result.domain = domain := by
  obtain ⟨again, _, _, _, _, steps⟩ := runDomainRefresh_steps refreshed
  have sameDomain : again = domain :=
    Except.ok.inj (steps.normalised.symm.trans (normalizeDomain_normal normal))
  exact steps.resultDomain.trans sameDomain

section Tracked

variable {platform : Platform} {env : Env} {input : DomainRefreshRequest} {answers : Answers}
  {store : Store} {persistence : PersistenceAnswers} {domain : JsString}

theorem runDomainRefreshTracked_unbound
    (normal : normalizeDomain (some (.str input.domain)) = .ok domain)
    (unbound : env.domainMapKv = false) :
    runDomainRefreshTracked platform env input answers store persistence =
      ⟨runDomainRefresh platform env { input with domain } answers, []⟩ := by
  cases refreshed : runDomainRefresh platform env { input with domain } answers with
  | error failure =>
      simp [runDomainRefreshTracked, normal, runDomainRefreshWithDomainState, refreshed, unbound]
  | ok result =>
      simp [runDomainRefreshTracked, normal, runDomainRefreshWithDomainState, refreshed, unbound]

theorem runDomainRefreshTracked_error
    (normal : normalizeDomain (some (.str input.domain)) = .ok domain)
    (bound : env.domainMapKv = true) {failure : Failure}
    (refused : runDomainRefresh platform env { input with domain } answers = .error failure) :
    runDomainRefreshTracked platform env input answers store persistence =
      ⟨.error failure, (persistDomainRefreshFailure domain failure env store
        persistence.failureNowMs persistence.failure).puts⟩ := by
  simp [runDomainRefreshTracked, normal, runDomainRefreshWithDomainState, refused, bound,
    Store.putAll]

/-- A success whose persistence does not throw is the answer. -/
theorem runDomainRefreshTracked_written
    (normal : normalizeDomain (some (.str input.domain)) = .ok domain)
    (bound : env.domainMapKv = true) {result : RefreshResult}
    (refreshed : runDomainRefresh platform env { input with domain } answers = .ok result)
    (written : (persistDomainRefreshSuccess result env store persistence.successNowMs
      persistence.success).threw = false) :
    runDomainRefreshTracked platform env input answers store persistence =
      ⟨.ok result, (persistDomainRefreshSuccess result env store persistence.successNowMs
        persistence.success).puts⟩ := by
  simp [runDomainRefreshTracked, normal, runDomainRefreshWithDomainState, refreshed, bound, written]

/-- A success whose persistence throws is recorded as a failure as well. -/
theorem runDomainRefreshTracked_thrown
    (normal : normalizeDomain (some (.str input.domain)) = .ok domain)
    (bound : env.domainMapKv = true) {result : RefreshResult}
    (refreshed : runDomainRefresh platform env { input with domain } answers = .ok result)
    (threw : (persistDomainRefreshSuccess result env store persistence.successNowMs
      persistence.success).threw = true) :
    let puts := (persistDomainRefreshSuccess result env store persistence.successNowMs
      persistence.success).puts
    runDomainRefreshTracked platform env input answers store persistence =
      ⟨.error domainMapWriteFailed, puts ++ (persistDomainRefreshFailure domain
        domainMapWriteFailed env (Store.putAll store puts) persistence.failureNowMs
        persistence.failure).puts⟩ := by
  simp [runDomainRefreshTracked, normal, runDomainRefreshWithDomainState, refreshed, bound, threw]

/-- A put of a tracked refresh records the success of the refresh or a failure. -/
theorem runDomainRefreshTracked_put {put : Put}
    (persisted : put ∈
      (runDomainRefreshTracked platform env input answers store persistence).puts) :
    env.domainMapKv = true ∧ ∃ domain, normalizeDomain (some (.str input.domain)) = .ok domain ∧
      ((∃ result, runDomainRefresh platform env { input with domain } answers = .ok result ∧
          put ∈ (persistDomainRefreshSuccess result env store persistence.successNowMs
            persistence.success).puts) ∨
        ∃ failure current, put ∈ (persistDomainRefreshFailure domain failure env current
          persistence.failureNowMs persistence.failure).puts) := by
  cases normal : normalizeDomain (some (.str input.domain)) with
  | error failure =>
      have unpersisted :
          (runDomainRefreshTracked platform env input answers store persistence).puts = [] := by
        simp [runDomainRefreshTracked, normal]
      rw [unpersisted] at persisted
      exact absurd persisted List.not_mem_nil
  | ok domain =>
      cases bound : env.domainMapKv with
      | false =>
          rw [runDomainRefreshTracked_unbound normal bound] at persisted
          exact absurd persisted List.not_mem_nil
      | true =>
          refine ⟨rfl, domain, rfl, ?_⟩
          cases refreshed : runDomainRefresh platform env { input with domain } answers with
          | error failure =>
              rw [runDomainRefreshTracked_error normal bound refreshed] at persisted
              exact Or.inr ⟨failure, store, persisted⟩
          | ok result =>
              cases threw : (persistDomainRefreshSuccess result env store
                  persistence.successNowMs persistence.success).threw with
              | false =>
                  rw [runDomainRefreshTracked_written normal bound refreshed threw] at persisted
                  exact Or.inl ⟨result, rfl, persisted⟩
              | true =>
                  rw [runDomainRefreshTracked_thrown normal bound refreshed threw] at persisted
                  rcases List.mem_append.mp persisted with member | member
                  · exact Or.inl ⟨result, rfl, member⟩
                  · exact Or.inr ⟨domainMapWriteFailed, _, member⟩

/-- A valid entry is put only by the success of the refresh. -/
theorem runDomainRefreshTracked_valid {put : Put}
    (persisted : put ∈
      (runDomainRefreshTracked platform env input answers store persistence).puts)
    (valid : put.entry.status = .valid) :
    ∃ domain result starting, normalizeDomain (some (.str input.domain)) = .ok domain ∧
      runDomainRefresh platform env { input with domain } answers = .ok result ∧
      put.entry = succeed starting (successOutcome result persistence.successNowMs)
        persistence.successNowMs (domainStateOptionsFromEnv env) := by
  obtain ⟨-, domain, normal, ⟨result, refreshed, member⟩ | ⟨failure, current, member⟩⟩ :=
    runDomainRefreshTracked_put persisted
  · obtain ⟨current, -, applied, -⟩ := persistOutcome_put member
    obtain ⟨starting, -, same⟩ := Option.map_eq_some_iff.mp applied
    exact ⟨domain, result, starting, normal, refreshed, same.symm⟩
  · obtain ⟨_, -, applied, -⟩ := persistOutcome_put member
    exact absurd valid (applyRefreshOutcome_failure applied)

end Tracked

end DarkmeshGateway.AsyncWorker.Refresh
