import DarkmeshGateway.AsyncWorker.RefreshSoundness
import DarkmeshGateway.Foundation.Js.Kept
import DarkmeshGateway.SecretsWorker.RouteAssertionReplay

/-!
Contract: the handshake in which the async worker has a route asserted and
verified by the secrets worker.

Owns the two requests of the async worker, the answers of the secrets worker
as they arrive there, and the exact condition under which the handshake ends
with a verified route.

Does not own the replay store: a verification is given the outcome of its
claim. Bodies arrive as the texts they were sent as.
-/

namespace DarkmeshGateway.AsyncWorker.AssertionHandshake

open Foundation.Js
open Foundation.Outcome
open SecretsWorker.InboxRetention (UnixTime)
open SecretsWorker.RouteAssertion
open SecretsWorker.RouteAssertionVerify (AssertionRecord ReplayClaim Trimmed stringField cleanEnv
  allowedSkew handleRouteAssertVerify)
open SecretsWorker.RouteAssertionRoundTrip
open SecretsWorker.RouteAssertionReplay (verifiedAssertion handleRouteAssertVerify_eq_ok)

variable {readNumeral : JsString → Option Number}

/-! ### The async worker -/

/-- How a fetch ends. -/
inductive FetchOutcome where
  | answered (status : Nat) (body : Option Json)
  | aborted
  | unreachable

inductive Route where
  | issue
  | verify

/-- A request: its `authorization` header, empty when it is absent, and its body. -/
structure Post where
  authorization : JsString
  body : JsString

def isOk (status : Nat) : Bool := 200 ≤ status && status < 300

/-- `value && typeof value === 'object' ? value : null`, read by names. -/
def objectFields : Option Json → Option Fields
  | some (.obj fields) => some fields
  | some (.arr _) => some []
  | _ => none

/-- What the async worker asks the assertion for. -/
structure Ask where
  token : JsString
  domain : JsString
  cfgTx : JsString
  hbHost : JsString
  challengeNonce : JsString
  askedAt : UnixTime

/-- `nowSec + DEFAULT_ROUTE_ASSERT_CHALLENGE_TTL_SEC` -/
def Ask.challengeExp (ask : Ask) : Int := ask.askedAt.seconds + 90

def Ask.fields (ask : Ask) : Fields :=
  [(js "domain", .str ask.domain), (js "cfgTx", .str ask.cfgTx), (js "hbHost", .str ask.hbHost),
    (js "challengeNonce", .str ask.challengeNonce),
    (js "challengeExp", .num (.ofInt ask.challengeExp))]

def issuePost (ask : Ask) : Post :=
  ⟨js "Bearer " ++ ask.token, (Json.obj ask.fields).stringify⟩

def verifyFields (ask : Ask) (assertion : Fields) (signature sigAlg signatureRef : JsString) :
    Fields :=
  [(js "assertion", .obj assertion), (js "signature", .str signature), (js "sigAlg", .str sigAlg),
    (js "signatureRef", .str signatureRef), (js "expectedDomain", .str ask.domain),
    (js "expectedHbHost", .str ask.hbHost)]

/-- What the second answer says: `none` is a verified assertion. -/
def verification : FetchOutcome → Option String
  | .aborted => some "route_assert_timeout"
  | .unreachable => some "route_assert_unreachable"
  | .answered status body =>
      if !isOk status then some "route_assert_verify_failed"
      else
        match (objectFields body).bind fun verified => verified.get (js "ok") with
        | some (.bool true) => none
        | _ => some "route_assert_verify_invalid_response"

/-- A text that a fetch sends as a header: each of its units is one byte, and none
is `NUL` or ends a line. -/
def isHeaderValue (text : JsString) : Bool :=
  text.all fun unit => unit < 256 && unit != 0 && unit != 10 && unit != 13

/-- The two requests of `verifyRouteAssertion`, over any way to send them. A token
that is no header makes the first fetch throw. -/
def exchange (send : Route → Post → FetchOutcome) (ask : Ask) : Option String :=
  let issue :=
    if isHeaderValue (issuePost ask).authorization then send .issue (issuePost ask)
    else .unreachable
  match issue with
  | .aborted => some "route_assert_timeout"
  | .unreachable => some "route_assert_unreachable"
  | .answered status body =>
      match (objectFields body).filter fun _ => isOk status with
      | none => some "route_assert_issue_failed"
      | some issued =>
          let signature := stringField issued "signature"
          let sigAlg := stringField issued "sigAlg"
          let signatureRef := stringField issued "signatureRef"
          match issued.get (js "assertion") with
          | some (.obj assertion) =>
              if signature = [] ∨ sigAlg = [] ∨ signatureRef = [] then
                some "route_assert_issue_invalid_response"
              else
                let fields := verifyFields ask assertion signature sigAlg signatureRef
                verification (send .verify ⟨[], (Json.obj fields).stringify⟩)
          | _ => some "route_assert_issue_invalid_response"

/-! ### The secrets worker -/

def issuedFields (issued : Issued) : Fields :=
  [(js "ok", .bool true), (js "assertion", .obj issued.assertion.fields),
    (js "signature", .str issued.signature), (js "sigAlg", .str (js "ed25519")),
    (js "signatureRef", .str issued.signatureRef)]

def verifiedFields (assertionHash : JsString) : Fields :=
  [(js "ok", .bool true), (js "verified", .bool true), (js "assertionHash", .str assertionHash)]

def failedFields (error : String) : Fields :=
  [(js "ok", .bool false), (js "error", .str (js error))]

/-- The secrets worker at the other end. The message of an exception is no JSON. -/
def secretsWorker (readNumeral : JsString → Option Number) (platform : IssuePlatform)
    (env : IssueEnv) (issuedAt verifiedAt : UnixTime) (replay : ReplayClaim) (route : Route)
    (post : Post) : FetchOutcome :=
  let received (fields : Fields) := parse readNumeral (Json.obj fields).stringify
  let body := parse readNumeral post.body
  match route with
  | .issue =>
      match handleRouteAssert platform env ⟨post.authorization, body, issuedAt⟩ with
      | .ok issued => .answered 200 (received (issuedFields issued))
      | .error exception => .answered exception.status none
  | .verify =>
      match handleRouteAssertVerify platform.toPlatform env.verifyEnv body replay
          verifiedAt.seconds with
      | .ok assertionHash => .answered 200 (received (verifiedFields assertionHash))
      | .error (.failed status error) => .answered status (received (failedFields error))
      | .error (.thrown exception) => .answered exception.status none

/-! ### Bodies -/

theorem challengeExp_bounded (ask : Ask) : |ask.challengeExp| ≤ 8640000000300 := by
  have clock := ask.askedAt.bounded
  rw [abs_le] at clock ⊢
  unfold Ask.challengeExp
  omega

theorem ask_kept (reads : ReadsIntegers readNumeral) (ask : Ask) :
    Kept readNumeral (.obj ask.fields) := by
  apply kept_obj
  · show [js "domain", js "cfgTx", js "hbHost", js "challengeNonce", js "challengeExp"].Nodup
    decide
  · show ∀ key ∈ [js "domain", js "cfgTx", js "hbHost", js "challengeNonce", js "challengeExp"],
      keyIndex key = none
    decide
  · simp only [Ask.fields, List.forall_mem_cons]
    have challengeExp := kept_ofInt reads ((challengeExp_bounded ask).trans (by norm_num))
    exact ⟨kept_str _, kept_str _, kept_str _, kept_str _, challengeExp, by simp⟩

/-- The names of an assertion, the optional ones last. -/
def assertionNames : List JsString :=
  [js "v", js "iat", js "exp", js "challengeNonce", js "challengeExp", js "domain", js "cfgTx",
    js "hbHost", js "siteProcess", js "writeProcess", js "entryPath"]

theorem assertion_keys (assertion : AssertionRecord) :
    (assertion.fields.map Prod.fst).Sublist assertionNames := by
  have optional (name : String) (text : Option JsString) :
      ((text.map fun text => (js name, Json.str text)).toList.map Prod.fst).Sublist [js name] := by
    cases text with
    | none => exact List.nil_sublist _
    | some text => exact List.Sublist.refl _
  simp only [AssertionRecord.fields, List.map_append]
  exact (((List.Sublist.refl _).append (optional "siteProcess" _)).append
    (optional "writeProcess" _)).append (optional "entryPath" _)

theorem assertion_kept (reads : ReadsIntegers readNumeral) {assertion : AssertionRecord}
    (integers : ∀ number ∈ [assertion.iat, assertion.exp, assertion.challengeExp],
      ∃ value, |value| ≤ 2 ^ 53 ∧ number = .ofInt value) :
    Kept readNumeral (.obj assertion.fields) := by
  have number (value : Number) (listed : value ∈ [assertion.iat, assertion.exp,
      assertion.challengeExp]) : Kept readNumeral (.num value) := by
    obtain ⟨integer, exact, rfl⟩ := integers value listed
    exact kept_ofInt reads exact
  have optional (name : String) (text : Option JsString) :
      ∀ field ∈ (text.map fun text => (js name, Json.str text)).toList,
        Kept readNumeral field.2 := by
    intro field listed
    cases text with
    | none => cases listed
    | some text =>
        rw [List.mem_singleton.mp listed]
        exact kept_str text
  apply kept_obj
  · exact (assertion_keys assertion).nodup (by decide)
  · intro key listed
    have named : ∀ name ∈ assertionNames, keyIndex name = none := by decide
    exact named key ((assertion_keys assertion).subset listed)
  · intro field listed
    simp only [AssertionRecord.fields, List.mem_append] at listed
    rcases listed with ((listed | listed) | listed) | listed
    · revert field
      simp only [List.forall_mem_cons]
      exact ⟨kept_str _, number _ (by simp), number _ (by simp), kept_str _, number _ (by simp),
        kept_str _, kept_str _, kept_str _, by simp⟩
    · exact optional _ _ field listed
    · exact optional _ _ field listed
    · exact optional _ _ field listed

theorem issued_kept {issued : Issued} (assertion : Kept readNumeral (.obj issued.assertion.fields)) :
    Kept readNumeral (.obj (issuedFields issued)) := by
  apply kept_obj
  · show [js "ok", js "assertion", js "signature", js "sigAlg", js "signatureRef"].Nodup
    decide
  · show ∀ key ∈ [js "ok", js "assertion", js "signature", js "sigAlg", js "signatureRef"],
      keyIndex key = none
    decide
  · simp only [issuedFields, List.forall_mem_cons]
    exact ⟨kept_bool _, assertion, kept_str _, kept_str _, kept_str _, by simp⟩

theorem verify_kept (ask : Ask) {assertion : Fields} (kept : Kept readNumeral (.obj assertion))
    (signature sigAlg signatureRef : JsString) :
    Kept readNumeral (.obj (verifyFields ask assertion signature sigAlg signatureRef)) := by
  apply kept_obj
  · show [js "assertion", js "signature", js "sigAlg", js "signatureRef", js "expectedDomain",
      js "expectedHbHost"].Nodup
    decide
  · show ∀ key ∈ [js "assertion", js "signature", js "sigAlg", js "signatureRef",
      js "expectedDomain", js "expectedHbHost"], keyIndex key = none
    decide
  · simp only [verifyFields, List.forall_mem_cons]
    exact ⟨kept, kept_str _, kept_str _, kept_str _, kept_str _, kept_str _, by simp⟩

/-! ### The issue -/

/-- The request for an assertion as the secrets worker receives it. -/
def issueCall (ask : Ask) (issuedAt : UnixTime) : AssertCall :=
  ⟨js "Bearer " ++ ask.token, some (.obj ask.fields), issuedAt⟩

/-- What the async worker sends by its own construction: a trimmed token and a
nonce of hexadecimal digits. -/
structure Ask.WellFormed (ask : Ask) : Prop where
  token : Trimmed ask.token
  challengeNonce : isChallengeNonce ask.challengeNonce = true

theorem trim_challengeNonce {nonce : JsString} (valid : isChallengeNonce nonce = true) :
    Trimmed nonce := by
  simp only [isChallengeNonce, Bool.and_eq_true, decide_eq_true_eq, List.all_eq_true] at valid
  obtain ⟨⟨long, -⟩, units⟩ := valid
  constructor
  · apply trim_of_visible
    rw [List.any_eq_false]
    intro unit member
    have shape := units unit member
    simp only [isAlphanumeric, isDigit, Bool.or_eq_true, Bool.and_eq_true, decide_eq_true_eq,
      beq_iff_eq] at shape
    rcases shape with (((letter | rfl) | rfl) | rfl) | rfl
    · simp [isWhitespace]
      omega
    all_goals decide
  · rintro rfl
    simp at long

/-- The secrets worker can assert what it is asked. -/
structure Assertable (platform : IssuePlatform) (env : IssueEnv) (ask : Ask)
    (domain hbHost : JsString) : Prop where
  domainNormal : Normalizes platform.toPlatform ask.domain domain
  cfgTx : isCfgTx (trim ask.cfgTx) = true
  hbHostNormal : Normalizes platform.toPlatform ask.hbHost hbHost
  allowed : hbHost ∈ resolveAllowedHbHosts platform.toPlatform env
  positive : 0 < ask.challengeExp

def inputOf (ask : Ask) (domain hbHost : JsString) : AssertInput :=
  ⟨domain, trim ask.cfgTx, hbHost, ask.challengeNonce, .ofInt ask.challengeExp⟩

theorem lt_challengeExp (ask : Ask) (now : Int) :
    (Double.finite now).lt (Number.ofInt ask.challengeExp).toDouble =
      decide (now < ask.challengeExp) := by
  rw [toDouble_seconds (challengeExp_bounded ask)]
  simp [Double.lt]

theorem readRequiredString_str {text : JsString} {fieldName : String} {read : JsString} :
    readRequiredString (some (.str text)) fieldName = .ok read ↔ read = trim text ∧ read ≠ [] := by
  unfold readRequiredString
  dsimp only
  split
  next blank => simp [blank]
  next named =>
    rw [Except.ok.injEq]
    constructor
    · rintro rfl
      exact ⟨rfl, named⟩
    · rintro ⟨rfl, -⟩
      rfl

/-- A host is read and normalised exactly when it is normalised. -/
theorem read_host_iff {platform : SecretsWorker.RouteAssertionVerify.Platform} {text host : JsString}
    {fieldName : String} :
    (∃ read, readRequiredString (some (.str text)) fieldName = .ok read ∧
        SecretsWorker.RouteAssertion.normalizeDomainLike platform read fieldName = .ok host) ↔
      Normalizes platform text host := by
  simp only [readRequiredString_str, issue_normalizes_iff]
  constructor
  · rintro ⟨_, ⟨rfl, -⟩, normal⟩
    exact normalizes_trim.mp normal
  · intro normal
    refine ⟨_, ⟨rfl, ?_⟩, normalizes_trim.mpr normal⟩
    intro blank
    exact normal.named (by rw [blank]; rfl)

theorem parseChallengeExp_ask (ask : Ask) {challengeExp : Number} :
    parseChallengeExp (some (.num (.ofInt ask.challengeExp))) = .ok challengeExp ↔
      0 < ask.challengeExp ∧ challengeExp = .ofInt ask.challengeExp := by
  have zero := lt_challengeExp ask 0
  rw [Int.cast_zero] at zero
  simp only [parseChallengeExp, challengeNumber, bind_eq_ok, guard_eq_ok, pure_eq_ok,
    Except.ok.injEq, exists_eq_left', Number.isFinite_ofInt, zero, Number.trunc_ofInt]
  constructor
  · rintro ⟨positive, rfl⟩
    exact ⟨by simpa using positive, rfl⟩
  · rintro ⟨positive, rfl⟩
    exact ⟨by simpa using positive, rfl⟩

theorem parseAssertInput_iff {platform : IssuePlatform} {env : IssueEnv} {ask : Ask}
    (wellFormed : ask.WellFormed) {input : AssertInput} :
    parseAssertInput platform.toPlatform env ask.fields = .ok input ↔
      ∃ domain hbHost, Assertable platform env ask domain hbHost ∧
        input = inputOf ask domain hbHost := by
  obtain ⟨trimmed, named⟩ := trim_challengeNonce wellFormed.challengeNonce
  have nonce {read : JsString} : readRequiredString (ask.fields.get (js "challengeNonce"))
      "challengeNonce" = .ok read ↔ read = trim ask.challengeNonce ∧ read ≠ [] :=
    readRequiredString_str
  rw [trimmed] at nonce
  have cfgTx {read : JsString} : readRequiredString (ask.fields.get (js "cfgTx")) "cfgTx" =
      .ok read ↔ read = trim ask.cfgTx ∧ read ≠ [] := readRequiredString_str
  have domain {host : JsString} := @read_host_iff platform.toPlatform ask.domain host "domain"
  have hbHost {host : JsString} := @read_host_iff platform.toPlatform ask.hbHost host "hbHost"
  have challenge {exp : Number} :
      parseChallengeExp (ask.fields.get (js "challengeExp")) = .ok exp ↔ _ :=
    parseChallengeExp_ask ask
  simp only [parseAssertInput, bind_eq_ok, guard_eq_ok, pure_eq_ok, nonce, cfgTx, challenge]
  constructor
  · rintro ⟨_, domainRead, domain', domainNormal, _, ⟨rfl, -⟩, cfgTxOk, _, hbHostRead, hbHost',
      hbHostNormal, allowed, _, ⟨rfl, -⟩, -, _, ⟨positive, rfl⟩, rfl⟩
    refine ⟨domain', hbHost', ⟨domain.mp ⟨_, domainRead, domainNormal⟩, by simpa using cfgTxOk,
      hbHost.mp ⟨_, hbHostRead, hbHostNormal⟩, by simpa using allowed, positive⟩, rfl⟩
  · rintro ⟨domain', hbHost', assertable, rfl⟩
    obtain ⟨_, domainRead, domainNormal⟩ := domain.mpr assertable.domainNormal
    obtain ⟨_, hbHostRead, hbHostNormal⟩ := hbHost.mpr assertable.hbHostNormal
    have long : trim ask.cfgTx ≠ [] := by
      intro blank
      have valid := assertable.cfgTx
      rw [blank] at valid
      exact absurd valid (by decide)
    exact ⟨_, domainRead, domain', domainNormal, _, ⟨rfl, long⟩, by simp [assertable.cfgTx], _,
      hbHostRead, hbHost', hbHostNormal, by simp [assertable.allowed], _, ⟨rfl, named⟩,
      by simp [wellFormed.challengeNonce], _, ⟨assertable.positive, rfl⟩, rfl⟩

/-! ### The exchange -/

theorem requireRouteAssertToken_iff {env : IssueEnv} {ask : Ask} (wellFormed : ask.WellFormed)
    (issuedAt : UnixTime) :
    requireRouteAssertToken env (issueCall ask issuedAt) = .ok () ↔
      cleanEnv env.routeAssertToken = ask.token := by
  obtain ⟨trimmed, named⟩ := wellFormed.token
  have bearer : toLowerCase (js "Bearer") = js "bearer" ∧ isWhitespace 32 = true := by decide
  have actual : readBearerToken (js "Bearer " ++ ask.token) = ask.token := by
    show (if toLowerCase (js "Bearer") = js "bearer" ∧ isWhitespace 32 then
      trim (32 :: ask.token) else []) = ask.token
    rw [if_pos bearer]
    exact trimmed
  unfold requireRouteAssertToken
  simp only [issueCall, actual]
  split
  next missing =>
    simp only [reduceCtorEq, false_iff]
    rintro same
    exact named (same ▸ missing)
  next =>
    split
    next refused =>
      simp only [reduceCtorEq, false_iff]
      rintro same
      exact refused.elim named fun differ => differ same.symm
    next agreed =>
      rw [not_or, not_not] at agreed
      simp [agreed.2]

/-- The assertion about what is asked. -/
def assertionOf (env : IssueEnv) (ask : Ask) (issuedAt : UnixTime) (domain hbHost : JsString) :
    AssertionRecord :=
  makeAssertion env (inputOf ask domain hbHost) issuedAt.seconds
    (earlier (.ofInt ask.challengeExp) (issuedAt.seconds + routeAssertTtl env))

/-- The answer that carries it. -/
def issuedOf (platform : IssuePlatform) (env : IssueEnv) (ask : Ask) (issuedAt : UnixTime)
    (domain hbHost : JsString) : Issued :=
  let assertion := assertionOf env ask issuedAt domain hbHost
  ⟨assertion, bytesHex (platform.ed25519Sign (hexBuffer (signingKeyHex env)) assertion.text),
    signatureRef env⟩

/-- A private key of 64 hexadecimal digits is configured. -/
def HasSigningKey (env : IssueEnv) : Prop :=
  (signingKeyHex env).length = 64 ∧
    (signingKeyHex env).all (fun unit => (digitIn 16 unit).isSome) = true

/-- The expiry of an assertion in whole seconds. -/
def expiry (env : IssueEnv) (ask : Ask) (issuedAt : UnixTime) : Int :=
  min ask.challengeExp (issuedAt.seconds + routeAssertTtl env)

theorem earlier_ask (env : IssueEnv) (ask : Ask) (issuedAt : UnixTime) :
    earlier (.ofInt ask.challengeExp) (issuedAt.seconds + routeAssertTtl env) =
      .ofInt (expiry env ask issuedAt) := by
  have exact := toDouble_seconds (challengeExp_bounded ask)
  simp only [earlier, exact, Double.lt, Int.cast_lt, decide_eq_true_eq, expiry]
  split
  next before => rw [min_eq_left before.le]
  next after => rw [min_eq_right (not_lt.mp after)]

theorem expiry_bounded (env : IssueEnv) (ask : Ask) (issuedAt : UnixTime) :
    |expiry env ask issuedAt| ≤ 8640000000300 := by
  have challenge := challengeExp_bounded ask
  have clock := issuedAt.bounded
  have ttl := routeAssertTtl_range env
  rw [abs_le] at challenge clock ⊢
  unfold expiry
  omega

theorem lt_expiry (env : IssueEnv) (ask : Ask) (issuedAt : UnixTime) (now : Int) :
    (Double.finite now).lt (Number.ofInt (expiry env ask issuedAt)).toDouble =
      decide (now < expiry env ask issuedAt) := by
  rw [toDouble_seconds (expiry_bounded env ask issuedAt)]
  simp [Double.lt]

/-- The secrets worker asserts a route exactly when it shares the token, can
assert what is asked, gets the challenge in time and has a key. -/
theorem issued_iff {platform : IssuePlatform} {env : IssueEnv} {ask : Ask}
    (wellFormed : ask.WellFormed) {issuedAt : UnixTime} {issued : Issued} :
    handleRouteAssert platform env (issueCall ask issuedAt) = .ok issued ↔
      cleanEnv env.routeAssertToken = ask.token ∧ issuedAt.seconds < ask.challengeExp ∧
        HasSigningKey env ∧ ∃ domain hbHost, Assertable platform env ask domain hbHost ∧
          issued = issuedOf platform env ask issuedAt domain hbHost := by
  have body : (issueCall ask issuedAt).body = some (.obj ask.fields) := rfl
  have token : requireRouteAssertToken env (issueCall ask issuedAt) = .ok () ↔
      cleanEnv env.routeAssertToken = ask.token := requireRouteAssertToken_iff wellFormed issuedAt
  have ttl := routeAssertTtl_range env
  simp only [handleRouteAssert, body, Option.elim_some, pure_bind,
    SecretsWorker.InboxRetention.bodyFields, bind_eq_ok, guard_eq_ok, pure_eq_ok,
    Except.ok.injEq, exists_eq_left', parseAssertInput_iff wellFormed]
  constructor
  · rintro ⟨_, accepted, _, ⟨domain, hbHost, assertable, rfl⟩, pending, -, -, key, keyRead, rfl⟩
    have inTime : issuedAt.seconds < ask.challengeExp := by
      have before := lt_challengeExp ask issuedAt.seconds
      simp only [inputOf, issueCall, before] at pending
      simpa using pending
    unfold parsePrivateKeyHex at keyRead
    split at keyRead
    next wellFormedKey =>
      obtain rfl := Except.ok.inj keyRead
      exact ⟨token.mp accepted, inTime, wellFormedKey, domain, hbHost, assertable, rfl⟩
    next => cases keyRead
  · rintro ⟨shared, inTime, key, domain, hbHost, assertable, rfl⟩
    refine ⟨(), token.mpr shared, _, ⟨domain, hbHost, assertable, rfl⟩, ?_, ?_, ?_, _,
      if_pos key, rfl⟩
    · simp [inputOf, issueCall, lt_challengeExp, inTime]
    · have lasting : issuedAt.seconds < expiry env ask issuedAt := by
        unfold expiry
        omega
      simp [inputOf, issueCall, earlier_ask, lt_expiry, lasting]
    · intro missing
      rw [HasSigningKey, missing] at key
      exact absurd key.1 (by decide)

/-- A verification ends the exchange with success exactly when it answers so. -/
theorem verification_none_iff (platform : IssuePlatform) (env : IssueEnv)
    (issuedAt verifiedAt : UnixTime) (replay : ReplayClaim) {fields : Fields}
    (kept : Kept readNumeral (.obj fields)) :
    verification (secretsWorker readNumeral platform env issuedAt verifiedAt replay .verify
        ⟨[], (Json.obj fields).stringify⟩) = none ↔
      ∃ hash, handleRouteAssertVerify platform.toPlatform env.verifyEnv (some (.obj fields)) replay
        verifiedAt.seconds = .ok hash := by
  have received : parse readNumeral (Json.obj fields).stringify = some (.obj fields) := kept.parse
  simp only [secretsWorker, received]
  cases answer : handleRouteAssertVerify platform.toPlatform env.verifyEnv (some (.obj fields))
      replay verifiedAt.seconds with
  | ok hash =>
      have body : Kept readNumeral (.obj (verifiedFields hash)) := by
        apply kept_obj
        · show [js "ok", js "verified", js "assertionHash"].Nodup
          decide
        · show ∀ key ∈ [js "ok", js "verified", js "assertionHash"], keyIndex key = none
          decide
        · simp only [verifiedFields, List.forall_mem_cons]
          exact ⟨kept_bool _, kept_bool _, kept_str _, by simp⟩
      simp only [body.parse]
      simp [verification, isOk, objectFields, verifiedFields, Fields.get]
  | error failure =>
      cases failure with
      | failed status error =>
          have body : Kept readNumeral (.obj (failedFields error)) := by
            apply kept_obj
            · show [js "ok", js "error"].Nodup
              decide
            · show ∀ key ∈ [js "ok", js "error"], keyIndex key = none
              decide
            · simp only [failedFields, List.forall_mem_cons]
              exact ⟨kept_bool _, kept_str _, by simp⟩
          simp only [body.parse]
          simp only [verification, objectFields, failedFields, Option.bind_some, Fields.get]
          split <;> simp
      | thrown exception =>
          simp only [verification, objectFields, Option.bind_none]
          split <;> simp

/-- The exchange ends with success exactly when the token can be sent, an assertion
is issued and the request that posts it back is verified. -/
theorem exchange_none_iff (reads : ReadsIntegers readNumeral) {platform : IssuePlatform}
    (signing : Ed25519 platform) (env : IssueEnv) {ask : Ask} (wellFormed : ask.WellFormed)
    (issuedAt verifiedAt : UnixTime) (replay : ReplayClaim) :
    exchange (secretsWorker readNumeral platform env issuedAt verifiedAt replay) ask = none ↔
      isHeaderValue (issuePost ask).authorization = true ∧
      ∃ issued, handleRouteAssert platform env (issueCall ask issuedAt) = .ok issued ∧
        ∃ hash, handleRouteAssertVerify platform.toPlatform env.verifyEnv
          (some (.obj (request issued ask.domain ask.hbHost))) replay verifiedAt.seconds =
            .ok hash := by
  have received : parse readNumeral (issuePost ask).body = some (.obj ask.fields) :=
    (ask_kept reads ask).parse
  have call : (⟨(issuePost ask).authorization, some (.obj ask.fields), issuedAt⟩ : AssertCall) =
      issueCall ask issuedAt := rfl
  have answer : secretsWorker readNumeral platform env issuedAt verifiedAt replay .issue
      (issuePost ask) = match handleRouteAssert platform env (issueCall ask issuedAt) with
        | .ok issued => .answered 200 (parse readNumeral (Json.obj (issuedFields issued)).stringify)
        | .error exception => .answered exception.status none := by
    simp only [secretsWorker, received, call]
  unfold exchange
  by_cases sendable : isHeaderValue (issuePost ask).authorization = true
  case neg => simp [sendable]
  simp only [sendable, if_true, true_and]
  rw [answer]
  cases outcome : handleRouteAssert platform env (issueCall ask issuedAt) with
  | error exception => simp [objectFields]
  | ok issued =>
      obtain ⟨-, -, -, domain, hbHost, assertable, rfl⟩ := (issued_iff wellFormed).mp outcome
      generalize made : issuedOf platform env ask issuedAt domain hbHost = issued
      have assertion : Kept readNumeral (.obj issued.assertion.fields) := by
        apply assertion_kept reads
        rw [← made]
        simp only [issuedOf, assertionOf, makeAssertion, earlier_ask, List.forall_mem_cons]
        exact ⟨⟨_, issuedAt.bounded.trans (by norm_num), rfl⟩,
          ⟨_, (expiry_bounded env ask issuedAt).trans (by norm_num), rfl⟩,
          ⟨_, (challengeExp_bounded ask).trans (by norm_num), rfl⟩, by simp⟩
      have signature : Trimmed issued.signature := by
        rw [← made]
        exact (signature_read signing _ _).1
      have reference : Trimmed issued.signatureRef := by
        rw [← made]
        exact signatureRef_trimmed env
      have algorithm : Trimmed (js "ed25519") := ⟨by decide, by decide⟩
      have fields : (objectFields (parse readNumeral (Json.obj (issuedFields issued)).stringify)).filter
          (fun _ => isOk 200) = some (issuedFields issued) := by
        rw [(issued_kept assertion).parse]
        rfl
      have readSignature : stringField (issuedFields issued) "signature" = issued.signature :=
        signature.1
      have readAlgorithm : stringField (issuedFields issued) "sigAlg" = js "ed25519" := algorithm.1
      have readReference : stringField (issuedFields issued) "signatureRef" =
          issued.signatureRef := reference.1
      have readAssertion : (issuedFields issued).get (js "assertion") =
          some (.obj issued.assertion.fields) := rfl
      have present : ¬(issued.signature = [] ∨ js "ed25519" = [] ∨ issued.signatureRef = []) := by
        rintro (blank | blank | blank)
        · exact signature.2 blank
        · exact algorithm.2 blank
        · exact reference.2 blank
      simp only [fields, readSignature, readAlgorithm, readReference, readAssertion, if_neg present]
      rw [verification_none_iff platform env issuedAt verifiedAt replay
        (verify_kept ask assertion issued.signature (js "ed25519") issued.signatureRef)]
      simp only [Except.ok.injEq, exists_eq_left']
      rfl

/-! ### The verification -/

theorem verifiedAssertion_parsed {platform : SecretsWorker.RouteAssertionVerify.Platform}
    {env : SecretsWorker.RouteAssertionVerify.Env} {raw : Fields} {now : Int}
    {assertion : AssertionRecord}
    (verified : verifiedAssertion platform env (some (.obj raw)) now = .ok assertion) :
    SecretsWorker.RouteAssertionVerify.parseVerifyInput platform raw = .ok assertion := by
  simp only [verifiedAssertion, SecretsWorker.RouteAssertionVerify.fail,
    SecretsWorker.RouteAssertionVerify.verifyBody, bind_eq_ok, error_guard_eq_ok,
    mapError_eq_ok, pure_eq_ok, Except.ok.injEq, exists_eq_left'] at verified
  obtain ⟨-, -, -, _, parsed, _, -, _, -, _, -, _, -, rfl⟩ := verified
  exact parsed

/-- A posted assertion is verified exactly when its hosts are short enough, it is
inside its window, its signature is accepted and nothing has claimed it. -/
theorem verify_iff {platform : IssuePlatform} (parser : HostParser platform.toPlatform)
    (signing : Ed25519 platform) {env : IssueEnv} {call : AssertCall} {body : Fields}
    {input : AssertInput} {issued : Issued}
    (accepted : Accepted platform env call body input issued) {domain hbHost : JsString}
    (domainNormal : Normalizes platform.toPlatform domain issued.assertion.domain)
    (hbHostNormal : Normalizes platform.toPlatform hbHost issued.assertion.hbHost)
    (replay : ReplayClaim) (now : Int) :
    (∃ hash, handleRouteAssertVerify platform.toPlatform env.verifyEnv
        (some (.obj (request issued domain hbHost))) replay now = .ok hash) ↔
      (issued.assertion.domain.length ≤ 253 ∧ issued.assertion.hbHost.length ≤ 253) ∧
        SecretsWorker.RouteAssertionVerify.verifyWindow issued.assertion env.verifyEnv now = none ∧
        KeyAccepts platform env issued.assertion.text ∧ replay issued.assertion = .ok false := by
  have held : (request issued domain hbHost).get (js "assertion") =
      some (.obj issued.assertion.fields) := rfl
  have parsed (assertion : AssertionRecord) := parse_iff parser accepted held assertion
  have unclaimed := @verify_steps platform signing env call body input issued accepted domain hbHost
    now
  constructor
  · rintro ⟨hash, answered⟩
    obtain ⟨assertion, verified, claimed, -⟩ := handleRouteAssertVerify_eq_ok.mp answered
    obtain ⟨rfl, short⟩ := (parsed assertion).mp (verifiedAssertion_parsed verified)
    obtain ⟨_, read, window, -, -, signature, -⟩ := unclaimed.mp
      (handleRouteAssertVerify_eq_ok.mpr ⟨_, verified, rfl, rfl⟩)
    obtain ⟨rfl, -⟩ := (parsed _).mp read
    exact ⟨short, SecretsWorker.RouteAssertionVerify.checkWindow_eq_ok.mp window,
      (checkSignature_iff signing accepted).mp signature, claimed⟩
  · rintro ⟨short, window, key, claimed⟩
    have answered := unclaimed.mpr ⟨issued.assertion, (parsed _).mpr ⟨rfl, short⟩,
      SecretsWorker.RouteAssertionVerify.checkWindow_eq_ok.mpr window,
      checkExpected_ok rfl domainNormal, checkExpected_ok rfl hbHostNormal,
      (checkSignature_iff signing accepted).mpr key, rfl⟩
    obtain ⟨assertion, verified, -, -⟩ := handleRouteAssertVerify_eq_ok.mp answered
    obtain ⟨rfl, -⟩ := (parsed assertion).mp (verifiedAssertion_parsed verified)
    exact ⟨_, handleRouteAssertVerify_eq_ok.mpr ⟨_, verified, claimed, rfl⟩⟩

/-! ### The whole handshake -/

/-- The two workers agree on a route: they share a token that can be sent, the route can be
asserted, its hosts are short enough to be read again, the challenge and the
assertion reach the other side in time and on a clock that is not too far
behind, and the assertion is signed, accepted and not claimed before. -/
structure Agrees (platform : IssuePlatform) (env : IssueEnv) (ask : Ask)
    (issuedAt verifiedAt : UnixTime) (replay : ReplayClaim) (domain hbHost : JsString) : Prop where
  token : cleanEnv env.routeAssertToken = ask.token
  sendable : isHeaderValue (issuePost ask).authorization = true
  assertable : Assertable platform env ask domain hbHost
  short : domain.length ≤ 253 ∧ hbHost.length ≤ 253
  challenged : issuedAt.seconds < ask.challengeExp
  signingKey : HasSigningKey env
  unexpired : verifiedAt.seconds < expiry env ask issuedAt
  notEarly : ((Double.finite verifiedAt.seconds).add (.finite (allowedSkew env.verifyEnv))).lt
    (.finite issuedAt.seconds) = false
  verifyKey : KeyAccepts platform env (assertionOf env ask issuedAt domain hbHost).text
  unclaimed : replay (assertionOf env ask issuedAt domain hbHost) = .ok false

/-- An issued assertion is inside its window exactly before its expiry and on a
clock that is not too early. -/
theorem window_of_issued_iff {platform : IssuePlatform} {env : IssueEnv} {ask : Ask}
    {issuedAt verifiedAt : UnixTime} {domain hbHost : JsString} {input : AssertInput}
    (accepted : Accepted platform env (issueCall ask issuedAt) ask.fields input
      (issuedOf platform env ask issuedAt domain hbHost)) :
    SecretsWorker.RouteAssertionVerify.verifyWindow (assertionOf env ask issuedAt domain hbHost)
        env.verifyEnv verifiedAt.seconds = none ↔
      verifiedAt.seconds < expiry env ask issuedAt ∧
        ((Double.finite verifiedAt.seconds).add (.finite (allowedSkew env.verifyEnv))).lt
          (.finite issuedAt.seconds) = false := by
  have expires : (assertionOf env ask issuedAt domain hbHost).exp =
      .ofInt (expiry env ask issuedAt) := earlier_ask env ask issuedAt
  have before := lt_expiry env ask issuedAt verifiedAt.seconds
  rw [← expires] at before
  constructor
  · intro inside
    have unexpired : (Double.finite verifiedAt.seconds).lt
        (assertionOf env ask issuedAt domain hbHost).exp.toDouble = true := by
      have window := inside
      simp only [SecretsWorker.RouteAssertionVerify.verifyWindow] at window
      split_ifs at window with version started challenge expired early
      simpa using expired
    refine ⟨?_, (window_iff accepted unexpired).mp inside⟩
    rw [before] at unexpired
    simpa using unexpired
  · rintro ⟨unexpired, notEarly⟩
    exact (window_iff accepted (before.trans (decide_eq_true unexpired))).mpr notEarly

theorem exchange_verified_iff (reads : ReadsIntegers readNumeral) {platform : IssuePlatform}
    (parser : HostParser platform.toPlatform) (signing : Ed25519 platform) (env : IssueEnv)
    {ask : Ask} (wellFormed : ask.WellFormed) (issuedAt verifiedAt : UnixTime)
    (replay : ReplayClaim) :
    exchange (secretsWorker readNumeral platform env issuedAt verifiedAt replay) ask = none ↔
      ∃ domain hbHost, Agrees platform env ask issuedAt verifiedAt replay domain hbHost := by
  rw [exchange_none_iff reads signing env wellFormed]
  have verified {domain hbHost : JsString}
      (outcome : handleRouteAssert platform env (issueCall ask issuedAt) =
        .ok (issuedOf platform env ask issuedAt domain hbHost))
      (assertable : Assertable platform env ask domain hbHost) :
      (∃ hash, handleRouteAssertVerify platform.toPlatform env.verifyEnv
        (some (.obj (request (issuedOf platform env ask issuedAt domain hbHost) ask.domain
          ask.hbHost))) replay verifiedAt.seconds = .ok hash) ↔
        (domain.length ≤ 253 ∧ hbHost.length ≤ 253) ∧
          (verifiedAt.seconds < expiry env ask issuedAt ∧
            ((Double.finite verifiedAt.seconds).add (.finite (allowedSkew env.verifyEnv))).lt
              (.finite issuedAt.seconds) = false) ∧
          KeyAccepts platform env (assertionOf env ask issuedAt domain hbHost).text ∧
          replay (assertionOf env ask issuedAt domain hbHost) = .ok false := by
    obtain ⟨input, accepted⟩ := accepted_of_issued rfl outcome
    have steps := verify_iff parser signing accepted assertable.domainNormal
      assertable.hbHostNormal replay verifiedAt.seconds
    exact steps.trans (and_congr_right' (and_congr_left' (window_of_issued_iff accepted)))
  constructor
  · rintro ⟨sendable, issued, outcome, answered⟩
    obtain ⟨token, challenged, signingKey, domain, hbHost, assertable, rfl⟩ :=
      (issued_iff wellFormed).mp outcome
    obtain ⟨short, ⟨unexpired, notEarly⟩, verifyKey, unclaimed⟩ :=
      (verified outcome assertable).mp answered
    exact ⟨domain, hbHost, token, sendable, assertable, short, challenged, signingKey, unexpired,
      notEarly, verifyKey, unclaimed⟩
  · rintro ⟨domain, hbHost, agrees⟩
    have outcome := (issued_iff wellFormed).mpr ⟨agrees.token, agrees.challenged,
      agrees.signingKey, domain, hbHost, agrees.assertable, rfl⟩
    exact ⟨agrees.sendable, _, outcome, (verified outcome agrees.assertable).mpr
      ⟨agrees.short, ⟨agrees.unexpired, agrees.notEarly⟩, agrees.verifyKey, agrees.unclaimed⟩⟩

/-- What a refresh asks the assertion for. -/
def refreshAsk (env : Refresh.Env) (domain cfgTx hbHost challengeNonce : JsString)
    (askedAt : UnixTime) : Ask :=
  ⟨Refresh.envText env.routeAssertToken, domain, cfgTx, hbHost, challengeNonce, askedAt⟩

/-- A refresh gets its route verified exactly when the exchange is configured and
the two workers agree on the route. -/
theorem route_verified_iff (reads : ReadsIntegers readNumeral) {platform : IssuePlatform}
    (parser : HostParser platform.toPlatform) (signing : Ed25519 platform)
    (client : ConfigSignature.Platform) (env : Refresh.Env) (workerEnv : IssueEnv)
    (domain cfgTx hbHost : JsString) {challengeNonce : JsString}
    (fresh : isChallengeNonce challengeNonce = true) (askedAt issuedAt verifiedAt : UnixTime)
    (replay : ReplayClaim) :
    (Refresh.verifyRouteAssertion client domain cfgTx (some hbHost) env
        fun domain cfgTx hbHost => exchange
          (secretsWorker readNumeral platform workerEnv issuedAt verifiedAt replay)
          (refreshAsk env domain cfgTx hbHost challengeNonce askedAt)).status = .ok ↔
      (∃ host, client.urlHostname ((Refresh.envText env.secretsWorkerBaseUrl).rdropWhile
          (· == 47)) = some host) ∧
        (Refresh.envText env.secretsWorkerBaseUrl).rdropWhile (· == 47) ≠ [] ∧
        Refresh.envText env.routeAssertToken ≠ [] ∧
        ∃ normalDomain normalHost, Agrees platform workerEnv
          (refreshAsk env domain cfgTx hbHost challengeNonce askedAt) issuedAt verifiedAt replay
          normalDomain normalHost := by
  generalize served : (Refresh.envText env.secretsWorkerBaseUrl).rdropWhile (· == 47) = base
  by_cases token : Refresh.envText env.routeAssertToken = []
  · simp only [token, ne_eq, not_true_eq_false, false_and, and_false, iff_false]
    simp only [Refresh.verifyRouteAssertion, token, served]
    split_ifs <;> simp
  have wellFormed : (refreshAsk env domain cfgTx hbHost challengeNonce askedAt).WellFormed :=
    ⟨⟨trim_trim _, token⟩, fresh⟩
  rw [← exchange_verified_iff reads parser signing workerEnv wellFormed]
  have named (verified : exchange (secretsWorker readNumeral platform workerEnv issuedAt verifiedAt
      replay) (refreshAsk env domain cfgTx hbHost challengeNonce askedAt) = none) :
      hbHost ≠ [] := by
    obtain ⟨_, _, agrees⟩ :=
      (exchange_verified_iff reads parser signing workerEnv wellFormed ..).mp verified
    rintro rfl
    exact agrees.assertable.hbHostNormal.named rfl
  simp only [Refresh.verifyRouteAssertion, token, served]
  by_cases unserved : base = []
  · simp only [unserved, ne_eq, not_true_eq_false, false_and, and_false, iff_false]
    split_ifs <;> simp
  cases parsed : client.urlHostname base with
  | none =>
      simp only [reduceCtorEq, exists_false, false_and, iff_false]
      split_ifs <;> simp_all
  | some host =>
      cases verified : exchange (secretsWorker readNumeral platform workerEnv issuedAt verifiedAt
          replay) (refreshAsk env domain cfgTx hbHost challengeNonce askedAt) with
      | none => simp [named verified, unserved, token]
      | some code =>
          simp only [reduceCtorEq, and_false, iff_false]
          split_ifs <;> simp_all

/-! ### Two workers that agree -/

def clientEnv : Refresh.Env where
  secretsWorkerBaseUrl := some (js "http://worker.example/")
  routeAssertToken := some (js "token")

theorem site_verified :
    (Refresh.verifyRouteAssertion RefreshSoundness.alphaPlatform (js "Site.example.")
        (List.replicate 32 97) (some (js "hb.example")) clientEnv
        fun domain cfgTx hbHost => exchange
          (secretsWorker readPrinted smallPlatform issuing ⟨1001, by decide⟩ ⟨1002, by decide⟩
            fun _ => .ok false)
          (refreshAsk clientEnv domain cfgTx hbHost (js "12345678") ⟨1000, by decide⟩)).status =
      .ok := by
  have domain : SecretsWorker.RouteAssertion.normalizeDomainLike smallPlatform.toPlatform
      (js "Site.example.") "domain" = .ok (js "site.example") := by rfl
  have hbHost : SecretsWorker.RouteAssertion.normalizeDomainLike smallPlatform.toPlatform
      (js "hb.example") "hbHost" = .ok (js "hb.example") := by rfl
  refine (route_verified_iff (fun _ _ => readPrinted_readsBack _) smallPlatform_hostParser
    smallPlatform_signing RefreshSoundness.alphaPlatform clientEnv issuing _ _ _ (by decide)
    ⟨1000, by decide⟩ ⟨1001, by decide⟩ ⟨1002, by decide⟩ fun _ => .ok false).mpr
    ⟨⟨js "worker.example", by decide⟩, by decide, by decide, js "site.example", js "hb.example", ?_⟩
  exact {
    token := by decide
    sendable := by decide
    assertable := {
      domainNormal := issue_normalizes_iff.mp domain
      cfgTx := by decide
      hbHostNormal := issue_normalizes_iff.mp hbHost
      allowed := by decide
      positive := by decide }
    short := by decide
    challenged := by decide
    signingKey := ⟨by decide, by decide⟩
    unexpired := by decide
    notEarly := by decide +kernel
    verifyKey := Or.inl rfl
    unclaimed := rfl }

end DarkmeshGateway.AsyncWorker.AssertionHandshake
