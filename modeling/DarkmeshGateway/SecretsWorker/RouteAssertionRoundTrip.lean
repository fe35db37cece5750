import DarkmeshGateway.Foundation.Delimited
import DarkmeshGateway.SecretsWorker.RouteAssertion

/-!
Contract: issued route assertions handed to the verifier.

Owns the hosts that both normalisers accept, the request that posts an issued
assertion back, and when the verifier answers it with success.

Does not own the replay store, which is off here.
-/

namespace DarkmeshGateway.SecretsWorker.RouteAssertionRoundTrip

open Foundation.Js
open Foundation.Outcome
open SecretsWorker.InboxRetention (bodyFields)
open SecretsWorker.RouteAssertion
open SecretsWorker.RouteAssertionVerify (Platform AssertionRecord Trimmed Whole cleanEnv
  resolveVerifyPublicKey readHex allowedSkew verifyWindow isHostLabel stringField VerifyFailure
  routeAssertVersion orVariable handleRouteAssertVerify parseVerifyInput checkWindow_eq_ok
  checkSignature_eq_ok)

/-! ### Hosts -/

/-- After `http://` the host parser lower-cases, and parses what it returned to the same. -/
structure HostParser (platform : Platform) : Prop where
  lowerCased : ∀ {text host}, platform.urlHostname (js "http://" ++ text) = some host →
    toLowerCase host = host
  idempotent : ∀ {text host}, platform.urlHostname (js "http://" ++ text) = some host →
    platform.urlHostname (js "http://" ++ host) = some host

/-- Labels of letters, digits and inner hyphens, at least two of them. -/
structure IsHost (host : JsString) : Prop where
  dotted : host.contains 46 = true
  labels : (host.splitOn 46).all isHostLabel = true

/-- A text both normalisers turn into a host. -/
structure Normalizes (platform : Platform) (value host : JsString) : Prop where
  named : toLowerCase (trim value) ≠ []
  plain : includes (toLowerCase (trim value)) (js "://") = false
  nonempty : (toLowerCase (trim value)).rdropWhile (· == 46) ≠ []
  short : ((toLowerCase (trim value)).rdropWhile (· == 46)).length ≤ 253
  noPath : ((toLowerCase (trim value)).rdropWhile (· == 46)).contains 47 = false
  parsed : ∃ parsed, platform.urlHostname
    (js "http://" ++ (toLowerCase (trim value)).rdropWhile (· == 46)) = some parsed ∧
      toLowerCase parsed = host
  host : IsHost host

theorem verify_normalizes_iff {platform : Platform} {value host : JsString} {fieldName : String} :
    RouteAssertionVerify.normalizeDomainLike platform value fieldName = .ok host ↔
      Normalizes platform value host := by
  simp only [RouteAssertionVerify.normalizeDomainLike, bind_eq_ok, guard_eq_ok, pure_eq_ok,
    elim_throw_eq_ok, Bool.or_eq_true, decide_eq_true_eq, not_or, Bool.not_eq_true',
    Bool.not_eq_false, Nat.not_lt]
  constructor
  · rintro ⟨⟨named, plain⟩, ⟨⟨nonempty, short⟩, noPath⟩, parsed, found, dotted, labels, rfl⟩
    exact ⟨named, by simpa using plain, nonempty, short, by simpa using noPath, ⟨parsed, found, rfl⟩,
      dotted, labels⟩
  · rintro ⟨named, plain, nonempty, short, noPath, ⟨parsed, found, rfl⟩, dotted, labels⟩
    exact ⟨⟨named, by simp [plain]⟩, ⟨⟨nonempty, short⟩, by simp only [noPath, Bool.false_eq_true,
      not_false_iff]⟩, parsed, found, dotted, labels, rfl⟩

theorem issue_normalizes_iff {platform : Platform} {value host : JsString} {fieldName : String} :
    RouteAssertion.normalizeDomainLike platform value fieldName = .ok host ↔
      Normalizes platform value host := by
  simp only [RouteAssertion.normalizeDomainLike, bind_eq_ok, guard_eq_ok, pure_eq_ok,
    elim_throw_eq_ok, Bool.or_eq_true, decide_eq_true_eq, not_or, Bool.not_eq_true',
    Bool.not_eq_false, Nat.not_lt]
  constructor
  · rintro ⟨named, plain, nonempty, ⟨short, noPath⟩, parsed, found, dotted, labels, rfl⟩
    exact ⟨named, by simpa using plain, nonempty, short, by simpa using noPath, ⟨parsed, found, rfl⟩,
      dotted, labels⟩
  · rintro ⟨named, plain, nonempty, short, noPath, ⟨parsed, found, rfl⟩, dotted, labels⟩
    exact ⟨named, by simp [plain], nonempty, ⟨short, by simp only [noPath, Bool.false_eq_true,
      not_false_iff]⟩, parsed, found, dotted, labels, rfl⟩

theorem Normalizes.unique {platform : Platform} {value left right : JsString}
    (first : Normalizes platform value left) (second : Normalizes platform value right) :
    left = right := by
  obtain ⟨parsed, found, lowered⟩ := first.parsed
  obtain ⟨other, otherFound, otherLowered⟩ := second.parsed
  have same : parsed = other := Option.some.inj (found.symm.trans otherFound)
  rw [← lowered, ← otherLowered, same]

/-- A host consists of lower-case letters, digits, hyphens and dots. -/
theorem IsHost.units {host : JsString} (isHost : IsHost host) {unit : CodeUnit}
    (member : unit ∈ host) :
    unit = 46 ∨ (97 ≤ unit.toNat ∧ unit.toNat ≤ 122) ∨ (48 ≤ unit.toNat ∧ unit.toNat ≤ 57) ∨
      unit = 45 := by
  have placed : unit = 46 ∨ ∃ label ∈ host.splitOn 46, unit ∈ label :=
    Foundation.Delimited.mem_splitOn member
  rcases placed with dot | ⟨label, listed, inside⟩
  · exact Or.inl dot
  · have labelled := List.all_eq_true.mp isHost.labels label listed
    simp only [isHostLabel, Bool.and_eq_true] at labelled
    have letter := List.all_eq_true.mp labelled.1.1.2 unit inside
    simpa [isDigit, or_assoc] using Or.inr letter

theorem IsHost.visible {host : JsString} (isHost : IsHost host) : trim host = host := by
  apply trim_of_visible
  rw [List.any_eq_false]
  intro unit member
  rcases isHost.units member with rfl | letter | digit | rfl
  · decide
  · simp [isWhitespace]
    omega
  · simp [isWhitespace]
    omega
  · decide

theorem IsHost.free {host : JsString} (isHost : IsHost host) {mark : CodeUnit}
    (other : mark = 47 ∨ mark = 58) : mark ∉ host := by
  intro member
  rcases other with rfl | rfl
  · have unit := isHost.units member
    simp at unit
  · have unit := isHost.units member
    simp at unit

theorem IsHost.ne_nil {host : JsString} (isHost : IsHost host) : host ≠ [] := by
  rintro rfl
  exact absurd isHost.dotted (by decide)

/-- The last label of a host is not empty. -/
theorem IsHost.no_final_dot {host : JsString} (isHost : IsHost host) :
    host.rdropWhile (· == 46) = host := by
  rw [List.rdropWhile_eq_self_iff]
  intro nonempty dotted
  have final : host = host.dropLast ++ [46] := by
    conv_lhs => rw [← List.dropLast_append_getLast nonempty]
    rw [beq_iff_eq.mp dotted]
  have empty : ([] : JsString) ∈ host.splitOn 46 := by
    rw [final]
    exact Foundation.Delimited.nil_mem_splitOn 46 host.dropLast
  exact absurd (List.all_eq_true.mp isHost.labels [] empty) (by decide)

private theorem includes_scheme_free {text : JsString} (free : 58 ∉ text) :
    includes text (js "://") = false := by
  unfold includes
  rw [List.any_eq_false]
  intro tail member found
  have start : js "://" <+: tail := List.isPrefixOf_iff_prefix.mp found
  have colon : (58 : CodeUnit) ∈ tail := start.subset (by decide)
  exact free ((List.mem_tails _ _).mp member |>.subset colon)

/-- A host is normalised to itself, unless it is too long. -/
theorem renormalizes_iff {platform : Platform} (parser : HostParser platform)
    {value host other : JsString} (normal : Normalizes platform value host) :
    Normalizes platform host other ↔ other = host ∧ host.length ≤ 253 := by
  obtain ⟨parsed, found, lowered⟩ := normal.parsed
  obtain rfl : parsed = host := (parser.lowerCased found).symm.trans lowered
  have isHost := normal.host
  have whole : toLowerCase (trim parsed) = parsed := by rw [isHost.visible, lowered]
  have again := parser.idempotent found
  have itself (short : parsed.length ≤ 253) : Normalizes platform parsed parsed := by
    refine ⟨?_, ?_, ?_, ?_, ?_, ?_, isHost⟩
    all_goals rw [whole]
    · exact isHost.ne_nil
    · exact includes_scheme_free (isHost.free (Or.inr rfl))
    · rw [isHost.no_final_dot]
      exact isHost.ne_nil
    · rw [isHost.no_final_dot]
      exact short
    · rw [isHost.no_final_dot]
      simpa using isHost.free (Or.inl rfl)
    · rw [isHost.no_final_dot]
      exact ⟨parsed, again, lowered⟩
  constructor
  · intro renormal
    have short := renormal.short
    rw [whole, isHost.no_final_dot] at short
    exact ⟨renormal.unique (itself short), short⟩
  · rintro ⟨rfl, short⟩
    exact itself short

/-- Normalisation trims its text. -/
theorem normalizes_trim {platform : Platform} {value host : JsString} :
    Normalizes platform (trim value) host ↔ Normalizes platform value host := by
  constructor
  · rintro ⟨named, plain, nonempty, short, noPath, parsed, isHost⟩
    rw [trim_trim] at named plain nonempty short noPath parsed
    exact ⟨named, plain, nonempty, short, noPath, parsed, isHost⟩
  · rintro ⟨named, plain, nonempty, short, noPath, parsed, isHost⟩
    refine ⟨?_, ?_, ?_, ?_, ?_, ?_, isHost⟩
    all_goals rw [trim_trim]
    · exact named
    · exact plain
    · exact nonempty
    · exact short
    · exact noPath
    · exact parsed

theorem IsHost.trimmed {host : JsString} (isHost : IsHost host) : Trimmed host :=
  ⟨isHost.visible, isHost.ne_nil⟩

/-! ### Issued assertions -/

private theorem readRequiredString_eq_ok {value : Option Json} {fieldName : String}
    {text : JsString} : readRequiredString value fieldName = .ok text ↔
      ∃ raw, value = some (.str raw) ∧ trim raw = text ∧ text ≠ [] := by
  unfold readRequiredString
  split
  next raw =>
    split
    next blank =>
      simp only [reduceCtorEq, Option.some.injEq, Json.str.injEq, false_iff]
      rintro ⟨other, rfl, rfl, named⟩
      exact named blank
    next named =>
      constructor
      · intro same
        obtain rfl := Except.ok.inj same
        exact ⟨raw, rfl, rfl, named⟩
      · rintro ⟨other, ⟨⟩, rfl, -⟩
        rfl
  next notText =>
    simp only [reduceCtorEq, false_iff]
    rintro ⟨raw, rfl, -⟩
    exact notText raw rfl

private theorem trimmed_of_read {value : Option Json} {fieldName : String} {text : JsString}
    (read : readRequiredString value fieldName = .ok text) : Trimmed text := by
  obtain ⟨raw, -, rfl, named⟩ := readRequiredString_eq_ok.mp read
  exact ⟨trim_trim raw, named⟩

private theorem whole_of_challenge {value : Option Json} {number : Number}
    (parsed : parseChallengeExp value = .ok number) : Whole number := by
  simp only [parseChallengeExp, bind_eq_ok, guard_eq_ok, pure_eq_ok] at parsed
  obtain ⟨numeric, -, positive, rfl⟩ := parsed
  refine ⟨?_, Number.trunc_trunc numeric⟩
  cases numeric with
  | finite decimal => exact Number.isFinite_trunc decimal
  | _ => simp [Number.isFinite] at positive

/-- What the checked fields of a request are. -/
structure Checked (platform : Platform) (body : Fields) (input : AssertInput) :
    Prop where
  domain : ∃ raw, body.get (js "domain") = some (.str raw) ∧ Normalizes platform raw input.domain
  hbHost : ∃ raw, body.get (js "hbHost") = some (.str raw) ∧ Normalizes platform raw input.hbHost
  cfgTx : Trimmed input.cfgTx
  challengeNonce : Trimmed input.challengeNonce
  challengeExp : Whole input.challengeExp

private theorem host_of_read {platform : Platform} {value : Option Json} {fieldName : String}
    {text host : JsString} (read : readRequiredString value fieldName = .ok text)
    (normal : RouteAssertion.normalizeDomainLike platform text fieldName = .ok host) :
    ∃ raw, value = some (.str raw) ∧ Normalizes platform raw host := by
  obtain ⟨raw, found, rfl, -⟩ := readRequiredString_eq_ok.mp read
  exact ⟨raw, found, normalizes_trim.mp (issue_normalizes_iff.mp normal)⟩

theorem parseAssertInput_checked {platform : Platform} {env : IssueEnv} {body : Fields}
    {input : AssertInput} (parsed : parseAssertInput platform env body = .ok input) :
    Checked platform body input := by
  simp only [parseAssertInput, bind_eq_ok, guard_eq_ok, pure_eq_ok] at parsed
  obtain ⟨domainText, domainRead, domain, domainNormal, cfgTx, cfgTxRead, -, hbHostText,
    hbHostRead, hbHost, hbHostNormal, -, nonce, nonceRead, -, challengeExp, challenge, rfl⟩ := parsed
  exact
    { domain := host_of_read domainRead domainNormal
      hbHost := host_of_read hbHostRead hbHostNormal
      cfgTx := trimmed_of_read cfgTxRead
      challengeNonce := trimmed_of_read nonceRead
      challengeExp := whole_of_challenge challenge }

/-- What an accepted request leads to. -/
structure Accepted (platform : IssuePlatform) (env : IssueEnv) (call : AssertCall) (body : Fields)
    (input : AssertInput) (issued : Issued) : Prop where
  checked : Checked platform.toPlatform body input
  pending : (Double.finite call.now.seconds).lt input.challengeExp.toDouble = true
  lasting : (Double.finite call.now.seconds).lt
    (earlier input.challengeExp (call.now.seconds + routeAssertTtl env)).toDouble = true
  assertion : issued.assertion = makeAssertion env input call.now.seconds
    (earlier input.challengeExp (call.now.seconds + routeAssertTtl env))
  key : (signingKeyHex env).length = 64 ∧
    (signingKeyHex env).all (fun unit => (digitIn 16 unit).isSome) = true
  signature : issued.signature =
    bytesHex (platform.ed25519Sign (hexBuffer (signingKeyHex env)) issued.assertion.text)
  signatureRef : issued.signatureRef = signatureRef env

/-- The domain of an issued assertion is that of the body, in its normal form. -/
theorem Accepted.domain {platform : IssuePlatform} {env : IssueEnv} {call : AssertCall}
    {body : Fields} {input : AssertInput} {issued : Issued}
    (accepted : Accepted platform env call body input issued) :
    ∃ raw, body.get (js "domain") = some (.str raw) ∧
      Normalizes platform.toPlatform raw issued.assertion.domain := by
  rw [accepted.assertion]
  exact accepted.checked.domain

theorem Accepted.hbHost {platform : IssuePlatform} {env : IssueEnv} {call : AssertCall}
    {body : Fields} {input : AssertInput} {issued : Issued}
    (accepted : Accepted platform env call body input issued) :
    ∃ raw, body.get (js "hbHost") = some (.str raw) ∧
      Normalizes platform.toPlatform raw issued.assertion.hbHost := by
  rw [accepted.assertion]
  exact accepted.checked.hbHost

theorem accepted_of_issued {platform : IssuePlatform} {env : IssueEnv} {call : AssertCall}
    {issued : Issued} {body : Fields} (received : call.body = some (.obj body))
    (answered : handleRouteAssert platform env call = .ok issued) :
    ∃ input, Accepted platform env call body input issued := by
  simp only [handleRouteAssert, received, Option.elim_some, pure_bind, bodyFields, bind_eq_ok,
    guard_eq_ok, pure_eq_ok] at answered
  obtain ⟨_, -, fields, fieldsEq, input, parsed, pending, lasting, -, key, keyRead, rfl⟩ := answered
  obtain rfl := Except.ok.inj fieldsEq
  unfold parsePrivateKeyHex at keyRead
  split at keyRead
  next wellFormed =>
    obtain rfl := Except.ok.inj keyRead
    exact ⟨input,
      { checked := parseAssertInput_checked parsed
        pending := by simpa using pending
        lasting := by simpa using lasting
        assertion := rfl
        key := wellFormed
        signature := rfl
        signatureRef := rfl }⟩
  next => cases keyRead

private theorem optionalValue_ne_empty (value : Option JsString) :
    optionalValue value ≠ some [] := by
  unfold optionalValue
  split
  next => simp
  next named => simpa using named

theorem whole_ofInt (value : Int) : Whole (.ofInt value) :=
  ⟨Number.isFinite_ofInt value, Number.trunc_ofInt value⟩

/-- The earlier of a whole expiry and an integer is whole. -/
theorem whole_earlier {challengeExp : Number} (whole : Whole challengeExp) (limit : Int) :
    Whole (earlier challengeExp limit) := by
  unfold earlier
  split
  next => exact whole
  next => exact whole_ofInt limit

theorem version_trimmed : Trimmed routeAssertVersion := ⟨by decide, by decide⟩

/-- Issued assertions have the shape the verifier's parser keeps. -/
theorem shaped_of_accepted {platform : IssuePlatform} {env : IssueEnv} {call : AssertCall}
    {body : Fields} {input : AssertInput} {issued : Issued}
    (accepted : Accepted platform env call body input issued) : issued.assertion.Shaped := by
  have checked := accepted.checked
  obtain ⟨_, -, domainNormal⟩ := checked.domain
  obtain ⟨_, -, hbHostNormal⟩ := checked.hbHost
  rw [accepted.assertion]
  refine
    { iat := whole_ofInt _
      exp := whole_earlier checked.challengeExp _
      challengeExp := checked.challengeExp
      v := version_trimmed
      challengeNonce := checked.challengeNonce
      cfgTx := checked.cfgTx
      domain := domainNormal.host.trimmed
      hbHost := hbHostNormal.host.trimmed
      optional := ?_ }
  intro text member
  simp only [makeAssertion, List.mem_cons, List.not_mem_nil, or_false] at member
  rcases member with rfl | rfl | rfl
  · exact optionalValue_ne_empty _
  · exact optionalValue_ne_empty _
  · cases entry : optionalValue env.routeAssertEntryPath with
    | none => simp [js]
    | some text =>
        have named := optionalValue_ne_empty env.routeAssertEntryPath
        rw [entry] at named
        simpa using named

/-! ### The window -/

private theorem lt_self (value : Double) : value.lt value = false := by
  cases value with
  | nan => rfl
  | infinity negative => cases negative <;> rfl
  | finite value => simp [Double.lt]

/-- A time an assertion can name is a double. -/
theorem toDouble_seconds {seconds : Int} (bounded : |seconds| ≤ 8640000000300) :
    (Number.ofInt seconds).toDouble = .finite seconds := by
  apply Number.toDouble_ofInt
  have small : |(seconds : ℚ)| ≤ 8640000000300 := by exact_mod_cast bounded
  exact lt_of_le_of_lt small (by norm_num)

theorem routeAssertTtl_range (env : IssueEnv) :
    10 ≤ routeAssertTtl env ∧ routeAssertTtl env ≤ 300 := by
  unfold routeAssertTtl
  extract_lets configured
  split
  next => omega
  next seconds _ =>
    split
    next => omega
    next => omega

/-- The earlier of two expiries is not behind the first. -/
theorem earlier_not_after {challengeExp : Number} {limit : Int}
    (bounded : |limit| ≤ 8640000000300) :
    challengeExp.toDouble.lt (earlier challengeExp limit).toDouble = false := by
  unfold earlier
  split
  next => exact lt_self _
  next notBefore =>
    rw [toDouble_seconds bounded]
    simpa using notBefore

/-- Before its expiry an issued assertion is inside its window, unless the clock
is further behind its issue than the skew allows. -/
theorem window_iff {platform : IssuePlatform} {env : IssueEnv} {call : AssertCall}
    {body : Fields} {input : AssertInput} {issued : Issued} {now : Int}
    (accepted : Accepted platform env call body input issued)
    (unexpired : (Double.finite now).lt issued.assertion.exp.toDouble = true) :
    verifyWindow issued.assertion env.verifyEnv now = none ↔
      ((Double.finite now).add (.finite (allowedSkew env.verifyEnv))).lt
        (.finite call.now.seconds) = false := by
  have clock := call.now.bounded
  have ttl := routeAssertTtl_range env
  have lasting := accepted.lasting
  rw [accepted.assertion] at unexpired ⊢
  simp only [makeAssertion] at unexpired ⊢
  have issuedAt : (Number.ofInt call.now.seconds).toDouble = .finite call.now.seconds :=
    toDouble_seconds (clock.trans (by norm_num))
  have bounded : |call.now.seconds + routeAssertTtl env| ≤ 8640000000300 := by
    rw [abs_le] at clock ⊢
    omega
  have order : input.challengeExp.toDouble.lt
      (earlier input.challengeExp (call.now.seconds + routeAssertTtl env)).toDouble = false :=
    earlier_not_after bounded
  unfold verifyWindow
  simp only [issuedAt, order, lasting, unexpired]
  simp

/-! ### The signature -/

/-- Ed25519 signatures are 64 bytes and verify under the public key. -/
structure Ed25519 (platform : IssuePlatform) : Prop where
  length : ∀ key text, (platform.ed25519Sign key text).length = 64
  bytes : ∀ key text, ∀ byte ∈ platform.ed25519Sign key text, byte < 256
  verifies : ∀ key text, platform.ed25519Verify (platform.ed25519Sign key text) text
    (platform.ed25519PublicKey key) = true

/-- Without a verification key of its own, or with one under which Ed25519
verifies what the signing key signs. -/
def KeyAccepts (platform : IssuePlatform) (env : IssueEnv) (text : JsString) : Prop :=
  cleanEnv env.routeAssertVerifyPubHex = [] ∨
    ∃ verifyKey, readHex (cleanEnv env.routeAssertVerifyPubHex) 32 "invalid_verify_pubkey" =
        .ok verifyKey ∧
      platform.ed25519Verify (platform.ed25519Sign (hexBuffer (signingKeyHex env)) text) text
        verifyKey = true

private theorem digit_visible {unit : CodeUnit} (digit : (digitIn 16 unit).isSome = true) :
    isWhitespace unit = false := by
  simp only [digitIn] at digit
  simp only [isWhitespace]
  split_ifs at digit with decimal upper lower
  · simp
    omega
  · simp
    omega
  · simp
    omega
  · simp at digit

/-- The hexadecimal signature is trimmed and has the length the verifier reads. -/
theorem signature_read {platform : IssuePlatform} (signing : Ed25519 platform) (key : List Nat)
    (text : JsString) :
    Trimmed (bytesHex (platform.ed25519Sign key text)) ∧
      readHex (bytesHex (platform.ed25519Sign key text)) 64 "invalid_sig" =
        .ok (platform.ed25519Sign key text) := by
  have small := signing.bytes key text
  have length : (bytesHex (platform.ed25519Sign key text)).length = 64 * 2 := by
    rw [bytesHex_length, signing.length]
  have digits := bytesHex_digits small
  constructor
  · constructor
    · apply trim_of_visible
      rw [List.any_eq_false]
      intro unit member
      rw [digit_visible (digits unit member)]
      decide
    · intro blank
      rw [blank] at length
      cases length
  · have wellFormed : (bytesHex (platform.ed25519Sign key text)).length = 64 * 2 ∧
        (bytesHex (platform.ed25519Sign key text)).all
          (fun unit => (digitIn 16 unit).isSome) = true :=
      ⟨length, List.all_eq_true.mpr digits⟩
    rw [readHex, if_pos wellFormed, hexBuffer_bytesHex small]

theorem checkSignature_iff {platform : IssuePlatform} (signing : Ed25519 platform)
    {env : IssueEnv} {call : AssertCall} {body : Fields} {input : AssertInput} {issued : Issued}
    (accepted : Accepted platform env call body input issued) :
    RouteAssertionVerify.checkSignature platform.toPlatform env.verifyEnv issued.signature
        issued.assertion.text = .ok () ↔
      KeyAccepts platform env issued.assertion.text := by
  obtain ⟨-, read⟩ := signature_read signing (hexBuffer (signingKeyHex env)) issued.assertion.text
  have named : signingKeyHex env ≠ [] := by
    intro blank
    have length := accepted.key.1
    rw [blank] at length
    cases length
  have resolved : resolveVerifyPublicKey platform.toPlatform env.verifyEnv =
      if cleanEnv env.routeAssertVerifyPubHex ≠ [] then
        readHex (cleanEnv env.routeAssertVerifyPubHex) 32 "invalid_verify_pubkey"
      else .ok (platform.ed25519PublicKey (hexBuffer (signingKeyHex env))) := by
    have privateKey : readHex (signingKeyHex env) 32 "invalid_verify_privkey" =
        .ok (hexBuffer (signingKeyHex env)) := if_pos accepted.key
    unfold signingKeyHex at named privateKey ⊢
    simp only [resolveVerifyPublicKey, if_neg named, privateKey]
    rfl
  unfold KeyAccepts
  rw [checkSignature_eq_ok, accepted.signature, read, resolved]
  simp only [Except.ok.injEq, exists_eq_left']
  by_cases configured : cleanEnv env.routeAssertVerifyPubHex = []
  · simp [configured, signing.verifies]
  · simp [configured]

/-! ### The round trip -/

/-- The request that posts an issued assertion with the expected hosts. -/
def request (issued : Issued) (domain hbHost : JsString) : Fields :=
  [(js "assertion", .obj issued.assertion.fields), (js "signature", .str issued.signature),
    (js "sigAlg", .str (js "ed25519")), (js "signatureRef", .str issued.signatureRef),
    (js "expectedDomain", .str domain), (js "expectedHbHost", .str hbHost)]

/-- The normalised hosts are short enough to be normalised again, the
verification key accepts the signature, and the clock is not further behind the
issue than the skew. -/
structure Verifiable (platform : IssuePlatform) (env : IssueEnv) (domain hbHost text : JsString)
    (issuedAt now : Int) : Prop where
  domain : ∀ host, RouteAssertion.normalizeDomainLike platform.toPlatform domain "domain" =
    .ok host → host.length ≤ 253
  hbHost : ∀ host, RouteAssertion.normalizeDomainLike platform.toPlatform hbHost "hbHost" =
    .ok host → host.length ≤ 253
  key : KeyAccepts platform env text
  clock : ((Double.finite now).add (.finite (allowedSkew env.verifyEnv))).lt
    (.finite issuedAt) = false

/-- The expectation of the text a host was made of is met. -/
theorem checkExpected_ok {platform : Platform} {fields : Fields} {key mismatch : String}
    {raw host : JsString} (held : fields.get (js key) = some (.str raw))
    (normal : Normalizes platform raw host) :
    RouteAssertionVerify.checkExpected platform fields key host mismatch = .ok () := by
  have read : stringField fields key = trim raw := by simp [stringField, held]
  have expected : RouteAssertionVerify.normalizeDomainLike platform (trim raw) key = .ok host :=
    verify_normalizes_iff.mpr (normalizes_trim.mpr normal)
  unfold RouteAssertionVerify.checkExpected
  split
  next => rfl
  next => simp [read, expected]

theorem signatureRef_trimmed (env : IssueEnv) : Trimmed (signatureRef env) := by
  unfold signatureRef
  extract_lets configured
  split
  next => exact ⟨by decide, by decide⟩
  next named => exact ⟨trim_trim _, named⟩

/-- Parsing an issued assertion keeps it, unless a host is too long. -/
theorem parse_iff {platform : IssuePlatform} (parser : HostParser platform.toPlatform)
    {env : IssueEnv} {call : AssertCall} {body : Fields} {input : AssertInput} {issued : Issued}
    (accepted : Accepted platform env call body input issued) {fields : Fields}
    (held : fields.get (js "assertion") = some (.obj issued.assertion.fields))
    (assertion : AssertionRecord) :
    parseVerifyInput platform.toPlatform fields = .ok assertion ↔
      assertion = issued.assertion ∧ issued.assertion.domain.length ≤ 253 ∧
        issued.assertion.hbHost.length ≤ 253 := by
  obtain ⟨_, -, domainNormal⟩ := accepted.domain
  obtain ⟨_, -, hbHostNormal⟩ := accepted.hbHost
  rw [RouteAssertionVerify.parseVerifyInput_fields _ (shaped_of_accepted accepted) held]
  simp only [bind_eq_ok, pure_eq_ok, verify_normalizes_iff, renormalizes_iff parser domainNormal,
    renormalizes_iff parser hbHostNormal]
  constructor
  · rintro ⟨_, ⟨rfl, domainShort⟩, _, ⟨rfl, hbHostShort⟩, rfl⟩
    exact ⟨rfl, domainShort, hbHostShort⟩
  · rintro ⟨rfl, domainShort, hbHostShort⟩
    exact ⟨_, ⟨rfl, domainShort⟩, _, ⟨rfl, hbHostShort⟩, rfl⟩

/-- The verifier answers an issued assertion with success exactly when its steps
on the posted fields do. -/
theorem verify_steps {platform : IssuePlatform} (signing : Ed25519 platform) {env : IssueEnv}
    {call : AssertCall} {body : Fields} {input : AssertInput} {issued : Issued}
    (accepted : Accepted platform env call body input issued) {domain hbHost : JsString}
    {now : Int} {hash : JsString} :
    handleRouteAssertVerify platform.toPlatform env.verifyEnv
        (some (.obj (request issued domain hbHost))) (fun _ => .ok false) now = .ok hash ↔
      ∃ assertion, parseVerifyInput platform.toPlatform (request issued domain hbHost) =
          .ok assertion ∧
        RouteAssertionVerify.checkWindow assertion env.verifyEnv now = .ok () ∧
        RouteAssertionVerify.checkExpected platform.toPlatform (request issued domain hbHost)
          "expectedDomain" assertion.domain "domain_mismatch" = .ok () ∧
        RouteAssertionVerify.checkExpected platform.toPlatform (request issued domain hbHost)
          "expectedHbHost" assertion.hbHost "hbhost_mismatch" = .ok () ∧
        RouteAssertionVerify.checkSignature platform.toPlatform env.verifyEnv issued.signature
          assertion.text = .ok () ∧
        platform.sha256 assertion.text = hash := by
  obtain ⟨signatureTrimmed, -⟩ :=
    signature_read signing (hexBuffer (signingKeyHex env)) issued.assertion.text
  rw [← accepted.signature] at signatureTrimmed
  have refTrimmed := signatureRef_trimmed env
  rw [← accepted.signatureRef] at refTrimmed
  have signatureField : stringField (request issued domain hbHost) "signature" =
      issued.signature := signatureTrimmed.1
  have refField : stringField (request issued domain hbHost) "signatureRef" =
      issued.signatureRef := refTrimmed.1
  have algField : toLowerCase (stringField (request issued domain hbHost) "sigAlg") =
      js "ed25519" := by
    show toLowerCase (trim (js "ed25519")) = js "ed25519"
    decide
  have expectedRef : ¬(cleanEnv (orVariable env.routeAssertSignatureRef env.workerSignatureRef) ≠
      [] ∧ issued.signatureRef ≠
        cleanEnv (orVariable env.routeAssertSignatureRef env.workerSignatureRef)) := by
    rw [accepted.signatureRef]
    rintro ⟨configured, different⟩
    exact different (if_neg configured)
  have present : ¬(issued.signature = [] ∨ js "ed25519" = [] ∨ issued.signatureRef = []) := by
    rintro (blank | blank | blank)
    · exact signatureTrimmed.2 blank
    · cases blank
    · exact refTrimmed.2 blank
  simp only [handleRouteAssertVerify, RouteAssertionVerify.verifyBody, RouteAssertionVerify.fail,
    bind_eq_ok, Except.ok.injEq, exists_eq_left', error_guard_eq_ok]
  rw [signatureField, algField, refField]
  simp only [present, expectedRef, ne_eq, not_true_eq_false, not_false_eq_true, true_and,
    mapError_eq_ok, mapError_ok, pure_eq_ok, Except.ok.injEq, exists_eq_left', Bool.false_eq_true,
    Unique.exists_iff]

/-- An assertion issued for a request and posted back with the request's hosts
before it expires is verified exactly when its hosts are short enough, its
signature is accepted under the configured key and the clock is not too early. -/
theorem verified_iff {platform : IssuePlatform} (parser : HostParser platform.toPlatform)
    (signing : Ed25519 platform) {env : IssueEnv} {call : AssertCall} {body : Fields}
    {domain hbHost : JsString} {issued : Issued} {now : Int}
    (received : call.body = some (.obj body))
    (domainGiven : body.get (js "domain") = some (.str domain))
    (hbHostGiven : body.get (js "hbHost") = some (.str hbHost))
    (answered : handleRouteAssert platform env call = .ok issued)
    (unexpired : (Double.finite now).lt issued.assertion.exp.toDouble = true) :
    (∃ hash, handleRouteAssertVerify platform.toPlatform env.verifyEnv
        (some (.obj (request issued domain hbHost))) (fun _ => .ok false) now = .ok hash) ↔
      Verifiable platform env domain hbHost issued.assertion.text call.now.seconds now := by
  obtain ⟨input, accepted⟩ := accepted_of_issued received answered
  obtain ⟨_, domainRead, domainNormal⟩ := accepted.domain
  obtain rfl : domain = _ := Json.str.inj (Option.some.inj (domainGiven.symm.trans domainRead))
  obtain ⟨_, hbHostRead, hbHostNormal⟩ := accepted.hbHost
  obtain rfl : hbHost = _ := Json.str.inj (Option.some.inj (hbHostGiven.symm.trans hbHostRead))
  have short {value host : JsString} {fieldName : String}
      (normal : Normalizes platform.toPlatform value host) :
      (∀ other, RouteAssertion.normalizeDomainLike platform.toPlatform value fieldName =
        .ok other → other.length ≤ 253) ↔ host.length ≤ 253 := by
    constructor
    · intro all
      exact all host (issue_normalizes_iff.mpr normal)
    · intro bound other found
      rw [normal.unique (issue_normalizes_iff.mp found)] at bound
      exact bound
  have held : (request issued domain hbHost).get (js "assertion") =
      some (.obj issued.assertion.fields) := rfl
  simp only [verify_steps signing accepted, parse_iff parser accepted held]
  constructor
  · rintro ⟨hash, _, ⟨rfl, domainShort, hbHostShort⟩, window, -, -, signature, -⟩
    exact
      { domain := (short domainNormal).mpr domainShort
        hbHost := (short hbHostNormal).mpr hbHostShort
        key := (checkSignature_iff signing accepted).mp signature
        clock := (window_iff accepted unexpired).mp (checkWindow_eq_ok.mp window) }
  · intro verifiable
    have domainShort := (short domainNormal).mp verifiable.domain
    have hbHostShort := (short hbHostNormal).mp verifiable.hbHost
    refine ⟨_, issued.assertion, ⟨rfl, domainShort, hbHostShort⟩, ?_, ?_, ?_, ?_, rfl⟩
    · exact checkWindow_eq_ok.mpr ((window_iff accepted unexpired).mpr verifiable.clock)
    · exact checkExpected_ok rfl domainNormal
    · exact checkExpected_ok rfl hbHostNormal
    · exact (checkSignature_iff signing accepted).mpr verifiable.key

/-! ### A short host and a host that grows -/

/-- 33 labels of one letter in 65 units. -/
def umlauts : JsString := List.intercalate [46] (List.replicate 33 [252])

/-- The same labels in ASCII, 263 units. -/
def punycode : JsString := List.intercalate [46] (List.replicate 33 (js "xn--tda"))

/-- A platform that knows one international host. -/
def smallPlatform : IssuePlatform where
  urlHostname url :=
    some (if toLowerCase (url.drop 7) = umlauts then punycode else toLowerCase (url.drop 7))
  ed25519PublicKey key := key
  ed25519Verify signature text _ := signature = List.replicate 64 (text.length % 256)
  sha256 text := text
  ed25519Sign _ text := List.replicate 64 (text.length % 256)

theorem smallPlatform_hostParser : HostParser smallPlatform.toPlatform where
  lowerCased := by
    rintro url host ⟨⟩
    split
    next => decide +kernel
    next => exact toLowerCase_toLowerCase _
  idempotent := by
    rintro text host ⟨⟩
    show some _ = some _
    rw [show (js "http://" ++ text).drop 7 = text from rfl]
    split
    next =>
      show some _ = some _
      decide +kernel
    next plain =>
      have dropped : (js "http://" ++ toLowerCase text).drop 7 = toLowerCase text := rfl
      rw [dropped, toLowerCase_toLowerCase, if_neg plain]

theorem smallPlatform_signing : Ed25519 smallPlatform where
  length _ _ := List.length_replicate
  bytes _ text byte member := by
    rw [List.eq_of_mem_replicate member]
    exact Nat.mod_lt _ (by decide)
  verifies _ _ := by simp [smallPlatform]

def issuing : IssueEnv where
  routeAssertToken := some (js "token")
  routeAssertSigningKeyHex := some (List.replicate 64 49)
  hbAllowedHosts := some (js "hb.example")

def fieldsFor (domain : JsString) : Fields :=
  [(js "domain", .str domain), (js "cfgTx", .str (List.replicate 32 97)),
    (js "hbHost", .str (js "hb.example")), (js "challengeNonce", .str (js "12345678")),
    (js "challengeExp", .num (.ofInt 2000))]

def callFor (domain : JsString) : AssertCall where
  authorization := js "Bearer token"
  body := some (.obj (fieldsFor domain))
  now := ⟨1000, by decide⟩

private theorem short_of_run {platform : Platform} {value : JsString} {fieldName : String}
    (run : (RouteAssertion.normalizeDomainLike platform value fieldName).toOption.all
      (fun host => host.length ≤ 253) = true) :
    ∀ host, RouteAssertion.normalizeDomainLike platform value fieldName = .ok host →
      host.length ≤ 253 := by
  intro host found
  rw [found] at run
  simpa [Except.toOption] using run

/-- An assertion about an ordinary host is verified a second later. -/
theorem short_host_verified :
    ∃ issued, handleRouteAssert smallPlatform issuing (callFor (js "Site.example.")) = .ok issued ∧
      ∃ hash, handleRouteAssertVerify smallPlatform.toPlatform issuing.verifyEnv
        (some (.obj (request issued (js "Site.example.") (js "hb.example"))))
          (fun _ => .ok false) 1001 = .ok hash := by
  have run : ((handleRouteAssert smallPlatform issuing
      (callFor (js "Site.example."))).toOption.any fun issued =>
        (Double.finite 1001).lt issued.assertion.exp.toDouble) = true := by decide +kernel
  obtain ⟨issued, found, unexpired⟩ := Option.any_eq_true _ _ |>.mp run
  have answered := toOption_eq_some.mp found
  refine ⟨issued, answered, ?_⟩
  apply (verified_iff smallPlatform_hostParser smallPlatform_signing rfl rfl rfl answered unexpired).mpr
  exact
    { domain := short_of_run (by decide +kernel)
      hbHost := short_of_run (by decide +kernel)
      key := Or.inl rfl
      clock := by decide +kernel }

/-- An assertion about the host is issued, and refused a second later. -/
theorem long_host_refused :
    ∃ issued, handleRouteAssert smallPlatform issuing (callFor umlauts) = .ok issued ∧
      (Double.finite 1001).lt issued.assertion.exp.toDouble = true ∧
      handleRouteAssertVerify smallPlatform.toPlatform issuing.verifyEnv
        (some (.obj (request issued umlauts (js "hb.example")))) (fun _ => .ok false) 1001 =
          .error (.failed 400 "invalid_domain") := by
  have run : ((handleRouteAssert smallPlatform issuing (callFor umlauts)).toOption.any fun issued =>
      (Double.finite 1001).lt issued.assertion.exp.toDouble &&
        decide (handleRouteAssertVerify smallPlatform.toPlatform issuing.verifyEnv
          (some (.obj (request issued umlauts (js "hb.example")))) (fun _ => .ok false) 1001 =
            .error (.failed 400 "invalid_domain"))) = true := by decide +kernel
  obtain ⟨issued, found, checks⟩ := Option.any_eq_true _ _ |>.mp run
  rw [Bool.and_eq_true, decide_eq_true_eq] at checks
  exact ⟨issued, toOption_eq_some.mp found, checks⟩

end DarkmeshGateway.SecretsWorker.RouteAssertionRoundTrip
