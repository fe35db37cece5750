import DarkmeshGateway.Foundation.Js.FlatRecord
import DarkmeshGateway.SecretsWorker.RouteAssertionVerify
import DarkmeshGateway.SecretsWorker.SignRoute

/-!
Contract: the signatures of `POST /sign` at `POST /route/assert/verify`.

Owns the shared key, which commands of the one route spell an assertion of the
other, and that the verifier accepts the signatures of exactly these.

Does not own Ed25519: a signature verifies one text.
-/

namespace DarkmeshGateway.SecretsWorker.SignatureSeparation

open Foundation.Js
open Foundation.Delimited
open Foundation.Outcome
open SecretsWorker.DetachedMessage
open SecretsWorker.RouteAssertionVerify
open SecretsWorker.SignRoute

/-! ### The text of an assertion -/

/-- The properties of an assertion in the order of its text. -/
def sortedFields (assertion : AssertionRecord) : Fields :=
  sortByKey (canonicalFields assertion.fields)

private theorem text_eq (assertion : AssertionRecord) :
    assertion.text = 123 :: (stringifyFields (sortedFields assertion) ++ [125]) := by
  rw [AssertionRecord.text, stableStringify_eq, Json.canonical, Json.stringify]
  rfl

private theorem flat_canonical {value : Json} (flat : isFlat value = true) :
    isFlat value.canonical = true := by
  match value with
  | .str _ => rfl
  | .num (.finite _) => rfl

/-- The assertion has finite numbers. -/
structure FiniteTimes (assertion : AssertionRecord) : Prop where
  iat : assertion.iat.isFinite = true
  exp : assertion.exp.isFinite = true
  challengeExp : assertion.challengeExp.isFinite = true

/-- An assertion is a flat record. -/
private theorem sortedFields_flat {assertion : AssertionRecord} (finite : FiniteTimes assertion) :
    ∀ field ∈ sortedFields assertion, FlatField field := by
  have original : ∀ field ∈ assertion.fields, FlatField field := by
    have plain {name : JsString} {value : Json} (named : name ≠ [])
        (letters : name.all isLetter = true) (flat : isFlat value = true) :
        FlatField (name, value) :=
      ⟨named, fun unit member => List.all_eq_true.mp letters unit member, flat⟩
    intro field member
    simp only [AssertionRecord.fields, List.mem_append, List.mem_cons, List.not_mem_nil, or_false,
      Option.mem_toList, Option.map_eq_some_iff] at member
    rcases member with
      (((rfl | rfl | rfl | rfl | rfl | rfl | rfl | rfl) | ⟨text, -, rfl⟩) | ⟨text, -, rfl⟩) |
        ⟨text, -, rfl⟩
    case _ => exact plain (by decide) (by decide) rfl
    case _ => exact plain (by decide) (by decide) finite.iat
    case _ => exact plain (by decide) (by decide) finite.exp
    case _ => exact plain (by decide) (by decide) rfl
    case _ => exact plain (by decide) (by decide) finite.challengeExp
    all_goals exact plain (by decide) (by decide) rfl
  intro field member
  obtain ⟨source, inFields, rfl⟩ :=
    mem_canonicalFields ((List.perm_insertionSort _ _).mem_iff.mp member)
  have flat := original source inFields
  exact ⟨flat.named, flat.letters, flat_canonical flat.flat⟩

/-- The names of an assertion with the optional ones that are set. -/
private def fieldNames (siteProcess writeProcess entryPath : Bool) : List (JsString × Unit) :=
  (["v", "iat", "exp", "challengeNonce", "challengeExp", "domain", "cfgTx", "hbHost"] ++
    (if siteProcess then ["siteProcess"] else []) ++
    (if writeProcess then ["writeProcess"] else []) ++
    (if entryPath then ["entryPath"] else [])).map fun name => (js name, ())

private theorem fieldNames_head : ∀ siteProcess writeProcess entryPath,
    ((sortByKey (fieldNames siteProcess writeProcess entryPath)).head?).map Prod.fst =
      some (js "cfgTx") := by
  decide +kernel

/-- The configuration is the first property of the text. -/
private theorem sortedFields_head (assertion : AssertionRecord) :
    ∃ rest, sortedFields assertion = (js "cfgTx", .str assertion.cfgTx) :: rest := by
  have names : (canonicalFields assertion.fields).map (fun field => (field.1, ())) =
      fieldNames assertion.siteProcess.isSome assertion.writeProcess.isSome
        assertion.entryPath.isSome := by
    obtain ⟨v, iat, exp, challengeNonce, challengeExp, domain, cfgTx, hbHost, siteProcess,
      writeProcess, entryPath⟩ := assertion
    cases siteProcess <;> cases writeProcess <;> cases entryPath <;> rfl
  have first := fieldNames_head assertion.siteProcess.isSome assertion.writeProcess.isSome
    assertion.entryPath.isSome
  rw [← names, sortByKey_map fun _ : Json => ()] at first
  have found : (sortedFields assertion).lookup (js "cfgTx") = some (.str assertion.cfgTx) := by
    rw [sortedFields, lookup_sortByKey]
    rfl
  unfold sortedFields at found ⊢
  cases sorted : sortByKey (canonicalFields assertion.fields) with
  | nil => simp [sorted] at first
  | cons field rest =>
      obtain ⟨name, value⟩ := field
      obtain rfl : name = js "cfgTx" := by simpa [sorted] using first
      obtain rfl : value = .str assertion.cfgTx := by
        simpa [sorted, List.lookup_cons] using found
      exact ⟨rest, rfl⟩

/-- How the text of every assertion starts. -/
def assertionStart : JsString := js "\x7b\"cfgTx\":\""

private theorem text_start (assertion : AssertionRecord) :
    ∃ rest, assertion.text = assertionStart ++ rest := by
  obtain ⟨rest, head⟩ := sortedFields_head assertion
  have start : assertionStart = 123 :: (quote (js "cfgTx") ++ [58, 34]) := by decide
  rw [text_eq, head, stringifyFields_append, start]
  exact ⟨quoteUnits assertion.cfgTx ++ 34 :: afterField rest [125], by
    simp [Json.stringify, quote]⟩

private theorem text_wellFormed (assertion : AssertionRecord) :
    toWellFormed assertion.text = assertion.text := by
  have brace : isSurrogate 123 = false := by decide
  rw [text_eq, toWellFormed_cons brace,
    toWellFormed_stringifyFields _ [125]]
  rfl

/-! ### Commands that spell an assertion -/

/-- The text of an object with a property starts with the quoted name. -/
private theorem stableStringify_nonempty {payload : Fields} (nonempty : payload ≠ []) :
    ∃ name tail, stableStringify (.obj payload) = 123 :: (quote name ++ 58 :: tail) := by
  rw [stableStringify_eq, Json.canonical, Json.stringify]
  cases sorted : sortByKey (canonicalFields payload) with
  | nil =>
      have empty : canonicalFields payload = [] :=
        ((List.perm_insertionSort _ _).symm.trans (List.Perm.of_eq sorted)).eq_nil
      cases payload with
      | nil => exact absurd rfl nonempty
      | cons field rest => simp [canonicalFields] at empty
  | cons field rest =>
      obtain ⟨name, value⟩ := field
      rw [stringifyFields_append]
      exact ⟨name, _, rfl⟩

/-- Between two bars an assertion has no object with a property: behind the
string value that its first quotation mark ends, no such text goes on. -/
private theorem payload_empty {assertion : AssertionRecord} (finite : FiniteTimes assertion)
    (before requestId : JsString) {payload : Fields}
    (spelled : toWellFormed (before ++ 124 :: (stableStringify (.obj payload) ++ 124 :: requestId)) =
      assertion.text) : payload = [] := by
  by_contra nonempty
  obtain ⟨name, tail, printed⟩ := stableStringify_nonempty nonempty
  have bar : isSurrogate 124 = false := by decide
  have brace : isSurrogate 123 = false := by decide
  have mark : isSurrogate 34 = false := by decide
  have colon : isSurrogate 58 = false := by decide
  let encoded := toWellFormed (tail ++ 124 :: requestId)
  have shape : [123] ++ (stringifyFields (sortedFields assertion) ++ [125]) =
      toWellFormed before ++ 124 :: (123 :: (quote name ++ 58 :: encoded)) := by
    rw [List.singleton_append, ← text_eq, ← spelled, printed, toWellFormed_append_cons bar]
    simp only [quote, List.cons_append, List.append_assoc, List.nil_append]
    rw [toWellFormed_cons brace, toWellFormed_cons mark, toWellFormed_quoteUnits,
      toWellFormed_cons mark, toWellFormed_cons colon]
  rcases append_eq_append_cons shape with ⟨_, start, -⟩ | ⟨middle, -, inFields⟩
  · have member : (124 : CodeUnit) ∈ ([123] : JsString) := by simp [start]
    exact absurd member (by decide)
  obtain ⟨others, rest, inside, ends⟩ :=
    stringifyFields_bar _ (sortedFields_flat finite) inFields
  -- The value ends at the first quotation mark of the payload.
  have value : quote [123] ++ (quoteUnits name ++ 34 :: 58 :: encoded) = quote others ++ rest := by
    have braced : quote [123] = [34, 123, 34] := by decide
    rw [braced]
    simpa [quote] using congrArg (34 :: ·) inside
  obtain ⟨-, rfl⟩ := quote_unique value
  rcases ends with closed | ⟨letter, more, next, isName⟩
  · have long := congrArg List.length closed
    simp only [List.length_append, List.length_cons, List.length_nil] at long
    omega
  · have names : quote name ++ 58 :: encoded = quote [44] ++ letter :: more := by
      have comma : quote [44] = [34, 44, 34] := by decide
      rw [comma]
      simpa [quote] using congrArg (34 :: ·) next
    have letters := (List.cons.inj (quote_unique names).2).1
    rw [← letters] at isName
    exact absurd isName (by decide)

/-- A text that starts with an assertion's start up to its first bar. -/
private theorem action_start {assertion : AssertionRecord} {action rest : JsString}
    (spelled : toWellFormed (action ++ 124 :: rest) = assertion.text) :
    ∃ others, action = assertionStart ++ others := by
  obtain ⟨tail, start⟩ := text_start assertion
  have bar : isSurrogate 124 = false := by decide
  rw [toWellFormed_append_cons bar, start] at spelled
  rcases append_eq_append_cons spelled.symm with ⟨_, inStart, -⟩ | ⟨middle, before, -⟩
  · have member : (124 : CodeUnit) ∈ assertionStart := by simp [inStart]
    exact absurd member (by decide)
  · have plain : assertionStart.all (fun unit => unit.toNat < 128) = true := by decide
    have ascii (unit : CodeUnit) (member : unit ∈ assertionStart) : unit.toNat < 128 :=
      of_decide_eq_true (List.all_eq_true.mp plain unit member)
    obtain ⟨others, same, -⟩ := toWellFormed_eq_append ascii before
    exact ⟨others, same⟩

/-- The eight joined fields of a command are, as UTF-8, the text of an assertion
that is live at `now`. -/
def SpellsAssertion (platform : Platform) (env : Env) (now : Int) (command : Fields) : Prop :=
  ∃ (message : JsString) (assertion : AssertionRecord),
    canonicalDetachedMessage command = some message ∧ assertion.Live platform env now ∧
      toWellFormed message = assertion.text

/-- A command that spells an assertion has an empty payload, and an action that
starts as assertions do. -/
theorem spellsAssertion_shape {platform : Platform} {env : Env} {now : Int} {command payload : Fields}
    (record : command.get (js "payload") = some (.obj payload))
    (spells : SpellsAssertion platform env now command) :
    payload = [] ∧ ∃ others,
      (detachedFields command).action.toText = some (assertionStart ++ others) := by
  obtain ⟨message, assertion, printed, live, spelled⟩ := spells
  obtain ⟨parts, partsOf, rfl⟩ := Option.map_eq_some_iff.mp printed
  obtain ⟨leading, payloadText, -⟩ := DetachedFields.parts_eq partsOf
  rw [detachedFields_payload record] at payloadText
  have finite : FiniteTimes assertion := ⟨live.iat.1, live.exp.1, live.challengeExp.1⟩
  constructor
  · apply payload_empty finite (List.intercalate [124] parts.leading) parts.requestId
    rw [← spelled, DetachedParts.join_eq, payloadText]
    simp [DetachedParts.leading]
  · have head : parts.join = parts.action ++ 124 :: prefixed 124
        [parts.tenant, parts.actor, parts.timestamp, parts.nonce, parts.role]
        (parts.payload ++ 124 :: parts.requestId) := by
      rw [DetachedParts.join_eq]
      rfl
    rw [head] at spelled
    obtain ⟨others, same⟩ := action_start spelled
    refine ⟨others, ?_⟩
    rw [← same]
    simpa [DetachedFields.leading, DetachedParts.leading] using (List.cons.inj leading).1

/-! ### The verifier -/

/-- Both routes use the worker's key: no assertion key of its own is set, and the
verifier arrives at the public half. -/
structure SharedKey (platform : Platform) (env : Env) (privateKey : List Nat) : Prop where
  worker : readHex (env.workerEd25519PrivHex.getD []) 32 "invalid_verify_privkey" = .ok privateKey
  unset : env.routeAssertSigningKeyHex = none
  verifier : resolveVerifyPublicKey platform env = .ok (platform.ed25519PublicKey privateKey)

/-- Under the key the signature verifies the bytes of one text. -/
def VerifiesOnly (platform : Platform) (privateKey : List Nat) (signature message : JsString) :
    Prop :=
  ∃ bytes, readHex signature 64 "invalid_sig" = .ok bytes ∧
    ∀ payload, platform.ed25519Verify bytes payload (platform.ed25519PublicKey privateKey) = true ↔
      toWellFormed payload = toWellFormed message

/-- The body of a verification presents the bytes of a signature. -/
def CarriesSignature (body : Option Json) (signature : JsString) : Prop :=
  ∃ fields, verifyBody body = .ok fields ∧
    readHex (stringField fields "signature") 64 "invalid_sig" = readHex signature 64 "invalid_sig"

/-- Some verification at `now` accepts the signature. -/
def Accepts (platform : Platform) (env : Env) (now : Int) (signature : JsString) : Prop :=
  ∃ body replay hash, CarriesSignature body signature ∧
    handleRouteAssertVerify platform env body replay now = .ok hash

/-- An accepted verification has parsed a live assertion and verified its text. -/
theorem handleRouteAssertVerify_accepted {platform : Platform} {env : Env} {body : Option Json}
    {replay : ReplayClaim} {now : Int} {hash : JsString}
    (accepted : handleRouteAssertVerify platform env body replay now = .ok hash) :
    ∃ (fields : Fields) (assertion : AssertionRecord), verifyBody body = .ok fields ∧
      assertion.Live platform env now ∧
      checkSignature platform env (stringField fields "signature") assertion.text = .ok () := by
  simp only [handleRouteAssertVerify, fail, bind_eq_ok, error_guard_eq_ok, mapError_eq_ok]
    at accepted
  obtain ⟨fields, read, -, -, -, assertion, parsed, _, window, _, -, _, -, _, checked, -⟩ := accepted
  exact ⟨fields, assertion, read, parseVerifyInput_live parsed (checkWindow_eq_ok.mp window), checked⟩

/-! ### A request for an assertion -/

/-- The reference a request must give, or any. -/
def signatureRefFor (env : Env) : JsString :=
  let expected := cleanEnv (orVariable env.routeAssertSignatureRef env.workerSignatureRef)
  if expected = [] then js "worker-ed25519" else expected

def verifyRequest (env : Env) (source : Fields) (signature : JsString) : Fields :=
  [(js "assertion", .obj source), (js "signature", .str signature),
    (js "sigAlg", .str (js "ed25519")), (js "signatureRef", .str (signatureRefFor env))]

private theorem trim_signatureRefFor (env : Env) :
    trim (signatureRefFor env) = signatureRefFor env ∧ signatureRefFor env ≠ [] := by
  unfold signatureRefFor
  dsimp only
  split
  next => exact ⟨by decide, by decide⟩
  next named => exact ⟨trim_trim _, named⟩

private theorem digitIn_visible {unit : CodeUnit} (digit : (digitIn 16 unit).isSome = true) :
    isWhitespace unit = false := by
  by_contra space
  have code : (9 ≤ unit.toNat ∧ unit.toNat ≤ 32) ∨ 160 ≤ unit.toNat := by
    simp only [isWhitespace, Bool.not_eq_false, Bool.or_eq_true, Bool.and_eq_true,
      decide_eq_true_eq, beq_iff_eq] at space
    omega
  have none_ : digitIn 16 unit = none := by
    unfold digitIn
    simp only
    rw [if_neg (by omega), if_neg (by omega), if_neg (by omega)]
    rfl
  simp [none_] at digit

/-- A readable signature is not blank at its ends, and not empty. -/
private theorem trim_of_readHex {signature : JsString} {bytes : List Nat}
    (read : readHex signature 64 "invalid_sig" = .ok bytes) :
    trim signature = signature ∧ signature ≠ [] := by
  unfold readHex at read
  split at read
  next valid =>
    obtain ⟨length, digits⟩ := valid
    have visible : ∀ unit ∈ signature, isWhitespace unit = false := fun unit member =>
      digitIn_visible (List.all_eq_true.mp digits unit member)
    constructor
    · rw [trim_eq_self_iff]
      exact ⟨fun head member => visible head (List.mem_of_mem_head? member),
        fun last member => visible last (List.mem_of_mem_getLast? member)⟩
    · rintro rfl
      exact absurd length (by decide)
  next => exact absurd read (by simp)

/-- A live assertion is accepted under a signature of its text. -/
theorem handleRouteAssertVerify_live {platform : Platform} {env : Env} {now : Int}
    {assertion : AssertionRecord} {signature : JsString} {bytes : List Nat}
    (live : assertion.Live platform env now)
    (read : readHex signature 64 "invalid_sig" = .ok bytes)
    (checked : checkSignature platform env signature assertion.text = .ok ()) :
    Accepts platform env now signature := by
  obtain ⟨source, parses⟩ := exists_parseVerifyInput live
  obtain ⟨trimmed, nonempty⟩ := trim_of_readHex read
  obtain ⟨refTrimmed, refNonempty⟩ := trim_signatureRefFor env
  let request := verifyRequest env source signature
  have signatureField : stringField request "signature" = signature := trimmed
  have sigAlgField : toLowerCase (stringField request "sigAlg") = js "ed25519" :=
    (by decide : toLowerCase (trim (js "ed25519")) = js "ed25519")
  have refField : stringField request "signatureRef" = signatureRefFor env := refTrimmed
  have parsed : parseVerifyInput platform request = .ok assertion := parses request rfl
  have expectations (key : String) (actual : JsString) (mismatch : String)
      (absent : stringField request key = []) :
      checkExpected platform request key actual mismatch = .ok () := if_pos absent
  refine ⟨some (.obj request), fun _ => .ok false, platform.sha256 assertion.text,
    ⟨request, rfl, by rw [signatureField]⟩, ?_⟩
  simp only [handleRouteAssertVerify, fail, bind_eq_ok, error_guard_eq_ok, mapError_eq_ok]
  refine ⟨request, rfl, ?_, ?_, ?_, assertion, parsed, (), checkWindow_eq_ok.mpr live.window, (),
    expectations _ _ _ rfl, (), expectations _ _ _ rfl, (), ?_, ?_⟩
  · rw [signatureField, sigAlgField, refField]
    rintro (missing | missing | missing)
    · exact nonempty missing
    · exact absurd missing (by decide)
    · exact refNonempty missing
  · exact not_not.mpr sigAlgField
  · rw [refField]
    rintro ⟨named, different⟩
    exact different (if_neg named)
  · rw [signatureField]
    exact checked
  · exact ⟨false, rfl, by simp, rfl⟩

/-- The verifier accepts the signature of an accepted command exactly when the
command spells a live assertion, which takes an empty payload and an action
that starts as assertions do. -/
theorem sign_assert_separated_iff {runtime : SecretsWorker.Fields.Runtime} {platform : Platform}
    {env : Env} {call : SignCall} {signing : Signing} {privateKey : List Nat} {now : Int}
    (accepted : sign runtime env.toEnv call = .ok signing)
    (shared : SharedKey platform env privateKey)
    (verifies : VerifiesOnly platform privateKey signing.signature signing.message) :
    (¬Accepts platform env now signing.signature ↔
        ¬SpellsAssertion platform env now signing.command) ∧
      (SpellsAssertion platform env now signing.command →
        signing.command.get (js "payload") = some (.obj []) ∧
          ∃ others,
            (detachedFields signing.command).action.toText = some (assertionStart ++ others)) := by
  obtain ⟨canonical, -, printed⟩ := sign_accepted accepted
  obtain ⟨bytes, read, verified⟩ := verifies
  refine ⟨not_congr ⟨?_, ?_⟩, fun spells => ?_⟩
  · rintro ⟨body, replay, hash, ⟨fields, bodyRead, sameBytes⟩, ok⟩
    obtain ⟨others, assertion, otherRead, live, checked⟩ := handleRouteAssertVerify_accepted ok
    obtain rfl : fields = others := by
      rw [bodyRead] at otherRead
      exact Except.ok.inj otherRead
    obtain ⟨key, resolved, presented, presentedRead, valid⟩ := checkSignature_eq_ok.mp checked
    obtain rfl : platform.ed25519PublicKey privateKey = key := by
      rw [shared.verifier] at resolved
      exact Except.ok.inj resolved
    obtain rfl : bytes = presented := by
      rw [sameBytes, read] at presentedRead
      exact Except.ok.inj presentedRead
    refine ⟨signing.message, assertion, printed, live, ?_⟩
    rw [← (verified assertion.text).mp valid, text_wellFormed]
  · rintro ⟨message, assertion, messageOf, live, spelled⟩
    obtain rfl : signing.message = message := Option.some.inj (printed.symm.trans messageOf)
    apply handleRouteAssertVerify_live live read
    refine checkSignature_eq_ok.mpr ⟨_, shared.verifier, bytes, read, ?_⟩
    rw [verified, text_wellFormed, spelled]
  · obtain ⟨payload, record⟩ := canonicalizeSignBody_record canonical
    obtain ⟨rfl, start⟩ := spellsAssertion_shape record spells
    exact ⟨record, start⟩

/-! ### An order and an assertion in disguise -/

/-- A local worker without a site policy and without an assertion key. -/
def keyedEnv : Env where
  testInMemoryKv := some (.str (js "1"))
  workerEd25519PrivHex :=
    some (js "1f1e1d1c1b1a191817161514131211100f0e0d0c0b0a09080706050403020100")

/-- A platform that has signed one text, with a signature of zeros. -/
def signedPlatform (message : JsString) : Platform where
  urlHostname := fun text => some (text.drop 7)
  ed25519PublicKey := fun privateKey => privateKey.reverse
  ed25519Verify := fun _ payload _ => toWellFormed payload == toWellFormed message
  sha256 := fun text => text

def zeroSignature : JsString := List.replicate 128 48

def zeroRuntime : SecretsWorker.Fields.Runtime where
  parseJson := fun _ => none
  parseDate := fun _ => none
  ed25519Sign := fun _ _ => some zeroSignature

def orderBody : Fields :=
  [textField "action" "CreateOrder", textField "ts" "1001", textField "nonce" "n",
    textField "siteId" "s-1"]

/-- A command whose joined fields are the text of `disguisedAssertion`. -/
def disguisedBody : Fields :=
  [textField "action" "\x7b\"cfgTx\":\"x", textField "tenant" "t", textField "actor" "a",
    textField "ts" "1001", textField "nonce" "n", textField "role" "r",
    textField "requestId" ("y\",\"challengeExp\":2000,\"challengeNonce\":\"n-1\"," ++
      "\"domain\":\"s.io\",\"exp\":1500,\"hbHost\":\"h.io\",\"iat\":1000," ++
      "\"v\":\"dm-route-assert/1\"\x7d")]

def disguisedAssertion : AssertionRecord where
  v := routeAssertVersion
  iat := .ofInt 1000
  exp := .ofInt 1500
  challengeNonce := js "n-1"
  challengeExp := .ofInt 2000
  domain := js "s.io"
  cfgTx := js "x|t|a|1001|n|r|\x7b\x7d|y"
  hbHost := js "h.io"
  siteProcess := none
  writeProcess := none
  entryPath := none

private theorem signed_verifies {message text : JsString} (same : text = message)
    (privateKey : List Nat) :
    VerifiesOnly (signedPlatform message) privateKey zeroSignature text := by
  subst same
  have read : readHex zeroSignature 64 "invalid_sig" = .ok (hexBuffer zeroSignature) :=
    if_pos (by decide +kernel)
  exact ⟨_, read, fun payload => by simp [signedPlatform]⟩

private theorem keyed_shared (message : JsString) :
    SharedKey (signedPlatform message) keyedEnv ((List.range 32).reverse) where
  worker := rfl
  unset := rfl
  verifier := rfl

/-- A call that signs, by its message and signature. -/
private theorem signing_of (env : SecretsWorker.Fields.Env) (call : SignCall)
    (message : JsString)
    (ran : ((sign zeroRuntime env call).toOption.map fun signing =>
      (signing.message, signing.signature)) = some (message, zeroSignature)) :
    ∃ signing, sign zeroRuntime env call = .ok signing ∧ signing.message = message ∧
      signing.signature = zeroSignature := by
  obtain ⟨signing, signed, same⟩ := Option.map_eq_some_iff.mp ran
  rw [toOption_eq_some] at signed
  exact ⟨signing, signed, Prod.mk.inj same⟩

theorem sign_assert_separated_order :
    ∃ signing, sign zeroRuntime keyedEnv.toEnv (admittedCall orderBody) = .ok signing ∧
      let platform := signedPlatform signing.message
      (¬Accepts platform keyedEnv 1000 signing.signature ↔
          ¬SpellsAssertion platform keyedEnv 1000 signing.command) ∧
        (SpellsAssertion platform keyedEnv 1000 signing.command →
          signing.command.get (js "payload") = some (.obj []) ∧
            ∃ others, (detachedFields signing.command).action.toText =
              some (assertionStart ++ others)) := by
  obtain ⟨signing, signed, -, signature⟩ := signing_of keyedEnv.toEnv (admittedCall orderBody)
    (js "CreateOrder|||1001|n||\x7b\"siteId\":\"s-1\"\x7d|") (by decide +kernel)
  refine ⟨signing, signed, sign_assert_separated_iff signed (keyed_shared signing.message) ?_⟩
  rw [signature]
  exact signed_verifies rfl _

private theorem disguised_live (message : JsString) :
    disguisedAssertion.Live (signedPlatform message) keyedEnv 1000 where
  iat := ⟨rfl, rfl⟩
  exp := ⟨rfl, rfl⟩
  challengeExp := ⟨rfl, rfl⟩
  v := ⟨by decide, by decide⟩
  challengeNonce := ⟨by decide, by decide⟩
  cfgTx := ⟨by decide, by decide⟩
  domain := ⟨js "s.io", "domain", rfl⟩
  hbHost := ⟨js "h.io", "hbHost", rfl⟩
  optional := by simp [disguisedAssertion]
  window := by
    have number (value : Int) (small : |(value : ℚ)| < 2 ^ (53 : Int)) {number : Number}
        (same : number = .ofInt value) : number.toDouble = .finite value := by
      rw [same, Number.toDouble_ofInt small]
    have iat := number 1000 (by norm_num) (rfl : disguisedAssertion.iat = _)
    have exp := number 1500 (by norm_num) (rfl : disguisedAssertion.exp = _)
    have challengeExp := number 2000 (by norm_num) (rfl : disguisedAssertion.challengeExp = _)
    have latest : (Double.finite ((1000 : Int) : ℚ)).add (.finite ((30 : Int) : ℚ)) =
        .finite ((1030 : Int) : ℚ) := Double.add_intCast (by norm_num)
    have skew : allowedSkew keyedEnv = 30 := rfl
    have version : disguisedAssertion.v = routeAssertVersion := rfl
    simp only [verifyWindow, iat, exp, challengeExp, skew, latest, version, Double.lt]
    norm_num

/-- The signature of a command is accepted as that of a route assertion. -/
theorem disguised_assertion_accepted :
    ¬∀ (runtime : SecretsWorker.Fields.Runtime) (platform : Platform) (env : Env)
        (call : SignCall) (signing : Signing) (privateKey : List Nat),
      env.signPolicyJson = none → env.signAllowlistJson = none →
      sign runtime env.toEnv call = .ok signing → SharedKey platform env privateKey →
      VerifiesOnly platform privateKey signing.signature signing.message →
      ∀ now, ¬Accepts platform env now signing.signature := by
  intro claim
  obtain ⟨signing, signed, message, signature⟩ := signing_of keyedEnv.toEnv
    (admittedCall disguisedBody) disguisedAssertion.text (by decide +kernel)
  have verifies : VerifiesOnly (signedPlatform disguisedAssertion.text)
      (List.range 32).reverse signing.signature signing.message := by
    rw [signature]
    exact signed_verifies message _
  apply claim zeroRuntime (signedPlatform disguisedAssertion.text) keyedEnv _ signing _ rfl rfl
    signed (keyed_shared _) verifies 1000
  have read : readHex zeroSignature 64 "invalid_sig" = .ok (hexBuffer zeroSignature) :=
    if_pos (by decide +kernel)
  rw [signature]
  apply handleRouteAssertVerify_live (disguised_live _) read
  exact checkSignature_eq_ok.mpr
    ⟨_, (keyed_shared _).verifier, _, read, by simp [signedPlatform]⟩

end DarkmeshGateway.SecretsWorker.SignatureSeparation
