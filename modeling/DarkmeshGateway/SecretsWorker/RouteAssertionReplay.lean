import DarkmeshGateway.Foundation.ExpiringStore
import DarkmeshGateway.Foundation.Machine
import DarkmeshGateway.SecretsWorker.RouteAssertionRoundTrip

/-!
Contract: verified route assertions are used once.

Owns the claim of a verified assertion in memory and in the key-value store, the
claims of an isolate that wait for the store at the same time, and the runs in
which no assertion is answered with success twice.

Does not own the verification in front of a claim, or other isolates.
-/

namespace DarkmeshGateway.SecretsWorker.RouteAssertionReplay

open Foundation
open Foundation.Js
open Foundation.Outcome
open SecretsWorker.RouteAssertionVerify (Platform AssertionRecord VerifyFailure ReplayClaim cleanEnv
  orVariable stringField verifyBody parseVerifyInput checkWindow checkExpected checkSignature
  handleRouteAssertVerify)

/-! ### The route in front of the claim -/

/-- The assertion a request verifies. -/
def verifiedAssertion (platform : Platform) (env : RouteAssertionVerify.Env) (body : Option Json)
    (now : Int) : Except VerifyFailure AssertionRecord := do
  let fields ← verifyBody body
  let signature := stringField fields "signature"
  let sigAlg := toLowerCase (stringField fields "sigAlg")
  let signatureRef := stringField fields "signatureRef"
  if signature = [] ∨ sigAlg = [] ∨ signatureRef = [] then
    RouteAssertionVerify.fail 400 "bad_shape"
  if sigAlg ≠ js "ed25519" then RouteAssertionVerify.fail 400 "unsupported_sigalg"
  let expectedSigRef := cleanEnv (orVariable env.routeAssertSignatureRef env.workerSignatureRef)
  if expectedSigRef ≠ [] ∧ signatureRef ≠ expectedSigRef then
    RouteAssertionVerify.fail 409 "signature_ref_mismatch"
  let assertion ← (parseVerifyInput platform fields).mapError (.failed 400)
  checkWindow assertion env now
  checkExpected platform fields "expectedDomain" assertion.domain "domain_mismatch"
  checkExpected platform fields "expectedHbHost" assertion.hbHost "hbhost_mismatch"
  checkSignature platform env signature assertion.text
  return assertion

/-- The route is the verification and then the claim. -/
theorem handleRouteAssertVerify_eq_ok {platform : Platform} {env : RouteAssertionVerify.Env}
    {body : Option Json} {replay : ReplayClaim} {now : Int} {hash : JsString} :
    handleRouteAssertVerify platform env body replay now = .ok hash ↔
      ∃ assertion, verifiedAssertion platform env body now = .ok assertion ∧
        replay assertion = .ok false ∧ platform.sha256 assertion.text = hash := by
  simp only [handleRouteAssertVerify, verifiedAssertion, RouteAssertionVerify.fail, bind_eq_ok,
    error_guard_eq_ok, mapError_eq_ok, pure_eq_ok, Bool.not_eq_true]
  constructor
  · rintro ⟨fields, fieldsOk, present, alg, ref, assertion, parsed, _, window, _, domain, _,
      hbHost, _, signature, _, claimed, rfl, hashed⟩
    exact ⟨assertion, ⟨fields, fieldsOk, present, alg, ref, _, parsed, _, window, _, domain, _,
      hbHost, _, signature, rfl⟩, claimed, hashed⟩
  · rintro ⟨_, ⟨fields, fieldsOk, present, alg, ref, assertion, parsed, _, window, _, domain, _,
      hbHost, _, signature, rfl⟩, claimed, hashed⟩
    exact ⟨fields, fieldsOk, present, alg, ref, assertion, parsed, _, window, _, domain, _,
      hbHost, _, signature, _, claimed, rfl, hashed⟩

/-- A verified assertion has not expired. -/
theorem verifiedAssertion_unexpired {platform : Platform} {env : RouteAssertionVerify.Env}
    {body : Option Json} {now : Int} {assertion : AssertionRecord}
    (verified : verifiedAssertion platform env body now = .ok assertion) :
    (Double.finite now).lt assertion.exp.toDouble = true := by
  simp only [verifiedAssertion, RouteAssertionVerify.fail, bind_eq_ok, error_guard_eq_ok,
    mapError_eq_ok, pure_eq_ok] at verified
  obtain ⟨fields, -, -, -, -, _, -, _, window, _, -, _, -, _, -, rfl⟩ := verified
  have inside := RouteAssertionVerify.checkWindow_eq_ok.mp window
  simp only [RouteAssertionVerify.verifyWindow] at inside
  split_ifs at inside with version started challenge expired early
  simpa using expired

/-! ### Configuration -/

/-- The bindings of the worker with those of the replay claim. -/
structure ReplayEnv extends verifyEnv : RouteAssertionVerify.Env where
  routeAssertVerifyReplayEnabled : Option Json := none
  routeAssertVerifyReplayTtlSec : Option JsString := none
  /-- `INBOX_KV` is bound. -/
  inboxKv : Bool := true

def parseBooleanLike : Option Json → Bool
  | some (.bool value) => value
  | some (.num value) => value = .ofInt 1
  | some (.str value) => [js "1", js "true", js "yes"].contains (toLowerCase (trim value))
  | _ => false

def replayEnabled (env : ReplayEnv) : Bool := parseBooleanLike env.routeAssertVerifyReplayEnabled

def useInMemoryReplay (env : ReplayEnv) : Bool := parseBooleanLike env.testInMemoryKv

/-- Claims are kept in memory: on demand, or for want of a store. -/
def inMemory (env : ReplayEnv) : Bool := useInMemoryReplay env || !env.inboxKv

/-- `Math.min(86400, Math.max(1, seconds))` of a whole number of seconds. -/
def clampTtl : Double → Nat
  | .finite seconds => (min 86400 (max 1 ⌊seconds⌋)).toNat
  | .infinity negative => if negative then 1 else 86400
  | .nan => 1

def replayTtl (assertionExp : Number) (env : ReplayEnv) (now : Nat) : Nat :=
  let configured := (parseInt10 (cleanEnv env.routeAssertVerifyReplayTtlSec)).filter isFiniteInt
  match configured.filter (0 < ·) with
  | some seconds => clampTtl (.finite seconds)
  | none => clampTtl (assertionExp.toDouble.add (.finite (-(now : Int))))

def replayKey (nonce domain cfgTx : JsString) : JsString :=
  js "route-assert:verify:" ++ domain ++ 58 :: (cfgTx ++ 58 :: nonce)

/-! ### Claims -/

/-- A claim that waits for the store. -/
structure Claim where
  assertion : AssertionRecord
  ttl : Nat
  /-- The store had no record of it. -/
  checked : Bool

def assertionKey (assertion : AssertionRecord) : JsString :=
  replayKey assertion.challengeNonce assertion.domain assertion.cfgTx

def Claim.key (claim : Claim) : JsString := assertionKey claim.assertion

/-- An isolate with its store; the keys of the waiting claims are the local locks. -/
structure Isolate where
  memoryReplay : OrderedMap JsString Nat
  kv : ExpiringStore JsString JsString
  claims : List Claim
  clock : Nat
  /-- The assertions answered with success, one for each response. -/
  answered : List AssertionRecord

def initial : Isolate := ⟨.empty, .empty, [], 0, []⟩

def clearExpiredMemoryReplay (memoryReplay : OrderedMap JsString Nat) (now : Nat) :
    OrderedMap JsString Nat :=
  memoryReplay.filter fun _ exp => now < exp

/-- The claim of a verified assertion, up to its first wait. -/
def Isolate.claim (env : ReplayEnv) (isolate : Isolate) (now : Nat) (assertion : AssertionRecord) :
    Isolate :=
  let key := assertionKey assertion
  let ttl := replayTtl assertion.exp env now
  if !replayEnabled env then { isolate with answered := assertion :: isolate.answered }
  else if ttl = 0 then isolate
  else if inMemory env then
    let live := clearExpiredMemoryReplay isolate.memoryReplay now
    if (live.find key).any (now < ·) then { isolate with memoryReplay := live }
    else
      { isolate with
        memoryReplay := live.set key (now + ttl)
        answered := assertion :: isolate.answered }
  else if isolate.claims.any (·.key = key) then isolate
  else { isolate with claims := isolate.claims ++ [⟨assertion, ttl, false⟩] }

inductive Event where
  | verify (now : Nat) (body : Option Json)
  | read (now : Nat) (index : Nat) (fails : Bool)
  | write (now : Nat) (index : Nat) (fails : Bool)

def Event.now : Event → Nat
  | .verify now _ => now
  | .read now _ _ => now
  | .write now _ _ => now

/-- The read of a claim; a record or an error ends it. -/
def Isolate.read (isolate : Isolate) (now index : Nat) (fails : Bool) : Option Isolate :=
  (isolate.claims[index]?.filter (!·.checked)).map fun claim =>
    if fails ∨ (ExpiringStore.get isolate.kv now claim.key).isSome then
      { isolate with claims := isolate.claims.eraseIdx index }
    else { isolate with claims := isolate.claims.set index { claim with checked := true } }

/-- The write of a claim, and its response. -/
def Isolate.write (isolate : Isolate) (now index : Nat) (fails : Bool) : Option Isolate :=
  (isolate.claims[index]?.filter (·.checked)).map fun claim =>
    if fails then { isolate with claims := isolate.claims.eraseIdx index }
    else
      { isolate with
        kv := ExpiringStore.put isolate.kv claim.key (js "1") (expiresIn now claim.ttl)
        claims := isolate.claims.eraseIdx index
        answered := claim.assertion :: isolate.answered }

def step (platform : Platform) (env : ReplayEnv) (isolate : Isolate) (event : Event) :
    Option Isolate :=
  if event.now < isolate.clock then none
  else
    let timely := { isolate with clock := event.now }
    match event with
    | .verify now body =>
        match verifiedAssertion platform env.verifyEnv body now with
        | .ok assertion => some (timely.claim env now assertion)
        | .error _ => some timely
    | .read now index fails => timely.read now index fails
    | .write now index fails => timely.write now index fails

/-! ### Validity -/

/-- The validity of an assertion has ended. -/
def Over (now : Nat) (assertion : AssertionRecord) : Prop :=
  (Double.finite (now : Int)).lt assertion.exp.toDouble = false

instance (now : Nat) (assertion : AssertionRecord) : Decidable (Over now assertion) :=
  inferInstanceAs (Decidable (_ = false))

theorem Over.later {now later : Nat} {assertion : AssertionRecord} (ended : Over now assertion)
    (ordered : now ≤ later) : Over later assertion := by
  unfold Over at ended ⊢
  cases exp : assertion.exp.toDouble with
  | nan => rfl
  | infinity negative =>
      rw [exp] at ended
      cases negative
      · exact ended
      · rfl
  | finite value =>
      rw [exp] at ended
      simp only [Double.lt, decide_eq_false_iff_not, not_lt] at ended ⊢
      have cast : ((now : Int) : ℚ) ≤ ((later : Int) : ℚ) := by exact_mod_cast ordered
      exact ended.trans cast

/-- What ends later than a valid assertion is still ahead. -/
theorem Over.ahead {now horizon : Nat} {assertion : AssertionRecord}
    (ended : Over horizon assertion) (valid : ¬Over now assertion) : now < horizon := by
  by_contra behind
  exact valid (ended.later (Nat.le_of_not_lt behind))

/-- The record of a claim made now lives as long as the assertion. -/
def Lasting (env : ReplayEnv) (now : Nat) (assertion : AssertionRecord) : Prop :=
  Over (now + replayTtl assertion.exp env now) assertion

instance (env : ReplayEnv) (now : Nat) (assertion : AssertionRecord) :
    Decidable (Lasting env now assertion) := inferInstanceAs (Decidable (Over _ _))

/-- Without a configured time to live an assertion of at most a day is recorded
for the rest of its validity. -/
theorem lasting_of_unset {env : ReplayEnv} {now : Nat} {assertion : AssertionRecord}
    {seconds : Int} (unset : env.routeAssertVerifyReplayTtlSec = none)
    (exp : assertion.exp.toDouble = .finite seconds) (valid : (now : Int) < seconds)
    (near : seconds ≤ now + 86400) : Lasting env now assertion := by
  have bound : (seconds + -(now : Int)).natAbs ≤ 86400 := by omega
  have small : |((seconds + -(now : Int) : Int) : ℚ)| < 2 ^ (53 : Int) := by
    rw [← Int.cast_abs, Int.abs_eq_natAbs]
    have cast : (((seconds + -(now : Int)).natAbs : Int) : ℚ) ≤ 86400 := by exact_mod_cast bound
    exact lt_of_le_of_lt cast (by norm_num)
  have remaining : assertion.exp.toDouble.add (.finite ((-(now : Int) : Int) : ℚ)) =
      .finite ((seconds + -(now : Int) : Int) : ℚ) := by
    rw [exp]
    exact Double.add_intCast small
  have ttl : replayTtl assertion.exp env now = (seconds + -(now : Int)).toNat := by
    have blank : (parseInt10 (cleanEnv none)).filter isFiniteInt = none := by decide
    unfold replayTtl
    rw [unset, blank]
    show clampTtl (assertion.exp.toDouble.add (.finite (-((now : Int) : ℚ)))) = _
    rw [← Int.cast_neg, remaining, clampTtl, Int.floor_intCast]
    omega
  unfold Lasting Over
  rw [ttl, exp]
  have whole : ((now + (seconds + -(now : Int)).toNat : Nat) : Int) = seconds := by omega
  simp [Double.lt, whole]

/-- A verified assertion is recorded for the rest of its validity, and the store
is read before its validity ends. -/
def Covered (platform : Platform) (env : ReplayEnv) (isolate : Isolate) : Event → Prop
  | .verify now body => ∀ assertion,
      verifiedAssertion platform env.verifyEnv body now = .ok assertion → Lasting env now assertion
  | .read now index _ => ∀ claim, isolate.claims[index]? = some claim → ¬Over now claim.assertion
  | .write _ _ _ => True

instance (platform : Platform) (env : ReplayEnv) (isolate : Isolate) :
    (event : Event) → Decidable (Covered platform env isolate event)
  | .verify now body =>
      match verified : verifiedAssertion platform env.verifyEnv body now with
      | .ok assertion =>
          decidable_of_iff (Lasting env now assertion) (by simp [Covered, verified])
      | .error _ => isTrue (by simp [Covered, verified])
  | .read now index _ =>
      match listed : isolate.claims[index]? with
      | some claim => decidable_of_iff (¬Over now claim.assertion) (by simp [Covered, listed])
      | none => isTrue (by simp [Covered, listed])
  | .write _ _ _ => isTrue trivial

/-! ### Invariant -/

/-- A record of the assertion lives as long as it. -/
def Recorded (env : ReplayEnv) (isolate : Isolate) (assertion : AssertionRecord) : Prop :=
  if inMemory env then
    ∃ horizon, isolate.memoryReplay.find (assertionKey assertion) = some horizon ∧
      Over horizon assertion
  else
    ∃ horizon value, isolate.kv.find (assertionKey assertion) = some ⟨value, some horizon⟩ ∧
      Over horizon assertion

structure Invariant (env : ReplayEnv) (isolate : Isolate) : Prop where
  unique : isolate.answered.Nodup
  recorded : ∀ assertion ∈ isolate.answered,
    Over isolate.clock assertion ∨ Recorded env isolate assertion
  locked : (isolate.claims.map Claim.key).Nodup
  /-- Of a checked claim no assertion with its key is still valid, and it was not answered. -/
  checked : ∀ claim ∈ isolate.claims, claim.checked = true → ∀ assertion ∈ isolate.answered,
    assertionKey assertion = claim.key → Over isolate.clock assertion ∧ assertion ≠ claim.assertion
  lasting : ∀ claim ∈ isolate.claims,
    0 < claim.ttl ∧ ∀ now, isolate.clock ≤ now → Over (now + claim.ttl) claim.assertion
  stored : inMemory env = true → isolate.claims = []

theorem Invariant.initial (env : ReplayEnv) : Invariant env initial where
  unique := List.nodup_nil
  recorded := by simp [RouteAssertionReplay.initial]
  locked := List.nodup_nil
  checked := by simp [RouteAssertionReplay.initial]
  lasting := by simp [RouteAssertionReplay.initial]
  stored _ := rfl

variable {env : ReplayEnv} {isolate next : Isolate}

theorem Invariant.clock (invariant : Invariant env isolate) {now : Nat}
    (later : isolate.clock ≤ now) : Invariant env { isolate with clock := now } where
  unique := invariant.unique
  recorded assertion member := (invariant.recorded assertion member).imp (·.later later) id
  locked := invariant.locked
  checked claim member checked assertion answered same :=
    have before := invariant.checked claim member checked assertion answered same
    ⟨before.1.later later, before.2⟩
  lasting claim member :=
    have before := invariant.lasting claim member
    ⟨before.1, fun moment after => before.2 moment (Nat.le_trans later after)⟩
  stored := invariant.stored

/-- Without claims the checks of an invariant are about the answers alone. -/
private theorem Invariant.of_idle (idle : isolate.claims = []) (unique : isolate.answered.Nodup)
    (recorded : ∀ assertion ∈ isolate.answered,
      Over isolate.clock assertion ∨ Recorded env isolate assertion) : Invariant env isolate where
  unique := unique
  recorded := recorded
  locked := by rw [idle]; exact List.nodup_nil
  checked := by simp [idle]
  lasting := by simp [idle]
  stored _ := idle

/-- The records that are left after a purge are those that still matter. -/
theorem recorded_of_purge (memory : inMemory env = true) {assertion : AssertionRecord}
    (before : Over isolate.clock assertion ∨ Recorded env isolate assertion) :
    Over isolate.clock assertion ∨ ∃ horizon,
      (clearExpiredMemoryReplay isolate.memoryReplay isolate.clock).find (assertionKey assertion) =
        some horizon ∧ isolate.clock < horizon ∧ Over horizon assertion := by
  rcases before with past | recorded
  · exact Or.inl past
  · rw [Recorded, if_pos memory] at recorded
    obtain ⟨horizon, found, ends⟩ := recorded
    by_cases live : isolate.clock < horizon
    · right
      refine ⟨horizon, ?_, live, ends⟩
      rw [clearExpiredMemoryReplay, OrderedMap.find_filter, found]
      simp [live]
    · exact Or.inl (ends.later (Nat.le_of_not_lt live))

theorem Invariant.claim (invariant : Invariant env isolate) (enabled : replayEnabled env = true)
    {assertion : AssertionRecord} (valid : ¬Over isolate.clock assertion)
    (lasting : Lasting env isolate.clock assertion) :
    Invariant env (isolate.claim env isolate.clock assertion) := by
  unfold Isolate.claim
  extract_lets key ttl live
  rw [if_neg (by simp [enabled])]
  split
  next => exact invariant
  next positive =>
    split
    next memory =>
      have idle := invariant.stored memory
      have records := fun other member => recorded_of_purge memory (invariant.recorded other member)
      split
      next seen =>
        refine Invariant.of_idle idle invariant.unique ?_
        intro other member
        refine (records other member).imp id ?_
        rintro ⟨horizon, found, -, ends⟩
        rw [Recorded, if_pos memory]
        exact ⟨horizon, found, ends⟩
      next fresh =>
        have ended : ∀ other ∈ isolate.answered, assertionKey other = key →
            Over isolate.clock other := by
          intro other member same
          rcases records other member with past | ⟨horizon, found, later, -⟩
          · exact past
          · rw [same] at found
            exact absurd (by simp [live, found, later]) fresh
        refine Invariant.of_idle idle ?_ ?_
        · refine List.nodup_cons.mpr ⟨?_, invariant.unique⟩
          intro answered
          exact valid (ended assertion answered rfl)
        · intro other member
          rw [Recorded, if_pos memory]
          rcases List.mem_cons.mp member with rfl | before
          · exact Or.inr ⟨_, OrderedMap.find_set_self _ _ _, lasting⟩
          · by_cases same : assertionKey other = key
            · exact Or.inl (ended other before same)
            · refine (records other before).imp id ?_
              rintro ⟨horizon, found, -, ends⟩
              exact ⟨horizon, (OrderedMap.find_set_other _ same _).trans found, ends⟩
    next stored =>
      split
      next => exact invariant
      next unlocked =>
        have free : ∀ claim ∈ isolate.claims, claim.key ≠ key := by
          simpa using unlocked
        refine ⟨invariant.unique, ?_, ?_, ?_, ?_, fun memory => absurd memory stored⟩
        · intro other member
          refine (invariant.recorded other member).imp id ?_
          rw [Recorded, Recorded, if_neg stored]
          exact id
        · rw [List.map_append, List.nodup_append]
          refine ⟨invariant.locked, List.nodup_singleton _, ?_⟩
          intro held heldMember new newMember
          obtain ⟨claim, member, rfl⟩ := List.mem_map.mp heldMember
          rw [List.mem_singleton.mp newMember]
          exact free claim member
        · refine List.forall_mem_append.mpr ⟨invariant.checked, ?_⟩
          simp
        · refine List.forall_mem_append.mpr ⟨invariant.lasting, ?_⟩
          intro claim member
          rw [List.mem_singleton.mp member]
          refine ⟨Nat.pos_of_ne_zero positive, fun moment later => ?_⟩
          exact Over.later lasting (Nat.add_le_add_right later _)

/-- The end of a claim leaves the others as they are. -/
theorem Invariant.end_claim (invariant : Invariant env isolate) (index : Nat) :
    Invariant env { isolate with claims := isolate.claims.eraseIdx index } := by
  have rest : ∀ claim ∈ isolate.claims.eraseIdx index, claim ∈ isolate.claims :=
    fun _ kept => List.mem_of_mem_eraseIdx kept
  refine ⟨invariant.unique, invariant.recorded, ?_, ?_, ?_, ?_⟩
  · exact (List.Sublist.map _ (List.eraseIdx_sublist _ _)).nodup invariant.locked
  · exact fun claim kept => invariant.checked claim (rest claim kept)
  · exact fun claim kept => invariant.lasting claim (rest claim kept)
  · intro memory
    show isolate.claims.eraseIdx index = []
    rw [invariant.stored memory, List.eraseIdx_nil]

/-- Without a live record every answered assertion with a key has ended. -/
theorem Invariant.ended_of_absent (invariant : Invariant env isolate)
    (stored : ¬inMemory env = true) {key : JsString}
    (absent : (ExpiringStore.get isolate.kv isolate.clock key).isSome = false)
    {assertion : AssertionRecord} (member : assertion ∈ isolate.answered)
    (same : assertionKey assertion = key) : Over isolate.clock assertion := by
  rcases invariant.recorded assertion member with past | recorded
  · exact past
  · rw [Recorded, if_neg stored, same] at recorded
    obtain ⟨horizon, value, found, ends⟩ := recorded
    by_contra valid
    have ahead := ends.ahead valid
    have alive : isolate.clock ≤ horizon := Nat.le_of_lt ahead
    simp [ExpiringStore.get, found, Expiring.alive, alive] at absent

theorem Invariant.read (invariant : Invariant env isolate) {index : Nat} {fails : Bool}
    (timely : ∀ claim, isolate.claims[index]? = some claim → ¬Over isolate.clock claim.assertion)
    (stepped : isolate.read isolate.clock index fails = some next) : Invariant env next := by
  unfold Isolate.read at stepped
  obtain ⟨claim, waiting, rfl⟩ := Option.map_eq_some_iff.mp stepped
  obtain ⟨listed, unchecked⟩ := Option.filter_eq_some_iff.mp waiting
  have member := List.mem_of_getElem? listed
  split
  next => exact invariant.end_claim index
  next passed =>
    rw [not_or, Bool.not_eq_true, Bool.not_eq_true] at passed
    have stored : ¬inMemory env = true := by
      intro memory
      rw [invariant.stored memory] at member
      cases member
    have keys : (isolate.claims.set index { claim with checked := true }).map Claim.key =
        isolate.claims.map Claim.key := by
      apply List.ext_getElem?
      intro position
      rw [List.getElem?_map, List.getElem?_map, List.getElem?_set]
      by_cases same : index = position
      · have bound := (List.getElem?_eq_some_iff.mp listed).1
        rw [if_pos same, if_pos bound, ← same, listed]
        rfl
      · rw [if_neg same]
    have split_ : ∀ other ∈ isolate.claims.set index { claim with checked := true },
        other ∈ isolate.claims ∨ other = { claim with checked := true } :=
      fun other kept => List.mem_or_eq_of_mem_set kept
    refine ⟨invariant.unique, ?_, ?_, ?_, ?_, fun memory => absurd memory stored⟩
    · exact invariant.recorded
    · show ((isolate.claims.set index _).map Claim.key).Nodup
      rw [keys]
      exact invariant.locked
    · intro other kept checked assertion answered same
      rcases split_ other kept with before | rfl
      · exact invariant.checked other before checked assertion answered same
      · have past := invariant.ended_of_absent stored passed.2 answered same
        refine ⟨past, ?_⟩
        rintro rfl
        exact timely claim listed past
    · intro other kept
      rcases split_ other kept with before | rfl
      · exact invariant.lasting other before
      · exact invariant.lasting claim member

theorem Invariant.write (invariant : Invariant env isolate) {index : Nat} {fails : Bool}
    (stepped : isolate.write isolate.clock index fails = some next) : Invariant env next := by
  unfold Isolate.write at stepped
  obtain ⟨claim, waiting, rfl⟩ := Option.map_eq_some_iff.mp stepped
  obtain ⟨listed, checked⟩ := Option.filter_eq_some_iff.mp waiting
  have member := List.mem_of_getElem? listed
  have ended := invariant.end_claim index
  split
  next => exact ended
  next =>
    have stored : ¬inMemory env = true := by
      intro memory
      rw [invariant.stored memory] at member
      cases member
    obtain ⟨positive, lasting⟩ := invariant.lasting claim member
    have expires : expiresIn isolate.clock claim.ttl = some (isolate.clock + claim.ttl) :=
      if_neg (Nat.ne_of_gt positive)
    have others : ∀ other ∈ isolate.claims.eraseIdx index, other.key ≠ claim.key := by
      obtain ⟨bound, rfl⟩ := List.getElem?_eq_some_iff.mp listed
      have order := (List.getElem_cons_eraseIdx_perm bound).map Claim.key
      have distinct := order.nodup_iff.mpr invariant.locked
      rw [List.map_cons, List.nodup_cons] at distinct
      intro other kept same
      exact distinct.1 (same ▸ List.mem_map_of_mem kept)
    refine ⟨?_, ?_, ended.locked, ?_, ended.lasting, ended.stored⟩
    · refine List.nodup_cons.mpr ⟨?_, invariant.unique⟩
      intro answered
      exact (invariant.checked claim member checked _ answered rfl).2 rfl
    · intro assertion answered
      rw [Recorded, if_neg stored]
      rcases List.mem_cons.mp answered with rfl | before
      · refine Or.inr ⟨_, js "1", ?_, lasting isolate.clock (Nat.le_refl _)⟩
        rw [← expires]
        exact OrderedMap.find_set_self _ _ _
      · by_cases same : assertionKey assertion = claim.key
        · exact Or.inl (invariant.checked claim member checked assertion before same).1
        · refine (invariant.recorded assertion before).imp id ?_
          rw [Recorded, if_neg stored]
          rintro ⟨horizon, value, found, ends⟩
          exact ⟨horizon, value, (OrderedMap.find_set_other _ same _).trans found, ends⟩
    · intro other kept otherChecked assertion answered same
      rcases List.mem_cons.mp answered with rfl | before
      · exact absurd same.symm (others other kept)
      · exact ended.checked other kept otherChecked assertion before same

theorem Invariant.step {platform : Platform} (enabled : replayEnabled env = true) {event : Event}
    (invariant : Invariant env isolate) (covered : Covered platform env isolate event)
    (stepped : step platform env isolate event = some next) : Invariant env next := by
  unfold RouteAssertionReplay.step at stepped
  split at stepped
  next early => cases stepped
  next late =>
    have timely := invariant.clock (Nat.le_of_not_lt late)
    cases event with
    | verify now body =>
        dsimp only at stepped
        split at stepped
        next assertion verified =>
          rw [← Option.some.inj stepped]
          have valid := verifiedAssertion_unexpired verified
          exact timely.claim enabled (fun past => absurd (valid.symm.trans past) (by simp))
            (covered assertion verified)
        next failure =>
          rw [← Option.some.inj stepped]
          exact timely
    | read now index fails => exact timely.read covered stepped
    | write now index fails => exact timely.write stepped

deriving instance DecidableEq for AssertionRecord

/-- The request that verifies an assertion issued at second 1000 until 1120. -/
def posted : Option Json :=
  (RouteAssertion.handleRouteAssert RouteAssertionRoundTrip.smallPlatform
    RouteAssertionRoundTrip.issuing
    (RouteAssertionRoundTrip.callFor (js "site.example"))).toOption.map fun issued =>
      .obj (RouteAssertionRoundTrip.request issued (js "site.example") (js "hb.example"))

def smallPlatform : Platform := RouteAssertionRoundTrip.smallPlatform.toPlatform

end DarkmeshGateway.SecretsWorker.RouteAssertionReplay
