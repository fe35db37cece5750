import DarkmeshGateway.Foundation.Js.Double
import DarkmeshGateway.Foundation.Outcome
import DarkmeshGateway.SecretsWorker.Fields

/-!
Contract: how long `POST /inbox` keeps an item.

Owns the selection of a time to live from a body field of any JSON type and
two environment variables, the expiry computed from it, what the route stores,
and when the stored expiry is a number within the retention ceiling.

Does not own the signature and the guards of the route: a call carries their
outcomes.
-/

namespace DarkmeshGateway.SecretsWorker.InboxRetention

open Foundation.Js
open Foundation.Outcome
open SecretsWorker.Fields

/-! ### Time to live -/

/-- The variables that configure retention. -/
structure RetentionEnv where
  inboxTtlDefault : Option JsString := none
  inboxTtlMax : Option JsString := none

def inboxTtlHardMaxSeconds : Int := 86400

def defTtl (env : RetentionEnv) : Option Int := parseInt10 (envOr env.inboxTtlDefault "3600")

def configuredMaxTtl (env : RetentionEnv) : Option Int :=
  parseInt10 (envOr env.inboxTtlMax "86400")

def maxTtl (env : RetentionEnv) : Int :=
  min inboxTtlHardMaxSeconds
    (((configuredMaxTtl env).filter fun configured => isFiniteInt configured && 0 < configured).getD
      inboxTtlHardMaxSeconds)

/-- A value of the variable `ttl`: the body field as it came, or a number. -/
inductive Ttl where
  | body (value : Json)
  | number (value : Double)

/-- The number `<` and `>` compare; `none` is a `TypeError`. -/
def Ttl.toNumber : Ttl → Option Double
  | .body value => value.toNumber
  | .number value => some value

/-- `reqTtl || defTtl`. -/
def firstTtl (env : RetentionEnv) (reqTtl : Option Json) : Ttl :=
  match reqTtl.filter Json.truthy with
  | some value => .body value
  | none => .number (.ofParsed (defTtl env))

def ttlSeconds (env : RetentionEnv) (reqTtl : Option Json) : Except HttpException Ttl := do
  let first := firstTtl env reqTtl
  let value ← orTypeError first.toNumber
  let raised := if value.lt (.finite 60) then .number (.finite 60) else first
  let value ← orTypeError raised.toNumber
  return if (Double.finite (maxTtl env)).lt value then .number (.finite (maxTtl env)) else raised

/-! ### The route -/

/-- `Math.floor(Date.now() / 1000)`, within the range of a time value. -/
structure UnixTime where
  seconds : Int
  bounded : |seconds| ≤ 8640000000000

/-- The sum of the clock and a time to live: a number, or the text `+` builds
from an operand that is no number. -/
inductive Expiry where
  | seconds (value : Double)
  | text (value : JsString)

/-- `now + ttl`. -/
def UnixTime.plus (now : UnixTime) : Ttl → Except HttpException Expiry
  | .number value => .ok (.seconds ((Double.finite now.seconds).add value))
  | .body (.num value) => .ok (.seconds ((Double.finite now.seconds).add value.toDouble))
  | .body (.bool value) =>
      .ok (.seconds ((Double.finite now.seconds).add (.finite (if value then 1 else 0))))
  | .body .null => .ok (.seconds ((Double.finite now.seconds).add (.finite 0)))
  | .body value =>
      (orTypeError value.toText).map fun text => .text ((Number.ofInt now.seconds).toString ++ text)

/-- `exp` as `JSON.stringify` writes it. -/
inductive ItemExp where
  | number (value : ℚ)
  | text (value : JsString)
  | null
deriving DecidableEq

def Expiry.inItem : Expiry → ItemExp
  | .seconds (.finite value) => .number value
  | .seconds _ => .null
  | .text value => .text value

/-- One request: the outcomes of its signature check, of its guards on subject,
nonce and payload and of the store, the parsed body (`none` is invalid JSON)
and the clock. -/
structure InboxCall where
  signature : Except HttpException Unit
  body : Option Json
  guards : Option Json → Option Json → Option Json → Except HttpException Unit
  now : UnixTime
  put : Except HttpException Unit

/-- What the route writes. -/
structure Stored where
  key : JsString
  payload : Option Json
  exp : ItemExp
  expiration : Expiry

/-- The fields of a body; reading one of `null` throws, and a primitive or an
array has none of them. -/
def bodyFields : Json → Except HttpException Fields
  | .null => .error internalError
  | .obj fields => .ok fields
  | _ => .ok []

/-- `${subject}:${nonce}`. -/
def key (subject nonce : Option Json) : Except HttpException JsString := do
  let subjectText ← orTypeError (subject.bind Json.toText)
  let nonceText ← orTypeError (nonce.bind Json.toText)
  return subjectText ++ 58 :: nonceText

def missing (field : Option Json) : Bool := !field.any Json.truthy

def postInbox (env : RetentionEnv) (call : InboxCall) : Except HttpException Stored := do
  call.signature
  let body ← call.body.elim (throw ⟨400, "invalid_json"⟩) pure
  let fields ← bodyFields body
  let subject := fields.get (js "subject")
  let nonce := fields.get (js "nonce")
  let payload := fields.get (js "payload")
  if missing subject || missing nonce || missing payload then throw ⟨400, "missing_fields"⟩
  call.guards subject nonce payload
  let ttl ← ttlSeconds env (fields.get (js "ttlSeconds"))
  let exp ← call.now.plus ttl
  let itemKey ← key subject nonce
  call.put
  return { key := itemKey, payload, exp := exp.inItem, expiration := exp }

/-! ### The ceiling -/

/-- The field `ttlSeconds` of a body. -/
def InboxCall.reqTtl (call : InboxCall) : Option Json :=
  (call.body.bind fun body => (bodyFields body).toOption).bind (Fields.get · (js "ttlSeconds"))

/-- Both expiries are one number, at least a minute and at most a day ahead, or
at the configured maximum when that is below a minute. -/
def Retained (env : RetentionEnv) (now : UnixTime) (stored : Stored) : Prop :=
  ∃ exp : ℚ, stored.expiration = .seconds (.finite exp) ∧ stored.exp = .number exp ∧
    ((now.seconds + 60 ≤ exp ∧ exp ≤ now.seconds + 86400) ∨
      ∃ configured, configuredMaxTtl env = some configured ∧ 0 < configured ∧ configured < 60 ∧
        exp = now.seconds + configured)

/-- The time to live is a number: a falsy field leaves a default that parses, a
number or `true` is one, and any other value is replaced because it compares
below a minute or above the maximum. -/
def NumericTtl (env : RetentionEnv) (reqTtl : Option Json) : Prop :=
  match reqTtl.filter Json.truthy with
  | none => (defTtl env).isSome = true
  | some (.num _) => True
  | some (.bool _) => True
  | some value => ∃ number, value.toNumber = some number ∧
      (number.lt (.finite 60) = true ∨ (Double.finite (maxTtl env)).lt number = true)

theorem maxTtl_cases (env : RetentionEnv) :
    0 < maxTtl env ∧ maxTtl env ≤ 86400 ∧
      (maxTtl env < 60 → configuredMaxTtl env = some (maxTtl env)) := by
  unfold maxTtl inboxTtlHardMaxSeconds
  cases configured : configuredMaxTtl env with
  | none => simp
  | some value =>
      by_cases usable : (isFiniteInt value && 0 < value) = true
      · have positive : 0 < value := by simp_all
        rw [Option.filter_some, if_pos usable, Option.getD_some]
        refine ⟨by omega, by omega, fun short => ?_⟩
        rw [min_eq_right (by omega)]
      · rw [Option.filter_some, if_neg usable]
        simp

/-- A number of seconds within the range of the maximum, or the maximum itself. -/
def InRange (env : RetentionEnv) (seconds : ℚ) : Prop :=
  (60 ≤ seconds ∧ seconds ≤ maxTtl env) ∨ seconds = maxTtl env

/-- The time to live is clamped when the first value compares outside the range
and is that value otherwise. -/
theorem ttlSeconds_cases {env : RetentionEnv} {reqTtl : Option Json} {ttl : Ttl}
    (computed : ttlSeconds env reqTtl = .ok ttl) :
    ∃ value, (firstTtl env reqTtl).toNumber = some value ∧
      (((value.lt (.finite 60) = true ∨ (Double.finite (maxTtl env)).lt value = true) ∧
          ∃ seconds, ttl = .number (.finite seconds) ∧ InRange env seconds) ∨
        (value.lt (.finite 60) = false ∧ (Double.finite (maxTtl env)).lt value = false ∧
          ttl = firstTtl env reqTtl)) := by
  simp only [ttlSeconds, bind_eq_ok, orTypeError_eq_ok, pure_eq_ok] at computed
  obtain ⟨value, first, raised, raisedEq, result⟩ := computed
  refine ⟨value, first, ?_⟩
  by_cases short : value.lt (.finite 60) = true
  · left
    refine ⟨Or.inl short, ?_⟩
    rw [if_pos short] at raisedEq result
    obtain rfl : Double.finite 60 = raised := Option.some.inj raisedEq
    split at result
    next => exact ⟨_, result.symm, Or.inr rfl⟩
    next notAbove =>
      have within : (60 : ℚ) ≤ maxTtl env := by simpa [Double.lt] using notAbove
      exact ⟨_, result.symm, Or.inl ⟨le_rfl, within⟩⟩
  · rw [if_neg short] at raisedEq result
    obtain rfl : value = raised := Option.some.inj (first.symm.trans raisedEq)
    split at result
    next long => exact Or.inl ⟨Or.inr long, _, result.symm, Or.inr rfl⟩
    next notLong =>
      exact Or.inr ⟨by simpa using short, by simpa using notLong, result.symm⟩

/-- A number of seconds in range gives an expiry within the ceiling. -/
private theorem plus_inRange {env : RetentionEnv} (now : UnixTime) {seconds : ℚ}
    (range : InRange env seconds) :
    ∃ exp : ℚ, (Double.finite now.seconds).add (.finite seconds) = .finite exp ∧
      ((now.seconds + 60 ≤ exp ∧ exp ≤ now.seconds + 86400) ∨
        ∃ configured, configuredMaxTtl env = some configured ∧ 0 < configured ∧
          configured < 60 ∧ exp = now.seconds + configured) := by
  obtain ⟨positive, ceiling, named⟩ := maxTtl_cases env
  have positiveMax : (0 : ℚ) < maxTtl env := by exact_mod_cast positive
  have ceilingMax : (maxTtl env : ℚ) ≤ 86400 := by exact_mod_cast ceiling
  have seconds_pos : 0 < seconds := by
    rcases range with ⟨minute, -⟩ | rfl
    · linarith
    · exact positiveMax
  have seconds_le : seconds ≤ 86400 := by
    rcases range with ⟨-, below⟩ | rfl
    · exact below.trans ceilingMax
    · exact ceilingMax
  have clock : |(now.seconds : ℚ)| ≤ 8640000000000 := by exact_mod_cast now.bounded
  have clockBounds := abs_le.mp clock
  have small : |now.seconds + seconds| < 2 ^ (53 : Int) := by
    rw [abs_lt]
    constructor
    · norm_num
      linarith
    · norm_num
      linarith
  refine ⟨nearest (now.seconds + seconds), Double.ofRat_small small, ?_⟩
  by_cases short : maxTtl env < 60
  · right
    have exact_ : seconds = maxTtl env := by
      rcases range with ⟨minute, below⟩ | same
      · have shortMax : (maxTtl env : ℚ) < 60 := by exact_mod_cast short
        linarith
      · exact same
    refine ⟨maxTtl env, named short, positive, short, ?_⟩
    have whole : (now.seconds : ℚ) + seconds = ((now.seconds + maxTtl env : Int) : ℚ) := by
      rw [exact_]
      push_cast
      rfl
    rw [whole] at small ⊢
    rw [nearest_intCast small]
    push_cast
    rfl
  · left
    have minute : (60 : ℚ) ≤ seconds := by
      rcases range with ⟨atLeast, -⟩ | rfl
      · exact atLeast
      · exact_mod_cast not_lt.mp short
    have lower : ((now.seconds + 60 : Int) : ℚ) ≤ nearest (now.seconds + seconds) :=
      le_nearest small (by push_cast; linarith)
    have upper : nearest (now.seconds + seconds) ≤ ((now.seconds + 86400 : Int) : ℚ) :=
      nearest_le small (by push_cast; linarith)
    push_cast at lower upper
    exact ⟨lower, upper⟩

/-- An accepted request has computed a time to live and stores the sum under
both names. -/
theorem postInbox_accepted {env : RetentionEnv} {call : InboxCall} {stored : Stored}
    (accepted : postInbox env call = .ok stored) :
    ∃ ttl, ttlSeconds env call.reqTtl = .ok ttl ∧ call.now.plus ttl = .ok stored.expiration ∧
      stored.exp = stored.expiration.inItem := by
  simp only [postInbox, bind_eq_ok, guard_eq_ok, pure_eq_ok] at accepted
  obtain ⟨_, -, body, parsed, fields, read, -, _, -, ttl, computed, exp, added, _, -, _, -, rfl⟩ :=
    accepted
  have bodyEq : call.body = some body := by
    cases found : call.body with
    | none => simp [found, throw_ne_ok] at parsed
    | some value => simpa [found, pure_eq_ok] using parsed
  have field : call.reqTtl = fields.get (js "ttlSeconds") := by
    simp [InboxCall.reqTtl, bodyEq, read, Except.toOption]
  exact ⟨ttl, field ▸ computed, added, rfl⟩

private theorem retained_of_seconds {env : RetentionEnv} {now : UnixTime} {stored : Stored}
    {seconds : ℚ} (range : InRange env seconds)
    (added : now.plus (.number (.finite seconds)) = .ok stored.expiration)
    (written : stored.exp = stored.expiration.inItem) : Retained env now stored := by
  obtain ⟨exp, sum, bounds⟩ := plus_inRange now range
  have expiration : Expiry.seconds (.finite exp) = stored.expiration := by
    rw [← sum]
    exact Except.ok.inj added
  refine ⟨exp, expiration.symm, ?_, bounds⟩
  rw [written, ← expiration]
  rfl

private theorem not_retained_text {env : RetentionEnv} {now : UnixTime} {stored : Stored}
    {text : JsString} (expiration : stored.expiration = .text text) :
    ¬Retained env now stored := by
  rintro ⟨exp, numeric, -⟩
  exact absurd (expiration.symm.trans numeric) (by simp)

private theorem toDouble_ne_nan {value : Number} (truthy : (Json.num value).truthy = true) :
    value.toDouble ≠ .nan := by
  cases value with
  | nan => simp [Json.truthy] at truthy
  | infinity negative => simp [Number.toDouble]
  | finite decimal =>
      simp only [Number.toDouble, Double.ofRat]
      split <;> simp

private theorem ofParsed_ne_nan (value : Int) : Double.ofParsed (some value) ≠ .nan := by
  simp only [Double.ofParsed]
  split <;> simp

/-- A value that is no number is added as a text. -/
private theorem plus_text {now : UnixTime} {value : Json} {exp : Expiry}
    (notNumeric : (∃ text, value = .str text) ∨ (∃ elements, value = .arr elements) ∨
      ∃ fields, value = .obj fields)
    (added : now.plus (.body value) = .ok exp) : ∃ text, exp = .text text := by
  have sum : (orTypeError value.toText).map
      (fun text => Expiry.text ((Number.ofInt now.seconds).toString ++ text)) = .ok exp := by
    rcases notNumeric with ⟨_, rfl⟩ | ⟨_, rfl⟩ | ⟨_, rfl⟩ <;> exact added
  cases printed : orTypeError value.toText with
  | error failure => simp [printed, Except.map] at sum
  | ok text =>
      rw [printed] at sum
      exact ⟨_, (Except.ok.inj sum).symm⟩

/-- What the first value alone decides, when it is not clamped. -/
private theorem unclamped_iff {env : RetentionEnv} {call : InboxCall} {stored : Stored}
    {value : Double} (first : (firstTtl env call.reqTtl).toNumber = some value)
    (notShort : value.lt (.finite 60) = false)
    (notLong : (Double.finite (maxTtl env)).lt value = false)
    (added : call.now.plus (firstTtl env call.reqTtl) = .ok stored.expiration)
    (written : stored.exp = stored.expiration.inItem) :
    Retained env call.now stored ↔ NumericTtl env call.reqTtl := by
  have number_retained : value ≠ .nan →
      call.now.plus (firstTtl env call.reqTtl) = call.now.plus (.number value) →
      Retained env call.now stored := by
    intro notNan same
    rcases Double.between notShort notLong with nan | ⟨inside, rfl, minute, ceiling⟩
    · exact absurd nan notNan
    · exact retained_of_seconds (Or.inl ⟨minute, ceiling⟩) (same ▸ added) written
  have text_iff (body : Json) (present : call.reqTtl.filter Json.truthy = some body)
      (notNumeric : (∃ text, body = .str text) ∨ (∃ elements, body = .arr elements) ∨
        ∃ fields, body = .obj fields) :
      Retained env call.now stored ↔ ∃ number, body.toNumber = some number ∧
        (number.lt (.finite 60) = true ∨ (Double.finite (maxTtl env)).lt number = true) := by
    simp only [firstTtl, present] at added first
    obtain ⟨text, expiration⟩ := plus_text notNumeric added
    apply iff_of_false (not_retained_text expiration)
    rintro ⟨number, numberEq, outside⟩
    obtain rfl : value = number := Option.some.inj (first.symm.trans numberEq)
    simp [notShort, notLong] at outside
  cases present : call.reqTtl.filter Json.truthy with
  | none =>
      simp only [NumericTtl, present]
      simp only [firstTtl, present, Ttl.toNumber, Option.some.injEq] at first number_retained added
      cases parsed : defTtl env with
      | none =>
          simp only [parsed, Double.ofParsed] at added
          refine iff_of_false ?_ (by simp)
          rintro ⟨exp, numeric, -⟩
          have sum : Expiry.seconds .nan = stored.expiration := Except.ok.inj added
          exact absurd (sum.trans numeric) (by simp)
      | some parsedTtl =>
          have notNan : value ≠ .nan := by
            rw [← first, parsed]
            exact ofParsed_ne_nan parsedTtl
          exact iff_of_true (number_retained notNan (by rw [first])) rfl
  | some body =>
      have truthy : body.truthy = true := by
        have kept := Option.eq_some_of_filter_eq_some present
        exact (Option.filter_eq_some_iff.mp present).2
      cases body with
      | null => simp [Json.truthy] at truthy
      | bool flag =>
          obtain rfl : flag = true := by simpa [Json.truthy] using truthy
          simp only [firstTtl, present, Ttl.toNumber, Json.toNumber, Option.some.injEq] at first
          rw [← first] at notShort
          exact absurd notShort (by decide)
      | num number =>
          simp only [NumericTtl, present]
          simp only [firstTtl, present, Ttl.toNumber, Json.toNumber, Option.some.injEq] at first
          have notNan : value ≠ .nan := first ▸ toDouble_ne_nan truthy
          refine iff_of_true (number_retained notNan ?_) trivial
          simp only [firstTtl, present, ← first]
          rfl
      | str text =>
          simp only [NumericTtl, present]
          exact text_iff _ present (Or.inl ⟨_, rfl⟩)
      | arr elements =>
          simp only [NumericTtl, present]
          exact text_iff _ present (Or.inr (Or.inl ⟨_, rfl⟩))
      | obj fields =>
          simp only [NumericTtl, present]
          exact text_iff _ present (Or.inr (Or.inr ⟨_, rfl⟩))

/-- A value that is clamped is one the condition admits. -/
private theorem numericTtl_of_clamped {env : RetentionEnv} {reqTtl : Option Json} {value : Double}
    (first : (firstTtl env reqTtl).toNumber = some value)
    (clamped : value.lt (.finite 60) = true ∨ (Double.finite (maxTtl env)).lt value = true) :
    NumericTtl env reqTtl := by
  unfold NumericTtl
  unfold firstTtl at first
  split
  next absent =>
    rw [absent] at first
    cases parsed : defTtl env with
    | some _ => rfl
    | none =>
        obtain rfl : Double.nan = value := by simpa [Ttl.toNumber, parsed, Double.ofParsed] using first
        simp [Double.lt] at clamped
  next => trivial
  next => trivial
  next body _ _ present =>
    rw [present] at first
    exact ⟨value, first, clamped⟩

/-- An accepted item expires within the ceiling exactly when its time to live
is a number. -/
theorem retention_ceiling_iff {env : RetentionEnv} {call : InboxCall} {stored : Stored}
    (accepted : postInbox env call = .ok stored) :
    Retained env call.now stored ↔ NumericTtl env call.reqTtl := by
  obtain ⟨ttl, computed, added, written⟩ := postInbox_accepted accepted
  obtain ⟨value, first, ⟨clamped, seconds, rfl, range⟩ | ⟨notShort, notLong, rfl⟩⟩ :=
    ttlSeconds_cases computed
  · exact iff_of_true (retained_of_seconds range added written)
      (numericTtl_of_clamped first clamped)
  · exact unclamped_iff first notShort notLong added written

/-- A request at second 1700000000 whose checks pass. -/
def admittedPost (ttlField : Fields) : InboxCall where
  signature := .ok ()
  body := some (.obj ([(js "subject", .str (js "s")), (js "nonce", .str (js "n")),
    (js "payload", .str (js "p"))] ++ ttlField))
  guards := fun _ _ _ => .ok ()
  now := ⟨1700000000, by decide⟩
  put := .ok ()

/-- A ceiling of an hour, and a post that asks for a day. -/
def hourly : RetentionEnv := { inboxTtlDefault := some (js "600"), inboxTtlMax := some (js "3600") }

def dailyPost : InboxCall := admittedPost [(js "ttlSeconds", .num (.ofInt 86400))]

theorem retention_ceiling_clamped :
    ∃ stored, postInbox hourly dailyPost = .ok stored ∧
      (Retained hourly dailyPost.now stored ↔ NumericTtl hourly dailyPost.reqTtl) := by
  have answered : (postInbox hourly dailyPost).toOption.isSome = true := by decide +kernel
  obtain ⟨stored, accepted⟩ := Option.isSome_iff_exists.mp answered
  have posted := toOption_eq_some.mp accepted
  exact ⟨stored, posted, retention_ceiling_iff posted⟩

set_option maxRecDepth 20000 in
/-- A time to live of `"24h"` passes both comparisons and is appended to the clock. -/
theorem retention_unbounded :
    ¬∀ (env : RetentionEnv) (call : InboxCall) (stored : Stored),
      postInbox env call = .ok stored → Retained env call.now stored := by
  intro claim
  obtain ⟨exp, numeric, -⟩ :=
    claim {} (admittedPost [(js "ttlSeconds", .str (js "24h"))]) _ rfl
  exact Expiry.noConfusion numeric

end DarkmeshGateway.SecretsWorker.InboxRetention
