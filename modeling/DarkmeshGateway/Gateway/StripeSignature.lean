import DarkmeshGateway.Foundation.Js.Double
import DarkmeshGateway.Foundation.Js.Object
import DarkmeshGateway.Foundation.Js.Stringify
import DarkmeshGateway.Foundation.Js.Utf8
import DarkmeshGateway.Gateway.Environment

/-!
Contract: the verification of a Stripe webhook.

Owns the parse of the signature header into a plain object, the checks on its
time and signatures, what makes a header genuine, and for which headers the
verification says exactly that.

Does not own HMAC-SHA256, a parameter, or what the route does with the verdict.
-/

namespace DarkmeshGateway.Gateway.StripeSignature

open Foundation.Js
open Gateway.Environment

/-! ### Configuration -/

structure Platform where
  /-- The digest of a text under a secret. -/
  hmacSha256 : JsString → JsString → List UInt8

def readBoundedIntEnv (env : Env) (name : String) (fallback low high : Int) : Int :=
  match readHandlerEnvString env name with
  | none => min (max fallback low) high
  | some raw =>
      match parseEnvInteger raw with
      | none => fallback
      | some value => min (max value low) high

/-- `STRIPE_SIGNATURE_HEADER_MAX_BYTES`. -/
def signatureHeaderMaxBytes (env : Env) : Int :=
  readBoundedIntEnv env "GW_STRIPE_SIGNATURE_HEADER_MAX_BYTES" 4096 256 16384

/-- `MAX_STRIPE_SIGNATURE_PARTS`. -/
def maxSignatureParts : Nat := 32

/-! ### Parse -/

/-- The key and the value of a part, when neither is blank. -/
def partField (rawPart : JsString) : Option (JsString × JsString) :=
  let part := trim rawPart
  let eq := part.idxOf 61
  if part = [] ∨ eq = part.length ∨ eq = 0 then none
  else
    let key := trim (part.take eq)
    let value := trim (part.drop (eq + 1))
    if key = [] ∨ value = [] then none else some (key, value)

/-- `if (!buckets[key]) buckets[key] = []`, then `buckets[key].push(value)`; `none`
is a thrown `TypeError`. -/
def pushValue (buckets : Value) (key value : JsString) : Option Value := do
  let current ← buckets.read key
  let made := if current.truthy then buckets else buckets.assign key (.array [])
  match ← made.read key with
  | .array elements => some (made.assign key (.array (elements ++ [.text value])))
  | _ => none

/-- The loop over the parts; the inner `none` is a return of `null`. -/
def collectParts : Value → Nat → List JsString → Option (Option Value)
  | buckets, _, [] => some (some buckets)
  | buckets, seenParts, rawPart :: rest =>
      if maxSignatureParts < seenParts + 1 then some none
      else
        match partField rawPart with
        | none => collectParts buckets (seenParts + 1) rest
        | some (key, value) => do
            let next ← pushValue buckets key value
            collectParts next (seenParts + 1) rest

/-- The texts of a bucket; a bucket that does not exist has none. -/
def bucketTexts (buckets : Value) (key : JsString) : List JsString :=
  match buckets.read key with
  | some (.array elements) =>
      elements.filterMap fun element =>
        match element with
        | .text text => some text
        | _ => none
  | _ => []

structure ParsedHeader where
  timestamp : Option JsString
  signatures : List JsString

def parseStripeSignatureHeader (env : Env) (sigHeader : JsString) : Option (Option ParsedHeader) :=
  let header := trim sigHeader
  if header = [] ∨ signatureHeaderMaxBytes env < header.length then some none
  else do
    match ← collectParts .empty 0 (header.splitOn 44) with
    | none => some none
    | some buckets =>
        some (some ⟨(bucketTexts buckets (js "t")).getLast?, bucketTexts buckets (js "v1")⟩)

/-! ### Verification -/

/-- `digest('hex')`. -/
def hexText (digest : List UInt8) : JsString :=
  digest.flatMap fun byte => [hexDigit (byte.toNat / 16), hexDigit (byte.toNat % 16)]

def safeCompareHexOrAscii (left right : JsString) : Bool :=
  utf8 (toWellFormed left) == utf8 (toWellFormed right)

/-- The signature that belongs to a time and a body. -/
def expectedSignature (platform : Platform) (secret timestamp body : JsString) : JsString :=
  hexText (platform.hmacSha256 secret (timestamp ++ js "." ++ body))

/-- `Math.abs(Date.now() - ts * 1000)`. -/
def timeDifference (nowMs : Int) (ts : Double) : Double :=
  ((Double.finite nowMs).sub (ts.mul (.finite 1000))).abs

/-- The checks behind the parse. -/
def verifyParsed (platform : Platform) (nowMs : Int) (body secret : JsString)
    (toleranceMs : Double) : ParsedHeader → Bool
  | ⟨none, _⟩ => false
  | ⟨some timestamp, signatures⟩ =>
      if timestamp = [] ∨ signatures = [] then false
      else
        let ts := Double.ofParsed (parseInt10 timestamp)
        if !ts.isFinite then false
        else
          let tol := if toleranceMs.isFinite then toleranceMs else .finite 300000
          if tol.lt (timeDifference nowMs ts) then false
          else
            let expected := expectedSignature platform secret timestamp body
            signatures.any fun candidate => safeCompareHexOrAscii expected candidate

def verifyStripe (platform : Platform) (env : Env) (nowMs : Int) (body : JsString)
    (sigHeader : Option JsString) (secret : JsString) (toleranceMs : Double) : Option Bool :=
  match sigHeader with
  | none => some false
  | some header =>
      if body = [] ∨ header = [] ∨ secret = [] then some false
      else do
        match ← parseStripeSignatureHeader env header with
        | none => some false
        | some parsed => some (verifyParsed platform nowMs body secret toleranceMs parsed)

/-! ### Genuine headers -/

/-- The fields of the parts of a header, in order. -/
def headerFields (header : JsString) : List (JsString × JsString) :=
  ((trim header).splitOn 44).filterMap partField

/-- The values of a key, in order. -/
def valuesOf (key : JsString) (fields : List (JsString × JsString)) : List JsString :=
  (fields.filter fun field => field.1 = key).map Prod.snd

/-- The text reads as a number of seconds within a tolerance of now. -/
def Timely (nowMs : Int) (tolerance : ℚ) (timestamp : JsString) : Prop :=
  ∃ seconds : ℚ, Double.ofParsed (parseInt10 timestamp) = .finite seconds ∧
    (timeDifference nowMs (.finite seconds)).le (.finite tolerance) = true

structure Genuine (platform : Platform) (env : Env) (nowMs : Int) (body header secret : JsString)
    (tolerance : ℚ) : Prop where
  present : trim header ≠ []
  short : (trim header).length ≤ signatureHeaderMaxBytes env
  few : ((trim header).splitOn 44).length ≤ maxSignatureParts
  signed : ∃ timestamp, (valuesOf (js "t") (headerFields header)).getLast? = some timestamp ∧
    Timely nowMs tolerance timestamp ∧
    expectedSignature platform secret timestamp body ∈ valuesOf (js "v1") (headerFields header)

/-- The verification ends, and its verdict is whether the header is genuine. -/
def Exact (platform : Platform) (env : Env) (nowMs : Int) (body header secret : JsString)
    (tolerance : ℚ) : Prop :=
  ∃ verdict, verifyStripe platform env nowMs body (some header) secret (.finite tolerance) =
      some verdict ∧
    (verdict = true ↔ Genuine platform env nowMs body header secret tolerance)

/-- `{}` has a property of the name. -/
def Inherited (key : JsString) : Prop := Value.empty.read key ≠ some .undefined

/-- The header is rejected at once, or no part that is looked at has a key under
which every object inherits a property. -/
def Harmless (env : Env) (header : JsString) : Prop :=
  trim header = [] ∨ signatureHeaderMaxBytes env < (trim header).length ∨
    ∀ rawPart ∈ ((trim header).splitOn 44).take maxSignatureParts, ∀ key value,
      partField rawPart = some (key, value) → ¬Inherited key

/-! ### Buckets -/

/-- The buckets hold the values of every key, and nothing for a key without values. -/
def Collected (own : List (JsString × Value)) (fields : List (JsString × JsString)) : Prop :=
  ∀ key, own.lookup key =
    if valuesOf key fields = [] then none else some (.array ((valuesOf key fields).map .text))

theorem valuesOf_concat (name : JsString) (fields : List (JsString × JsString))
    (key value : JsString) :
    valuesOf name (fields ++ [(key, value)]) =
      if name = key then valuesOf name fields ++ [value] else valuesOf name fields := by
  by_cases same : key = name
  · simp [valuesOf, same]
  · simp [valuesOf, same, Ne.symm same]

/-- A plain object made of an own part. -/
def plainObject (own : List (JsString × Value)) : Value := .object own (.prototype .object)

/-- A name that `{}` has no property of is read from the own ones. -/
theorem read_plain {own : List (JsString × Value)} {key : JsString} (plain : ¬Inherited key) :
    (plainObject own).read key = some ((own.lookup key).getD .undefined) := by
  have empty : standardRead Value.empty .object key = some .undefined := not_not.mp plain
  have inherits : standardRead (plainObject own) .object key = some .undefined := by
    unfold standardRead at empty ⊢
    cases known : Builtin.object.properties.lookup key with
    | some value => simpa [known] using empty
    | none =>
        by_cases isProto : key = js "__proto__"
        · subst isProto
          simp [known, Value.empty, Value.proto] at empty
        · simp [isProto]
  cases found : own.lookup key with
  | some value => exact Value.read_own _ found
  | none =>
      rw [plainObject, Value.read, Value.readFrom, found]
      exact inherits

/-- A name that every object inherits is read as a value that is neither blank
nor an array. -/
theorem read_inherited {own : List (JsString × Value)} {key : JsString} (inherited : Inherited key)
    (absent : own.lookup key = none) :
    ∃ value, (plainObject own).read key = some value ∧ value.truthy = true ∧
      ∀ elements, value ≠ .array elements := by
  have up : (plainObject own).read key = standardRead (plainObject own) .object key := by
    rw [plainObject, Value.read, Value.readFrom, absent]
    rfl
  have empty : standardRead Value.empty .object key ≠ some .undefined := inherited
  rw [up]
  unfold standardRead at empty ⊢
  cases known : Builtin.object.properties.lookup key with
  | some value =>
      have isFunction : ∃ name arity, value = .function name arity := by
        have member := mem_of_lookup known
        simp only [Builtin.properties, method, List.mem_cons, Prod.mk.injEq, List.not_mem_nil,
          or_false] at member
        rcases member with ⟨-, rfl⟩ | ⟨-, rfl⟩ | ⟨-, rfl⟩ | ⟨-, rfl⟩ | ⟨-, rfl⟩ | ⟨-, rfl⟩ |
          ⟨-, rfl⟩ | ⟨-, rfl⟩ | ⟨-, rfl⟩ | ⟨-, rfl⟩ | ⟨-, rfl⟩
        all_goals exact ⟨_, _, rfl⟩
      obtain ⟨name, arity, rfl⟩ := isFunction
      exact ⟨_, rfl, rfl, by simp⟩
  | none =>
      by_cases isProto : key = js "__proto__"
      · simp only [isProto, if_true]
        exact ⟨.prototype .object, rfl, rfl, by simp⟩
      · simp [known, isProto] at empty

/-- A value of a name that is not inherited is added to its bucket. -/
theorem pushValue_plain {own : List (JsString × Value)} {fields : List (JsString × JsString)}
    (collected : Collected own fields) {key : JsString} (plain : ¬Inherited key)
    (value : JsString) :
    ∃ grown, pushValue (plainObject own) key value = some (plainObject grown) ∧
      Collected grown (fields ++ [(key, value)]) := by
  have named : key ≠ js "__proto__" := by
    rintro rfl
    have read : Value.empty.read (js "__proto__") = some (.prototype .object) := rfl
    exact plain (by simp [Inherited, read])
  have assigned (own : List (JsString × Value)) (bucket : Value) :
      (plainObject own).assign key bucket = plainObject (setOwn own key bucket) := by
    simp [plainObject, Value.assign, named]
  by_cases first : valuesOf key fields = []
  · have absent : own.lookup key = none := by rw [collected key, if_pos first]
    refine ⟨setOwn (setOwn own key (.array [])) key (.array [.text value]), ?_, ?_⟩
    · simp [pushValue, read_plain plain, absent, Value.truthy, assigned, lookup_setOwn]
    · intro name
      rw [lookup_setOwn, lookup_setOwn, valuesOf_concat]
      by_cases same : name = key
      · subst same
        simp [first]
      · simp [same, collected name]
  · have present : own.lookup key = some (.array ((valuesOf key fields).map .text)) := by
      rw [collected key, if_neg first]
    refine ⟨setOwn own key (.array ((valuesOf key fields).map .text ++ [.text value])), ?_, ?_⟩
    · simp [pushValue, read_plain plain, present, Value.truthy, assigned]
    · intro name
      rw [lookup_setOwn, valuesOf_concat]
      by_cases same : name = key
      · subst same
        simp
      · simp [same, collected name]

/-- A value of an inherited name throws. -/
theorem pushValue_inherited {own : List (JsString × Value)} {key : JsString}
    (inherited : Inherited key) (absent : own.lookup key = none) (value : JsString) :
    pushValue (plainObject own) key value = none := by
  obtain ⟨found, read, truthy, notArray⟩ := read_inherited inherited absent
  simp only [pushValue, read, truthy, Option.bind_eq_bind, Option.bind_some, if_true]

/-! ### Headers -/

theorem collected_nil : Collected [] [] := by
  intro key
  simp [valuesOf]

/-- The key of a part, if it has one, is not inherited. -/
def PlainPart (rawPart : JsString) : Prop :=
  ∀ key value, partField rawPart = some (key, value) → ¬Inherited key

/-- Parts within the limit whose keys are not inherited are collected, and the loop
goes on behind them. -/
theorem collectParts_append {own : List (JsString × Value)} {fields : List (JsString × JsString)}
    (collected : Collected own fields) {seenParts : Nat} {parts : List JsString}
    (few : seenParts + parts.length ≤ maxSignatureParts)
    (plain : ∀ rawPart ∈ parts, PlainPart rawPart) (rest : List JsString) :
    ∃ grown, Collected grown (fields ++ parts.filterMap partField) ∧
      collectParts (plainObject own) seenParts (parts ++ rest) =
        collectParts (plainObject grown) (seenParts + parts.length) rest := by
  induction parts generalizing own fields seenParts with
  | nil => exact ⟨own, by simpa using collected, rfl⟩
  | cons rawPart others inductionHypothesis =>
      rw [List.length_cons] at few
      obtain ⟨first, later⟩ := List.forall_mem_cons.mp plain
      have within : ¬maxSignatureParts < seenParts + 1 := by omega
      have count : seenParts + (rawPart :: others).length = seenParts + 1 + others.length := by
        rw [List.length_cons]
        omega
      rw [count, List.cons_append, collectParts, if_neg within]
      cases field : partField rawPart with
      | none =>
          rw [List.filterMap_cons_none field]
          exact inductionHypothesis collected (by omega) later
      | some entry =>
          obtain ⟨key, value⟩ := entry
          obtain ⟨pushed, push, more⟩ := pushValue_plain collected (first key value field) value
          rw [List.filterMap_cons_some field, List.append_cons]
          simp only [push, Option.bind_eq_bind, Option.bind_some]
          exact inductionHypothesis more (by omega) later

/-- Parts within the limit whose keys are not inherited are all collected. -/
theorem collectParts_all {parts : List JsString} (few : parts.length ≤ maxSignatureParts)
    (plain : ∀ rawPart ∈ parts, PlainPart rawPart) :
    ∃ grown, collectParts (plainObject []) 0 parts = some (some (plainObject grown)) ∧
      Collected grown (parts.filterMap partField) := by
  obtain ⟨grown, holds, run⟩ := @collectParts_append [] [] collected_nil 0 parts (by omega) plain []
  rw [List.append_nil] at run
  exact ⟨grown, run, holds⟩

/-- More parts than the limit are rejected when no key before it is inherited. -/
theorem collectParts_many {parts : List JsString} (many : maxSignatureParts < parts.length)
    (plain : ∀ rawPart ∈ parts.take maxSignatureParts, PlainPart rawPart) :
    collectParts (plainObject []) 0 parts = some none := by
  have full : (parts.take maxSignatureParts).length = maxSignatureParts :=
    List.length_take_of_le many.le
  obtain ⟨grown, -, run⟩ := @collectParts_append [] [] collected_nil 0
    (parts.take maxSignatureParts) (by omega) plain (parts.drop maxSignatureParts)
  rw [List.take_append_drop, full, Nat.zero_add] at run
  rw [run]
  cases behind : parts.drop maxSignatureParts with
  | nil =>
      have short := List.drop_eq_nil_iff.mp behind
      omega
  | cons rawPart rest => rw [collectParts, if_pos (Nat.lt_succ_self _)]

/-- An inherited key within the limit throws, the first one at the latest. -/
theorem collectParts_inherited {parts : List JsString}
    (inherited : ∃ rawPart ∈ parts.take maxSignatureParts, ¬PlainPart rawPart) :
    collectParts (plainObject []) 0 parts = none := by
  classical
  obtain ⟨rawPart, member, notPlain⟩ := inherited
  -- The parts in front of the first inherited key are collected.
  have someFirst : ((parts.take maxSignatureParts).find? fun rawPart =>
      decide (¬PlainPart rawPart)).isSome :=
    List.find?_isSome.mpr ⟨rawPart, member, decide_eq_true notPlain⟩
  obtain ⟨first, found⟩ := Option.isSome_iff_exists.mp someFirst
  obtain ⟨isFirst, before, behind, split, plain⟩ := List.find?_eq_some_iff_append.mp found
  have inFront : ∀ rawPart ∈ before, PlainPart rawPart := by
    intro other earlier
    simpa using plain other earlier
  have few : before.length + 1 ≤ maxSignatureParts := by
    have lengths := congrArg List.length split
    rw [List.length_append, List.length_cons, List.length_take] at lengths
    omega
  obtain ⟨grown, holds, run⟩ := @collectParts_append [] [] collected_nil 0 before (by omega) inFront
    (first :: (behind ++ parts.drop maxSignatureParts))
  have whole : parts = before ++ first :: (behind ++ parts.drop maxSignatureParts) := by
    rw [← List.cons_append, ← List.append_assoc, ← split, List.take_append_drop]
  have within : ¬maxSignatureParts < 0 + before.length + 1 := by omega
  have notPlainFirst : ¬PlainPart first := of_decide_eq_true isFirst
  unfold PlainPart at notPlainFirst
  push Not at notPlainFirst
  obtain ⟨key, value, field, keyInherited⟩ := notPlainFirst
  have absent : grown.lookup key = none := by
    rw [holds key, if_pos]
    rw [valuesOf, List.map_eq_nil_iff, List.filter_eq_nil_iff]
    intro other listed same
    obtain ⟨rawPart, earlier, entry⟩ := List.mem_filterMap.mp listed
    have sameKey : other.1 = key := by simpa using same
    exact inFront rawPart earlier other.1 other.2 entry (sameKey ▸ keyInherited)
  rw [whole, run, collectParts, if_neg within, field]
  simp only [pushValue_inherited keyInherited absent, Option.bind_eq_bind, Option.bind_none]

theorem bucketTexts_eq {own : List (JsString × Value)} {fields : List (JsString × JsString)}
    (collected : Collected own fields) {key : JsString} (plain : ¬Inherited key) :
    bucketTexts (plainObject own) key = valuesOf key fields := by
  rw [bucketTexts, read_plain plain, collected key]
  by_cases missing : valuesOf key fields = []
  · simp [missing]
  · simp [missing, List.filterMap_map]

/-- What the parse of a header gives when no key throws. -/
theorem parse_cases (env : Env) (header : JsString) :
    (parseStripeSignatureHeader env header = some none ∧ Harmless env header ∧
        ¬(trim header ≠ [] ∧ (trim header).length ≤ signatureHeaderMaxBytes env ∧
          ((trim header).splitOn 44).length ≤ maxSignatureParts)) ∨
      (parseStripeSignatureHeader env header =
          some (some ⟨(valuesOf (js "t") (headerFields header)).getLast?,
            valuesOf (js "v1") (headerFields header)⟩) ∧ Harmless env header ∧
        trim header ≠ [] ∧ (trim header).length ≤ signatureHeaderMaxBytes env ∧
          ((trim header).splitOn 44).length ≤ maxSignatureParts) ∨
      (parseStripeSignatureHeader env header = none ∧ ¬Harmless env header) := by
  by_cases rejected : trim header = [] ∨ signatureHeaderMaxBytes env < (trim header).length
  · left
    refine ⟨by simp [parseStripeSignatureHeader, rejected], ?_, ?_⟩
    · exact rejected.imp id Or.inl
    · rintro ⟨present, short, -⟩
      exact rejected.elim present (not_lt.mpr short)
  obtain ⟨present, short⟩ := not_or.mp rejected
  have parsed : parseStripeSignatureHeader env header =
      (collectParts (plainObject []) 0 ((trim header).splitOn 44)).bind fun outcome =>
        outcome.elim (some none) fun buckets =>
          some (some ⟨(bucketTexts buckets (js "t")).getLast?, bucketTexts buckets (js "v1")⟩) := by
    simp only [parseStripeSignatureHeader, rejected, if_false]
    show (collectParts (plainObject []) 0 _).bind _ = _
    congr 1
    funext outcome
    cases outcome <;> rfl
  by_cases plain : ∀ rawPart ∈ ((trim header).splitOn 44).take maxSignatureParts,
      PlainPart rawPart
  · have harmless : Harmless env header := Or.inr (Or.inr plain)
    by_cases few : ((trim header).splitOn 44).length ≤ maxSignatureParts
    · right
      left
      rw [List.take_of_length_le few] at plain
      obtain ⟨grown, run, holds⟩ := collectParts_all few plain
      have t : ¬Inherited (js "t") := not_not.mpr rfl
      have v1 : ¬Inherited (js "v1") := not_not.mpr rfl
      refine ⟨?_, harmless, present, not_lt.mp short, few⟩
      rw [parsed, run, Option.bind_some, Option.elim_some, bucketTexts_eq holds t,
        bucketTexts_eq holds v1]
      rfl
    · left
      have run := collectParts_many (not_le.mp few) plain
      refine ⟨by rw [parsed, run]; rfl, harmless, ?_⟩
      rintro ⟨-, -, within⟩
      exact few within
  · right
    right
    have harmful : ¬Harmless env header := by
      rintro (blank | long | all)
      · exact present blank
      · exact short long
      · exact plain all
    push Not at plain
    have run := collectParts_inherited plain
    exact ⟨by rw [parsed, run]; rfl, harmful⟩

/-! ### Verdicts -/

theorem hexText_ascii (digest : List UInt8) : ∀ unit ∈ hexText digest, unit.toNat < 128 := by
  intro unit member
  obtain ⟨byte, -, inside⟩ := List.mem_flatMap.mp member
  have digit (value : Nat) (small : value < 16) : (hexDigit value).toNat < 128 := by
    unfold hexDigit
    split <;> (rw [UInt16.toNat_ofNat']; omega)
  have bound := byte.toNat_lt
  rcases List.mem_cons.mp inside with rfl | low
  · exact digit _ (by omega)
  · rw [List.mem_singleton.mp low]
    exact digit _ (by omega)

/-- A candidate compares equal to a hexadecimal text only if it is that text. -/
theorem safeCompare_hex_iff (digest : List UInt8) (candidate : JsString) :
    safeCompareHexOrAscii (hexText digest) candidate = true ↔ candidate = hexText digest := by
  have ascii := hexText_ascii digest
  have itself : toWellFormed (hexText digest) = hexText digest := by
    have plain : ∀ unit ∈ hexText digest, isSurrogate unit = false := by
      intro unit member
      have small := ascii unit member
      simp [isSurrogate, isHighSurrogate, isLowSurrogate]
      omega
    simpa [toWellFormed] using toWellFormed_append_plain plain []
  rw [safeCompareHexOrAscii, beq_iff_eq, utf8_injective.eq_iff, itself]
  constructor
  · intro same
    have encoded : toWellFormed candidate = hexText digest ++ [] := by
      rw [List.append_nil]
      exact same.symm
    obtain ⟨others, split, rest⟩ := toWellFormed_eq_append ascii encoded
    rw [split, eq_nil_of_toWellFormed rest, List.append_nil]
  · intro same
    rw [same, itself]

theorem timeDifference_ne_nan (nowMs : Int) (seconds : ℚ) :
    timeDifference nowMs (.finite seconds) ≠ .nan := by
  have scaled : (Double.finite seconds).mul (.finite 1000) = .ofRat (seconds * 1000) := rfl
  rw [timeDifference, scaled]
  cases product : Double.ofRat (seconds * 1000) with
  | nan => exact absurd product (Double.ofRat_ne_nan _)
  | infinity negative => simp [Double.sub, Double.neg, Double.add, Double.abs]
  | finite value =>
      show Double.abs (Double.ofRat (nowMs + -value)) ≠ .nan
      cases difference : Double.ofRat (nowMs + -value) with
      | nan => exact absurd difference (Double.ofRat_ne_nan _)
      | infinity negative => simp [Double.abs]
      | finite value => simp [Double.abs]

/-- What the checks behind the parse accept. -/
theorem verifyParsed_iff (platform : Platform) (nowMs : Int) (body secret : JsString)
    (tolerance : ℚ) (parsed : ParsedHeader) :
    verifyParsed platform nowMs body secret (.finite tolerance) parsed = true ↔
      ∃ timestamp, parsed.timestamp = some timestamp ∧ Timely nowMs tolerance timestamp ∧
        expectedSignature platform secret timestamp body ∈ parsed.signatures := by
  obtain ⟨timestamp, signatures⟩ := parsed
  cases timestamp with
  | none => simp [verifyParsed]
  | some timestamp =>
      have compared : (signatures.any fun candidate => safeCompareHexOrAscii
            (expectedSignature platform secret timestamp body) candidate) = true ↔
          expectedSignature platform secret timestamp body ∈ signatures := by
        simp only [List.any_eq_true, expectedSignature, safeCompare_hex_iff]
        exact ⟨fun ⟨_, listed, same⟩ => same ▸ listed, fun listed => ⟨_, listed, rfl⟩⟩
      simp only [Option.some.injEq, exists_eq_left']
      unfold verifyParsed Timely
      cases read : Double.ofParsed (parseInt10 timestamp) with
      | nan => simp [read, Double.isFinite]
      | infinity negative => simp [read, Double.isFinite]
      | finite seconds =>
          have number := timeDifference_ne_nan nowMs seconds
          have named : timestamp ≠ [] := by
            rintro rfl
            cases read
          by_cases unsigned : signatures = []
          · simp [unsigned]
          cases late : (Double.finite tolerance).lt (timeDifference nowMs (.finite seconds)) with
          | true => simp [read, Double.isFinite, late, Double.le]
          | false =>
              simp [read, Double.isFinite, late, Double.le, number, named, unsigned, ← compared]

/-- The verification of a header is exact if and only if the header is harmless. -/
theorem exact_iff_harmless {body secret : JsString} (present : body ≠ []) (configured : secret ≠ [])
    (platform : Platform) (env : Env) (nowMs : Int) (header : JsString) (tolerance : ℚ) :
    Exact platform env nowMs body header secret tolerance ↔ Harmless env header := by
  by_cases empty : header = []
  · have rejected : trim header = [] := by rw [empty]; rfl
    refine iff_of_true ⟨false, by simp [verifyStripe, empty], ?_⟩ (Or.inl rejected)
    simp only [Bool.false_eq_true, false_iff]
    exact fun genuine => genuine.present rejected
  have checked : verifyStripe platform env nowMs body (some header) secret (.finite tolerance) =
      (parseStripeSignatureHeader env header).bind fun outcome =>
        some (outcome.elim false
          (verifyParsed platform nowMs body secret (.finite tolerance))) := by
    simp only [verifyStripe, present, empty, configured, or_self, if_false]
    show (parseStripeSignatureHeader env header).bind _ = _
    congr 1
    funext outcome
    cases outcome <;> rfl
  unfold Exact
  rw [checked]
  rcases parse_cases env header with ⟨parsed, harmless, unfit⟩ |
    ⟨parsed, harmless, nonblank, short, few⟩ | ⟨thrown, harmful⟩
  · refine iff_of_true ⟨false, by rw [parsed]; rfl, ?_⟩ harmless
    simp only [Bool.false_eq_true, false_iff]
    exact fun genuine => unfit ⟨genuine.present, genuine.short, genuine.few⟩
  · refine iff_of_true ⟨_, by rw [parsed]; rfl, ?_⟩ harmless
    rw [Option.elim_some, verifyParsed_iff]
    exact ⟨fun signed => ⟨nonblank, short, few, signed⟩, fun genuine => genuine.signed⟩
  · rw [thrown]
    refine iff_of_false ?_ harmful
    rintro ⟨verdict, ended, -⟩
    cases ended

/-- The digest of one signed payload. -/
def samplePlatform : Platform where
  hmacSha256 := fun _ _ =>
    [53, 73, 80, 36, 244, 239, 63, 148, 229, 169, 62, 34, 34, 21, 68, 196,
      183, 94, 154, 66, 48, 12, 217, 101, 171, 129, 203, 133, 205, 153, 78, 145]

def sampleHeader : JsString :=
  js "t=1700000000,v1=35495024f4ef3f94e5a93e22221544c4b75e9a42300cd965ab81cb85cd994e91"

/-- A header with a time and one signature is verified exactly. -/
theorem sample_exact :
    Exact samplePlatform (fun _ => none) 1700000100000 (js "\x7b\x7d") sampleHeader
      (js "whsec_test") 300000 := by
  have parts : (((trim sampleHeader).splitOn 44).take maxSignatureParts).filterMap partField =
      [(js "t", js "1700000000"),
        (js "v1", js "35495024f4ef3f94e5a93e22221544c4b75e9a42300cd965ab81cb85cd994e91")] := by
    decide +kernel
  have harmless : Harmless (fun _ => none) sampleHeader := by
    right
    right
    intro rawPart member key value field
    have listed := List.mem_filterMap.mpr ⟨rawPart, member, field⟩
    rw [parts] at listed
    simp only [List.mem_cons, Prod.mk.injEq, List.not_mem_nil, or_false] at listed
    rcases listed with ⟨rfl, -⟩ | ⟨rfl, -⟩ <;> exact not_not.mpr rfl
  exact (exact_iff_harmless (by decide) (by decide) samplePlatform (fun _ => none) 1700000100000
    sampleHeader 300000).mpr harmless

/-- The same header with a part whose key every object inherits throws. -/
theorem inherited_key_throws :
    ¬Exact samplePlatform (fun _ => none) 1700000100000 (js "\x7b\x7d")
      (sampleHeader ++ js ",__proto__=1") (js "whsec_test") 300000 := by
  rintro ⟨verdict, ended, -⟩
  have thrown : verifyStripe samplePlatform (fun _ => none) 1700000100000 (js "\x7b\x7d")
      (some (sampleHeader ++ js ",__proto__=1")) (js "whsec_test") (.finite 300000) = none := by
    decide +kernel
  rw [thrown] at ended
  cases ended

end DarkmeshGateway.Gateway.StripeSignature
