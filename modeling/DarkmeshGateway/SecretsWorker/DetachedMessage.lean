import DarkmeshGateway.Foundation.Delimited
import DarkmeshGateway.Foundation.Js.Stringify

/-!
Contract: the text a write command is signed over.

Owns `stableStringify`, the selection of the signed fields of a command, the
detached message, and what the message determines about the command.

Does not own the key, the signature or the routes that sign.
-/

namespace DarkmeshGateway.SecretsWorker.DetachedMessage

open Foundation.Js
open Foundation.Delimited

/-! ### Stable stringification -/

mutual

def stableStringify : Json → JsString
  | .null => js "null"
  | .arr elements => 91 :: (List.intercalate [44] (stableElements elements) ++ [93])
  | .obj fields =>
      123 :: (List.intercalate [44]
        ((sortByKey (stableEntries fields)).map fun entry => quote entry.1 ++ 58 :: entry.2) ++
          [125])
  | .bool value => (Json.bool value).stringify
  | .num value => (Json.num value).stringify
  | .str value => (Json.str value).stringify

/-- `value.map(stableStringify)`. -/
def stableElements : List Json → List JsString
  | [] => []
  | value :: rest => stableStringify value :: stableElements rest

/-- Each key with the text of its value, in the order of the object. -/
def stableEntries : Fields → List (JsString × JsString)
  | [] => []
  | (key, value) :: rest => (key, stableStringify value) :: stableEntries rest

end

mutual

/-- `stableStringify` is `JSON.stringify` of the value with its keys sorted. -/
theorem stableStringify_eq : (value : Json) → stableStringify value = value.canonical.stringify
  | .null => rfl
  | .bool _ => rfl
  | .str _ => rfl
  | .num (.finite decimal) => by
      simp [stableStringify, Json.canonical, Number.dropZeroSign, Json.stringify,
        Number.isFinite, Number.toString, Decimal.toString_dropZeroSign]
  | .num .nan => rfl
  | .num (.infinity _) => rfl
  | .arr elements => by
      rw [stableStringify, Json.canonical, Json.stringify, stringifyElements_eq,
        stableElements_eq elements]
  | .obj fields => by
      rw [stableStringify, Json.canonical, Json.stringify, stringifyFields_eq,
        stableEntries_eq fields, sortByKey_map Json.stringify, List.map_map]
      rfl

theorem stableElements_eq : (elements : List Json) →
    stableElements elements = (canonicalElements elements).map Json.stringify
  | [] => rfl
  | value :: rest => by
      rw [stableElements, canonicalElements, List.map_cons, stableStringify_eq value,
        stableElements_eq rest]

theorem stableEntries_eq : (fields : Fields) →
    stableEntries fields =
      (canonicalFields fields).map fun field => (field.1, field.2.stringify)
  | [] => rfl
  | (key, value) :: rest => by
      rw [stableEntries, canonicalFields, List.map_cons, stableStringify_eq value,
        stableEntries_eq rest]

end

/-- In front of a separator the text of a value without infinities determines
the value up to key order and the sign of zero. -/
theorem stableStringify_unique {left right : Json} (leftFinite : left.AllFinite = true)
    (rightFinite : right.AllFinite = true) {leftRest rightRest : JsString}
    (same : stableStringify left ++ 124 :: leftRest = stableStringify right ++ 124 :: rightRest) :
    Json.Same left right ∧ leftRest = rightRest := by
  have stops (rest : JsString) : Stops (124 :: rest) := by
    intro unit member
    obtain rfl : 124 = unit := by simpa using member
    decide
  rw [stableStringify_eq, stableStringify_eq] at same
  obtain ⟨canonicalEq, rests⟩ := Json.stringify_unique _ _ _ _
    (Json.regular_canonical left leftFinite) (Json.regular_canonical right rightFinite)
    (stops leftRest) (stops rightRest) same
  exact ⟨canonicalEq, (List.cons.inj rests).2⟩

/-- Values that are the same have the same text. -/
theorem stableStringify_same {left right : Json} (same : Json.Same left right) :
    stableStringify left = stableStringify right := by
  rw [stableStringify_eq, stableStringify_eq, same]

/-! ### The detached message -/

/-- The values `canonicalDetachedMessage` selects from a command. -/
structure DetachedFields where
  action : Json
  tenant : Json
  actor : Json
  timestamp : Json
  nonce : Json
  role : Json
  payload : Json
  requestId : Json

/-- The first truthy alias of each field. -/
def detachedFields (cmd : Fields) : DetachedFields where
  action := firstTruthy (.str []) [cmd.get (js "action"), cmd.get (js "Action")]
  tenant := firstTruthy (.str [])
    [cmd.get (js "tenant"), cmd.get (js "Tenant"), cmd.get (js "Tenant-Id")]
  actor := firstTruthy (.str []) [cmd.get (js "actor"), cmd.get (js "Actor")]
  timestamp := firstTruthy (.str [])
    [cmd.get (js "ts"), cmd.get (js "timestamp"), cmd.get (js "X-Timestamp")]
  nonce := firstTruthy (.str [])
    [cmd.get (js "nonce"), cmd.get (js "Nonce"), cmd.get (js "X-Nonce")]
  role := firstTruthy (.str [])
    [cmd.get (js "role"), cmd.get (js "Role"), cmd.get (js "Actor-Role")]
  payload := firstTruthy (.obj []) [cmd.get (js "payload"), cmd.get (js "Payload")]
  requestId := firstTruthy (.str []) [cmd.get (js "requestId"), cmd.get (js "Request-Id")]

/-- The texts `parts.join('|')` joins. -/
structure DetachedParts where
  action : JsString
  tenant : JsString
  actor : JsString
  timestamp : JsString
  nonce : JsString
  role : JsString
  payload : JsString
  requestId : JsString
deriving DecidableEq

/-- The text of each selected value; `none` is a `TypeError` raised by `join`. -/
def DetachedFields.parts (fields : DetachedFields) : Option DetachedParts := do
  return {
    action := ← fields.action.toText
    tenant := ← fields.tenant.toText
    actor := ← fields.actor.toText
    timestamp := ← fields.timestamp.toText
    nonce := ← fields.nonce.toText
    role := ← fields.role.toText
    payload := stableStringify fields.payload
    requestId := ← fields.requestId.toText }

/-- The parts in front of the payload. -/
def DetachedParts.leading (parts : DetachedParts) : List JsString :=
  [parts.action, parts.tenant, parts.actor, parts.timestamp, parts.nonce, parts.role]

def DetachedParts.join (parts : DetachedParts) : JsString :=
  List.intercalate [124] (parts.leading ++ [parts.payload, parts.requestId])

def canonicalDetachedMessage (cmd : Fields) : Option JsString :=
  (detachedFields cmd).parts.map DetachedParts.join

theorem DetachedParts.join_eq (parts : DetachedParts) :
    parts.join = prefixed 124 parts.leading (parts.payload ++ 124 :: parts.requestId) := by
  simp [DetachedParts.join, DetachedParts.leading]

/-- The parts around the payload have no separator. -/
def DetachedParts.SeparatorFree (parts : DetachedParts) : Prop :=
  (∀ text ∈ parts.leading, 124 ∉ text) ∧ 124 ∉ parts.requestId

/-- Without separators around the payload the message determines every part. -/
theorem DetachedParts.join_injective {left right : DetachedParts} (leftFree : left.SeparatorFree)
    (rightFree : right.SeparatorFree) (same : left.join = right.join) : left = right := by
  rw [DetachedParts.join_eq, DetachedParts.join_eq] at same
  have separated : List.Forall₂ (fun leftText rightText =>
      leftText = rightText ∨ 124 ∉ leftText ∧ 124 ∉ rightText) left.leading right.leading := by
    have leftTexts := leftFree.1
    have rightTexts := rightFree.1
    simp only [DetachedParts.leading, List.forall_mem_cons] at leftTexts rightTexts
    simp only [DetachedParts.leading, List.forall₂_cons, List.forall₂_nil_left_iff]
    tauto
  obtain ⟨leadingEq, rests⟩ := prefixed_injective separated same
  obtain ⟨payloadEq, requestEq⟩ := last_field_unique leftFree.2 rightFree.2 rests
  cases left
  cases right
  simp_all [DetachedParts.leading]

/-! ### What the message determines -/

/-- The values in front of the payload. -/
def DetachedFields.leading (fields : DetachedFields) : List Json :=
  [fields.action, fields.tenant, fields.actor, fields.timestamp, fields.nonce, fields.role]

theorem DetachedFields.parts_eq {fields : DetachedFields} {parts : DetachedParts}
    (printed : fields.parts = some parts) :
    fields.leading.map Json.toText = parts.leading.map some ∧
      parts.payload = stableStringify fields.payload ∧
      fields.requestId.toText = some parts.requestId := by
  simp only [DetachedFields.parts, Option.pure_def, Option.bind_eq_bind,
    Option.bind_eq_some_iff, Option.some.injEq] at printed
  obtain ⟨action, actionText, tenant, tenantText, actor, actorText, timestamp, timestampText,
    nonce, nonceText, role, roleText, requestId, requestIdText, rfl⟩ := printed
  simp [DetachedFields.leading, DetachedParts.leading, actionText, tenantText, actorText,
    timestampText, nonceText, roleText, requestIdText]

/-- The text of a value has no separator. -/
def SeparatorFree (value : Json) : Prop := ∀ text, value.toText = some text → 124 ∉ text

/-- Two values that cannot be mistaken for one another in front of a
separator: the same value, or different texts without a separator. -/
def Separated (left right : Json) : Prop :=
  left = right ∨ (left.toText ≠ right.toText ∧ SeparatorFree left ∧ SeparatorFree right)

/-- Strings without a separator are never mistaken for one another. -/
theorem separated_str {left right : JsString} (leftFree : 124 ∉ left) (rightFree : 124 ∉ right) :
    Separated (.str left) (.str right) := by
  by_cases same : left = right
  · exact Or.inl (by rw [same])
  · refine Or.inr ⟨by simpa [Json.toText] using same, ?_, ?_⟩
    · rintro text ⟨⟩
      exact leftFree
    · rintro text ⟨⟩
      exact rightFree

/-- Equal commands as the message presents them. -/
structure SameDetached (left right : DetachedFields) : Prop where
  leading : left.leading = right.leading
  payload : Json.Same left.payload right.payload
  requestId : left.requestId = right.requestId

/-- What rules out a confusion of two commands with one message. -/
structure Unambiguous (left right : DetachedFields) : Prop where
  leading : List.Forall₂ Separated left.leading right.leading
  payload : Json.Same left.payload right.payload ∨
    (left.payload.AllFinite = true ∧ right.payload.AllFinite = true)
  requestId : left.requestId = right.requestId ∨ left.requestId.toText ≠ right.requestId.toText

private theorem leading_separated {left right : List Json} {leftTexts rightTexts : List JsString}
    (separated : List.Forall₂ Separated left right)
    (leftPrinted : left.map Json.toText = leftTexts.map some)
    (rightPrinted : right.map Json.toText = rightTexts.map some) :
    List.Forall₂ (fun leftText rightText =>
      leftText = rightText ∨ 124 ∉ leftText ∧ 124 ∉ rightText) leftTexts rightTexts ∧
      (leftTexts = rightTexts → left = right) := by
  induction separated generalizing leftTexts rightTexts with
  | nil =>
      obtain rfl : leftTexts = [] := by simpa using leftPrinted.symm
      obtain rfl : rightTexts = [] := by simpa using rightPrinted.symm
      exact ⟨.nil, fun _ => rfl⟩
  | @cons value other values others pair _ inductionHypothesis =>
      cases leftTexts with
      | nil => simp at leftPrinted
      | cons leftText leftTexts =>
          cases rightTexts with
          | nil => simp at rightPrinted
          | cons rightText rightTexts =>
              simp only [List.map_cons, List.cons.injEq] at leftPrinted rightPrinted
              obtain ⟨texts, values⟩ := inductionHypothesis leftPrinted.2 rightPrinted.2
              rcases pair with rfl | ⟨different, leftFree, rightFree⟩
              · have same : leftText = rightText :=
                  Option.some.inj (leftPrinted.1.symm.trans rightPrinted.1)
                refine ⟨.cons (Or.inl same) texts, fun equal => ?_⟩
                rw [values (List.cons.inj equal).2]
              · refine ⟨.cons (Or.inr ⟨leftFree _ leftPrinted.1, rightFree _ rightPrinted.1⟩)
                  texts, fun equal => ?_⟩
                rw [leftPrinted.1, rightPrinted.1, (List.cons.inj equal).1] at different
                exact absurd rfl different

/-- Unambiguous commands with one message are equal. -/
theorem message_determines {left right : DetachedFields} {leftParts rightParts : DetachedParts}
    (leftPrinted : left.parts = some leftParts) (rightPrinted : right.parts = some rightParts)
    (unambiguous : Unambiguous left right) (same : leftParts.join = rightParts.join) :
    SameDetached left right := by
  obtain ⟨leftLeading, leftPayload, leftRequest⟩ := DetachedFields.parts_eq leftPrinted
  obtain ⟨rightLeading, rightPayload, rightRequest⟩ := DetachedFields.parts_eq rightPrinted
  obtain ⟨texts, values⟩ := leading_separated unambiguous.leading leftLeading rightLeading
  rw [DetachedParts.join_eq, DetachedParts.join_eq] at same
  obtain ⟨leadingEq, rests⟩ := prefixed_injective texts same
  rw [leftPayload, rightPayload] at rests
  obtain ⟨payloadSame, requestEq⟩ : Json.Same left.payload right.payload ∧
      leftParts.requestId = rightParts.requestId := by
    rcases unambiguous.payload with payloadSame | ⟨leftFinite, rightFinite⟩
    · rw [stableStringify_same payloadSame] at rests
      exact ⟨payloadSame, (List.cons.inj (List.append_cancel_left rests)).2⟩
    · exact stableStringify_unique leftFinite rightFinite rests
  refine ⟨values leadingEq, payloadSame, ?_⟩
  rcases unambiguous.requestId with requestSame | different
  · exact requestSame
  · rw [leftRequest, rightRequest, requestEq] at different
    exact absurd rfl different

/-! ### Commands that differ in their payload -/

theorem detachedFields_payload {command payload : Fields}
    (record : command.get (js "payload") = some (.obj payload)) :
    (detachedFields command).payload = .obj payload := by
  simp [detachedFields, firstTruthy, record, Json.truthy]

private theorem DetachedFields.parts_payload (fields : DetachedFields) (payload : Json) :
    ({ fields with payload } : DetachedFields).parts =
      fields.parts.map fun parts => { parts with payload := stableStringify payload } := by
  simp only [DetachedFields.parts, Option.pure_def, Option.bind_eq_bind, Option.map_bind,
    Function.comp_def, Option.map_some]

private theorem DetachedParts.join_payload_iff (parts : DetachedParts) {payload other : JsString} :
    ({ parts with payload } : DetachedParts).join =
        ({ parts with payload := other } : DetachedParts).join ↔ payload = other := by
  constructor
  · intro same
    rw [DetachedParts.join_eq, DetachedParts.join_eq] at same
    have separated : List.Forall₂ (fun left right => left = right ∨ 124 ∉ left ∧ 124 ∉ right)
        parts.leading parts.leading := List.forall₂_same.mpr fun _ _ => Or.inl rfl
    obtain ⟨-, rests⟩ := prefixed_injective separated same
    exact List.append_cancel_right rests
  · rintro rfl
    rfl

/-- A command that differs from a signed one in its payload at most has the same
message exactly when the payloads are the same value. -/
theorem canonicalDetachedMessage_payload_iff {signed other : Fields} {message : JsString}
    (fields : detachedFields other =
      { detachedFields signed with payload := (detachedFields other).payload })
    (signedFinite : (detachedFields signed).payload.AllFinite = true)
    (otherFinite : (detachedFields other).payload.AllFinite = true)
    (printed : canonicalDetachedMessage signed = some message) :
    canonicalDetachedMessage other = some message ↔
      Json.Same (detachedFields other).payload (detachedFields signed).payload := by
  obtain ⟨parts, partsOf, rfl⟩ := Option.map_eq_some_iff.mp printed
  have otherParts : (detachedFields other).parts = some
      { parts with payload := stableStringify (detachedFields other).payload } := by
    rw [fields, DetachedFields.parts_payload, partsOf, Option.map_some]
  have signedText : parts.payload = stableStringify (detachedFields signed).payload :=
    (DetachedFields.parts_eq partsOf).2.1
  have texts : canonicalDetachedMessage other = some parts.join ↔
      stableStringify (detachedFields other).payload = parts.payload := by
    rw [canonicalDetachedMessage, otherParts, Option.map_some, Option.some.injEq]
    exact parts.join_payload_iff
  rw [texts, signedText]
  constructor
  · intro same
    have followed : stableStringify (detachedFields other).payload ++ 124 :: [] =
        stableStringify (detachedFields signed).payload ++ 124 :: [] := by rw [same]
    exact (stableStringify_unique otherFinite signedFinite followed).1
  · exact stableStringify_same

end DarkmeshGateway.SecretsWorker.DetachedMessage
