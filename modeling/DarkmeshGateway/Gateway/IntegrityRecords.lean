import DarkmeshGateway.Foundation.Js.Json
import DarkmeshGateway.Foundation.Outcome

/-!
Contract: which upstream bodies are integrity snapshots.

Owns the records of a snapshot with the checks of their fields, the envelope a
snapshot may come in, and the parity of its roots.

Does not own the requests a body is read from.
-/

namespace DarkmeshGateway.Gateway.IntegrityRecords

open Foundation
open Foundation.Js

/-! ### Errors -/

inductive IntegrityErrorCode where
  | integrityInvalidSnapshot
  | integrityReleaseRootMismatch
  | missingTrustedRoot
  | integrityFetchFailed
deriving DecidableEq, Repr

structure IntegritySnapshotError where
  code : IntegrityErrorCode
  message : JsString

abbrev Parse (α : Type) := Except IntegritySnapshotError α

def refuse {α : Type} (code : IntegrityErrorCode) (message : String) : Parse α :=
  .error ⟨code, js message⟩

def invalid {α : Type} (message : String) : Parse α := refuse .integrityInvalidSnapshot message

/-! ### Fields -/

/-- `isString`: a text that is not blank. -/
def isString : Option Json → Option JsString
  | some (.str text) => if trim text = [] then none else some text
  | _ => none

/-- `isNumber`: a finite number. -/
def isNumber : Option Json → Option Number
  | some (.num number) => if number.isFinite then some number else none
  | _ => none

/-- `isStringArray`. -/
def isStringArray : Option Json → Option (List JsString)
  | some (.arr elements) => elements.mapM fun element => isString (some element)
  | _ => none

/-- A checked field, or the error that names it. -/
def require {α : Type} (checked : Option α) (failure : Parse α) : Parse α :=
  checked.elim failure .ok

def text (record : Fields) (key message : String) : Parse JsString :=
  require (isString (record.get (js key))) (invalid message)

def number (record : Fields) (key message : String) : Parse Number :=
  require (isNumber (record.get (js key))) (invalid message)

def object (value : Option Json) (message : String) : Parse Fields :=
  require (asRecord value) (invalid message)

/-- A field that may be left out. -/
def whenPresent {α : Type} (value : Option Json) (parse : Option Json → Parse α) :
    Parse (Option α) :=
  match value with
  | none => .ok none
  | present => (parse present).map some

/-! ### Records -/

structure IntegrityReleaseRecord where
  componentId : JsString
  version : JsString
  root : JsString
  uriHash : JsString
  metaHash : JsString
  publishedAt : JsString
  revokedAt : Option JsString

structure PendingUpgrade where
  root : JsString
  hash : JsString
  expiry : JsString
  proposedAt : JsString

structure CompatibilityState where
  root : JsString
  hash : JsString
  validUntil : JsString

structure IntegrityPolicyRecord where
  activeRoot : JsString
  activePolicyHash : JsString
  paused : Bool
  maxCheckInAgeSec : Number
  pendingUpgrade : Option PendingUpgrade
  compatibilityState : Option CompatibilityState

structure IntegrityAuthorityRecord where
  root : JsString
  upgrade : JsString
  emergency : JsString
  reporter : JsString
  signatureRefs : List JsString

structure IntegrityAuditRecord where
  seqFrom : Number
  seqTo : Number
  merkleRoot : JsString
  metaHash : JsString
  reporterRef : JsString
  acceptedAt : JsString

structure IntegritySnapshot where
  release : IntegrityReleaseRecord
  policy : IntegrityPolicyRecord
  authority : IntegrityAuthorityRecord
  audit : IntegrityAuditRecord

def parseRelease (raw : Option Json) : Parse IntegrityReleaseRecord := do
  let raw ← object raw "release must be an object"
  let componentId ← text raw "componentId" "release.componentId is required"
  let version ← text raw "version" "release.version is required"
  let root ← require (isString (raw.get (js "root")))
    (refuse .missingTrustedRoot "release.root is required")
  let uriHash ← text raw "uriHash" "release.uriHash is required"
  let metaHash ← text raw "metaHash" "release.metaHash is required"
  let publishedAt ← text raw "publishedAt" "release.publishedAt is required"
  let revokedAt ← whenPresent (raw.get (js "revokedAt")) fun value =>
    require (isString value) (invalid "release.revokedAt must be a string")
  return { componentId, version, root, uriHash, metaHash, publishedAt, revokedAt }

def parsePendingUpgrade (raw : Option Json) : Parse PendingUpgrade := do
  let raw ← object raw "policy.pendingUpgrade must be an object"
  let root ← text raw "root" "policy.pendingUpgrade.root is required"
  let hash ← text raw "hash" "policy.pendingUpgrade.hash is required"
  let expiry ← text raw "expiry" "policy.pendingUpgrade.expiry is required"
  let proposedAt ← text raw "proposedAt" "policy.pendingUpgrade.proposedAt is required"
  return { root, hash, expiry, proposedAt }

def parseCompatibilityState (raw : Option Json) : Parse CompatibilityState := do
  let raw ← object raw "policy.compatibilityState must be an object"
  let root ← text raw "root" "policy.compatibilityState.root is required"
  let hash ← text raw "hash" "policy.compatibilityState.hash is required"
  let validUntil ← text raw "until" "policy.compatibilityState.until is required"
  return { root, hash, validUntil }

/-- A field of type `boolean`. -/
def boolean : Option Json → Option Bool
  | some (.bool value) => some value
  | _ => none

def parsePolicy (raw : Option Json) : Parse IntegrityPolicyRecord := do
  let raw ← object raw "policy must be an object"
  let activeRoot ← require (isString (raw.get (js "activeRoot")))
    (refuse .missingTrustedRoot "policy.activeRoot is required")
  let activePolicyHash ← text raw "activePolicyHash" "policy.activePolicyHash is required"
  let paused ← require (boolean (raw.get (js "paused"))) (invalid "policy.paused must be boolean")
  let maxCheckInAgeSec ←
    number raw "maxCheckInAgeSec" "policy.maxCheckInAgeSec must be a finite number"
  let pendingUpgrade ← whenPresent (raw.get (js "pendingUpgrade")) parsePendingUpgrade
  let compatibilityState ← whenPresent (raw.get (js "compatibilityState")) parseCompatibilityState
  return ⟨activeRoot, activePolicyHash, paused, maxCheckInAgeSec, pendingUpgrade,
    compatibilityState⟩

def parseAuthority (raw : Option Json) : Parse IntegrityAuthorityRecord := do
  let raw ← object raw "authority must be an object"
  let root ← text raw "root" "authority.root is required"
  let upgrade ← text raw "upgrade" "authority.upgrade is required"
  let emergency ← text raw "emergency" "authority.emergency is required"
  let reporter ← text raw "reporter" "authority.reporter is required"
  let signatureRefs ← require (isStringArray (raw.get (js "signatureRefs")))
    (invalid "authority.signatureRefs must be a string array")
  return { root, upgrade, emergency, reporter, signatureRefs }

def parseAudit (raw : Option Json) : Parse IntegrityAuditRecord := do
  let raw ← object raw "audit must be an object"
  let seqFrom ← number raw "seqFrom" "audit.seqFrom is required"
  let seqTo ← number raw "seqTo" "audit.seqTo is required"
  let merkleRoot ← text raw "merkleRoot" "audit.merkleRoot is required"
  let metaHash ← text raw "metaHash" "audit.metaHash is required"
  let reporterRef ← text raw "reporterRef" "audit.reporterRef is required"
  let acceptedAt ← text raw "acceptedAt" "audit.acceptedAt is required"
  return { seqFrom, seqTo, merkleRoot, metaHash, reporterRef, acceptedAt }

/-! ### Roots -/

def normalizeTrustedRoot (value : JsString) : JsString := trim value

def mismatch {α : Type} (message : String) : Parse α :=
  refuse .integrityReleaseRootMismatch message

/-- The root of a compatibility state that is neither the one root nor the other. -/
def strayRoot (releaseRoot activeRoot : JsString) (state : CompatibilityState) : Bool :=
  let root := normalizeTrustedRoot state.root
  decide (root ≠ [] ∧ root ≠ releaseRoot ∧ root ≠ activeRoot)

def assertReleaseRootParity (release : IntegrityReleaseRecord) (policy : IntegrityPolicyRecord) :
    Parse Unit :=
  let releaseRoot := normalizeTrustedRoot release.root
  let activeRoot := normalizeTrustedRoot policy.activeRoot
  if releaseRoot ≠ activeRoot then mismatch "policy.activeRoot must match release.root"
  else if release.revokedAt.isSome then
    mismatch "release.revokedAt is not allowed on the active snapshot"
  else if policy.compatibilityState.any (strayRoot releaseRoot activeRoot) then
    mismatch "policy.compatibilityState.root must match release.root or policy.activeRoot"
  else .ok ()

/-! ### Envelopes -/

def payloadKeys : List JsString := [js "payload", js "body", js "result", js "data"]

/-- The text of a field, or a default. -/
def textOr (record : Fields) (key default : String) : JsString :=
  match record.get (js key) with
  | some (.str text) => text
  | _ => js default

/-- The payload of an envelope; `none` is a body that is no envelope. -/
def extractCodecPayload (raw : Fields) : Parse (Option Json) :=
  let status := textOr raw "status" ""
  if status = js "OK" then
    match payloadKeys.findSome? raw.get with
    | some payload => .ok (some payload)
    | none => invalid "codec envelope status OK is missing a payload field"
  else if status = js "ERROR" then
    .error ⟨.integrityFetchFailed, textOr raw "code" "upstream_error" ++ js ":" ++
      textOr raw "message" "upstream returned error envelope"⟩
  else .ok none

def unwrapSnapshot (raw : Json) : Parse Json :=
  match asRecord (some raw) with
  | none => .ok raw
  | some fields => (extractCodecPayload fields).map fun payload => payload.getD raw

def parseSnapshot (raw : Json) : Parse IntegritySnapshot := do
  let raw ← unwrapSnapshot raw
  let raw ← object (some raw) "snapshot must be a JSON object"
  let release ← parseRelease (raw.get (js "release"))
  let policy ← parsePolicy (raw.get (js "policy"))
  let authority ← parseAuthority (raw.get (js "authority"))
  let audit ← parseAudit (raw.get (js "audit"))
  assertReleaseRootParity release policy
  return { release, policy, authority, audit }

/-! ### What a parsed snapshot is worth -/

/-- One root, released and not revoked. -/
structure Admitted (snapshot : IntegritySnapshot) : Prop where
  root : trim snapshot.release.root = trim snapshot.policy.activeRoot
  unrevoked : snapshot.release.revokedAt = none
  compatibility : ∀ state, snapshot.policy.compatibilityState = some state →
    trim state.root ≠ [] → trim state.root = trim snapshot.release.root

theorem assertReleaseRootParity_eq_ok {release : IntegrityReleaseRecord}
    {policy : IntegrityPolicyRecord} (asserted : assertReleaseRootParity release policy = .ok ())
    (authority : IntegrityAuthorityRecord) (audit : IntegrityAuditRecord) :
    Admitted ⟨release, policy, authority, audit⟩ := by
  unfold assertReleaseRootParity at asserted
  dsimp only at asserted
  split at asserted
  next => cases asserted
  next sameRoot =>
    have root : trim release.root = trim policy.activeRoot := not_not.mp sameRoot
    split at asserted
    next => cases asserted
    next unrevoked =>
      split at asserted
      next => cases asserted
      next noStray =>
        refine ⟨root, Option.not_isSome_iff_eq_none.mp unrevoked, ?_⟩
        intro state present named
        have present' : policy.compatibilityState = some state := present
        rw [present', Option.any_some] at noStray
        by_contra different
        apply noStray
        exact decide_eq_true ⟨named, different, fun same => different (same.trans root.symm)⟩

theorem parseSnapshot_admitted {raw : Json} {snapshot : IntegritySnapshot}
    (parsed : parseSnapshot raw = .ok snapshot) : Admitted snapshot := by
  unfold parseSnapshot at parsed
  obtain ⟨unwrapped, -, parsed⟩ := Outcome.bind_eq_ok.mp parsed
  obtain ⟨fields, -, parsed⟩ := Outcome.bind_eq_ok.mp parsed
  obtain ⟨release, -, parsed⟩ := Outcome.bind_eq_ok.mp parsed
  obtain ⟨policy, -, parsed⟩ := Outcome.bind_eq_ok.mp parsed
  obtain ⟨authority, -, parsed⟩ := Outcome.bind_eq_ok.mp parsed
  obtain ⟨audit, -, parsed⟩ := Outcome.bind_eq_ok.mp parsed
  obtain ⟨⟨⟩, asserted, parsed⟩ := Outcome.bind_eq_ok.mp parsed
  rw [← Except.ok.inj parsed]
  exact assertReleaseRootParity_eq_ok asserted authority audit

end DarkmeshGateway.Gateway.IntegrityRecords
