import DarkmeshGateway.Gateway.IntegrityCheckpoint

/-!
Contract: which values a reader accepts from a file made without the secret.

Owns the texts a history of writes has signed, the unforgeability of a file
against them, and when an accepted value is a written snapshot: the signature of
an envelope without metadata covers any object, a written envelope included.

Does not own the strength of HMAC-SHA256.
-/

namespace DarkmeshGateway.Gateway.CheckpointAuthenticity

open Foundation.Js
open Foundation.Outcome
open Gateway.CanonicalJson
open Gateway.Environment
open Gateway.IntegrityCheckpoint

/-! ### Inversion -/

/-- The object whose text the signature of an envelope covers. -/
def signedFields (envelope : IntegrityCheckpointEnvelope) : Fields :=
  match envelope.metadata with
  | some metadata => envelopeBody envelope.payload metadata
  | none => envelope.payload

theorem expectedSignature_eq_ok {platform : Platform} {envelope : IntegrityCheckpointEnvelope}
    {secret signature : JsString} :
    expectedSignature platform envelope secret = .ok signature ↔
      ∃ text, canonicalizeJson (.obj (signedFields envelope)) = .ok text ∧
        platform.hmacSha256 secret text = signature := by
  unfold expectedSignature signedFields
  cases envelope.metadata with
  | some metadata => simp only [signEnvelopeBody, bind_eq_ok, pure_eq_ok]
  | none => simp only [signLegacyPayload, bind_eq_ok, pure_eq_ok]

/-- What a reader has checked about the envelope whose payload it returns. -/
structure Accepted (platform : Platform) (env : Env) (secret raw : JsString) (now : Nat)
    (envelope : IntegrityCheckpointEnvelope) : Prop where
  parsed : parseEnvelope platform raw = .ok envelope
  age : resolveMaxAgeSeconds env ≠ .invalid
  signed : ∃ text, canonicalizeJson (.obj (signedFields envelope)) = .ok text ∧
    safeHexCompare envelope.signature (platform.hmacSha256 secret text) = true
  current : isCurrent (resolveMaxAgeSeconds env) now envelope = true

theorem readContent_eq_some {platform : Platform} {env : Env} {secret raw : JsString} {now : Nat}
    {value : Fields} :
    readContent platform env secret raw now = .ok (some value) ↔
      ∃ envelope, Accepted platform env secret raw now envelope ∧ envelope.payload = value := by
  constructor
  · intro read
    unfold readContent at read
    split at read
    next => exact absurd read (by simp)
    next envelope parsed =>
      split at read
      next => exact absurd read (by simp)
      next age =>
        simp only [bind_eq_ok, mapError_eq_ok] at read
        obtain ⟨expected, expectedEq, checked⟩ := read
        obtain ⟨text, canonical, rfl⟩ := expectedSignature_eq_ok.mp expectedEq
        split at checked
        next => exact absurd checked (by simp [pure, Except.pure])
        next matched =>
          split at checked
          next => exact absurd checked (by simp [pure, Except.pure])
          next current =>
            refine ⟨envelope, ⟨parsed, age, ⟨text, canonical, ?_⟩, ?_⟩, ?_⟩
            · simpa using matched
            · simpa using current
            · exact Option.some.inj (pure_eq_ok.mp checked)
  · rintro ⟨envelope, accepted, rfl⟩
    obtain ⟨text, canonical, matched⟩ := accepted.signed
    have expected : expectedSignature platform envelope secret =
        .ok (platform.hmacSha256 secret text) :=
      expectedSignature_eq_ok.mpr ⟨text, canonical, rfl⟩
    unfold readContent
    rw [accepted.parsed]
    dsimp only
    split
    next invalid => exact absurd invalid accepted.age
    next =>
      rw [bind_eq_ok]
      refine ⟨_, mapError_eq_ok.mpr expected, ?_⟩
      simp [matched, accepted.current, pure, Except.pure]

theorem readIntegrityCheckpoint_eq_some {platform : Platform} {call : ReadCall}
    {secret raw : JsString} {value : Fields}
    (keyed : resolveSecret call.env call.secret = some secret) (held : call.file = .content raw)
    (read : readIntegrityCheckpoint platform call = .ok (some value)) :
    ∃ envelope, Accepted platform call.env secret raw call.now envelope ∧
      envelope.payload = value := by
  unfold readIntegrityCheckpoint at read
  split at read
  next => exact absurd read (by simp)
  next =>
    rw [keyed, held] at read
    split at read
    next => exact absurd read (by simp)
    next _ missing => exact absurd missing (by simp)
    next _ found =>
      obtain rfl := Option.some.inj found
      exact readContent_eq_some.mp read

/-! ### History -/

/-- An `IntegritySnapshot`: an object with a record under each of its four names. -/
def IsIntegritySnapshot (fields : Fields) : Prop :=
  ∀ name ∈ ["release", "policy", "authority", "audit"],
    ∃ record, fields.get (js name) = some (.obj record)

/-- A write of a snapshot. -/
structure SnapshotWrite extends WriteCall where
  typed : IsIntegritySnapshot snapshot

/-- The call wrote a file under the secret. -/
def Wrote (platform : Platform) (secret : JsString) (call : WriteCall) : Prop :=
  resolveSecret call.env call.secret = some secret ∧
    ∃ file, writeIntegrityCheckpoint platform call = .ok (some file)

/-- The object whose text the signature of a written file covers. -/
def writtenBody (call : WriteCall) : Fields :=
  envelopeBody call.snapshot (checkpointMetadata call.env call.now)

/-- A write of the history signed the text. -/
def SignedIn (platform : Platform) (secret : JsString) (history : List SnapshotWrite)
    (text : JsString) : Prop :=
  ∃ call ∈ history, Wrote platform secret call.toWriteCall ∧
    canonicalizeJson (.obj (writtenBody call.toWriteCall)) = .ok text

/-- A file made without the secret: where it carries the signature of its own body,
that body is a text the history signed. -/
def Unforged (platform : Platform) (secret : JsString) (history : List SnapshotWrite)
    (raw : JsString) : Prop :=
  ∀ envelope text, parseEnvelope platform raw = .ok envelope →
    canonicalizeJson (.obj (signedFields envelope)) = .ok text →
    safeHexCompare envelope.signature (platform.hmacSha256 secret text) = true →
    SignedIn platform secret history text

/-- The value is a snapshot written under the secret. -/
def IsWritten (platform : Platform) (secret : JsString) (history : List SnapshotWrite)
    (value : Fields) : Prop :=
  ∃ call ∈ history, Wrote platform secret call.toWriteCall ∧
    Json.Same (.obj value) (.obj call.snapshot)

/-! ### Authenticity -/

/-- The file is an envelope with metadata. -/
def CarriesMetadata (platform : Platform) (raw : JsString) : Prop :=
  ∃ parsed, platform.parseJson raw = .ok (.obj parsed) ∧
    (Fields.get parsed (js "metadata")).isSome = true

private theorem refusal_eq_ok {α : Type} {refused : Prop} [Decidable refused] {message : JsString}
    {next : Except IntegrityCheckpointError α} {value : α} :
    (if refused then (checkpointInvalid message : Except IntegrityCheckpointError PUnit) >>=
      fun _ => next else next) = .ok value ↔ ¬refused ∧ next = .ok value :=
  error_guard_eq_ok

private theorem envelopeMetadata_isSome {parsed : Fields} {metadata : Option Fields}
    (valid : envelopeMetadata parsed = .ok metadata) :
    metadata.isSome = (Fields.get parsed (js "metadata")).isSome := by
  unfold envelopeMetadata at valid
  split at valid
  next absent =>
    obtain rfl := Except.ok.inj valid
    rw [absent]
    rfl
  next present found =>
    split at valid
    next checked =>
      obtain rfl := Except.ok.inj valid
      rw [found]
      cases present with
      | obj => rfl
      | _ => simp [isValidCheckpointMetadata] at checked
    next => exact absurd valid (by simp [checkpointInvalid])

/-- The parts of a file that are accepted as an envelope. -/
theorem parseEnvelope_eq_ok {platform : Platform} {raw : JsString}
    {envelope : IntegrityCheckpointEnvelope} (parsed : parseEnvelope platform raw = .ok envelope) :
    ∃ file, platform.parseJson raw = .ok (.obj file) ∧
      envelopePayload file = .ok envelope.payload ∧
      envelopeSignature file = .ok envelope.signature ∧
      envelopeMetadata file = .ok envelope.metadata := by
  unfold parseEnvelope at parsed
  split at parsed
  next => exact absurd parsed (by simp [checkpointInvalid])
  next file object =>
    simp only [refusal_eq_ok, bind_eq_ok, pure_eq_ok] at parsed
    obtain ⟨-, -, payload, isPayload, signature, isSignature, metadata, isMetadata, rfl⟩ := parsed
    exact ⟨file, object, isPayload, isSignature, isMetadata⟩
  next => exact absurd parsed (by simp [checkpointInvalid])

theorem carriesMetadata_iff {platform : Platform} {raw : JsString}
    {envelope : IntegrityCheckpointEnvelope} (parsed : parseEnvelope platform raw = .ok envelope) :
    CarriesMetadata platform raw ↔ envelope.metadata.isSome = true := by
  obtain ⟨file, object, -, -, isMetadata⟩ := parseEnvelope_eq_ok parsed
  rw [envelopeMetadata_isSome isMetadata]
  simp [CarriesMetadata, object]

private theorem envelopeBody_payload {payload metadata other otherMetadata : Fields}
    (same : Json.Same (.obj (envelopeBody payload metadata))
      (.obj (envelopeBody other otherMetadata))) :
    Json.Same (.obj payload) (.obj other) := by
  have found := same.get (js "payload")
  have left : (envelopeBody payload metadata).get (js "payload") = some (.obj payload) := rfl
  have right : (envelopeBody other otherMetadata).get (js "payload") = some (.obj other) := rfl
  rw [left, right] at found
  exact Option.some.inj found

/-- No snapshot is a written body: a body has no release. -/
private theorem body_ne_snapshot {payload snapshot metadata other : Fields}
    (typed : IsIntegritySnapshot other)
    (body : Json.Same (.obj payload) (.obj (envelopeBody snapshot metadata))) :
    ¬Json.Same (.obj payload) (.obj other) := by
  intro same
  obtain ⟨record, present⟩ := typed "release" (by simp)
  have absent : (envelopeBody snapshot metadata).get (js "release") = none := rfl
  have inBody := body.get (js "release")
  have inOther := same.get (js "release")
  rw [absent] at inBody
  rw [present, inBody] at inOther
  exact absurd inOther (by simp)

/-- A value read from an unforged file is a written snapshot exactly when the
file carries metadata, as it must under a maximum age. -/
theorem checkpoint_authentic_iff {platform : Platform} {secret raw : JsString}
    {history : List SnapshotWrite} {call : ReadCall} {value : Fields}
    (keyed : resolveSecret call.env call.secret = some secret) (held : call.file = .content raw)
    (unforged : Unforged platform secret history raw)
    (read : readIntegrityCheckpoint platform call = .ok (some value)) :
    (IsWritten platform secret history value ↔ CarriesMetadata platform raw) ∧
      (resolveMaxAgeSeconds call.env ≠ .unset → CarriesMetadata platform raw) := by
  obtain ⟨envelope, accepted, rfl⟩ := readIntegrityCheckpoint_eq_some keyed held read
  obtain ⟨text, canonical, matched⟩ := accepted.signed
  obtain ⟨written, member, wrote, signed⟩ := unforged envelope text accepted.parsed canonical matched
  have same := canonicalizeJson_unique canonical signed
  rw [carriesMetadata_iff accepted.parsed]
  cases carried : envelope.metadata with
  | some metadata =>
      have authentic : IsWritten platform secret history envelope.payload := by
        refine ⟨written, member, wrote, ?_⟩
        simp only [signedFields, carried] at same
        exact envelopeBody_payload same
      simp [authentic]
  | none =>
      have body : Json.Same (.obj envelope.payload) (.obj (writtenBody written.toWriteCall)) := by
        simpa only [signedFields, carried] using same
      have foreign : ¬IsWritten platform secret history envelope.payload := by
        rintro ⟨other, -, -, sameOther⟩
        exact body_ne_snapshot other.typed body sameOther
      have unset : resolveMaxAgeSeconds call.env = .unset := by
        have current := accepted.current
        simp only [isCurrent, carried] at current
        exact of_decide_eq_true current
      simp [foreign, unset]

/-! ### A written snapshot and an enveloped one -/

def textField (name value : String) : JsString × Json := (js name, .str (js value))

def sampleSnapshot : Fields :=
  [(js "release", .obj [textField "componentId" "gateway", textField "version" "1.2.0",
      textField "root" "root-abc", textField "uriHash" "uri-123", textField "metaHash" "meta-456",
      textField "publishedAt" "2026-04-09T00:00:00Z"]),
    (js "policy", .obj [textField "activeRoot" "root-abc",
      textField "activePolicyHash" "policy-789", (js "paused", .bool false),
      (js "maxCheckInAgeSec", .num (.ofInt 3600))]),
    (js "authority", .obj [textField "root" "sig-root", textField "upgrade" "sig-upgrade",
      textField "emergency" "sig-emergency", textField "reporter" "sig-reporter",
      (js "signatureRefs", .arr [.str (js "sig-root"), .str (js "sig-upgrade")])]),
    (js "audit", .obj [(js "seqFrom", .num (.ofInt 1)), (js "seqTo", .num (.ofInt 2)),
      textField "merkleRoot" "merkle-xyz", textField "metaHash" "audit-meta",
      textField "reporterRef" "sig-reporter", textField "acceptedAt" "2026-04-09T00:00:00Z"])]

/-- The snapshot written under `secret-123` without a maximum age. -/
def sampleWrite : SnapshotWrite where
  env := fun _ => none
  snapshot := sampleSnapshot
  path := some (js "checkpoint.json")
  secret := some (js "secret-123")
  now := 1700000000000
  typed := by
    intro name member
    simp only [List.mem_cons, List.not_mem_nil, or_false] at member
    rcases member with rfl | rfl | rfl | rfl
    all_goals exact ⟨_, rfl⟩

def sampleText : JsString := (Json.obj (writtenBody sampleWrite.toWriteCall)).canonical.stringify

/-- The HMAC-SHA256 of the sample text under `secret-123`. -/
def sampleTag : JsString :=
  js "c357de72af1ce1eb9ecea693933e01912614a34e81151c8f63e34239a8515acc"

/-- A platform that reads one file and knows one tag. -/
def samplePlatform (raw : JsString) (file : Fields) : Platform where
  parseJson := fun text =>
    if text = raw then .ok (.obj file) else .error (js "Unexpected token")
  hmacSha256 := fun _ text => if text = sampleText then sampleTag else List.replicate 64 48

/-- A read of a file under `secret-123` without a maximum age, a minute after the write. -/
def sampleRead (raw : JsString) : ReadCall where
  env := fun _ => none
  path := some (js "checkpoint.json")
  secret := some (js "secret-123")
  file := .content raw
  now := 1700000060000

/-- The envelope the write puts into its file. -/
def writtenEnvelope : Fields :=
  sortByKey (canonicalFields
    (envelopeFields sampleSnapshot sampleTag (checkpointMetadata (fun _ => none) 1700000000000)))

def writtenRaw : JsString := (Json.obj writtenEnvelope).stringify ++ [10]

/-- The written body as the payload of an envelope without metadata, under the
signature it was written with. -/
def legacyEnvelope : Fields :=
  [(js "algorithm", algorithm), (js "payload", .obj (writtenBody sampleWrite.toWriteCall)),
    (js "signature", .str sampleTag)]

def legacyRaw : JsString := (Json.obj legacyEnvelope).stringify

private theorem sample_read (platform : Platform) (raw : JsString) :
    readIntegrityCheckpoint platform (sampleRead raw) =
      readContent platform (fun _ => none) (js "secret-123") raw 1700000060000 := rfl

set_option maxRecDepth 2000 in
private theorem sample_wrote (raw : JsString) (file : Fields) :
    Wrote (samplePlatform raw file) (js "secret-123") sampleWrite.toWriteCall :=
  ⟨rfl, _, rfl⟩

private theorem sample_tag (raw : JsString) (file : Fields) :
    (samplePlatform raw file).hmacSha256 (js "secret-123") sampleText = sampleTag := by
  simp [samplePlatform]

/-- A file whose signature is the sample tag is unforged. -/
private theorem sample_unforged {raw : JsString} {file : Fields}
    {envelope : IntegrityCheckpointEnvelope}
    (parsed : parseEnvelope (samplePlatform raw file) raw = .ok envelope)
    (signature : envelope.signature = sampleTag) :
    Unforged (samplePlatform raw file) (js "secret-123") [sampleWrite] raw := by
  intro other text otherParsed _ matched
  obtain rfl : envelope = other := by
    rw [parsed] at otherParsed
    exact Except.ok.inj otherParsed
  by_cases isSample : text = sampleText
  · subst isSample
    refine ⟨sampleWrite, List.mem_singleton_self _, sample_wrote raw file, ?_⟩
    exact canonicalizeJson_eq_ok.mpr ⟨rfl, rfl⟩
  · have tag : (samplePlatform raw file).hmacSha256 (js "secret-123") text =
        List.replicate 64 48 := if_neg isSample
    rw [signature, tag] at matched
    exact absurd matched (by decide +kernel)

private theorem written_parsed (raw : JsString) :
    parseEnvelope (samplePlatform raw writtenEnvelope) raw = .ok
      { payload := sortByKey (canonicalFields sampleSnapshot), signature := sampleTag,
        metadata := some [(js "writtenAt", .num (.ofInt ((1700000000000 : Nat) : Int)))] } := by
  have file : (samplePlatform raw writtenEnvelope).parseJson raw = .ok (.obj writtenEnvelope) :=
    if_pos rfl
  unfold parseEnvelope
  rw [file]
  rfl

private theorem written_read (raw : JsString) :
    readIntegrityCheckpoint (samplePlatform raw writtenEnvelope) (sampleRead raw) =
      .ok (some (sortByKey (canonicalFields sampleSnapshot))) := by
  rw [sample_read]
  apply readContent_eq_some.mpr
  refine ⟨_, ⟨written_parsed raw, by decide, ⟨sampleText, ?_, ?_⟩, ?_⟩, rfl⟩
  · have sorted : (Json.obj (signedFields
        { payload := sortByKey (canonicalFields sampleSnapshot), signature := sampleTag,
          metadata := some [(js "writtenAt", .num (.ofInt ((1700000000000 : Nat) : Int)))] })).canonical =
          (Json.obj (writtenBody sampleWrite.toWriteCall)).canonical := rfl
    exact canonicalizeJson_eq_ok.mpr ⟨rfl, congrArg Json.stringify sorted⟩
  · rw [sample_tag]
    decide +kernel
  · exact isFresh_unlimited (by omega) (by omega)

theorem checkpoint_authentic_sample :
    ∃ value, readIntegrityCheckpoint (samplePlatform writtenRaw writtenEnvelope)
        (sampleRead writtenRaw) = .ok (some value) ∧
      (IsWritten (samplePlatform writtenRaw writtenEnvelope) (js "secret-123") [sampleWrite]
          value ↔ CarriesMetadata (samplePlatform writtenRaw writtenEnvelope) writtenRaw) ∧
      (resolveMaxAgeSeconds (sampleRead writtenRaw).env ≠ .unset →
        CarriesMetadata (samplePlatform writtenRaw writtenEnvelope) writtenRaw) :=
  ⟨_, written_read writtenRaw, @checkpoint_authentic_iff _ (js "secret-123") writtenRaw
    [sampleWrite] (sampleRead writtenRaw) _ rfl rfl
    (sample_unforged (written_parsed writtenRaw) rfl) (written_read writtenRaw)⟩

private theorem legacy_parsed (raw : JsString) :
    parseEnvelope (samplePlatform raw legacyEnvelope) raw = .ok
      { payload := writtenBody sampleWrite.toWriteCall, signature := sampleTag,
        metadata := none } := by
  have file : (samplePlatform raw legacyEnvelope).parseJson raw = .ok (.obj legacyEnvelope) :=
    if_pos rfl
  unfold parseEnvelope
  rw [file]
  rfl

private theorem legacy_read (raw : JsString) :
    readIntegrityCheckpoint (samplePlatform raw legacyEnvelope) (sampleRead raw) =
      .ok (some (writtenBody sampleWrite.toWriteCall)) := by
  rw [sample_read]
  apply readContent_eq_some.mpr
  refine ⟨_, ⟨legacy_parsed raw, by decide, ⟨sampleText, ?_, ?_⟩, rfl⟩, rfl⟩
  · exact canonicalizeJson_eq_ok.mpr ⟨rfl, rfl⟩
  · rw [sample_tag]
    decide +kernel

/-- A written body is read back as a snapshot. -/
theorem written_body_accepted :
    ¬∀ (platform : Platform) (secret raw : JsString) (history : List SnapshotWrite)
        (call : ReadCall) (value : Fields),
      resolveSecret call.env call.secret = some secret → call.file = .content raw →
      Unforged platform secret history raw →
      readIntegrityCheckpoint platform call = .ok (some value) →
      IsWritten platform secret history value := by
  intro claim
  obtain ⟨written, member, -, same⟩ := claim (samplePlatform legacyRaw legacyEnvelope)
    (js "secret-123") legacyRaw [sampleWrite] (sampleRead legacyRaw) _ rfl rfl
    (sample_unforged (legacy_parsed legacyRaw) rfl) (legacy_read legacyRaw)
  obtain rfl := List.mem_singleton.mp member
  have release := congrArg Option.isSome (same.get (js "release"))
  exact absurd release (by decide +kernel)

end DarkmeshGateway.Gateway.CheckpointAuthenticity
