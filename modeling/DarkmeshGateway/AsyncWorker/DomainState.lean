import DarkmeshGateway.AsyncWorker.DomainMap

/-!
Contract: the transitions of a domain map entry.

Owns hard expiry, the outcomes of a refresh and of a probe, and what each
transition does to the routing fields of an entry.

Does not own the scheduling of refreshes.
-/

namespace DarkmeshGateway.AsyncWorker.DomainState

open Foundation.Js
open AsyncWorker.DomainMap

/-- The merged options, with their defaults. -/
structure DomainStateMachineOptions where
  staleIfErrorMs : Int := 300000
  minTtlMs : Int := 30000
  maxTtlMs : Int := 86400000

structure DomainRefreshSuccess where
  cfgTx : JsString
  resolvedTarget : JsString
  ttlMs : Int
  writeProcess : Option JsString
  configHash : Option JsString
  hbVerifiedAt : Option Int

/-- An error given as a text, or as a record whose time may be missing. -/
inductive OutcomeError where
  | text (message : JsString)
  | record (code message : JsString) (at_ : Option Int)

inductive DomainRefreshOutcome where
  | success (outcome : DomainRefreshSuccess)
  | failure (error : OutcomeError)

inductive DomainProbeOutcome where
  | success
  | failure (error : OutcomeError)

def clampTtl (ttlMs : Int) (options : DomainStateMachineOptions) : Int :=
  max options.minTtlMs (min ttlMs options.maxTtlMs)

/-- `value || fallback`. -/
def orText (value : JsString) (fallback : String) : JsString :=
  if value = [] then js fallback else value

def asError (error : OutcomeError) (at_ : Int) : DomainMapError :=
  match error with
  | .text message => ⟨js "error", message, .ofInt at_⟩
  | .record code message time =>
      ⟨orText code "error", orText message "unknown_error", .ofInt (time.getD at_)⟩

def shouldInvalidate (entry : DomainMapEntry) (nowMs : Int) : Bool :=
  entry.hardExpiresAt.any fun hardExpiresAt => hardExpiresAt.toDouble.lt (.finite nowMs)

def hasServeableTarget (entry : DomainMapEntry) : Bool :=
  entry.cfgTx.any (· ≠ []) && entry.resolvedTarget.any (· ≠ [])

def canUseStaleIfError (entry : DomainMapEntry) (nowMs : Int) : Bool :=
  hasServeableTarget entry &&
    entry.hardExpiresAt.any fun hardExpiresAt => !hardExpiresAt.toDouble.lt (.finite nowMs)

def withStatus (entry : DomainMapEntry) (status : DomainMapStatus) (nowMs : Int) : DomainMapEntry :=
  { entry with status, updatedAt := .ofInt nowMs }

def applyHardExpiry (entry : DomainMapEntry) (nowMs : Int) : DomainMapEntry :=
  if !shouldInvalidate entry nowMs then entry
  else
    { entry with
      status := .invalid
      lastErrorCode := some (entry.lastErrorCode.getD (js "hard_expired"))
      updatedAt := .ofInt nowMs }

/-- The entry a transition starts from; `none` is a thrown error. -/
def startingEntry (current : Option DomainMapEntry) (host : JsString) (nowMs : Int) :
    Option DomainMapEntry :=
  (current.or (createEmptyDomainMapEntry host nowMs)).map (applyHardExpiry · nowMs)

/-- `refreshAttempts + 1`. -/
def nextAttempt (attempts : Nat) : Nat := nearestDouble (attempts + 1)

/-- The entry after a successful refresh. -/
def succeed (entry : DomainMapEntry) (outcome : DomainRefreshSuccess) (nowMs : Int)
    (options : DomainStateMachineOptions) : DomainMapEntry :=
  let expiresAt := nowMs + clampTtl outcome.ttlMs options
  { entry with
    status := .valid
    cfgTx := some outcome.cfgTx
    resolvedTarget := some outcome.resolvedTarget
    writeProcess := outcome.writeProcess.or entry.writeProcess
    configHash := outcome.configHash.or entry.configHash
    verifiedAt := some (.ofInt nowMs)
    expiresAt := some (.ofInt expiresAt)
    hbVerifiedAt := (outcome.hbVerifiedAt.map Number.ofInt).or entry.hbVerifiedAt
    hardExpiresAt := some (.ofInt (expiresAt + options.staleIfErrorMs))
    lastError := none
    lastSuccessAt := some (.ofInt nowMs)
    lastErrorAt := none
    lastErrorCode := none
    refreshAttempts := 0
    updatedAt := .ofInt nowMs }

/-- The entry after an error: stale while it may still be served, else invalid. -/
def recordError (entry : DomainMapEntry) (error : OutcomeError) (nowMs : Int) : DomainMapEntry :=
  let lastError := asError error nowMs
  let status := if canUseStaleIfError entry nowMs then DomainMapStatus.stale else .invalid
  { withStatus entry status nowMs with
    lastError := some lastError
    lastErrorAt := some (.ofInt nowMs)
    lastErrorCode := some lastError.code }

def applyRefreshOutcome (current : Option DomainMapEntry) (outcome : DomainRefreshOutcome)
    (host : JsString) (nowMs : Int) (options : DomainStateMachineOptions) :
    Option DomainMapEntry :=
  (startingEntry current host nowMs).map fun entry =>
    match outcome with
    | .success outcome => succeed entry outcome nowMs options
    | .failure error =>
        { recordError entry error nowMs with refreshAttempts := nextAttempt entry.refreshAttempts }

def applyProbeOutcome (current : Option DomainMapEntry) (outcome : DomainProbeOutcome)
    (host : JsString) (nowMs : Int) : Option DomainMapEntry :=
  (startingEntry current host nowMs).map fun entry =>
    match outcome with
    | .success =>
        if entry.status = .invalid then
          { entry with hbVerifiedAt := some (.ofInt nowMs), updatedAt := .ofInt nowMs }
        else
          { entry with
            hbVerifiedAt := some (.ofInt nowMs)
            lastError := none
            lastErrorAt := none
            lastErrorCode := none
            updatedAt := .ofInt nowMs }
    | .failure error => recordError entry error nowMs

/-! ### What a transition keeps -/

/-- Two entries agree on the version, the host and the routing fields. -/
structure SameRouting (left right : DomainMapEntry) : Prop where
  schemaVersion : left.schemaVersion = right.schemaVersion
  host : left.host = right.host
  cfgTx : left.cfgTx = right.cfgTx
  resolvedTarget : left.resolvedTarget = right.resolvedTarget
  writeProcess : left.writeProcess = right.writeProcess
  configHash : left.configHash = right.configHash

theorem applyHardExpiry_routing (entry : DomainMapEntry) (nowMs : Int) :
    SameRouting (applyHardExpiry entry nowMs) entry := by
  unfold applyHardExpiry
  split
  · exact ⟨rfl, rfl, rfl, rfl, rfl, rfl⟩
  · exact ⟨rfl, rfl, rfl, rfl, rfl, rfl⟩

theorem recordError_routing (entry : DomainMapEntry) (error : OutcomeError) (nowMs : Int) :
    SameRouting (recordError entry error nowMs) entry :=
  ⟨rfl, rfl, rfl, rfl, rfl, rfl⟩

/-- An error never makes an entry valid. -/
theorem recordError_status (entry : DomainMapEntry) (error : OutcomeError) (nowMs : Int) :
    (recordError entry error nowMs).status ≠ .valid := by
  simp only [recordError, withStatus]
  split <;> simp

/-- A failed refresh never leaves a valid entry. -/
theorem applyRefreshOutcome_failure {current : Option DomainMapEntry} {error : OutcomeError}
    {host : JsString} {nowMs : Int} {options : DomainStateMachineOptions} {next : DomainMapEntry}
    (applied : applyRefreshOutcome current (.failure error) host nowMs options = some next) :
    next.status ≠ .valid := by
  obtain ⟨entry, -, rfl⟩ := Option.map_eq_some_iff.mp applied
  exact recordError_status entry error nowMs

end DarkmeshGateway.AsyncWorker.DomainState
