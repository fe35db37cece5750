import DarkmeshGateway.AsyncWorker.DomainState

/-!
Contract: what holds of a domain's entry over any run of refreshes and probes.

Owns the run of outcomes from no entry, the invariant that ties the status to
the routing fields and to hard expiry, and the laws of every transition of a
run: what a live status promises, when an entry dies, and that only a successful
refresh raises the status.

A thrown error needs a host that cannot be normalised and no entry, and leaves
no entry.

Does not own the persisted record of an entry or the scheduling of refreshes.
-/

namespace DarkmeshGateway.AsyncWorker.DomainInvariant

open Foundation.Js
open AsyncWorker.DomainMap
open AsyncWorker.DomainState

/-! ### Runs -/

/-- An outcome that is applied to the entry of a domain. -/
inductive Operation where
  | refresh (outcome : DomainRefreshOutcome) (options : DomainStateMachineOptions)
  | probe (outcome : DomainProbeOutcome)

def Operation.IsRefreshSuccess : Operation → Prop
  | .refresh (.success _) _ => True
  | _ => False

def Operation.IsFailure : Operation → Prop
  | .refresh (.failure _) _ => True
  | .probe (.failure _) => True
  | _ => False

structure Event where
  operation : Operation
  host : JsString
  nowMs : Int

def Event.apply (current : Option DomainMapEntry) (event : Event) : Option DomainMapEntry :=
  match event.operation with
  | .refresh outcome options => applyRefreshOutcome current outcome event.host event.nowMs options
  | .probe outcome => applyProbeOutcome current outcome event.host event.nowMs

/-- The entry after a sequence of events, from no entry. -/
def run (events : List Event) : Option DomainMapEntry := events.foldl Event.apply none

/-- A success names what it routes to, and the stale window is not negative. -/
def Operation.Proper : Operation → Prop
  | .refresh (.success outcome) options =>
      outcome.cfgTx ≠ [] ∧ outcome.resolvedTarget ≠ [] ∧ 0 ≤ options.staleIfErrorMs
  | .refresh (.failure _) options => 0 ≤ options.staleIfErrorMs
  | .probe _ => True

/-- Proper outcomes at times that never go back. -/
structure Legal (events : List Event) : Prop where
  proper : ∀ event ∈ events, event.operation.Proper
  ordered : events.Pairwise fun earlier later => earlier.nowMs ≤ later.nowMs

/-! ### The invariant -/

/-- What an entry that is not invalid has. -/
structure Routed (entry : DomainMapEntry) : Prop where
  cfgTx : ∃ cfgTx, entry.cfgTx = some cfgTx ∧ cfgTx ≠ []
  resolvedTarget : ∃ target, entry.resolvedTarget = some target ∧ target ≠ []
  expiry : ∃ expiresAt hardExpiresAt, entry.expiresAt = some expiresAt ∧
    entry.hardExpiresAt = some hardExpiresAt ∧
    expiresAt.toDouble.le hardExpiresAt.toDouble = true

/-- A live entry is routed. A dead one cannot be served stale at this time, nor
at any later one. -/
structure Coherent (entry : DomainMapEntry) (nowMs : Int) : Prop where
  live : entry.status ≠ .invalid → Routed entry
  dead : entry.status = .invalid → canUseStaleIfError entry nowMs = false

/-- Two entries agree on the fields the invariant reads. -/
structure SameLife (left right : DomainMapEntry) : Prop where
  status : left.status = right.status
  cfgTx : left.cfgTx = right.cfgTx
  resolvedTarget : left.resolvedTarget = right.resolvedTarget
  expiresAt : left.expiresAt = right.expiresAt
  hardExpiresAt : left.hardExpiresAt = right.hardExpiresAt

theorem canUseStaleIfError_congr {left right : DomainMapEntry} (cfgTx : left.cfgTx = right.cfgTx)
    (resolvedTarget : left.resolvedTarget = right.resolvedTarget)
    (hardExpiresAt : left.hardExpiresAt = right.hardExpiresAt) (nowMs : Int) :
    canUseStaleIfError left nowMs = canUseStaleIfError right nowMs := by
  rw [canUseStaleIfError, canUseStaleIfError, hasServeableTarget, hasServeableTarget, cfgTx,
    resolvedTarget, hardExpiresAt]

theorem Routed.congr {left right : DomainMapEntry} (cfgTx : left.cfgTx = right.cfgTx)
    (resolvedTarget : left.resolvedTarget = right.resolvedTarget)
    (expiresAt : left.expiresAt = right.expiresAt)
    (hardExpiresAt : left.hardExpiresAt = right.hardExpiresAt) (routed : Routed right) :
    Routed left :=
  ⟨cfgTx ▸ routed.cfgTx, resolvedTarget ▸ routed.resolvedTarget,
    expiresAt ▸ hardExpiresAt ▸ routed.expiry⟩

theorem Coherent.congr {left right : DomainMapEntry} {nowMs : Int} (same : SameLife left right)
    (coherent : Coherent right nowMs) : Coherent left nowMs := by
  constructor
  · intro alive
    have routed := coherent.live (same.status ▸ alive)
    exact routed.congr same.cfgTx same.resolvedTarget same.expiresAt same.hardExpiresAt
  · intro invalid
    rw [canUseStaleIfError_congr same.cfgTx same.resolvedTarget same.hardExpiresAt]
    exact coherent.dead (same.status ▸ invalid)

/-! ### Time -/

/-- A time that is past a double stays past it. -/
theorem lt_finite_later {value : Double} {nowMs later : Int} (ordered : nowMs ≤ later)
    (past : value.lt (.finite nowMs) = true) : value.lt (.finite later) = true := by
  cases value with
  | nan => simp [Double.lt] at past
  | infinity negative => cases negative <;> simp [Double.lt] at past ⊢
  | finite bound =>
      simp only [Double.lt, decide_eq_true_eq] at past ⊢
      exact past.trans_le (by exact_mod_cast ordered)

/-- An entry that cannot be served stale cannot be later. -/
theorem canUseStaleIfError_later {entry : DomainMapEntry} {nowMs later : Int}
    (ordered : nowMs ≤ later) (unusable : canUseStaleIfError entry nowMs = false) :
    canUseStaleIfError entry later = false := by
  unfold canUseStaleIfError at unusable ⊢
  cases serveable : hasServeableTarget entry with
  | false => rfl
  | true =>
      cases expiry : entry.hardExpiresAt with
      | none => rfl
      | some hardExpiresAt =>
          simp only [serveable, expiry, Option.any_some, Bool.true_and, Bool.not_eq_false']
            at unusable ⊢
          exact lt_finite_later ordered unusable

theorem Coherent.later {entry : DomainMapEntry} {nowMs later : Int} (ordered : nowMs ≤ later)
    (coherent : Coherent entry nowMs) : Coherent entry later :=
  ⟨coherent.live, fun invalid => canUseStaleIfError_later ordered (coherent.dead invalid)⟩

/-- Past its hard expiry an entry cannot be served stale. -/
theorem canUseStaleIfError_expired {entry : DomainMapEntry} {nowMs : Int}
    (expired : shouldInvalidate entry nowMs = true) : canUseStaleIfError entry nowMs = false := by
  unfold shouldInvalidate at expired
  unfold canUseStaleIfError
  cases expiry : entry.hardExpiresAt with
  | none => simp
  | some hardExpiresAt =>
      rw [expiry, Option.any_some] at expired
      simp [expired]

/-! ### Transitions -/

/-- Invalid, then stale, then valid. -/
def rank : DomainMapStatus → Nat
  | .invalid => 0
  | .stale => 1
  | .valid => 2

theorem applyHardExpiry_of_live {entry : DomainMapEntry} {nowMs : Int}
    (live : shouldInvalidate entry nowMs = false) : applyHardExpiry entry nowMs = entry := by
  simp [applyHardExpiry, live]

theorem applyHardExpiry_of_expired {entry : DomainMapEntry} {nowMs : Int}
    (expired : shouldInvalidate entry nowMs = true) :
    (applyHardExpiry entry nowMs).status = .invalid := by
  simp [applyHardExpiry, expired]

theorem applyHardExpiry_rank (entry : DomainMapEntry) (nowMs : Int) :
    rank (applyHardExpiry entry nowMs).status ≤ rank entry.status := by
  cases expired : shouldInvalidate entry nowMs with
  | false => rw [applyHardExpiry_of_live expired]
  | true =>
      rw [applyHardExpiry_of_expired expired]
      exact Nat.zero_le _

theorem shouldInvalidate_applyHardExpiry (entry : DomainMapEntry) (nowMs : Int) :
    shouldInvalidate (applyHardExpiry entry nowMs) nowMs = shouldInvalidate entry nowMs := by
  unfold applyHardExpiry
  split <;> rfl

theorem Coherent.applyHardExpiry {entry : DomainMapEntry} {nowMs : Int}
    (coherent : Coherent entry nowMs) : Coherent (applyHardExpiry entry nowMs) nowMs := by
  cases expired : shouldInvalidate entry nowMs with
  | false =>
      rw [applyHardExpiry_of_live expired]
      exact coherent
  | true =>
      have invalid := applyHardExpiry_of_expired expired
      constructor
      · intro alive
        exact absurd invalid alive
      · intro _
        apply canUseStaleIfError_expired
        rw [shouldInvalidate_applyHardExpiry, expired]

theorem coherent_emptyEntry (host : JsString) (createdAt nowMs : Int) :
    Coherent (emptyEntry host createdAt) nowMs :=
  ⟨fun alive => absurd rfl alive, fun _ => rfl⟩

/-- The grace of a success starts where its lifetime ends. -/
theorem coherent_succeed {outcome : DomainRefreshSuccess} {options : DomainStateMachineOptions}
    (cfgTx : outcome.cfgTx ≠ []) (target : outcome.resolvedTarget ≠ [])
    (grace : 0 ≤ options.staleIfErrorMs) (entry : DomainMapEntry) (nowMs : Int) :
    Coherent (succeed entry outcome nowMs options) nowMs := by
  have ordered : nowMs + clampTtl outcome.ttlMs options ≤
      nowMs + clampTtl outcome.ttlMs options + options.staleIfErrorMs := by omega
  constructor
  · intro _
    exact ⟨⟨_, rfl, cfgTx⟩, ⟨_, rfl, target⟩, ⟨_, _, rfl, rfl, Number.toDouble_ofInt_mono ordered⟩⟩
  · intro invalid
    cases invalid

/-- An error leaves an entry stale only where it was live. -/
theorem Coherent.recordError {entry : DomainMapEntry} {nowMs : Int}
    (coherent : Coherent entry nowMs) (error : OutcomeError) :
    Coherent (recordError entry error nowMs) nowMs := by
  have usable : canUseStaleIfError (DomainState.recordError entry error nowMs) nowMs =
      canUseStaleIfError entry nowMs := rfl
  cases stale : canUseStaleIfError entry nowMs with
  | true =>
      have alive : entry.status ≠ .invalid := by
        intro invalid
        rw [coherent.dead invalid] at stale
        cases stale
      have routed := coherent.live alive
      have same := recordError_routing entry error nowMs
      constructor
      · intro _
        exact routed.congr same.cfgTx same.resolvedTarget rfl rfl
      · intro invalid
        simp [DomainState.recordError, withStatus, stale] at invalid
  | false =>
      constructor
      · intro alive
        simp [DomainState.recordError, withStatus, stale] at alive
      · intro _
        rw [usable, stale]

theorem recordError_rank {entry : DomainMapEntry} {nowMs : Int} (coherent : Coherent entry nowMs)
    (error : OutcomeError) : rank (recordError entry error nowMs).status ≤ rank entry.status := by
  cases stale : canUseStaleIfError entry nowMs with
  | true =>
      have alive : entry.status ≠ .invalid := by
        intro invalid
        rw [coherent.dead invalid] at stale
        cases stale
      simp only [recordError, withStatus, stale, if_true]
      cases status : entry.status with
      | invalid => exact absurd status alive
      | stale => exact le_rfl
      | valid => decide
  | false =>
      simp only [recordError, withStatus, stale, Bool.false_eq_true, if_false]
      exact Nat.zero_le _

theorem recordError_expired {entry : DomainMapEntry} {nowMs : Int}
    (expired : shouldInvalidate entry nowMs = true) (error : OutcomeError) :
    (recordError entry error nowMs).status = .invalid := by
  simp [recordError, withStatus, canUseStaleIfError_expired expired]

/-! ### One event -/

/-- The status a transition starts from; no entry counts as invalid. -/
def standing (current : Option DomainMapEntry) : DomainMapStatus :=
  current.elim .invalid DomainMapEntry.status

/-- The time is past the hard expiry of the entry. -/
def Expired (current : Option DomainMapEntry) (nowMs : Int) : Prop :=
  ∃ entry hardExpiresAt, current = some entry ∧ entry.hardExpiresAt = some hardExpiresAt ∧
    hardExpiresAt.toDouble.lt (.finite nowMs) = true

/-- What a transition starts from is coherent, no higher than the entry before
it, and invalid past the hard expiry. -/
theorem startingEntry_spec {current : Option DomainMapEntry} {host : JsString} {nowMs : Int}
    {entry : DomainMapEntry} (coherent : ∀ stored, current = some stored → Coherent stored nowMs)
    (starting : startingEntry current host nowMs = some entry) :
    Coherent entry nowMs ∧ rank entry.status ≤ rank (standing current) ∧
      (Expired current nowMs → shouldInvalidate entry nowMs = true ∧ entry.status = .invalid) := by
  cases current with
  | some stored =>
      cases starting
      refine ⟨(coherent stored rfl).applyHardExpiry, applyHardExpiry_rank stored nowMs, ?_⟩
      rintro ⟨_, hardExpiresAt, ⟨⟩, expiry, past⟩
      have expired : shouldInvalidate stored nowMs = true := by
        rw [shouldInvalidate, expiry, Option.any_some, past]
      rw [shouldInvalidate_applyHardExpiry]
      exact ⟨expired, applyHardExpiry_of_expired expired⟩
  | none =>
      obtain ⟨empty, created, rfl⟩ := Option.map_eq_some_iff.mp starting
      obtain ⟨normal, -, rfl⟩ := Option.map_eq_some_iff.mp created
      have fresh := coherent_emptyEntry normal nowMs nowMs
      refine ⟨fresh.applyHardExpiry, applyHardExpiry_rank _ nowMs, ?_⟩
      rintro ⟨_, _, ⟨⟩, _⟩

/-- The laws of a transition from an entry to the next one. -/
structure Lawful (current : Option DomainMapEntry) (event : Event) (next : DomainMapEntry) :
    Prop where
  live : next.status ≠ .invalid → Routed next
  expired : Expired current event.nowMs → ¬event.operation.IsRefreshSuccess →
    next.status = .invalid
  failed : event.operation.IsFailure → rank next.status ≤ rank (standing current)
  revived : next.status = .valid → standing current ≠ .valid → event.operation.IsRefreshSuccess

/-- A transition that neither raises the status nor outlives the hard expiry. -/
theorem Lawful.of_lower {current : Option DomainMapEntry} {event : Event} {next : DomainMapEntry}
    (coherent : Coherent next event.nowMs) (lower : rank next.status ≤ rank (standing current))
    (expired : Expired current event.nowMs → next.status = .invalid) :
    Lawful current event next := by
  refine ⟨coherent.live, fun past _ => expired past, fun _ => lower, ?_⟩
  intro valid notValid
  rw [valid] at lower
  cases before : standing current with
  | valid => exact absurd before notValid
  | stale => rw [before] at lower; simp [rank] at lower
  | invalid => rw [before] at lower; simp [rank] at lower

/-- What one event does to a coherent entry. -/
theorem apply_lawful {current : Option DomainMapEntry} {event : Event} {next : DomainMapEntry}
    (coherent : ∀ stored, current = some stored → Coherent stored event.nowMs)
    (proper : event.operation.Proper) (applied : event.apply current = some next) :
    Coherent next event.nowMs ∧ Lawful current event next := by
  obtain ⟨operation, host, nowMs⟩ := event
  cases operation with
  | refresh outcome options =>
      obtain ⟨entry, starting, rfl⟩ := Option.map_eq_some_iff.mp applied
      obtain ⟨started, lower, dies⟩ := startingEntry_spec coherent starting
      cases outcome with
      | success outcome =>
          obtain ⟨cfgTx, target, grace⟩ := proper
          have succeeded := coherent_succeed cfgTx target grace entry nowMs
          exact ⟨succeeded, succeeded.live, fun _ failed => absurd trivial failed,
            fun impossible => impossible.elim, fun _ _ => trivial⟩
      | failure error =>
          have same : SameLife { recordError entry error nowMs with
              refreshAttempts := nextAttempt entry.refreshAttempts }
              (recordError entry error nowMs) := ⟨rfl, rfl, rfl, rfl, rfl⟩
          have recorded := (started.recordError error).congr same
          have noHigher := (recordError_rank started error).trans lower
          exact ⟨recorded, .of_lower recorded noHigher fun past =>
            recordError_expired (dies past).1 error⟩
  | probe outcome =>
      obtain ⟨entry, starting, rfl⟩ := Option.map_eq_some_iff.mp applied
      obtain ⟨started, lower, dies⟩ := startingEntry_spec coherent starting
      cases outcome with
      | success =>
          dsimp only
          split
          · have same : SameLife { entry with
                hbVerifiedAt := some (.ofInt nowMs), updatedAt := .ofInt nowMs } entry :=
              ⟨rfl, rfl, rfl, rfl, rfl⟩
            have probed := started.congr same
            exact ⟨probed, .of_lower probed lower fun past => (dies past).2⟩
          · have same : SameLife { entry with
                hbVerifiedAt := some (.ofInt nowMs)
                lastError := none
                lastErrorAt := none
                lastErrorCode := none
                updatedAt := .ofInt nowMs } entry := ⟨rfl, rfl, rfl, rfl, rfl⟩
            have probed := started.congr same
            exact ⟨probed, .of_lower probed lower fun past => (dies past).2⟩
      | failure error =>
          have recorded := started.recordError error
          have noHigher := (recordError_rank started error).trans lower
          exact ⟨recorded, .of_lower recorded noHigher fun past =>
            recordError_expired (dies past).1 error⟩

/-! ### Every run -/

theorem run_append (events : List Event) (event : Event) :
    run (events ++ [event]) = event.apply (run events) := by
  simp [run]

theorem Legal.start {events : List Event} {event : Event} (legal : Legal (events ++ [event])) :
    Legal events :=
  ⟨fun earlier member => legal.proper earlier (List.mem_append_left _ member),
    (List.pairwise_append.mp legal.ordered).1⟩

/-- Every event of a legal run is no later than its last one. -/
theorem Legal.last {events : List Event} {event : Event} (legal : Legal (events ++ [event])) :
    ∀ earlier ∈ events, earlier.nowMs ≤ event.nowMs := by
  intro earlier member
  exact (List.pairwise_append.mp legal.ordered).2.2 earlier member event (by simp)

/-- The entry a legal run ends with is coherent from the last event on. -/
theorem run_coherent {events : List Event} (legal : Legal events) {nowMs : Int}
    (ordered : ∀ event ∈ events, event.nowMs ≤ nowMs) :
    ∀ entry, run events = some entry → Coherent entry nowMs := by
  induction events using List.reverseRecOn generalizing nowMs with
  | nil =>
      intro entry ran
      cases ran
  | append_singleton events event inductionHypothesis =>
      intro entry ran
      rw [run_append] at ran
      have before := inductionHypothesis legal.start legal.last
      have proper := legal.proper event (by simp)
      have after := (apply_lawful before proper ran).1
      exact after.later (ordered event (by simp))

/-- In every legal run every transition is lawful: a live entry is routed and
expires before its grace ends, only a successful refresh survives the hard
expiry, a failure never raises the status, and only a successful refresh makes
an entry valid. -/
theorem transitions_lawful {events : List Event} {event : Event} {next : DomainMapEntry}
    (legal : Legal (events ++ [event])) (applied : run (events ++ [event]) = some next) :
    Lawful (run events) event next := by
  rw [run_append] at applied
  have before := run_coherent legal.start legal.last
  exact (apply_lawful before (legal.proper event (by simp)) applied).2

private def pinned : Event where
  operation := .refresh (.success ⟨js "cfg", js "https://target", 60000, none, none, none⟩) {}
  host := js "site.example"
  nowMs := 1000

private def unreachable : Event where
  operation := .probe (.failure (.text (js "timeout")))
  host := js "site.example"
  nowMs := 90000

/-- A success followed by a failed probe. -/
theorem transitions_lawful_fixture :
    ∃ next, run ([pinned] ++ [unreachable]) = some next ∧
      Lawful (run [pinned]) unreachable next := by
  have legal : Legal ([pinned] ++ [unreachable]) := by
    constructor
    · simp [pinned, unreachable, Operation.Proper, js]
    · simp [pinned, unreachable]
  exact ⟨_, rfl, transitions_lawful legal rfl⟩

end DarkmeshGateway.AsyncWorker.DomainInvariant
