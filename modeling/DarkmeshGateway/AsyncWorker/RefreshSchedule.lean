import DarkmeshGateway.Foundation.Js.Double
import DarkmeshGateway.AsyncWorker.DomainState

/-!
Contract: when the entry of a domain is refreshed next.

Owns the refresh plan of an entry, the jitter a host adds to it, and for which
entries, hosts and times the refresh comes before the entry expires.

Does not own the transitions of entries or the loop that refreshes them.
-/

namespace DarkmeshGateway.AsyncWorker.RefreshSchedule

open Foundation.Js
open AsyncWorker.DomainMap
open AsyncWorker.DomainState

/-! ### Plans -/

inductive RefreshScheduleReason where
  | initial
  | validRefresh
  | staleRetry
  | invalidRetry
  | hardExpired
deriving DecidableEq

/-- The merged options, with their defaults. -/
structure DomainRefreshSchedulingOptions where
  validLeadMs : Double := .finite 30000
  staleRetryMs : Double := .finite 15000
  invalidRetryMs : Double := .finite 30000
  jitterRatio : Double := .ofRat (1 / 10)

structure DomainRefreshSchedulingHint where
  reason : RefreshScheduleReason
  baseRefreshAt : Double
  nextRefreshAt : Double
  jitterOffsetMs : Double
  isDue : Bool

def getBaseRefreshPlan (current : Option DomainMapEntry) (nowMs : Int)
    (options : DomainRefreshSchedulingOptions) : RefreshScheduleReason × Double :=
  let now := Double.finite nowMs
  match current with
  | none => (.initial, now)
  | some current =>
      let entry := applyHardExpiry current nowMs
      match entry.status with
      | .valid =>
          match entry.expiresAt with
          | none => (.invalidRetry, now.add options.invalidRetryMs)
          | some expiresAt =>
              (.validRefresh, now.max (expiresAt.toDouble.sub options.validLeadMs))
      | .stale =>
          let staleAt := now.add options.staleRetryMs
          let cappedAt :=
            match entry.hardExpiresAt with
            | none => staleAt
            | some hardExpiresAt => staleAt.min hardExpiresAt.toDouble
          (if shouldInvalidate entry nowMs then .hardExpired else .staleRetry, cappedAt)
      | .invalid =>
          (if shouldInvalidate entry nowMs then .hardExpired else .invalidRetry,
            now.add options.invalidRetryMs)

/-- 32-bit FNV-1a, one step for each code unit. -/
def stableHash (input : JsString) : UInt32 :=
  input.foldl (fun hash unit => (hash ^^^ unit.toUInt32) * 16777619) 2166136261

/-- `stableHash(host) / 0xffffffff * 2 - 1`. -/
def signedFactor (host : JsString) : Double :=
  ((Double.ofRat ((stableHash host).toNat / 0xffffffff)).mul (.finite 2)).sub (.finite 1)

def computeJitterOffset (host : JsString) (windowMs : Double) : Double :=
  if windowMs.le (.finite 0) then .finite 0 else (windowMs.mul (signedFactor host)).round

def jitterWindowMs (base : Double) (nowMs : Int) (options : DomainRefreshSchedulingOptions) :
    Double :=
  let distance := Double.max (.finite 0) (base.sub (.finite nowMs))
  (distance.mul options.jitterRatio).floor

def computeRefreshSchedulingHint (current : Option DomainMapEntry) (host : JsString) (nowMs : Int)
    (options : DomainRefreshSchedulingOptions) : DomainRefreshSchedulingHint :=
  let plan := getBaseRefreshPlan current nowMs options
  let jitterOffsetMs := computeJitterOffset host (jitterWindowMs plan.2 nowMs options)
  let nextRefreshAt := Double.max (.finite nowMs) (plan.2.add jitterOffsetMs)
  { reason := plan.1
    baseRefreshAt := plan.2
    nextRefreshAt := nextRefreshAt
    jitterOffsetMs := jitterOffsetMs
    isDue := nextRefreshAt.le (.finite nowMs) }

/-! ### Refreshes in time -/

/-- The offset of a host under the default options, before it is rounded. -/
def swing (host : JsString) (nowMs : Int) (base : Double) : Double :=
  (jitterWindowMs base nowMs {}).mul (signedFactor host)

/-- A refresh planned at `base` comes no later than `last` with the offset of its
host. Below `2 ^ 52` the sums are exact, and the offset may be as large as the whole
milliseconds that lie between the two. -/
def OffsetFits (host : JsString) (nowMs : Int) (base last : Double) : Prop :=
  match base, last with
  | .finite baseAt, .finite lastAt =>
      if 0 ≤ nowMs ∧ lastAt < 2 ^ 52 then
        (swing host nowMs base).lt (.finite (⌊lastAt - baseAt⌋ + 1 / 2)) = true
      else (base.add (computeJitterOffset host (jitterWindowMs base nowMs {}))).le last = true
  | _, _ => (base.add (computeJitterOffset host (jitterWindowMs base nowMs {}))).le last = true

/-- When an entry is refreshed next under the default options. -/
def nextRefreshAt (entry : DomainMapEntry) (host : JsString) (nowMs : Int) : Double :=
  (computeRefreshSchedulingHint (some entry) host nowMs {}).nextRefreshAt

/-- A valid entry ahead of its lead time is refreshed by its expiry, a stale one by
its hard expiry. -/
structure OnTime (entry : DomainMapEntry) (host : JsString) (nowMs : Int) : Prop where
  valid : entry.status = .valid → ∀ expiresAt hardExpiresAt,
    entry.expiresAt = some expiresAt → entry.hardExpiresAt = some hardExpiresAt →
    expiresAt.toDouble.le hardExpiresAt.toDouble = true →
    (Double.finite nowMs).lt (expiresAt.toDouble.sub (.finite 30000)) = true →
      (Double.finite nowMs).le (nextRefreshAt entry host nowMs) = true ∧
        (nextRefreshAt entry host nowMs).le expiresAt.toDouble = true
  stale : entry.status = .stale → ∀ hardExpiresAt, entry.hardExpiresAt = some hardExpiresAt →
    (Double.finite nowMs).le hardExpiresAt.toDouble = true →
      (nextRefreshAt entry host nowMs).le hardExpiresAt.toDouble = true

/-- The offset fits behind the time a refresh is planned at: the lead time of a
valid entry, the retry time of a stale one, or its hard expiry when that is earlier. -/
structure Fits (entry : DomainMapEntry) (host : JsString) (nowMs : Int) : Prop where
  valid : entry.status = .valid → ∀ expiresAt hardExpiresAt,
    entry.expiresAt = some expiresAt → entry.hardExpiresAt = some hardExpiresAt →
    expiresAt.toDouble.le hardExpiresAt.toDouble = true →
    (Double.finite nowMs).lt (expiresAt.toDouble.sub (.finite 30000)) = true →
      OffsetFits host nowMs (expiresAt.toDouble.sub (.finite 30000)) expiresAt.toDouble
  stale : entry.status = .stale → ∀ hardExpiresAt, entry.hardExpiresAt = some hardExpiresAt →
    (Double.finite nowMs).le hardExpiresAt.toDouble = true →
      OffsetFits host nowMs
        (((Double.finite nowMs).add (.finite 15000)).min hardExpiresAt.toDouble)
        hardExpiresAt.toDouble

/-! ### Offsets -/

theorem signedFactor_finite (host : JsString) :
    ∃ factor, signedFactor host = .finite factor := by
  have hash : ((stableHash host).toNat : ℚ) ≤ 0xffffffff := by
    exact_mod_cast Nat.le_of_lt_succ (stableHash host).toNat_lt
  have low : ((0 : Int) : ℚ) ≤ ((stableHash host).toNat : ℚ) / 0xffffffff := by
    push_cast
    positivity
  have high : ((stableHash host).toNat : ℚ) / 0xffffffff ≤ (1 : Int) := by
    rw [div_le_iff₀ (by norm_num)]
    push_cast
    linarith
  obtain ⟨normalized, quotient, normalizedLow, normalizedHigh⟩ :=
    Double.ofRat_between (by decide) (by decide) low high
  push_cast at normalizedLow normalizedHigh
  obtain ⟨doubled, product, doubledLow, doubledHigh⟩ :=
    @Double.ofRat_between 0 2 (normalized * 2) (by decide) (by decide)
      (by push_cast; linarith) (by push_cast; linarith)
  push_cast at doubledLow doubledHigh
  obtain ⟨signed, difference, -, -⟩ :=
    @Double.ofRat_between (-1) 1 (doubled + -1) (by decide) (by decide)
      (by push_cast; linarith) (by push_cast; linarith)
  refine ⟨signed, ?_⟩
  rw [signedFactor, quotient]
  show (Double.ofRat (normalized * 2)).add _ = _
  rw [product]
  exact difference

/-- Rounding a sum keeps it to a bound that is a double, or on the wrong side of it. -/
private theorem ofRat_le_iff {base last : ℚ} {shift : Int} (nonneg : 0 ≤ last)
    (small : last < 2 ^ 52) (rounded : Double.ofRat last = .finite last)
    (aligned : (∃ whole : Int, base = whole) ∨ ∃ whole : Int, base = last - whole) :
    (Double.ofRat (base + shift)).le (.finite last) = true ↔ base + shift ≤ last := by
  constructor
  · intro below
    by_contra beyond
    -- Beyond the bound the sum reaches the next integer, which is exact.
    have next : ((⌊last⌋ + 1 : Int) : ℚ) ≤ base + shift := by
      rw [not_le] at beyond
      rcases aligned with ⟨whole, rfl⟩ | ⟨whole, rfl⟩
      · have later : ⌊last⌋ < whole + shift := Int.floor_lt.mpr (by exact_mod_cast beyond)
        exact_mod_cast later
      · have longer : (whole : ℚ) < shift := by linarith
        have step : ((whole + 1 : Int) : ℚ) ≤ shift := by exact_mod_cast longer
        push_cast at step ⊢
        linarith [Int.floor_le last]
    have nextSmall : |((⌊last⌋ + 1 : Int) : ℚ)| < 2 ^ (53 : Int) := by
      have floorNonneg : (0 : ℚ) ≤ ⌊last⌋ := by exact_mod_cast Int.floor_nonneg.mpr nonneg
      push_cast
      rw [abs_of_nonneg (by linarith)]
      have limits : (2 : ℚ) ^ 52 + 1 < 2 ^ (53 : Int) := by norm_num
      linarith [Int.floor_le last]
    have reached := Double.ofRat_mono next
    rw [Double.ofRat_small nextSmall, nearest_intCast nextSmall] at reached
    have above := (Double.finite_le _ _).mp (Double.le_trans reached below)
    push_cast at above
    linarith [Int.lt_floor_add_one last]
  · intro below
    exact rounded ▸ Double.ofRat_mono below

/-- A number with a rounded offset keeps to a bound if and only if the offset
rounds to at most the whole distance of the two. -/
theorem add_round_le_iff {base last : ℚ} {offset : Double} (number : offset ≠ .nan)
    (nonneg : 0 ≤ last) (small : last < 2 ^ 52) (rounded : Double.ofRat last = .finite last)
    (aligned : (∃ whole : Int, base = whole) ∨ ∃ whole : Int, base = last - whole) :
    ((Double.finite base).add offset.round).le (.finite last) = true ↔
      offset.lt (.finite (⌊last - base⌋ + 1 / 2)) = true := by
  cases offset with
  | nan => exact absurd rfl number
  | infinity negative => cases negative <;> simp [Double.round, Double.add, Double.le, Double.lt]
  | finite offset =>
      rw [Double.finite_lt]
      show (Double.ofRat (base + ⌊offset + 1 / 2⌋)).le (.finite last) = true ↔ _
      rw [ofRat_le_iff nonneg small rounded aligned]
      have floors : base + ⌊offset + 1 / 2⌋ ≤ last ↔ ⌊offset + 1 / 2⌋ ≤ ⌊last - base⌋ := by
        rw [Int.le_floor]
        constructor <;> intro <;> linarith
      rw [floors, ← Int.lt_add_one_iff, Int.floor_lt]
      push_cast
      constructor <;> intro <;> linarith

/-- The jitter window of a refresh that is planned after now, below `2 ^ 52`. -/
theorem jitterWindowMs_finite {base : ℚ} {nowMs : Int} (clock : 0 ≤ nowMs) (ahead : nowMs ≤ base)
    (small : base < 2 ^ 52) :
    ∃ window : ℚ, jitterWindowMs (.finite base) nowMs {} = .finite window ∧ 0 ≤ window := by
  have clockNonneg : (0 : ℚ) ≤ nowMs := by exact_mod_cast clock
  obtain ⟨distance, taken, distanceLow, distanceHigh⟩ :=
    @Double.ofRat_between 0 (2 ^ 52) (base + -nowMs) (by decide) (by decide)
      (by push_cast; linarith) (by push_cast; linarith)
  push_cast at distanceLow distanceHigh
  obtain ⟨ratio, tenth, ratioLow, ratioHigh⟩ :=
    @Double.ofRat_between 0 1 (1 / 10) (by decide) (by decide) (by norm_num) (by norm_num)
  push_cast at ratioLow ratioHigh
  have share : distance * ratio ≤ distance := mul_le_of_le_one_right distanceLow ratioHigh
  obtain ⟨portion, product, portionLow, -⟩ :=
    @Double.ofRat_between 0 (2 ^ 52) (distance * ratio) (by decide) (by decide)
      (by push_cast; positivity) (by push_cast; linarith)
  have larger : Double.max (.finite 0) (.finite distance) = .finite distance := by
    rcases distanceLow.lt_or_eq with positive | zero
    · exact Double.max_of_lt ((Double.finite_lt _ _).mpr (by exact_mod_cast positive))
    · simp [Double.max, Double.lt, ← zero]
  refine ⟨⌊portion⌋, ?_, ?_⟩
  · have subtracted : (Double.finite base).sub (.finite nowMs) = .finite distance := taken
    have ratio_eq : ({} : DomainRefreshSchedulingOptions).jitterRatio = .finite ratio := tenth
    rw [jitterWindowMs, subtracted, larger, ratio_eq]
    show (Double.ofRat (distance * ratio)).floor = _
    rw [product]
    rfl
  · exact_mod_cast Int.floor_nonneg.mpr (by exact_mod_cast portionLow)

/-- The offset is the swing rounded; without a window both are zero. -/
theorem computeJitterOffset_eq {host : JsString} {window : ℚ} (nonneg : 0 ≤ window) :
    computeJitterOffset host (.finite window) =
      ((Double.finite window).mul (signedFactor host)).round := by
  unfold computeJitterOffset
  split
  next closed =>
    have zero : window = 0 := le_antisymm ((Double.finite_le _ _).mp closed) nonneg
    obtain ⟨factor, finite⟩ := signedFactor_finite host
    rw [zero, finite, Double.mul, zero_mul, Double.ofRat_zero, Double.round]
    norm_num
  next => rfl

/-- Where the sums are exact, the condition on the swing says what the offset does. -/
theorem offsetFits_iff {host : JsString} {nowMs : Int} {base last : Double}
    (placed : ∀ baseAt lastAt, base = .finite baseAt → last = .finite lastAt → 0 ≤ nowMs →
      lastAt < 2 ^ 52 →
        (nowMs ≤ baseAt ∧ baseAt ≤ lastAt ∧ Double.ofRat lastAt = .finite lastAt) ∧
          ((∃ whole : Int, baseAt = whole) ∨ ∃ whole : Int, baseAt = lastAt - whole)) :
    OffsetFits host nowMs base last ↔
      (base.add (computeJitterOffset host (jitterWindowMs base nowMs {}))).le last = true := by
  unfold OffsetFits
  split
  next baseAt lastAt =>
    split
    next exactSums =>
      obtain ⟨clock, small⟩ := exactSums
      obtain ⟨⟨ahead, ordered, rounded⟩, aligned⟩ := placed baseAt lastAt rfl rfl clock small
      have clockNonneg : (0 : ℚ) ≤ nowMs := by exact_mod_cast clock
      obtain ⟨window, window_eq, nonneg⟩ :=
        jitterWindowMs_finite clock ahead (ordered.trans_lt small)
      obtain ⟨factor, factor_eq⟩ := signedFactor_finite host
      have number : (Double.finite window).mul (signedFactor host) ≠ .nan := by
        rw [factor_eq]
        exact Double.ofRat_ne_nan _
      rw [swing, window_eq, computeJitterOffset_eq nonneg]
      exact (add_round_le_iff number (by linarith) small rounded aligned).symm
    next => exact Iff.rfl
  next => exact Iff.rfl

/-! ### Entries -/

theorem applyHardExpiry_of_le {entry : DomainMapEntry} {hardExpiresAt : Number} {nowMs : Int}
    (hard : entry.hardExpiresAt = some hardExpiresAt)
    (live : (Double.finite nowMs).le hardExpiresAt.toDouble = true) :
    applyHardExpiry entry nowMs = entry := by
  have kept : shouldInvalidate entry nowMs = false := by
    simp only [Double.le, Bool.and_eq_true, Bool.not_eq_true'] at live
    simp [shouldInvalidate, hard, live.2]
  rw [applyHardExpiry, kept]
  rfl

/-- The lead time of an expiry is not after it. -/
theorem sub_lead_le {expiresAt : Number}
    (number : expiresAt.toDouble.sub (.finite 30000) ≠ .nan) :
    (expiresAt.toDouble.sub (.finite 30000)).le expiresAt.toDouble = true := by
  cases expires : expiresAt.toDouble with
  | nan =>
      rw [expires] at number
      exact absurd rfl number
  | infinity negative => cases negative <;> rfl
  | finite time =>
      obtain ⟨-, rounded⟩ := Number.toDouble_rounded expires
      have less : time + -30000 ≤ time := by linarith
      have ordered := Double.ofRat_mono less
      rw [rounded] at ordered
      exact ordered

/-- The lead is taken exactly where it ends behind the epoch. -/
theorem lead_exact {lastAt baseAt : ℚ} (rounded : nearest lastAt = lastAt) (positive : 0 < baseAt)
    (small : lastAt < 2 ^ 52)
    (base : (Double.finite lastAt).sub (.finite 30000) = .finite baseAt) :
    baseAt = lastAt - 30000 := by
  have subtracted : Double.ofRat (lastAt + -30000) = .finite baseAt := base
  have enough : ((30000 : Nat) : ℚ) ≤ lastAt := by
    by_contra short
    push_cast at short
    have negative : lastAt + -30000 ≤ 0 := by linarith
    have atMostZero := Double.ofRat_mono negative
    rw [Double.ofRat_zero, subtracted, Double.finite_le] at atMostZero
    linarith
  have difference := nearest_sub_natCast rounded enough (small.trans (by norm_num))
  have limits : |lastAt - (30000 : Nat)| < 2 ^ (53 : Int) := by
    rw [abs_of_nonneg (by linarith)]
    have larger : (2 : ℚ) ^ 52 < 2 ^ (53 : Int) := by norm_num
    push_cast
    linarith
  have exact := Double.ofRat_small limits
  rw [difference] at exact
  push_cast at exact
  rw [sub_eq_add_neg, subtracted] at exact
  rw [Double.finite.inj exact, sub_eq_add_neg]

/-- A valid entry ahead of its lead time. -/
theorem valid_iff {entry : DomainMapEntry} {expiresAt hardExpiresAt : Number} {nowMs : Int}
    (host : JsString) (status : entry.status = .valid) (expires : entry.expiresAt = some expiresAt)
    (hard : entry.hardExpiresAt = some hardExpiresAt)
    (ordered : expiresAt.toDouble.le hardExpiresAt.toDouble = true)
    (early : (Double.finite nowMs).lt (expiresAt.toDouble.sub (.finite 30000)) = true) :
    (Double.finite nowMs).le (nextRefreshAt entry host nowMs) = true ∧
        (nextRefreshAt entry host nowMs).le expiresAt.toDouble = true ↔
      OffsetFits host nowMs (expiresAt.toDouble.sub (.finite 30000)) expiresAt.toDouble := by
  have lead := sub_lead_le (Double.lt_iff.mp early).2.1
  have live := Double.le_trans (Double.le_of_lt early) lead
  have plan : (getBaseRefreshPlan (some entry) nowMs {}).2 =
      expiresAt.toDouble.sub (.finite 30000) := by
    simp only [getBaseRefreshPlan, applyHardExpiry_of_le hard (Double.le_trans live ordered),
      status, expires, Double.max_of_lt early]
  rw [offsetFits_iff]
  · simp only [nextRefreshAt, computeRefreshSchedulingHint, plan]
    rw [Double.max_le_iff _ live, and_iff_right_iff_imp]
    intro below
    exact Double.le_max_left (Double.le_iff.mp live).1 (Double.le_iff.mp below).1
  · intro baseAt lastAt base last clock small
    obtain ⟨rounded, representable⟩ := Number.toDouble_rounded last
    have clockNonneg : (0 : ℚ) ≤ nowMs := by exact_mod_cast clock
    rw [last] at base
    rw [last, base] at early lead
    have ahead := (Double.finite_lt _ _).mp early
    have below := (Double.finite_le _ _).mp lead
    have exactLead := lead_exact rounded (by linarith) small base
    refine ⟨⟨ahead.le, below, representable⟩, Or.inr ⟨30000, ?_⟩⟩
    push_cast
    exact exactLead

/-- A stale entry before its hard expiry. -/
theorem stale_iff {entry : DomainMapEntry} {hardExpiresAt : Number} {nowMs : Int}
    (host : JsString) (status : entry.status = .stale)
    (hard : entry.hardExpiresAt = some hardExpiresAt)
    (live : (Double.finite nowMs).le hardExpiresAt.toDouble = true) :
    (nextRefreshAt entry host nowMs).le hardExpiresAt.toDouble = true ↔
      OffsetFits host nowMs
        (((Double.finite nowMs).add (.finite 15000)).min hardExpiresAt.toDouble)
        hardExpiresAt.toDouble := by
  have plan : (getBaseRefreshPlan (some entry) nowMs {}).2 =
      ((Double.finite nowMs).add (.finite 15000)).min hardExpiresAt.toDouble := by
    simp only [getBaseRefreshPlan, applyHardExpiry_of_le hard live, status, hard]
  rw [offsetFits_iff]
  · simp only [nextRefreshAt, computeRefreshSchedulingHint, plan]
    exact Double.max_le_iff _ live
  · intro baseAt lastAt base last clock small
    obtain ⟨-, representable⟩ := Number.toDouble_rounded last
    rw [last] at live base
    have ahead := (Double.finite_le _ _).mp live
    have retry : (Double.finite nowMs).add (.finite 15000) =
        .finite ((nowMs + 15000 : Int) : ℚ) := by
      have limits : |((nowMs + 15000 : Int) : ℚ)| < 2 ^ (53 : Int) := by
        have clockNonneg : (0 : ℚ) ≤ nowMs := by exact_mod_cast clock
        push_cast
        rw [abs_of_nonneg (by linarith)]
        have larger : (2 : ℚ) ^ 52 + 15000 < 2 ^ (53 : Int) := by norm_num
        linarith
      exact_mod_cast Double.add_intCast limits
    have planned : (if lastAt < ((nowMs + 15000 : Int) : ℚ) then Double.finite lastAt
        else .finite ((nowMs + 15000 : Int) : ℚ)) = .finite baseAt := by
      rw [← base, retry]
      simp [Double.min, Double.lt]
    by_cases capped : lastAt < ((nowMs + 15000 : Int) : ℚ)
    · rw [if_pos capped] at planned
      have same := Double.finite.inj planned
      rw [← same]
      exact ⟨⟨ahead, le_rfl, representable⟩, Or.inr ⟨0, by simp⟩⟩
    · rw [if_neg capped] at planned
      have same := Double.finite.inj planned
      rw [← same]
      refine ⟨⟨?_, not_lt.mp capped, representable⟩, Or.inl ⟨_, rfl⟩⟩
      push_cast
      linarith

/-- A refresh is on time if and only if the offset of its host fits. -/
theorem onTime_iff_fits (entry : DomainMapEntry) (host : JsString) (nowMs : Int) :
    OnTime entry host nowMs ↔ Fits entry host nowMs := by
  constructor
  · intro onTime
    constructor
    · intro status expiresAt hardExpiresAt expires hard ordered early
      exact (valid_iff host status expires hard ordered early).mp
        (onTime.valid status expiresAt hardExpiresAt expires hard ordered early)
    · intro status hardExpiresAt hard live
      exact (stale_iff host status hard live).mp (onTime.stale status hardExpiresAt hard live)
  · intro fits
    constructor
    · intro status expiresAt hardExpiresAt expires hard ordered early
      exact (valid_iff host status expires hard ordered early).mpr
        (fits.valid status expiresAt hardExpiresAt expires hard ordered early)
    · intro status hardExpiresAt hard live
      exact (stale_iff host status hard live).mpr (fits.stale status hardExpiresAt hard live)

/-! ### A day -/

def emptyEntry : DomainMapEntry where
  schemaVersion := domainMapSchemaVersion
  host := js "a"
  status := .invalid
  cfgTx := none
  resolvedTarget := none
  writeProcess := none
  configHash := none
  verifiedAt := none
  expiresAt := none
  hbVerifiedAt := none
  hardExpiresAt := none
  lastError := none
  lastSuccessAt := none
  lastErrorAt := none
  lastErrorCode := none
  refreshAttempts := 0
  updatedAt := .ofInt 1700000000000

/-- The entry after a refresh with the longest time to live, a day. -/
def dayEntry : DomainMapEntry :=
  succeed emptyEntry ⟨js "cfg", js "target", 86400000, none, none, none⟩ 1700000000000 {}

/-- Its refresh is planned almost two hours after it expires. -/
theorem refreshed_after_expiry : ¬OnTime dayEntry (js "a") 1700000000000 := by
  intro onTime
  have late := (onTime.valid rfl _ _ rfl rfl (by decide +kernel) (by decide +kernel)).2
  revert late
  decide +kernel

end DarkmeshGateway.AsyncWorker.RefreshSchedule
