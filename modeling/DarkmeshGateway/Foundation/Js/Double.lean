import Mathlib.Data.Int.Log
import Mathlib.Data.Rat.Floor
import Mathlib.Tactic.Linarith
import Mathlib.Tactic.GCongr
import DarkmeshGateway.Foundation.Js.Json

/-!
Contract: the value of a JavaScript number and arithmetic on it.

Owns rounding of a rational to the nearest binary64 value, addition,
comparison, the conversion of strings and JSON values to numbers, and the facts
that rounding keeps the order and never crosses an integer below `2 ^ 53`.

Does not own the sign of zero, which no comparison sees.
-/

namespace DarkmeshGateway.Foundation.Js

/-! ### Rounding -/

/-- The integer nearest to a rational, ties to even. -/
def roundHalfEven (value : ℚ) : Int :=
  let below := ⌊value⌋
  let rest := value - below
  if rest < 1 / 2 ∨ (rest = 1 / 2 ∧ below % 2 = 0) then below else below + 1

/-- The distance of neighbouring binary64 values around a rational, subnormals included. -/
def spacing (value : ℚ) : ℚ := 2 ^ max (Int.log 2 |value| - 52) (-1074)

/-- The nearest value of the binary64 grid, without a largest exponent. -/
def nearest (value : ℚ) : ℚ := roundHalfEven (value / spacing value) * spacing value

theorem le_roundHalfEven {bound : Int} {value : ℚ} (below : (bound : ℚ) ≤ value) :
    bound ≤ roundHalfEven value := by
  have atFloor : bound ≤ ⌊value⌋ := Int.le_floor.mpr below
  unfold roundHalfEven
  dsimp only
  split <;> omega

theorem roundHalfEven_le {bound : Int} {value : ℚ} (above : value ≤ bound) :
    roundHalfEven value ≤ bound := by
  have atFloor : ⌊value⌋ ≤ bound := by
    have floorLe := (Int.floor_le value).trans above
    exact_mod_cast floorLe
  unfold roundHalfEven
  dsimp only
  split
  · exact atFloor
  next upward =>
    -- Rounding upward needs a fractional part, so the floor is below the bound.
    have proper : ⌊value⌋ ≠ bound := by
      intro same
      have whole : value - ⌊value⌋ ≤ 0 := by
        rw [same]
        linarith
      exact upward (Or.inl (lt_of_le_of_lt whole (by norm_num)))
    omega

private theorem spacing_pos (value : ℚ) : 0 < spacing value := zpow_pos (by norm_num) _

/-- Rounding does not fall below a point of the grid. -/
theorem grid_le_nearest {bound value : ℚ} {multiple : Int}
    (onGrid : bound = multiple * spacing value) (below : bound ≤ value) :
    bound ≤ nearest value := by
  have scaled : (multiple : ℚ) ≤ value / spacing value := by
    rw [le_div_iff₀ (spacing_pos value), ← onGrid]
    exact below
  have rounded : (multiple : ℚ) ≤ roundHalfEven (value / spacing value) := by
    exact_mod_cast le_roundHalfEven scaled
  rw [nearest, onGrid]
  exact mul_le_mul_of_nonneg_right rounded (spacing_pos value).le

/-- Rounding does not rise above a point of the grid. -/
theorem nearest_le_grid {bound value : ℚ} {multiple : Int}
    (onGrid : bound = multiple * spacing value) (above : value ≤ bound) :
    nearest value ≤ bound := by
  have scaled : value / spacing value ≤ (multiple : ℚ) := by
    rw [div_le_iff₀ (spacing_pos value), ← onGrid]
    exact above
  have rounded : (roundHalfEven (value / spacing value) : ℚ) ≤ multiple := by
    exact_mod_cast roundHalfEven_le scaled
  rw [nearest, onGrid]
  exact mul_le_mul_of_nonneg_right rounded (spacing_pos value).le

/-- Below `2 ^ 53` an integer is a point of the grid. -/
private theorem integer_on_grid {value : ℚ} (small : |value| < 2 ^ (53 : Int)) (bound : Int) :
    ∃ multiple : Int, (bound : ℚ) = multiple * spacing value := by
  have exponent : max (Int.log 2 |value| - 52) (-1074) ≤ 0 := by
    rcases eq_or_lt_of_le (abs_nonneg value) with zero | positive
    · rw [← zero, Int.log_zero_right]
      decide
    · have logSmall : Int.log 2 |value| < 53 :=
        (Int.lt_zpow_iff_log_lt (by decide) positive).mp (by exact_mod_cast small)
      omega
  obtain ⟨digits, same⟩ := Int.eq_ofNat_of_zero_le (neg_nonneg.mpr exponent)
  have negated : max (Int.log 2 |value| - 52) (-1074) = -(digits : Int) := by omega
  refine ⟨bound * 2 ^ digits, ?_⟩
  rw [spacing, negated, zpow_neg, zpow_natCast, ← div_eq_mul_inv]
  push_cast
  rw [mul_div_cancel_right₀ _ (by positivity)]

/-- Rounding does not fall below an integer. -/
theorem le_nearest {bound : Int} {value : ℚ} (small : |value| < 2 ^ (53 : Int))
    (below : (bound : ℚ) ≤ value) : (bound : ℚ) ≤ nearest value := by
  obtain ⟨_, onGrid⟩ := integer_on_grid small bound
  exact grid_le_nearest onGrid below

/-- Rounding does not rise above an integer. -/
theorem nearest_le {bound : Int} {value : ℚ} (small : |value| < 2 ^ (53 : Int))
    (above : value ≤ bound) : nearest value ≤ bound := by
  obtain ⟨_, onGrid⟩ := integer_on_grid small bound
  exact nearest_le_grid onGrid above

/-- An integer below `2 ^ 53` is its own rounding. -/
theorem nearest_intCast {value : Int} (small : |(value : ℚ)| < 2 ^ (53 : Int)) :
    nearest value = value :=
  le_antisymm (nearest_le small le_rfl) (le_nearest small le_rfl)

theorem roundHalfEven_mono {low high : ℚ} (ordered : low ≤ high) :
    roundHalfEven low ≤ roundHalfEven high := by
  have floors : ⌊low⌋ ≤ ⌊high⌋ := Int.floor_le_floor ordered
  rcases floors.lt_or_eq with apart | same
  · have upper : roundHalfEven low ≤ ⌊high⌋ := by
      apply roundHalfEven_le
      have next_ : low < ⌊low⌋ + 1 := Int.lt_floor_add_one low
      have step : (⌊low⌋ : ℚ) + 1 ≤ ⌊high⌋ := by exact_mod_cast apart
      linarith
    exact upper.trans (le_roundHalfEven (Int.floor_le high))
  · unfold roundHalfEven
    dsimp only
    rw [same]
    split
    · split <;> omega
    next upward =>
      -- The larger one has the same floor and at least the same rest.
      have upward' : ¬(high - ⌊high⌋ < 1 / 2 ∨ (high - ⌊high⌋ = 1 / 2 ∧ ⌊high⌋ % 2 = 0)) := by
        intro downward
        apply upward
        rcases downward with less | ⟨half, even⟩
        · exact Or.inl (by linarith)
        · rcases (by linarith : low - ⌊high⌋ ≤ 1 / 2).lt_or_eq with less | equal
          · exact Or.inl less
          · exact Or.inr ⟨equal, even⟩
      rw [if_neg upward']

/-- Zero is a point of every grid. -/
private theorem zero_on_grid (value : ℚ) : (0 : ℚ) = (0 : Int) * spacing value := by
  rw [Int.cast_zero, zero_mul]

theorem nearest_zero : nearest 0 = 0 :=
  le_antisymm (nearest_le_grid (zero_on_grid 0) le_rfl) (grid_le_nearest (zero_on_grid 0) le_rfl)

/-- A power of two not below the spacing is a point of the grid. -/
private theorem power_on_grid {value : ℚ} {exponent : Int}
    (coarse : max (Int.log 2 |value| - 52) (-1074) ≤ exponent) :
    ∃ multiple : Int, (2 : ℚ) ^ exponent = multiple * spacing value := by
  obtain ⟨digits, same⟩ := Int.eq_ofNat_of_zero_le (sub_nonneg.mpr coarse)
  refine ⟨2 ^ digits, ?_⟩
  rw [spacing, Int.cast_pow, Int.cast_ofNat, ← zpow_natCast, ← zpow_add₀ (by norm_num)]
  congr 1
  omega

/-- Where the grid is finer at the smaller magnitude, a power of two lies between. -/
private theorem power_between {small large : ℚ} (nonzero : large ≠ 0)
    (finer : spacing small < spacing large) :
    ∃ bound : ℚ, |small| < bound ∧ bound ≤ |large| ∧
      (∃ multiple : Int, bound = multiple * spacing small) ∧
      ∃ multiple : Int, bound = multiple * spacing large := by
  have exponents : max (Int.log 2 |small| - 52) (-1074) < max (Int.log 2 |large| - 52) (-1074) :=
    (zpow_lt_zpow_iff_right₀ (by norm_num)).mp finer
  refine ⟨2 ^ Int.log 2 |large|, ?_, ?_, ?_, ?_⟩
  · have below : |small| < 2 ^ (Int.log 2 |small| + 1) :=
      Int.lt_zpow_succ_log_self (by decide) _
    have grows : (2 : ℚ) ^ (Int.log 2 |small| + 1) ≤ 2 ^ Int.log 2 |large| :=
      zpow_le_zpow_right₀ (by norm_num) (by omega)
    exact below.trans_le grows
  · exact Int.zpow_log_le_self (by decide) (abs_pos.mpr nonzero)
  · exact power_on_grid (by omega)
  · exact power_on_grid (by omega)

/-- Rounding keeps the order. -/
theorem nearest_mono {low high : ℚ} (ordered : low ≤ high) : nearest low ≤ nearest high := by
  by_cases lowZero : low = 0
  · subst lowZero
    rw [nearest_zero]
    exact grid_le_nearest (zero_on_grid high) ordered
  by_cases highZero : high = 0
  · subst highZero
    rw [nearest_zero]
    exact nearest_le_grid (zero_on_grid low) ordered
  rcases lt_trichotomy (spacing low) (spacing high) with finer | same | coarser
  · -- The larger value has the larger magnitude, so it is positive.
    obtain ⟨bound, above, below, ⟨_, onLow⟩, _, onHigh⟩ := power_between highZero finer
    have positive : |high| = high := by
      rcases abs_cases high with ⟨same, -⟩ | ⟨negated, -⟩
      · exact same
      · have lowAbove := neg_abs_le low
        linarith
    exact (nearest_le_grid onLow ((le_abs_self low).trans above.le)).trans
      (grid_le_nearest onHigh (positive ▸ below))
  · have scaled : low / spacing high ≤ high / spacing high :=
      div_le_div_of_nonneg_right ordered (spacing_pos high).le
    rw [nearest, nearest, same]
    exact mul_le_mul_of_nonneg_right (by exact_mod_cast roundHalfEven_mono scaled)
      (spacing_pos high).le
  · obtain ⟨bound, above, below, ⟨onHighAt, onHigh⟩, onLowAt, onLow⟩ := power_between lowZero coarser
    have negative : low ≤ -bound := by
      rcases abs_cases low with ⟨same, -⟩ | ⟨negated, -⟩
      · have highBelow := le_abs_self high
        linarith
      · linarith
    have negatedLow : -bound = (-onLowAt : Int) * spacing low := by
      rw [onLow, Int.cast_neg, neg_mul]
    have negatedHigh : -bound = (-onHighAt : Int) * spacing high := by
      rw [onHigh, Int.cast_neg, neg_mul]
    have lowSide : nearest low ≤ -bound := nearest_le_grid negatedLow negative
    have highSide : -bound ≤ nearest high := by
      apply grid_le_nearest negatedHigh
      have highAbove := neg_abs_le high
      linarith
    exact lowSide.trans highSide

/-- A multiple of a power of two that is not below the spacing is its own rounding. -/
theorem nearest_of_multiple {value : ℚ} {multiple exponent : Int}
    (same : value = multiple * 2 ^ exponent)
    (coarse : max (Int.log 2 |value| - 52) (-1074) ≤ exponent) : nearest value = value := by
  obtain ⟨power, onGrid⟩ := power_on_grid coarse
  have placed : value = (multiple * power : Int) * spacing value := by
    rw [Int.cast_mul, mul_assoc, ← onGrid]
    exact same
  exact le_antisymm (nearest_le_grid placed le_rfl) (grid_le_nearest placed le_rfl)

/-- What is rounded is such a multiple. -/
theorem nearest_multiple (value : ℚ) :
    ∃ multiple exponent : Int, nearest value = multiple * 2 ^ exponent ∧
      max (Int.log 2 |nearest value| - 52) (-1074) ≤ exponent := by
  -- Rounding may reach the power of two above the value, whose binade is coarser.
  have coarse : max (Int.log 2 |value| - 52) (-1074) ≤ max (Int.log 2 |value| + 1) (-1074) := by
    omega
  obtain ⟨multiple, onGrid⟩ := power_on_grid coarse
  generalize bound_eq : max (Int.log 2 |value| + 1) (-1074) = top at coarse onGrid
  have within : |value| < 2 ^ (Int.log 2 |value| + 1) := Int.lt_zpow_succ_log_self (by decide) _
  have below : |value| ≤ 2 ^ top :=
    within.le.trans (zpow_le_zpow_right₀ (by norm_num) (by omega))
  have upper : nearest value ≤ 2 ^ top := nearest_le_grid onGrid ((le_abs_self value).trans below)
  have negatedGrid : -2 ^ top = (-multiple : Int) * spacing value := by
    rw [onGrid, Int.cast_neg, neg_mul]
  have lower : -2 ^ top ≤ nearest value :=
    grid_le_nearest negatedGrid (by linarith [neg_abs_le value])
  rcases (abs_le.mpr ⟨lower, upper⟩).lt_or_eq with inside | atTop
  · by_cases zero : nearest value = 0
    · exact ⟨0, 0, by rw [zero]; simp, by rw [zero]; simp⟩
    · have small : Int.log 2 |nearest value| < top :=
        (Int.lt_zpow_iff_log_lt (by decide) (abs_pos.mpr zero)).mp (by exact_mod_cast inside)
      exact ⟨_, max (Int.log 2 |value| - 52) (-1074), rfl, by omega⟩
  · have log_top : Int.log 2 |nearest value| = top := by
      rw [atTop]
      exact Int.log_zpow (by decide) top
    rcases abs_eq (zpow_pos (by norm_num : (0 : ℚ) < 2) top).le |>.mp atTop with same | negated
    · exact ⟨1, top, by rw [same]; simp, by rw [log_top]; omega⟩
    · exact ⟨-1, top, by rw [negated]; simp, by rw [log_top]; omega⟩

/-- Rounding twice is rounding once. -/
@[simp] theorem nearest_nearest (value : ℚ) : nearest (nearest value) = nearest value := by
  obtain ⟨multiple, exponent, same, coarse⟩ := nearest_multiple value
  exact nearest_of_multiple same coarse

/-- A natural number is taken exactly from a rounded value below `2 ^ 53` that is
not smaller. -/
theorem nearest_sub_natCast {value : ℚ} (rounded : nearest value = value) {count : Nat}
    (enough : count ≤ value) (small : value < 2 ^ (53 : Int)) :
    nearest (value - count) = value - count := by
  obtain ⟨multiple, exponent, same, coarse⟩ := nearest_multiple value
  rw [rounded] at same coarse
  have nonneg : 0 ≤ value - count := by linarith
  have smaller : |value - count| < 2 ^ (53 : Int) := by
    rw [abs_of_nonneg nonneg]
    linarith [(Nat.cast_nonneg count : (0 : ℚ) ≤ count)]
  rcases le_total 0 exponent with whole | fractional
  · obtain ⟨digits, rfl⟩ := Int.eq_ofNat_of_zero_le whole
    have integer : value - count = (multiple * 2 ^ digits - count : Int) := by
      rw [same]
      push_cast
      rw [zpow_natCast]
    rw [integer] at smaller ⊢
    exact nearest_intCast smaller
  · obtain ⟨digits, negated⟩ := Int.eq_ofNat_of_zero_le (neg_nonneg.mpr fractional)
    have scaled : value - count = (multiple - count * 2 ^ digits : Int) * 2 ^ exponent := by
      have power : (2 : ℚ) ^ exponent * 2 ^ digits = 1 := by
        rw [← zpow_natCast, ← zpow_add₀ (by norm_num), ← negated, add_neg_cancel, zpow_zero]
      push_cast
      rw [sub_mul, ← same, mul_assoc, mul_comm (2 ^ digits : ℚ), power, mul_one]
    by_cases zero : value - count = 0
    · rw [zero]
      exact nearest_zero
    · have logs : Int.log 2 |value - count| ≤ Int.log 2 |value| := by
        apply Int.log_mono_right (abs_pos.mpr zero)
        rw [abs_of_nonneg nonneg, abs_of_nonneg (by linarith [(Nat.cast_nonneg count : (0 : ℚ) ≤ count)])]
        linarith [(Nat.cast_nonneg count : (0 : ℚ) ≤ count)]
      exact nearest_of_multiple scaled (by omega)

/-! ### Doubles -/

/-- The value of a JavaScript number, zeros unsigned. -/
inductive Double where
  | nan
  | infinity (negative : Bool)
  | finite (value : ℚ)
deriving DecidableEq

/-- The double of an exact value. -/
def Double.ofRat (value : ℚ) : Double :=
  if (2 : ℚ) ^ 1024 ≤ |nearest value| then .infinity (value < 0) else .finite (nearest value)

/-- Below `2 ^ 53` the double of a rational is finite. -/
theorem Double.ofRat_small {value : ℚ} (small : |value| < 2 ^ (53 : Int)) :
    Double.ofRat value = .finite (nearest value) := by
  have bounds := abs_lt.mp small
  have lower : ((-2 ^ 53 : Int) : ℚ) ≤ nearest value :=
    le_nearest small (by push_cast; exact_mod_cast bounds.1.le)
  have upper : nearest value ≤ ((2 ^ 53 : Int) : ℚ) :=
    nearest_le small (by push_cast; exact_mod_cast bounds.2.le)
  push_cast at lower upper
  have inRange : |nearest value| ≤ 2 ^ 53 := abs_le.mpr ⟨lower, upper⟩
  have below : ¬(2 : ℚ) ^ 1024 ≤ |nearest value| :=
    not_le.mpr (lt_of_le_of_lt inRange (pow_lt_pow_right₀ (by norm_num) (by norm_num)))
  rw [Double.ofRat, if_neg below]

@[simp] theorem Double.ofRat_zero : Double.ofRat 0 = .finite 0 := by
  rw [Double.ofRat_small (by norm_num), nearest_zero]

/-- What lies between two integers below `2 ^ 53` has a finite double between them. -/
theorem Double.ofRat_between {low high : Int} {value : ℚ} (lowSmall : -2 ^ 53 < low)
    (highSmall : high < 2 ^ 53) (below : (low : ℚ) ≤ value) (above : value ≤ high) :
    ∃ rounded : ℚ, Double.ofRat value = .finite rounded ∧ low ≤ rounded ∧ rounded ≤ high := by
  have lowBound : (-2 ^ 53 : ℚ) < low := by exact_mod_cast lowSmall
  have highBound : (high : ℚ) < 2 ^ 53 := by exact_mod_cast highSmall
  have small : |value| < 2 ^ (53 : Int) := by
    rw [abs_lt, (by norm_num : (2 : ℚ) ^ (53 : Int) = 2 ^ 53)]
    constructor <;> linarith
  exact ⟨nearest value, Double.ofRat_small small, le_nearest small below, nearest_le small above⟩

/-- `left < right`; `NaN` compares false. -/
def Double.lt : Double → Double → Bool
  | .nan, _ => false
  | _, .nan => false
  | .infinity true, .infinity true => false
  | .infinity true, _ => true
  | _, .infinity true => false
  | .infinity false, _ => false
  | _, .infinity false => true
  | .finite left, .finite right => left < right

/-- A double that is neither below nor above a range is `NaN` or within it. -/
theorem Double.between {value : Double} {low high : ℚ} (notBelow : value.lt (.finite low) = false)
    (notAbove : (Double.finite high).lt value = false) :
    value = .nan ∨ ∃ inside, value = .finite inside ∧ low ≤ inside ∧ inside ≤ high := by
  match value with
  | .nan => exact Or.inl rfl
  | .infinity true => simp [Double.lt] at notBelow
  | .infinity false => simp [Double.lt] at notAbove
  | .finite inside =>
      simp only [Double.lt, decide_eq_false_iff_not, not_lt] at notBelow notAbove
      exact Or.inr ⟨inside, rfl, notBelow, notAbove⟩

/-- `left <= right`; `NaN` compares false. -/
def Double.le (left right : Double) : Bool := left ≠ .nan && right ≠ .nan && !right.lt left

theorem Double.ofRat_ne_nan (value : ℚ) : Double.ofRat value ≠ .nan := by
  unfold Double.ofRat
  split <;> simp

/-- The double of an exact value keeps the order. -/
theorem Double.ofRat_mono {low high : ℚ} (ordered : low ≤ high) :
    (Double.ofRat low).le (Double.ofRat high) = true := by
  have rounded := nearest_mono ordered
  have notAbove : (Double.ofRat high).lt (Double.ofRat low) = false := by
    unfold Double.ofRat
    split
    next highLarge =>
      by_cases highNegative : high < 0
      · have lowNegative : low < 0 := lt_of_le_of_lt ordered highNegative
        have highBelow : nearest high ≤ 0 := nearest_zero ▸ nearest_mono highNegative.le
        have lowLarge : (2 : ℚ) ^ 1024 ≤ |nearest low| := by
          rw [abs_of_nonpos highBelow] at highLarge
          rw [abs_of_nonpos (rounded.trans highBelow)]
          exact highLarge.trans (neg_le_neg rounded)
        rw [if_pos lowLarge]
        simp [lowNegative, highNegative, Double.lt]
      · split
        · by_cases lowNegative : low < 0 <;> simp [lowNegative, highNegative, Double.lt]
        · simp [highNegative, Double.lt]
    next highSmall =>
      split
      next lowLarge =>
        have lowNegative : low < 0 := by
          by_contra lowNonneg
          have lowAbove : 0 ≤ nearest low := nearest_zero ▸ nearest_mono (not_lt.mp lowNonneg)
          apply highSmall
          rw [abs_of_nonneg (lowAbove.trans rounded)]
          rw [abs_of_nonneg lowAbove] at lowLarge
          exact lowLarge.trans rounded
        simp [lowNegative, Double.lt]
      next => simp [Double.lt, rounded]
  simp [Double.le, Double.ofRat_ne_nan, notAbove]

/-- `left + right`. -/
def Double.add : Double → Double → Double
  | .nan, _ => .nan
  | _, .nan => .nan
  | .infinity left, .infinity right => if left = right then .infinity left else .nan
  | .infinity negative, .finite _ => .infinity negative
  | .finite _, .infinity negative => .infinity negative
  | .finite left, .finite right => .ofRat (left + right)

/-- Integers add exactly below `2 ^ 53`. -/
theorem Double.add_intCast {left right : Int} (small : |((left + right : Int) : ℚ)| < 2 ^ (53 : Int)) :
    (Double.finite left).add (.finite right) = .finite ((left + right : Int) : ℚ) := by
  rw [Double.add, ← Int.cast_add, Double.ofRat_small small, nearest_intCast small]

/-- `-value`. -/
def Double.neg : Double → Double
  | .nan => .nan
  | .infinity negative => .infinity !negative
  | .finite value => .finite (-value)

def Double.isFinite : Double → Bool
  | .finite _ => true
  | _ => false

/-- `left - right`. -/
def Double.sub (left right : Double) : Double := left.add right.neg

/-- `left * right`. -/
def Double.mul : Double → Double → Double
  | .nan, _ => .nan
  | _, .nan => .nan
  | .infinity left, .infinity right => .infinity (left != right)
  | .infinity negative, .finite value | .finite value, .infinity negative =>
      if value = 0 then .nan else .infinity (negative != decide (value < 0))
  | .finite left, .finite right => .ofRat (left * right)

/-- `Math.abs`. -/
def Double.abs : Double → Double
  | .nan => .nan
  | .infinity _ => .infinity false
  | .finite value => .finite |value|

/-- `Math.floor`. -/
def Double.floor : Double → Double
  | .finite value => .finite ⌊value⌋
  | other => other

/-- `Math.round`: the nearest integer, halves upward. -/
def Double.round : Double → Double
  | .finite value => .finite ⌊value + 1 / 2⌋
  | other => other

/-- `Math.max(left, right)`. -/
def Double.max (left right : Double) : Double :=
  if left = .nan ∨ right = .nan then .nan else if left.lt right then right else left

/-- `Math.min(left, right)`. -/
def Double.min (left right : Double) : Double :=
  if left = .nan ∨ right = .nan then .nan else if right.lt left then right else left

/-! ### Order -/

@[simp] theorem Double.finite_lt (left right : ℚ) :
    (Double.finite left).lt (.finite right) = true ↔ left < right := by
  simp [Double.lt]

@[simp] theorem Double.finite_le (left right : ℚ) :
    (Double.finite left).le (.finite right) = true ↔ left ≤ right := by
  simp [Double.le, Double.lt]

/-- The place of a number in the order of the extended rationals. -/
def Double.place : Double → WithBot (WithTop ℚ)
  | .nan => ⊥
  | .infinity true => ⊥
  | .infinity false => ((⊤ : WithTop ℚ) : WithBot (WithTop ℚ))
  | .finite value => ((value : WithTop ℚ) : WithBot (WithTop ℚ))

theorem Double.lt_iff {left right : Double} :
    left.lt right = true ↔ left ≠ .nan ∧ right ≠ .nan ∧ left.place < right.place := by
  rcases left with - | (_ | _) | left <;> rcases right with - | (_ | _) | right <;>
    simp [Double.lt, Double.place, WithBot.coe_lt_coe, -WithBot.coe_top]

theorem Double.le_iff {left right : Double} :
    left.le right = true ↔ left ≠ .nan ∧ right ≠ .nan ∧ left.place ≤ right.place := by
  by_cases leftNan : left = .nan
  · simp [Double.le, leftNan]
  by_cases rightNan : right = .nan
  · simp [Double.le, rightNan]
  have flipped : right.lt left = false ↔ left.place ≤ right.place := by
    rw [← Bool.not_eq_true, Double.lt_iff, ← not_lt]
    simp [leftNan, rightNan]
  simp [Double.le, leftNan, rightNan, flipped]

theorem Double.le_of_lt {left right : Double} (less : left.lt right = true) :
    left.le right = true := by
  obtain ⟨leftNumber, rightNumber, ordered⟩ := Double.lt_iff.mp less
  exact Double.le_iff.mpr ⟨leftNumber, rightNumber, ordered.le⟩

theorem Double.le_trans {low middle high : Double} (first : low.le middle = true)
    (second : middle.le high = true) : low.le high = true := by
  obtain ⟨lowNumber, -, lower⟩ := Double.le_iff.mp first
  obtain ⟨-, highNumber, upper⟩ := Double.le_iff.mp second
  exact Double.le_iff.mpr ⟨lowNumber, highNumber, lower.trans upper⟩

theorem Double.max_of_lt {left right : Double} (less : left.lt right = true) :
    left.max right = right := by
  obtain ⟨leftNumber, rightNumber, -⟩ := Double.lt_iff.mp less
  simp [Double.max, leftNumber, rightNumber, less]

theorem Double.max_of_not_lt {left right : Double} (leftNumber : left ≠ .nan)
    (rightNumber : right ≠ .nan) (notLess : ¬left.lt right = true) : left.max right = left := by
  simp [Double.max, leftNumber, rightNumber, notLess]

theorem Double.le_max_left {left right : Double} (leftNumber : left ≠ .nan)
    (rightNumber : right ≠ .nan) : left.le (left.max right) = true := by
  by_cases less : left.lt right = true
  · rw [Double.max_of_lt less]
    exact Double.le_of_lt less
  · rw [Double.max_of_not_lt leftNumber rightNumber less]
    exact Double.le_iff.mpr ⟨leftNumber, leftNumber, le_rfl⟩

/-- The larger of two numbers keeps to a bound that the first one keeps to, if
and only if the second one does. -/
theorem Double.max_le_iff {left bound : Double} (right : Double)
    (within : left.le bound = true) :
    (left.max right).le bound = true ↔ right.le bound = true := by
  obtain ⟨leftNumber, boundNumber, ordered⟩ := Double.le_iff.mp within
  by_cases rightNan : right = .nan
  · simp [Double.max, rightNan]
  by_cases less : left.lt right = true
  · rw [Double.max_of_lt less]
  · have notAbove : right.place ≤ left.place := by
      rw [Double.lt_iff] at less
      exact not_lt.mp fun above => less ⟨leftNumber, rightNan, above⟩
    have other : right.le bound = true :=
      Double.le_iff.mpr ⟨rightNan, boundNumber, notAbove.trans ordered⟩
    rw [Double.max_of_not_lt leftNumber rightNan less]
    exact iff_of_true within other

/-- The exact value of a decimal. -/
def Decimal.toRat (decimal : Decimal) : ℚ :=
  (if decimal.negative then -1 else 1) * decimal.coefficient * 10 ^ decimal.exponent

/-- `Number.isInteger` of a finite number: a shortest decimal of an integer has
no digits behind the point. -/
def Decimal.isInteger (decimal : Decimal) : Bool := 0 ≤ decimal.exponent

/-- `Math.trunc`. -/
def Number.trunc : Number → Number
  | .finite decimal => if decimal.isInteger then .finite decimal else .ofInt decimal.trunc
  | other => other

def Number.toDouble : Number → Double
  | .nan => .nan
  | .infinity negative => .infinity negative
  | .finite decimal => .ofRat decimal.toRat

/-- A finite double is its own rounding. -/
theorem Double.ofRat_of_ofRat {exact value : ℚ} (read : Double.ofRat exact = .finite value) :
    nearest value = value ∧ Double.ofRat value = .finite value := by
  unfold Double.ofRat at read
  split at read
  next => cases read
  next inRange =>
    obtain rfl : nearest exact = value := Double.finite.inj read
    exact ⟨nearest_nearest exact, by rw [Double.ofRat, nearest_nearest, if_neg inRange]⟩

theorem Number.toDouble_rounded {number : Number} {value : ℚ}
    (read : number.toDouble = .finite value) :
    nearest value = value ∧ Double.ofRat value = .finite value := by
  cases number with
  | nan => cases read
  | infinity negative => cases read
  | finite decimal => exact Double.ofRat_of_ofRat read

/-- `coefficient * 10 ^ exponent`. -/
def Number.scaled (coefficient exponent : Int) : Number :=
  match Number.ofInt coefficient with
  | .finite decimal =>
      if nonzero : decimal.coefficient ≠ 0 then
        .finite ⟨decimal.negative, decimal.coefficient, decimal.exponent + exponent,
          Or.inl (decimal.reduced.resolve_right fun zero => nonzero zero.1)⟩
      else .finite decimal
  | other => other

/-- A decimal of so many significant digits that rounds to the double, the
closest one first. -/
def significant (digits : Nat) (value : ℚ) : Option Number :=
  let exponent := Int.log 10 |value| + 1 - digits
  let scaled := value / 10 ^ exponent
  [roundHalfEven scaled, ⌊scaled⌋, ⌈scaled⌉].findSome? fun coefficient : Int =>
    if nearest ((coefficient : ℚ) * 10 ^ exponent) = value then some (.scaled coefficient exponent)
    else none

/-- The number of a double: its shortest decimal, of at most 17 digits. -/
def Double.toNumber : Double → Number
  | .nan => .nan
  | .infinity negative => .infinity negative
  | .finite value => ((List.range 17).findSome? fun count => significant (count + 1) value).getD .nan

private theorem stripZeros_value (fuel coefficient : Nat) (exponent : Int) :
    ((stripZeros fuel coefficient exponent).1 : ℚ) * 10 ^ (stripZeros fuel coefficient exponent).2 =
      coefficient * 10 ^ exponent := by
  induction fuel generalizing coefficient exponent with
  | zero => rfl
  | succ fuel inductionHypothesis =>
      unfold stripZeros
      split
      next divisible =>
        have whole : coefficient = coefficient / 10 * 10 := by omega
        rw [inductionHypothesis, zpow_add₀ (by norm_num), zpow_one]
        nth_rewrite 2 [whole]
        push_cast
        ring
      next => rfl

private theorem stripZeros_exponent (fuel coefficient : Nat) (exponent : Int) :
    exponent ≤ (stripZeros fuel coefficient exponent).2 := by
  induction fuel generalizing coefficient exponent with
  | zero => rfl
  | succ fuel inductionHypothesis =>
      unfold stripZeros
      split
      next => exact (by omega : exponent ≤ exponent + 1).trans (inductionHypothesis _ _)
      next => rfl

/-- The number of an integer: its value, sign and digits before the point. -/
theorem Number.ofInt_eq (value : Int) : ∃ decimal, Number.ofInt value = .finite decimal ∧
    decimal.toRat = value ∧ decimal.isInteger = true ∧ decimal.negative = decide (value < 0) := by
  unfold Number.ofInt
  split
  next zero =>
    subst zero
    exact ⟨_, rfl, by simp [Decimal.toRat], rfl, rfl⟩
  next nonzero =>
    have magnitude := stripZeros_value value.natAbs value.natAbs 0
    have whole := stripZeros_exponent value.natAbs value.natAbs 0
    rw [zpow_zero, mul_one] at magnitude
    refine ⟨_, rfl, ?_, decide_eq_true whole, rfl⟩
    simp only [Decimal.toRat, decide_eq_true_eq, mul_assoc, magnitude]
    split
    next negative =>
      rw [Nat.cast_natAbs, abs_of_neg negative]
      push_cast
      ring
    next => rw [Nat.cast_natAbs, abs_of_nonneg (by omega), one_mul]

/-- The number of an integer is the double nearest to it. -/
theorem Number.toDouble_ofInt_eq (value : Int) :
    (Number.ofInt value).toDouble = Double.ofRat value := by
  obtain ⟨decimal, number, exact, -⟩ := Number.ofInt_eq value
  rw [number, Number.toDouble, exact]

/-- The number of an integer has its value. -/
theorem Number.toDouble_ofInt {value : Int} (small : |(value : ℚ)| < 2 ^ (53 : Int)) :
    (Number.ofInt value).toDouble = .finite value := by
  rw [Number.toDouble_ofInt_eq, Double.ofRat_small small, nearest_intCast small]

/-- The numbers of integers are ordered as the integers are. -/
theorem Number.toDouble_ofInt_mono {low high : Int} (ordered : low ≤ high) :
    (Number.ofInt low).toDouble.le (Number.ofInt high).toDouble = true := by
  rw [Number.toDouble_ofInt_eq, Number.toDouble_ofInt_eq]
  exact Double.ofRat_mono (by exact_mod_cast ordered)

/-- The number of an integer is its own truncation. -/
theorem Number.trunc_ofInt (value : Int) : (Number.ofInt value).trunc = .ofInt value := by
  obtain ⟨decimal, number, -, whole, -⟩ := Number.ofInt_eq value
  rw [number, Number.trunc, if_pos whole]

/-- The number of an integer is finite. -/
theorem Number.isFinite_ofInt (value : Int) : (Number.ofInt value).isFinite = true := by
  obtain ⟨decimal, number, -⟩ := Number.ofInt_eq value
  rw [number]
  rfl

/-- A truncated finite number is finite. -/
theorem Number.isFinite_trunc (decimal : Decimal) :
    (Number.finite decimal).trunc.isFinite = true := by
  by_cases whole : decimal.isInteger = true
  · simp [Number.trunc, whole, Number.isFinite]
  · simp [Number.trunc, whole, Number.isFinite_ofInt]

/-- Truncating twice is truncating once. -/
theorem Number.trunc_trunc (value : Number) : value.trunc.trunc = value.trunc := by
  cases value with
  | nan => rfl
  | infinity negative => rfl
  | finite decimal =>
      by_cases whole : decimal.isInteger = true
      · simp [Number.trunc, whole]
      · have truncated : (Number.finite decimal).trunc = .ofInt decimal.trunc := by
          simp [Number.trunc, whole]
        rw [truncated, Number.trunc_ofInt]

/-- A parsed integer, where `none` is `NaN` and a magnitude beyond the double
range is an infinity. -/
def Double.ofParsed : Option Int → Double
  | none => .nan
  | some value => if isFiniteInt value then .finite value else .infinity (value < 0)

/-! ### Conversion to number -/

/-- The exponent part of a decimal literal: none, or `e`, a sign and digits. -/
def exponentPart : JsString → Option Int
  | [] => some 0
  | mark :: rest =>
      if mark ≠ 101 ∧ mark ≠ 69 then none
      else
        let digits := if rest.head? = some 43 ∨ rest.head? = some 45 then rest.drop 1 else rest
        if digits = [] ∨ !digits.all isDigit then none
        else if rest.head? = some 45 then some (-(digitsValue digits : Int))
        else some (digitsValue digits)

/-- `StrUnsignedDecimalLiteral` other than `Infinity`: digits with an optional
point, at least one digit, and an optional exponent. -/
def unsignedDecimal (text : JsString) : Option ℚ :=
  let whole := text.takeWhile isDigit
  let afterWhole := text.dropWhile isDigit
  let fraction := if afterWhole.head? = some 46 then (afterWhole.drop 1).takeWhile isDigit else []
  let afterFraction :=
    if afterWhole.head? = some 46 then (afterWhole.drop 1).dropWhile isDigit else afterWhole
  if whole = [] ∧ fraction = [] then none
  else (exponentPart afterFraction).map fun exponent : Int =>
    (digitsValue (whole ++ fraction) : ℚ) * 10 ^ (exponent - (fraction.length : Int))

/-- The value of a digit in a base up to sixteen. -/
def digitIn (base : Nat) (unit : CodeUnit) : Option Nat :=
  let code := unit.toNat
  let value :=
    if 48 ≤ code ∧ code ≤ 57 then some (code - 48)
    else if 65 ≤ code ∧ code ≤ 70 then some (code - 55)
    else if 97 ≤ code ∧ code ≤ 102 then some (code - 87)
    else none
  value.filter (· < base)

/-- A non-empty run of digits in a base. -/
def digitsIn (base : Nat) (text : JsString) : Option Nat :=
  if text = [] then none
  else (text.mapM (digitIn base)).map (List.foldl (fun value digit => base * value + digit) 0)

/-- `0x`, `0o` and `0b` literals; `none` when the text has no such mark. -/
def radixPrefixed : JsString → Option (Option Nat)
  | 48 :: mark :: rest =>
      if mark = 120 ∨ mark = 88 then some (digitsIn 16 rest)
      else if mark = 111 ∨ mark = 79 then some (digitsIn 8 rest)
      else if mark = 98 ∨ mark = 66 then some (digitsIn 2 rest)
      else none
  | _ => none

/-- `StrDecimalLiteral`. -/
def signedDecimal (text : JsString) : Double :=
  let negative : Bool := text.head? = some 45
  let unsigned := if negative ∨ text.head? = some 43 then text.drop 1 else text
  if unsigned = js "Infinity" then .infinity negative
  else
    match unsignedDecimal unsigned with
    | none => .nan
    | some value => .ofRat (if negative then -value else value)

/-- `Number(text)`. -/
def stringToNumber (text : JsString) : Double :=
  let trimmed := trim text
  if trimmed = [] then .finite 0
  else
    match radixPrefixed trimmed with
    | some (some value) => .ofRat value
    | some none => .nan
    | none => signedDecimal trimmed

/-- `Number(value)`; `none` is the `TypeError` of `ToPrimitive`. -/
def Json.toNumber : Json → Option Double
  | .null => some (.finite 0)
  | .bool value => some (.finite (if value then 1 else 0))
  | .num value => some value.toDouble
  | .str value => some (stringToNumber value)
  | value => value.toText.map stringToNumber

end DarkmeshGateway.Foundation.Js
