import DarkmeshGateway.Foundation.Js.Double

/-!
Contract: the number that JavaScript prints for a double denotes that double.

Owns what is rounded to a given double, that seventeen digits are enough for it,
and that the shortest decimal of an integer has no digits behind the point.

Does not own doubles below one, nor the text of a number.
-/

namespace DarkmeshGateway.Foundation.Js

/-! ### Close values -/

/-- Closer than a half to an integer, a rational is rounded to it. -/
theorem roundHalfEven_of_close {value : ℚ} {whole : Int} (close : |value - whole| < 1 / 2) :
    roundHalfEven value = whole := by
  obtain ⟨lower, upper⟩ := abs_lt.mp close
  rcases le_or_gt (whole : ℚ) value with above | below
  · have floor : ⌊value⌋ = whole := Int.floor_eq_iff.mpr ⟨above, by linarith⟩
    unfold roundHalfEven
    dsimp only
    rw [floor, if_pos (Or.inl upper)]
  · have floor : ⌊value⌋ = whole - 1 := by
      apply Int.floor_eq_iff.mpr
      push_cast
      constructor <;> linarith
    have upward : ¬(value - ((whole - 1 : Int) : ℚ) < 1 / 2 ∨
        (value - ((whole - 1 : Int) : ℚ) = 1 / 2 ∧ (whole - 1) % 2 = 0)) := by
      push_cast
      rintro (less | ⟨half, -⟩) <;> linarith
    unfold roundHalfEven
    dsimp only
    rw [floor, if_neg upward]
    omega

private theorem log_eq_of_between {value : ℚ} {exponent : Int} (low : (2 : ℚ) ^ exponent ≤ value)
    (high : value < 2 ^ (exponent + 1)) : Int.log 2 value = exponent := by
  have positive : 0 < value := (zpow_pos (by norm_num : (0 : ℚ) < 2) exponent).trans_le low
  have atLeast : exponent ≤ Int.log 2 value :=
    (Int.zpow_le_iff_le_log (by decide) positive).mp (by exact_mod_cast low)
  have below : Int.log 2 value < exponent + 1 :=
    (Int.lt_zpow_iff_log_lt (by decide) positive).mp (by exact_mod_cast high)
  omega

/-- A value on a known grid is rounded to the point it is closest to. -/
private theorem nearest_of_grid {value : ℚ} {whole exponent : Int} (normal : -1022 ≤ exponent)
    (low : (2 : ℚ) ^ exponent ≤ value) (high : value < 2 ^ (exponent + 1))
    (close : |value / 2 ^ (exponent - 52) - whole| < 1 / 2) :
    nearest value = whole * 2 ^ (exponent - 52) := by
  have positive : 0 < value := (zpow_pos (by norm_num : (0 : ℚ) < 2) exponent).trans_le low
  have step : spacing value = 2 ^ (exponent - 52) := by
    rw [spacing, abs_of_pos positive, log_eq_of_between low high, max_eq_left (by omega)]
  rw [nearest, step, roundHalfEven_of_close close]

/-- A power of two in steps of a smaller one. -/
private theorem zpow_steps (exponent : Int) (shift : Nat) :
    (2 : ℚ) ^ (exponent + shift) = 2 ^ shift * 2 ^ exponent := by
  rw [zpow_add₀ (by norm_num), zpow_natCast, mul_comm]

/-- A double from one on as its 53 bits on the grid of its power of two. -/
theorem exists_significand {double : ℚ} (rounded : nearest double = double) (large : 1 ≤ double) :
    ∃ (exponent whole : Int), 0 ≤ exponent ∧ double = whole * 2 ^ (exponent - 52) ∧
      2 ^ 52 ≤ whole ∧ whole < 2 ^ 53 := by
  have positive : 0 < double := by linarith
  generalize log : Int.log 2 double = exponent
  have low : (2 : ℚ) ^ exponent ≤ double := log ▸ Int.zpow_log_le_self (by decide) positive
  have high : double < 2 ^ (exponent + 1) := log ▸ Int.lt_zpow_succ_log_self (by decide) double
  have nonneg : 0 ≤ exponent := by
    rw [← log]
    exact (Int.zpow_le_iff_le_log (by decide) positive).mp (by simpa using large)
  have spaced : spacing double = 2 ^ (exponent - 52) := by
    rw [spacing, abs_of_pos positive, log, max_eq_left (by omega)]
  generalize digits : roundHalfEven (double / spacing double) = whole
  have multiple : double = whole * 2 ^ (exponent - 52) := by
    rw [← spaced, ← digits]
    exact rounded.symm
  have step : (0 : ℚ) < 2 ^ (exponent - 52) := zpow_pos (by norm_num) _
  refine ⟨exponent, whole, nonneg, multiple, ?_, ?_⟩
  · rw [multiple, show exponent = exponent - 52 + (52 : Nat) by omega, zpow_steps,
      show exponent - 52 + (52 : Nat) - 52 = exponent - 52 by omega] at low
    exact_mod_cast le_of_mul_le_mul_right low step
  · rw [multiple, show exponent + 1 = exponent - 52 + (53 : Nat) by omega, zpow_steps] at high
    exact_mod_cast lt_of_mul_lt_mul_right high step.le

/-- What is close to a grid point above the power of two is rounded to it. -/
private theorem nearest_of_inside {scaled : ℚ} {exponent whole : Int} (normal : -1022 ≤ exponent)
    (low : 2 ^ 52 ≤ scaled) (high : scaled < 2 ^ 53) (close : |scaled - whole| < 1 / 2) :
    nearest (scaled * 2 ^ (exponent - 52)) = whole * 2 ^ (exponent - 52) := by
  have step : (0 : ℚ) < 2 ^ (exponent - 52) := zpow_pos (by norm_num) _
  apply nearest_of_grid normal
  · rw [show exponent = exponent - 52 + (52 : Nat) by omega, zpow_steps,
      show exponent - 52 + (52 : Nat) - 52 = exponent - 52 by omega]
    exact mul_le_mul_of_nonneg_right low step.le
  · rw [show exponent + 1 = exponent - 52 + (53 : Nat) by omega, zpow_steps]
    exact mul_lt_mul_of_pos_right high step
  · rw [mul_div_cancel_right₀ _ step.ne']
    exact close

/-- What lies within a quarter of the spacing of a double is rounded to it. -/
theorem nearest_of_close {value double : ℚ} (rounded : nearest double = double)
    (large : 1 ≤ double) (close : |value - double| < double / 2 ^ (54 : Int)) :
    nearest value = double := by
  obtain ⟨exponent, whole, nonneg, multiple, wholeLow, wholeHigh⟩ :=
    exists_significand rounded large
  have step : (0 : ℚ) < 2 ^ (exponent - 52) := zpow_pos (by norm_num) _
  have wholeBelow : (whole : ℚ) + 1 ≤ 2 ^ 53 := by exact_mod_cast wholeHigh
  -- In steps of the grid, the value is within a fraction of the double.
  obtain ⟨scaled, rfl⟩ : ∃ scaled : ℚ, value = scaled * 2 ^ (exponent - 52) :=
    ⟨value / 2 ^ (exponent - 52), (div_mul_cancel₀ _ step.ne').symm⟩
  have near : |scaled - whole| < whole / 2 ^ 54 := by
    have power : (2 : ℚ) ^ (54 : Int) = 2 ^ 54 := by norm_num
    rw [multiple, ← sub_mul, abs_mul, abs_of_pos step, power, mul_div_right_comm] at close
    exact lt_of_mul_lt_mul_right close step.le
  obtain ⟨lower, upper⟩ := abs_lt.mp near
  rw [multiple]
  by_cases inside : (2 : ℚ) ^ 52 ≤ scaled
  · exact nearest_of_inside (by omega) inside (by linarith) (near.trans (by linarith))
  · -- Below the power of two there is only the power itself to be close to.
    rw [not_le] at inside
    have isPower : whole = 2 ^ 52 := by
      have atMost : (whole : ℚ) < 2 ^ 52 + 1 := by linarith
      have atMostInt : whole < 2 ^ 52 + 1 := by exact_mod_cast atMost
      omega
    subst isPower
    push_cast at lower upper ⊢
    have half : (2 : ℚ) ^ (exponent - 52) = 2 * 2 ^ (exponent - 1 - 52) := by
      rw [← zpow_one_add₀ (by norm_num)]
      congr 1
      omega
    have doubled : |2 * scaled - (2 ^ 53 : Int)| < 1 / 2 := by
      push_cast
      rw [abs_lt]
      constructor <;> linarith
    have finer := @nearest_of_inside (2 * scaled) (exponent - 1) (2 ^ 53) (by omega) (by linarith)
      (by linarith) doubled
    rw [half, ← mul_assoc, mul_comm scaled 2, finer]
    push_cast
    ring

/-- Rounding moves a rational by at most a half. -/
theorem abs_roundHalfEven_sub_le (value : ℚ) : |(roundHalfEven value : ℚ) - value| ≤ 1 / 2 := by
  have floorLe := Int.floor_le value
  have ltFloor := Int.lt_floor_add_one value
  unfold roundHalfEven
  dsimp only
  rw [abs_le]
  split
  next downward =>
    have rest : value - ⌊value⌋ ≤ 1 / 2 := by
      rcases downward with less | ⟨half, -⟩
      · exact less.le
      · exact half.le
    constructor <;> linarith
  next upward =>
    have rest : 1 / 2 ≤ value - ⌊value⌋ := by
      by_contra less
      exact upward (Or.inl (not_le.mp less))
    push_cast
    constructor <;> linarith

/-! ### Digits -/

theorem Number.scaled_eq {coefficient : Int} (positive : 0 < coefficient) (exponent : Int) :
    ∃ decimal, Number.scaled coefficient exponent = .finite decimal ∧
      decimal.toRat = coefficient * 10 ^ exponent ∧ decimal.negative = false ∧
      (0 ≤ exponent → decimal.isInteger = true) := by
  obtain ⟨whole, number, exact, integer, sign⟩ := Number.ofInt_eq coefficient
  have nonnegative : whole.negative = false := by
    rw [sign, decide_eq_false_iff_not]
    omega
  have nonzero : whole.coefficient ≠ 0 := by
    intro zero
    rw [Decimal.toRat, zero, Nat.cast_zero, mul_zero, zero_mul] at exact
    have none : coefficient = 0 := by exact_mod_cast exact.symm
    omega
  unfold Number.scaled
  simp only [number, dif_pos nonzero]
  refine ⟨_, rfl, ?_, nonnegative, ?_⟩
  · rw [← exact]
    simp only [Decimal.toRat]
    rw [zpow_add₀ (by norm_num), mul_assoc, mul_assoc]
    ring
  · intro whole_digits
    simp only [Decimal.isInteger, decide_eq_true_eq] at integer ⊢
    omega

/-- A decimal of so many digits that is found rounds to the double. -/
theorem significant_eq_some {digits : Nat} {value : ℚ} {number : Number}
    (found : significant digits value = some number) :
    ∃ coefficient : Int, nearest (coefficient * 10 ^ (Int.log 10 |value| + 1 - digits)) = value ∧
      number = .scaled coefficient (Int.log 10 |value| + 1 - digits) := by
  unfold significant at found
  obtain ⟨coefficient, -, chosen⟩ := List.exists_of_findSome?_eq_some found
  split at chosen
  next rounds => exact ⟨coefficient, rounds, (Option.some.inj chosen).symm⟩
  next => cases chosen

/-- Seventeen digits are enough. -/
theorem significant_seventeen {value : ℚ} (rounded : nearest value = value) (large : 1 ≤ value) :
    (significant 17 value).isSome := by
  have positive : 0 < value := by linarith
  unfold significant
  simp only [abs_of_pos positive]
  generalize exponent_eq : Int.log 10 value + 1 - (17 : Nat) = exponent
  have power : (0 : ℚ) < 10 ^ exponent := zpow_pos (by norm_num) _
  have magnitude : (10 : ℚ) ^ exponent * 10 ^ 16 ≤ value := by
    have top : (10 : ℚ) ^ Int.log 10 value ≤ value := by
      exact_mod_cast Int.zpow_log_le_self (by decide : 1 < 10) positive
    have split : (10 : ℚ) ^ Int.log 10 value = 10 ^ exponent * 10 ^ 16 := by
      rw [← zpow_natCast, ← zpow_add₀ (by norm_num), ← exponent_eq]
      congr 1
      push_cast
      ring
    rwa [split] at top
  have closest : nearest ((roundHalfEven (value / 10 ^ exponent) : ℚ) * 10 ^ exponent) = value := by
    apply nearest_of_close rounded large
    have moved := abs_roundHalfEven_sub_le (value / 10 ^ exponent)
    have distance : (roundHalfEven (value / 10 ^ exponent) : ℚ) * 10 ^ exponent - value =
        (roundHalfEven (value / 10 ^ exponent) - value / 10 ^ exponent) * 10 ^ exponent := by
      rw [sub_mul, div_mul_cancel₀ _ power.ne']
    rw [distance, abs_mul, abs_of_pos power]
    have scaled := mul_le_mul_of_nonneg_right moved power.le
    have denominator : (2 : ℚ) ^ (54 : Int) = 18014398509481984 := by norm_num
    rw [denominator]
    norm_num at magnitude scaled ⊢
    linarith
  simp [List.findSome?, closest]

/-- An integer needs no digits behind the point. -/
theorem significant_integer {value : Int} (rounded : nearest value = value) (positive : 0 < value)
    {digits : Nat} (enough : Int.log 10 (value : ℚ) + 1 = digits) :
    (significant digits (value : ℚ)).isSome := by
  have positiveRat : (0 : ℚ) < value := by exact_mod_cast positive
  have whole : roundHalfEven (value : ℚ) = value :=
    roundHalfEven_of_close (by rw [sub_self, abs_zero]; norm_num)
  unfold significant
  simp only [abs_of_pos positiveRat, enough, sub_self, zpow_zero, div_one, whole]
  simp [List.findSome?, rounded]

/-! ### Shortest decimals -/

/-- The first length at which a decimal is found. -/
theorem Double.toNumber_eq {value : ℚ} {enough : Nat} (short : enough < 17)
    (found : (significant (enough + 1) value).isSome) :
    ∃ count ≤ enough, ∃ number, significant (count + 1) value = some number ∧
      (Double.finite value).toNumber = number := by
  have some_found : ((List.range 17).findSome? fun count =>
      significant (count + 1) value).isSome := by
    rw [List.findSome?_isSome_iff]
    exact ⟨enough, List.mem_range.mpr short, found⟩
  obtain ⟨number, first⟩ := Option.isSome_iff_exists.mp some_found
  obtain ⟨before, count, after, range, here, missed⟩ := List.findSome?_eq_some_iff.mp first
  refine ⟨count, ?_, number, here, ?_⟩
  · rw [List.range_eq_range', List.range'_eq_append_iff] at range
    obtain ⟨length, -, rfl, rest⟩ := range
    obtain ⟨rfl, -, -⟩ := List.range'_eq_cons_iff.mp rest.symm
    by_contra later
    have earlier := missed enough (by simp; omega)
    rw [earlier] at found
    cases found
  · rw [Double.toNumber, first, Option.getD_some]

/-- The number of a positive integral double: it denotes the double, and has no
digits behind the point. -/
theorem Double.toNumber_integer {value : Int} (rounded : nearest value = value)
    (positive : 0 < value) (inRange : (value : ℚ) < 2 ^ 1024) :
    ∃ decimal, (Double.finite value).toNumber = .finite decimal ∧
      (Number.finite decimal).toDouble = .finite value ∧ decimal.negative = false ∧
      decimal.isInteger = true := by
  have large : (1 : ℚ) ≤ value := by exact_mod_cast positive
  have positiveRat : (0 : ℚ) < value := by linarith
  have logNonneg : 0 ≤ Int.log 10 (value : ℚ) :=
    (Int.zpow_le_iff_le_log (by decide) positiveRat).mp (by simpa using large)
  obtain ⟨places, digits⟩ := Int.eq_ofNat_of_zero_le logNonneg
  obtain ⟨enough, short, within, found⟩ : ∃ enough < 17, enough ≤ places ∧
      (significant (enough + 1) (value : ℚ)).isSome := by
    by_cases few : places < 17
    · refine ⟨places, few, le_rfl, significant_integer rounded positive ?_⟩
      rw [digits]
      rfl
    · exact ⟨16, by omega, by omega, significant_seventeen rounded large⟩
  obtain ⟨count, first, number, here, printed⟩ := Double.toNumber_eq short found
  obtain ⟨coefficient, closest, rfl⟩ := significant_eq_some here
  rw [abs_of_pos positiveRat, digits] at closest printed
  have power : (0 : ℚ) < 10 ^ ((places : Int) + 1 - ((count + 1 : Nat) : Int)) :=
    zpow_pos (by norm_num) _
  have coefficientPos : 0 < coefficient := by
    by_contra notPositive
    have nonpositive : (coefficient : ℚ) * 10 ^ ((places : Int) + 1 - ((count + 1 : Nat) : Int)) ≤ 0 :=
      mul_nonpos_of_nonpos_of_nonneg (by exact_mod_cast not_lt.mp notPositive) power.le
    have below := nearest_mono nonpositive
    rw [closest, nearest_zero] at below
    linarith
  obtain ⟨decimal, scaled, exact, sign, integer⟩ := Number.scaled_eq coefficientPos
    ((places : Int) + 1 - ((count + 1 : Nat) : Int))
  refine ⟨decimal, printed.trans scaled, ?_, sign, integer (by omega)⟩
  rw [Number.toDouble, exact, Double.ofRat, closest, abs_of_pos positiveRat,
    if_neg (not_le.mpr inRange)]

/-- A number without a sign has no sign of zero. -/
theorem Decimal.dropZeroSign_of_unsigned {decimal : Decimal} (unsigned : decimal.negative = false) :
    decimal.dropZeroSign = decimal := by
  unfold Decimal.dropZeroSign
  split
  next zero =>
    have whole : decimal.exponent = 0 := by
      rcases decimal.reduced with nonzero | ⟨-, whole⟩
      · exact absurd (by rw [zero]) nonzero
      · exact whole
    cases decimal
    simp_all
  next => rfl

/-- The rounding of an integer is an integer. -/
theorem nearest_integer (value : Int) : ∃ rounded : Int, nearest value = rounded := by
  by_cases small : |(value : ℚ)| < 2 ^ (53 : Int)
  · exact ⟨value, nearest_intCast small⟩
  · have positive : (0 : ℚ) < |(value : ℚ)| := (by norm_num : (0 : ℚ) < 2 ^ (53 : Int)).trans_le
      (not_lt.mp small)
    have log : 53 ≤ Int.log 2 |(value : ℚ)| :=
      (Int.zpow_le_iff_le_log (by decide) positive).mp (by exact_mod_cast not_lt.mp small)
    obtain ⟨digits, exponent⟩ := Int.eq_ofNat_of_zero_le (by omega :
      0 ≤ max (Int.log 2 |(value : ℚ)| - 52) (-1074))
    refine ⟨roundHalfEven (value / spacing value) * 2 ^ digits, ?_⟩
    rw [nearest, spacing, exponent]
    push_cast
    rw [zpow_natCast]

/-- What a non-negative exact value up to a power of two is rounded to. -/
theorem Double.ofRat_of_le {value : ℚ} {bits : Nat} (inRange : bits < 1024) (nonneg : 0 ≤ value)
    (small : value ≤ 2 ^ bits) : Double.ofRat value = .finite (nearest value) ∧
      0 ≤ nearest value ∧ nearest value ≤ 2 ^ bits := by
  have power : nearest (2 ^ bits) = 2 ^ bits := by
    have single : (2 : ℚ) ^ bits = (1 : Int) * 2 ^ (bits : Int) := by
      rw [zpow_natCast, Int.cast_one, one_mul]
    apply nearest_of_multiple single
    have log : Int.log 2 |(2 : ℚ) ^ bits| = bits := by
      rw [abs_of_pos (by positivity), ← zpow_natCast]
      exact_mod_cast Int.log_zpow (R := ℚ) (by decide : 1 < 2) bits
    rw [log]
    omega
  have low : 0 ≤ nearest value := nearest_zero ▸ nearest_mono nonneg
  have high : nearest value ≤ 2 ^ bits := power ▸ nearest_mono small
  refine ⟨?_, low, high⟩
  have below : ¬(2 : ℚ) ^ 1024 ≤ |nearest value| := by
    rw [abs_of_nonneg low, not_le]
    exact high.trans_lt (pow_lt_pow_right₀ (by norm_num) inRange)
  rw [Double.ofRat, if_neg below]

end DarkmeshGateway.Foundation.Js
