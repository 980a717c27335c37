import Reckoner.Proofs.Number.Places

/-!
# Exact values

A finite double has an exact value, a rational number. Rounding to the places that are kept keeps the
order of values and moves a value by less than one step of the decimal grid. From 64 on, where
neighbouring doubles stand further apart than these steps, it moves no value at all.
-/

namespace Reckoner.Binary64

/-- The exact value of the magnitude of rank `n`. -/
def magnitude (n : Nat) : ℚ :=
  units n / unitsPerOne

/-- The sign of a double, as a factor. -/
def sign (x : Binary64) : ℚ :=
  if x.isNegative then -1 else 1

/-- The exact value of a finite double. -/
def value (x : Binary64) : ℚ :=
  x.sign * magnitude x.rank

/-! ## Magnitudes -/

variable {n m : Nat}

theorem unitsPerOne_cast_pos : (0 : ℚ) < unitsPerOne :=
  Nat.cast_pos.mpr unitsPerOne_pos

theorem units_zero : units 0 = 0 :=
  rfl

theorem magnitude_nonneg (n : Nat) : 0 ≤ magnitude n :=
  div_nonneg (Nat.cast_nonneg _) (Nat.cast_nonneg _)

theorem magnitude_le_iff : magnitude n ≤ magnitude m ↔ units n ≤ units m := by
  rw [magnitude, magnitude, div_le_div_iff_of_pos_right unitsPerOne_cast_pos, Nat.cast_le]

theorem magnitude_eq_zero_iff : magnitude n = 0 ↔ n = 0 := by
  rw [magnitude, div_eq_zero_iff, or_iff_left unitsPerOne_cast_pos.ne', Nat.cast_eq_zero]
  constructor
  · intro none
    by_contra nonzero
    exact absurd none (Nat.ne_of_gt (units_pos (Nat.pos_of_ne_zero nonzero)))
  · rintro rfl
    rfl

/-- Magnitudes are ranked by their values. -/
theorem units_le_of_le (finite : m < infinityRank) (le : n ≤ m) : units n ≤ units m := by
  by_contra above
  have least : units m ≤ units n := Nat.le_of_lt (Nat.lt_of_not_le above)
  have ranks := nearestRank_mono unitsPerOne_pos least
  rw [nearestRank_units finite, nearestRank_units (Nat.lt_of_le_of_lt le finite)] at ranks
  obtain rfl : n = m := Nat.le_antisymm le ranks
  exact above (Nat.le_refl _)

/-! ## Rounded magnitudes -/

theorem roundedRank_zero (places : Nat) : roundedRank places 0 = 0 := by
  have whole : units 0 * 10 ^ places = 0 * unitsPerOne := by
    rw [units_zero, Nat.zero_mul, Nat.zero_mul]
  have step : nearestStep places 0 = 0 := by
    rw [nearestStep, whole, roundDiv_mul_self unitsPerOne_pos]
  rw [roundedRank, step]
  exact nearestRank_step (by decide) whole

theorem roundedRank_finite (finite : n < infinityRank) :
    roundedRank roundingPlaces n < infinityRank :=
  roundedRank_lt finite finite (by decide)

/-- A rounded rank leaves the sign bit free. -/
theorem roundedRank_lt_signBit (finite : n < infinityRank) :
    roundedRank roundingPlaces n < Nat.pow 2 63 :=
  Nat.lt_trans (roundedRank_finite finite) (by decide)

/-- Larger magnitudes are not rounded to smaller ones. -/
theorem magnitude_roundedRank_le (finite : m < infinityRank) (le : magnitude n ≤ magnitude m) :
    magnitude (roundedRank roundingPlaces n) ≤ magnitude (roundedRank roundingPlaces m) := by
  have steps : nearestStep roundingPlaces n ≤ nearestStep roundingPlaces m :=
    roundDiv_mono unitsPerOne_pos (Nat.mul_le_mul_right _ (magnitude_le_iff.mp le))
  have ranks : roundedRank roundingPlaces n ≤ roundedRank roundingPlaces m :=
    nearestRank_mono (Nat.pow_pos (by decide)) steps
  exact magnitude_le_iff.mpr (units_le_of_le (roundedRank_finite finite) ranks)

/-- A magnitude is moved by less than one step of the grid: by half a step at most to the grid, and
from there by less than half a step to the next double. -/
theorem units_roundedRank_near (finite : n < infinityRank) :
    units (roundedRank roundingPlaces n) * 10 ^ roundingPlaces <
        units n * 10 ^ roundingPlaces + unitsPerOne ∧
      units n * 10 ^ roundingPlaces <
        units (roundedRank roundingPlaces n) * 10 ^ roundingPlaces + unitsPerOne := by
  have one := unitsPerOne_pos
  rcases Nat.lt_or_ge (units n) (64 * unitsPerOne) with fine | coarse
  · rcases nearestStep_near roundingPlaces n with ⟨low, high⟩
    rcases Nat.eq_or_lt_of_le (nearestStep_le fine) with last | inside
    · have whole : units (roundedRank roundingPlaces n) * 10 ^ roundingPlaces =
          nearestStep roundingPlaces n * unitsPerOne := by
        rw [roundedRank, last, nearestRank_coarse, units_coarseRank, Nat.mul_right_comm]
      rw [whole]
      omega
    · rcases units_nearestRank (Nat.pow_pos (by decide)) (roundedRank_finite finite) with
        ⟨below, above⟩
      have close := cell_lt_of_fine inside
      rw [roundedRank]
      omega
  · rw [roundedRank_of_coarse finite coarse]
    omega

theorem magnitude_roundedRank_near (finite : n < infinityRank) :
    |magnitude (roundedRank roundingPlaces n) - magnitude n| < 1 / 10 ^ roundingPlaces := by
  have one := unitsPerOne_cast_pos
  have step : (0 : ℚ) < 10 ^ roundingPlaces := pow_pos (by norm_num) _
  rcases units_roundedRank_near finite with ⟨low, high⟩
  have below : (units (roundedRank roundingPlaces n) * 10 ^ roundingPlaces : ℚ) <
      units n * 10 ^ roundingPlaces + unitsPerOne := by exact_mod_cast low
  have above : (units n * 10 ^ roundingPlaces : ℚ) <
      units (roundedRank roundingPlaces n) * 10 ^ roundingPlaces + unitsPerOne := by
    exact_mod_cast high
  rw [magnitude, magnitude, abs_sub_lt_iff, ← sub_div, ← sub_div, div_lt_div_iff₀ one step,
    div_lt_div_iff₀ one step, one_mul, sub_mul, sub_mul]
  constructor
  · exact sub_lt_iff_lt_add'.mpr below
  · exact sub_lt_iff_lt_add'.mpr above

/-! ## Rounded doubles -/

variable {x y : Binary64}

theorem abs_sign (x : Binary64) : |x.sign| = 1 := by
  unfold sign
  split
  · rw [abs_neg, abs_one]
  · exact abs_one

theorem abs_value (x : Binary64) : |x.value| = magnitude x.rank := by
  rw [value, abs_mul, abs_sign, one_mul, abs_of_nonneg (magnitude_nonneg _)]

theorem roundTo_ne_negative_zero (finite : x.isFinite = true) :
    x.roundTo roundingPlaces ≠ ofRank true 0 := by
  have low := roundedRank_lt_signBit (of_decide_eq_true finite)
  rw [roundTo_of_finite finite]
  split
  · decide
  · rename_i nonzero
    intro same
    have ranks := congrArg rank same
    rw [rank_ofRank _ low] at ranks
    exact nonzero ranks

/-- A rounded double has the rounded magnitude and the sign that the double has, but for the sign of
zero, which its value does not show. -/
theorem value_roundTo (finite : x.isFinite = true) :
    (x.roundTo roundingPlaces).value =
      x.sign * magnitude (roundedRank roundingPlaces x.rank) := by
  have low := roundedRank_lt_signBit (of_decide_eq_true finite)
  rw [value, rank_roundTo finite]
  by_cases zero : roundedRank roundingPlaces x.rank = 0
  · rw [zero, magnitude_eq_zero_iff.mpr rfl, mul_zero, mul_zero]
  · rw [roundTo_of_finite finite, if_neg zero, sign, isNegative_ofRank _ low, sign]

/-- Rounding keeps the order of values. -/
theorem value_roundTo_le (finite : x.isFinite = true) (other : y.isFinite = true)
    (le : x.value ≤ y.value) :
    (x.roundTo roundingPlaces).value ≤ (y.roundTo roundingPlaces).value := by
  have first : x.rank < infinityRank := of_decide_eq_true finite
  have second : y.rank < infinityRank := of_decide_eq_true other
  have left := magnitude_nonneg x.rank
  have right := magnitude_nonneg y.rank
  have leftRounded := magnitude_nonneg (roundedRank roundingPlaces x.rank)
  have rightRounded := magnitude_nonneg (roundedRank roundingPlaces y.rank)
  rw [value_roundTo finite, value_roundTo other]
  unfold value at le
  cases negative : x.isNegative with
  | false =>
      cases below : y.isNegative with
      | false =>
          simp only [sign, negative, below, Bool.false_eq_true, if_false, one_mul] at le ⊢
          exact magnitude_roundedRank_le second le
      | true =>
          -- Both doubles are zero.
          simp only [sign, negative, below, Bool.false_eq_true, if_false, if_true, one_mul,
            neg_one_mul] at le ⊢
          have none : magnitude x.rank = 0 := by linarith
          have nothing : magnitude y.rank = 0 := by linarith
          rw [magnitude_eq_zero_iff.mp none, magnitude_eq_zero_iff.mp nothing, roundedRank_zero,
            magnitude_eq_zero_iff.mpr rfl, neg_zero]
  | true =>
      cases below : y.isNegative with
      | false =>
          simp only [sign, negative, below, Bool.false_eq_true, if_false, if_true, one_mul,
            neg_one_mul]
          linarith
      | true =>
          simp only [sign, negative, below, if_true, neg_one_mul, neg_le_neg_iff] at le ⊢
          exact magnitude_roundedRank_le first le

theorem value_roundTo_near (finite : x.isFinite = true) :
    |(x.roundTo roundingPlaces).value - x.value| < 1 / 10 ^ roundingPlaces := by
  rw [value_roundTo finite, value, ← mul_sub, abs_mul, abs_sign, one_mul]
  exact magnitude_roundedRank_near (of_decide_eq_true finite)

theorem roundTo_eq_self (finite : x.isFinite = true) (coarse : 64 ≤ |x.value|) :
    x.roundTo roundingPlaces = x := by
  have inRange : x.rank < infinityRank := of_decide_eq_true finite
  rw [abs_value, magnitude, le_div_iff₀ unitsPerOne_cast_pos] at coarse
  have units : 64 * unitsPerOne ≤ units x.rank := by exact_mod_cast coarse
  have kept := roundedRank_of_coarse inRange units
  have nonzero : x.rank ≠ 0 := by
    intro zero
    have one := unitsPerOne_pos
    rw [zero, units_zero] at units
    omega
  rw [roundTo_of_finite finite, kept, if_neg nonzero, ofRank_isNegative_rank]

/-- Rounding a finite double gives a finite double that is not negative zero. It keeps the order of
values, moves a value by less than `10 ^ (-14)`, and leaves doubles of magnitude 64 or more as they
are. -/
theorem roundTo_ordered_near (finite : x.isFinite = true) (other : y.isFinite = true) :
    (x.roundTo roundingPlaces).isFinite = true ∧
      x.roundTo roundingPlaces ≠ ofRank true 0 ∧
      (x.value ≤ y.value →
        (x.roundTo roundingPlaces).value ≤ (y.roundTo roundingPlaces).value) ∧
      |(x.roundTo roundingPlaces).value - x.value| < 1 / 10 ^ 14 ∧
      (64 ≤ |x.value| → x.roundTo roundingPlaces = x) := by
  constructor
  · exact isFinite_roundTo finite
  constructor
  · exact roundTo_ne_negative_zero finite
  constructor
  · exact value_roundTo_le finite other
  constructor
  · exact value_roundTo_near finite
  · exact roundTo_eq_self finite

/-- The theorem applies to the negative double nearest to zero and to 100.1. -/
theorem roundTo_ordered_near_tiny :
    (⟨0x8000000000000001⟩ : Binary64).value ≤ (⟨0x4059066666666666⟩ : Binary64).value ∧
      (roundTo roundingPlaces ⟨0x8000000000000001⟩).value ≤
        (roundTo roundingPlaces ⟨0x4059066666666666⟩).value ∧
      roundTo roundingPlaces ⟨0x8000000000000001⟩ ≠ ofRank true 0 ∧
      |(roundTo roundingPlaces ⟨0x8000000000000001⟩).value -
        (⟨0x8000000000000001⟩ : Binary64).value| < 1 / 10 ^ 14 ∧
      64 ≤ |(⟨0x4059066666666666⟩ : Binary64).value| ∧
      roundTo roundingPlaces ⟨0x4059066666666666⟩ = ⟨0x4059066666666666⟩ := by
  have tiny : (⟨0x8000000000000001⟩ : Binary64).isFinite = true := by decide
  have hundred : (⟨0x4059066666666666⟩ : Binary64).isFinite = true := by decide
  have negative : (⟨0x8000000000000001⟩ : Binary64).sign = -1 := if_pos (by decide)
  have positive : (⟨0x4059066666666666⟩ : Binary64).sign = 1 := if_neg (by decide)
  have le : (⟨0x8000000000000001⟩ : Binary64).value ≤ (⟨0x4059066666666666⟩ : Binary64).value := by
    rw [value, value, negative, positive, neg_one_mul, one_mul]
    exact (neg_nonpos.mpr (magnitude_nonneg _)).trans (magnitude_nonneg _)
  have coarse : 64 ≤ |(⟨0x4059066666666666⟩ : Binary64).value| := by
    have many : 64 * unitsPerOne ≤ units (⟨0x4059066666666666⟩ : Binary64).rank := by
      decide +kernel
    rw [abs_value, magnitude, le_div_iff₀ unitsPerOne_cast_pos]
    exact_mod_cast many
  rcases roundTo_ordered_near tiny hundred with ⟨_, unsigned, ordered, near, _⟩
  rcases roundTo_ordered_near hundred hundred with ⟨_, _, _, _, kept⟩
  exact ⟨le, ordered le, unsigned, near, coarse, kept coarse⟩

/-! ## Numbers below zero and between whole numbers -/

/-- A number below zero, minus infinity among them. -/
def Negative (x : Binary64) : Prop :=
  x.isFinite = true ∧ x.value < 0 ∨ x = ofRank true infinityRank

/-- A number above zero, plus infinity among them. -/
def Positive (x : Binary64) : Prop :=
  x.isFinite = true ∧ 0 < x.value ∨ x = ofRank false infinityRank

/-- A number between two whole numbers. -/
def Fractional (x : Binary64) : Prop :=
  x.isFinite = true ∧ ∀ n : ℤ, x.value ≠ n

theorem value_neg_iff : x.value < 0 ↔ x.isNegative = true ∧ 0 < x.rank := by
  have nonneg := magnitude_nonneg x.rank
  have positive : 0 < magnitude x.rank ↔ 0 < x.rank := by
    rw [nonneg.lt_iff_ne', ne_eq, magnitude_eq_zero_iff, Nat.pos_iff_ne_zero]
  cases negative : x.isNegative with
  | false =>
      rw [value, sign, negative, if_neg Bool.false_ne_true, one_mul]
      exact iff_of_false nonneg.not_gt fun both => Bool.false_ne_true both.1
  | true => simp [value, sign, negative, positive]

theorem isBelowZero_iff : x.isBelowZero = true ↔ x.Negative := by
  simp only [isBelowZero, Bool.and_eq_true, decide_eq_true_eq, Bool.not_eq_true', isUndefined,
    decide_eq_false_iff_not, not_lt, Negative, value_neg_iff, isFinite]
  constructor
  · rintro ⟨⟨negative, positive⟩, defined⟩
    rcases Nat.eq_or_lt_of_le defined with infinite | finite
    · right
      rw [← ofRank_isNegative_rank x, negative, infinite]
    · exact .inl ⟨finite, negative, positive⟩
  · rintro (⟨finite, negative, positive⟩ | rfl)
    · exact ⟨⟨negative, positive⟩, Nat.le_of_lt finite⟩
    · decide

/-- What is not above zero is below it, zero, or no number. -/
theorem not_positive_cases (notPositive : ¬ x.Positive) :
    x.isUndefined = true ∨ x.rank = 0 ∨ x.Negative := by
  rw [Positive, not_or, not_and, not_lt] at notPositive
  rw [or_iff_not_imp_left, or_iff_not_imp_left, isUndefined, decide_eq_true_iff, not_lt]
  intro defined nonzero
  rcases Nat.eq_or_lt_of_le defined with infinite | finite
  · have same := ofRank_isNegative_rank x
    rw [infinite] at same
    cases negative : x.isNegative with
    | false =>
        rw [negative] at same
        exact absurd same.symm notPositive.2
    | true =>
        rw [negative] at same
        exact .inr same.symm
  · have isFinite : x.isFinite = true := decide_eq_true finite
    have nonpositive := notPositive.1 isFinite
    refine .inl ⟨isFinite, lt_of_le_of_ne nonpositive fun zero => nonzero ?_⟩
    have magnitude := abs_value x
    rw [zero, abs_zero, eq_comm, magnitude_eq_zero_iff] at magnitude
    exact magnitude

/-- The magnitude is whole exactly if its units make up ones. -/
theorem exists_value_eq_int_iff : (∃ n : ℤ, x.value = n) ↔ unitsPerOne ∣ units x.rank := by
  constructor
  · rintro ⟨n, whole⟩
    have magnitude : magnitude x.rank = n.natAbs := by
      rw [← abs_value, whole, Nat.cast_natAbs, Int.cast_abs]
    rw [Binary64.magnitude, div_eq_iff unitsPerOne_cast_pos.ne'] at magnitude
    exact ⟨n.natAbs, by rw [mul_comm]; exact_mod_cast magnitude⟩
  · rintro ⟨k, units⟩
    have magnitude : magnitude x.rank = k := by
      rw [Binary64.magnitude, units, Nat.cast_mul, mul_div_cancel_left₀ _ unitsPerOne_cast_pos.ne']
    rw [value, magnitude, sign]
    split
    · exact ⟨-k, by push_cast; ring⟩
    · exact ⟨k, by push_cast; ring⟩

theorem hasFraction_iff : x.hasFraction = true ↔ x.Fractional := by
  rw [hasFraction, Bool.and_eq_true, bne_iff_ne, ne_eq, ← Nat.dvd_iff_mod_eq_zero,
    ← exists_value_eq_int_iff, not_exists, Fractional]

end Reckoner.Binary64
