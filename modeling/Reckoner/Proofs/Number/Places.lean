import Mathlib
import Reckoner.Evaluation
import Reckoner.Proofs.Number.Nearest
import Reckoner.Proofs.Number.Sign

/-!
# Rounding to decimal places

Rounding a double to decimal places and reading the result as a double again is done once and for
all: a second time changes nothing. Below 64 neighbouring doubles stand closer than the steps of the
decimal grid, so that the double next to a step rounds back to that step. From 64 on they stand
further apart, so that the double next to the nearest step is the double itself.
-/

namespace Reckoner

/-! ## Quotients -/

/-- A quotient is rounded by half a unit at most. -/
theorem roundDiv_near {den : Nat} (pos : 0 < den) (num : Nat) :
    2 * (roundDiv num den * den) ≤ 2 * num + den ∧
      2 * num ≤ 2 * (roundDiv num den * den) + den := by
  have parts := Nat.div_add_mod' num den
  have small := Nat.mod_lt num pos
  have next := Nat.add_one_mul (num / den) den
  rcases Nat.lt_trichotomy (2 * (num % den)) den with below | halfway | above
  · rw [roundDiv_of_lt below]
    omega
  · rw [roundDiv_of_eq halfway]
    rcases Nat.mod_two_eq_zero_or_one (num / den) with even | odd
    · rw [even, Nat.add_zero]
      omega
    · rw [odd]
      omega
  · rw [roundDiv_of_gt above]
    omega

/-- A whole number that is closer than half a unit is the rounded quotient. -/
theorem roundDiv_eq_of_near {num den n : Nat} (above : 2 * (n * den) < 2 * num + den)
    (below : 2 * num < 2 * (n * den) + den) : roundDiv num den = n := by
  have pos : 0 < den := by omega
  have ⟨low, high⟩ := roundDiv_near pos num
  have least : n * den < (roundDiv num den + 1) * den := by
    rw [Nat.add_one_mul (roundDiv num den)]
    omega
  have most : roundDiv num den * den < (n + 1) * den := by
    rw [Nat.add_one_mul n]
    omega
  have lower := Nat.lt_of_mul_lt_mul_right least
  have upper := Nat.lt_of_mul_lt_mul_right most
  omega

/-- Larger quotients are not rounded to smaller numbers. -/
theorem roundDiv_mono {num more den : Nat} (pos : 0 < den) (le : num ≤ more) :
    roundDiv num den ≤ roundDiv more den := by
  by_contra smaller
  have ⟨low, _⟩ := roundDiv_near pos num
  have ⟨_, high⟩ := roundDiv_near pos more
  have next : (roundDiv more den + 1) * den ≤ roundDiv num den * den :=
    Nat.mul_le_mul_right den (by omega)
  rw [Nat.add_one_mul (roundDiv more den)] at next
  -- Only a tie is rounded down from above, and then the two quotients are the same.
  have same : num = more := by omega
  exact smaller (Nat.le_of_eq (congrArg (roundDiv · den) same))

namespace Binary64

/-! ## The nearest double -/

/-- The exponent of the binade that `num / den` lies in, counted in units. -/
def binadeOf (num den : Nat) : Nat :=
  (num * unitsPerOne / den).log2 - 52

/-- The significand that `num / den` is rounded to in its binade. -/
def significandOf (num den : Nat) : Nat :=
  roundDiv (num * unitsPerOne) (den * 2 ^ binadeOf num den)

theorem nearestRank_eq (num den : Nat) :
    nearestRank num den = min infinityRank (binadeOf num den * binade + significandOf num den) :=
  rfl

theorem unitsPerOne_eq : unitsPerOne = 2 ^ unitExponent := by
  decide +kernel

theorem unitsPerOne_pos : 0 < unitsPerOne := by
  rw [unitsPerOne_eq]
  exact Nat.two_pow_pos unitExponent

variable {num den : Nat}

theorem two_pow_binade (extra shift : Nat) :
    2 ^ (52 + extra + shift) = 2 ^ extra * binade * 2 ^ shift := by
  rw [Nat.pow_add, Nat.add_comm 52, Nat.pow_add]
  rfl

/-- A significand has 53 bits at most, or it is the next power of two. -/
theorem significandOf_le (pos : 0 < den) : significandOf num den ≤ 2 * binade := by
  have cell_pos : 0 < den * 2 ^ binadeOf num den := Nat.mul_pos pos (Nat.two_pow_pos _)
  have bits : (num * unitsPerOne / den).log2 + 1 ≤ 52 + 1 + binadeOf num den := by
    unfold binadeOf
    omega
  have quotient : num * unitsPerOne / den < 2 ^ 1 * binade * 2 ^ binadeOf num den := by
    rw [← two_pow_binade]
    exact Nat.lt_of_lt_of_le Nat.lt_log2_self (Nat.pow_le_pow_right Nat.two_pos bits)
  have value : num * unitsPerOne ≤ 2 * binade * (den * 2 ^ binadeOf num den) := by
    rw [Nat.mul_left_comm, Nat.mul_comm den]
    exact Nat.le_of_lt ((Nat.div_lt_iff_lt_mul pos).mp quotient)
  calc significandOf num den
      ≤ roundDiv (2 * binade * (den * 2 ^ binadeOf num den)) (den * 2 ^ binadeOf num den) :=
        roundDiv_mono cell_pos value
    _ = 2 * binade := roundDiv_mul_self cell_pos _

/-- Above the lowest binade a significand has 53 bits at least. -/
theorem le_significandOf (pos : 0 < den) (above : 0 < binadeOf num den) :
    binade ≤ significandOf num den := by
  have cell_pos : 0 < den * 2 ^ binadeOf num den := Nat.mul_pos pos (Nat.two_pow_pos _)
  have bits : (num * unitsPerOne / den).log2 = 52 + 0 + binadeOf num den := by
    unfold binadeOf at above ⊢
    omega
  have nonzero : num * unitsPerOne / den ≠ 0 := by
    intro zero
    rw [zero, Nat.log2_zero] at bits
    omega
  have quotient : 2 ^ 0 * binade * 2 ^ binadeOf num den ≤ num * unitsPerOne / den := by
    rw [← two_pow_binade, ← bits]
    exact Nat.log2_self_le nonzero
  have value : binade * (den * 2 ^ binadeOf num den) ≤ num * unitsPerOne := by
    rw [Nat.pow_zero, Nat.one_mul] at quotient
    rw [Nat.mul_left_comm, Nat.mul_comm den]
    exact (Nat.le_div_iff_mul_le pos).mp quotient
  calc binade
      = roundDiv (binade * (den * 2 ^ binadeOf num den)) (den * 2 ^ binadeOf num den) :=
        (roundDiv_mul_self cell_pos _).symm
    _ ≤ significandOf num den := roundDiv_mono cell_pos value

/-- The number of units of a rank that is given by binade and significand. -/
theorem units_add {shift significand : Nat} (most : significand ≤ 2 * binade)
    (least : 0 < shift → binade ≤ significand) :
    units (shift * binade + significand) = significand * 2 ^ shift := by
  have binade_pos : 0 < binade := by decide
  have quotient (q rest : Nat) (small : rest < binade) : (q * binade + rest) / binade = q := by
    rw [Nat.mul_comm, Nat.mul_add_div binade_pos, Nat.div_eq_of_lt small, Nat.add_zero]
  rcases Nat.lt_or_ge significand binade with low | high
  · have lowest : shift = 0 := by
      by_contra above
      exact absurd (least (Nat.pos_of_ne_zero above)) (Nat.not_le.mpr low)
    rw [lowest, Nat.zero_mul, Nat.zero_add, units_of_lt (by omega), Nat.pow_zero, Nat.mul_one]
  · rcases Nat.eq_or_lt_of_le most with carried | fits
    · have place : (shift * binade + significand) / binade - 1 = shift + 1 := by
        have whole := quotient (shift + 2) 0 binade_pos
        rw [Nat.add_mul, Nat.add_zero] at whole
        rw [carried, whole]
        rfl
      have rest : shift * binade + significand - (shift + 1) * binade = binade := by
        rw [carried, Nat.add_one_mul shift]
        omega
      rw [units_eq, place, rest, carried, Nat.pow_succ, ← Nat.mul_assoc, Nat.mul_comm _ 2,
        Nat.mul_assoc]
    · have place : (shift * binade + significand) / binade - 1 = shift := by
        have whole := quotient (shift + 1) (significand - binade) (by omega)
        rw [Nat.add_one_mul shift, Nat.add_assoc, Nat.add_sub_cancel' high] at whole
        rw [whole, Nat.add_sub_cancel]
      rw [units_eq, place, Nat.add_sub_cancel_left]

/-- The nearest double is half a step of its binade away at most. -/
theorem units_nearestRank (pos : 0 < den) (finite : nearestRank num den < infinityRank) :
    2 * (units (nearestRank num den) * den) ≤
        2 * (num * unitsPerOne) + den * 2 ^ binadeOf num den ∧
      2 * (num * unitsPerOne) ≤
        2 * (units (nearestRank num den) * den) + den * 2 ^ binadeOf num den := by
  have reached : nearestRank num den = binadeOf num den * binade + significandOf num den := by
    rw [nearestRank_eq] at finite ⊢
    omega
  have cell_pos : 0 < den * 2 ^ binadeOf num den := Nat.mul_pos pos (Nat.two_pow_pos _)
  have near := roundDiv_near cell_pos (num * unitsPerOne)
  rw [reached, units_add (significandOf_le pos) (le_significandOf pos), Nat.mul_assoc,
    Nat.mul_comm _ den]
  exact near

/-- A double that is closer than half a step of its binade is the nearest one. -/
theorem nearestRank_eq_of_near {shift significand : Nat} (least : binade < significand)
    (most : significand < 2 * binade) (finite : shift * binade + significand ≤ infinityRank)
    (above : 2 * (significand * (den * 2 ^ shift)) < 2 * (num * unitsPerOne) + den * 2 ^ shift)
    (below : 2 * (num * unitsPerOne) < 2 * (significand * (den * 2 ^ shift)) + den * 2 ^ shift) :
    nearestRank num den = shift * binade + significand := by
  have pos : 0 < den := by
    by_contra none
    obtain rfl : den = 0 := by omega
    simp only [Nat.zero_mul, Nat.mul_zero] at above below
    omega
  have lower : binade * (den * 2 ^ shift) ≤ num * unitsPerOne := by
    have := Nat.mul_le_mul_right (den * 2 ^ shift) least
    rw [Nat.add_one_mul binade] at this
    omega
  have upper : num * unitsPerOne < 2 * binade * (den * 2 ^ shift) := by
    have := Nat.mul_le_mul_right (den * 2 ^ shift) most
    rw [Nat.add_one_mul significand] at this
    omega
  have place : binadeOf num den = shift := by
    rw [Nat.mul_left_comm, Nat.mul_comm den] at lower upper
    have least : 2 ^ (52 + 0 + shift) ≤ num * unitsPerOne / den := by
      rw [two_pow_binade, Nat.pow_zero, Nat.one_mul]
      exact (Nat.le_div_iff_mul_le pos).mpr lower
    have most : num * unitsPerOne / den < 2 ^ (52 + 1 + shift) := by
      rw [two_pow_binade]
      exact (Nat.div_lt_iff_lt_mul pos).mpr upper
    have nonzero : num * unitsPerOne / den ≠ 0 :=
      Nat.ne_of_gt (Nat.lt_of_lt_of_le (Nat.two_pow_pos _) least)
    have atLeast := (Nat.le_log2 nonzero).mpr least
    have below := (Nat.log2_lt nonzero).mpr most
    unfold binadeOf
    omega
  have nearest : significandOf num den = significand := by
    rw [significandOf, place]
    exact roundDiv_eq_of_near above below
  rw [nearestRank_eq, place, nearest]
  exact Nat.min_eq_right finite

/-- Larger quotients have no smaller nearest double. -/
theorem nearestRank_mono {more : Nat} (pos : 0 < den) (le : num ≤ more) :
    nearestRank num den ≤ nearestRank more den := by
  have scaled : num * unitsPerOne ≤ more * unitsPerOne := Nat.mul_le_mul_right _ le
  have quotient : (num * unitsPerOne / den).log2 ≤ (more * unitsPerOne / den).log2 := by
    rw [Nat.log2_eq_log_two, Nat.log2_eq_log_two]
    exact Nat.log_mono_right (Nat.div_le_div_right scaled)
  have place : binadeOf num den ≤ binadeOf more den := Nat.sub_le_sub_right quotient 52
  have ordered : binadeOf num den * binade + significandOf num den ≤
      binadeOf more den * binade + significandOf more den := by
    rcases Nat.eq_or_lt_of_le place with same | lower
    · have significands : significandOf num den ≤ significandOf more den := by
        unfold significandOf
        rw [← same]
        exact roundDiv_mono (Nat.mul_pos pos (Nat.two_pow_pos _)) scaled
      rw [same]
      exact Nat.add_le_add_left significands _
    · -- The significand in the higher binade makes up for the largest one in the lower binade.
      have first : significandOf num den ≤ 2 * binade := significandOf_le pos
      have second : binade ≤ significandOf more den :=
        le_significandOf pos (Nat.zero_lt_of_lt lower)
      have step := Nat.mul_le_mul_right binade lower
      rw [Nat.add_one_mul (binadeOf num den)] at step
      omega
  rw [nearestRank_eq, nearestRank_eq]
  exact min_le_min_left _ ordered

/-! ## The decimal grid -/

/-- The step of the decimal grid nearest to the magnitude of rank `n`. -/
def nearestStep (places n : Nat) : Nat :=
  roundDiv (units n * 10 ^ places) unitsPerOne

/-- The rank of the magnitude of rank `n`, rounded to decimal places. -/
def roundedRank (places n : Nat) : Nat :=
  nearestRank (nearestStep places n) (10 ^ places)

theorem roundTo_of_finite {x : Binary64} (finite : x.isFinite = true) (places : Nat) :
    x.roundTo places =
      if roundedRank places x.rank = 0 then ofRank false 0
      else ofRank x.isNegative (roundedRank places x.rank) := by
  rw [roundTo, if_pos finite]
  rfl

/-- The nearest step is half a step away at most. -/
theorem nearestStep_near (places n : Nat) :
    2 * (nearestStep places n * unitsPerOne) ≤ 2 * (units n * 10 ^ places) + unitsPerOne ∧
      2 * (units n * 10 ^ places) ≤ 2 * (nearestStep places n * unitsPerOne) + unitsPerOne :=
  roundDiv_near unitsPerOne_pos _

/-- A magnitude that is a step of the grid is not changed. -/
theorem nearestRank_step {places n step : Nat} (finite : n < infinityRank)
    (whole : units n * 10 ^ places = step * unitsPerOne) : nearestRank step (10 ^ places) = n := by
  calc nearestRank step (10 ^ places)
      = nearestRank (unitsPerOne * step) (unitsPerOne * 10 ^ places) :=
        (nearestRank_mul_left unitsPerOne_pos _ _).symm
    _ = nearestRank (10 ^ places * units n) (10 ^ places * unitsPerOne) := by
        rw [Nat.mul_comm _ step, ← whole, Nat.mul_comm unitsPerOne, Nat.mul_comm (units n)]
    _ = n := by
        rw [nearestRank_mul_left (Nat.pow_pos (by decide)), nearestRank_units finite]

/-- The rank of 64, from where on doubles stand further apart than the steps of the grid. -/
def coarseRank : Nat :=
  1029 * binade

theorem units_coarse : 64 * unitsPerOne = 2 ^ (6 + unitExponent) := by
  rw [unitsPerOne_eq, Nat.pow_add]

theorem units_coarseRank : units coarseRank = 64 * unitsPerOne := by
  have shift : coarseRank / binade - 1 = 1028 := by decide
  have significand : coarseRank - 1028 * binade = 2 ^ 52 := by decide
  have exponent : 6 + unitExponent = 52 + 1028 := by decide
  rw [units_eq, shift, significand, units_coarse, exponent, Nat.pow_add]

/-- Rounding does not change a whole number. -/
theorem roundedRank_of_whole {n whole : Nat} (places : Nat) (finite : n < infinityRank)
    (value : units n = unitsPerOne * whole) : roundedRank places n = n := by
  have onGrid : units n * 10 ^ places = whole * 10 ^ places * unitsPerOne := by
    rw [value, Nat.mul_comm unitsPerOne, Nat.mul_right_comm]
  have step : nearestStep places n = whole * 10 ^ places := by
    rw [nearestStep, onGrid, roundDiv_mul_self unitsPerOne_pos]
  rw [roundedRank, step]
  exact nearestRank_step finite onGrid

/-- The binades from 64 on. -/
theorem le_shift_of_coarse {significand shift : Nat} (most : significand < 2 * binade)
    (coarse : 64 * unitsPerOne ≤ significand * 2 ^ shift) : 1028 ≤ shift := by
  have large : 2 ^ (6 + unitExponent) < 2 ^ (53 + shift) := by
    calc 2 ^ (6 + unitExponent) = 64 * unitsPerOne := units_coarse.symm
      _ ≤ significand * 2 ^ shift := coarse
      _ < 2 * binade * 2 ^ shift := Nat.mul_lt_mul_of_pos_right most (Nat.two_pow_pos shift)
      _ = 2 ^ (53 + shift) := (two_pow_binade 1 shift).symm
  have := (Nat.pow_lt_pow_iff_right (by decide)).mp large
  unfold unitExponent at this
  omega

/-- Inside the binades from 64 on, no double is closer to the nearest step than the one it is the
nearest step to. -/
theorem roundedRank_of_inside {n significand shift : Nat} (finite : n < infinityRank)
    (wide : 1028 ≤ shift) (least : binade < significand) (most : significand < 2 * binade)
    (rank : n = shift * binade + significand) (value : units n = significand * 2 ^ shift) :
    roundedRank roundingPlaces n = n := by
  have ⟨low, high⟩ := nearestStep_near roundingPlaces n
  have apart : unitsPerOne < 10 ^ roundingPlaces * 2 ^ shift := by
    have exponent : unitExponent ≤ 46 + shift := Nat.add_le_add_left wide 46
    calc unitsPerOne = 2 ^ unitExponent := unitsPerOne_eq
      _ ≤ 2 ^ (46 + shift) := Nat.pow_le_pow_right Nat.two_pos exponent
      _ = 2 ^ 46 * 2 ^ shift := Nat.pow_add 2 46 shift
      _ < 10 ^ roundingPlaces * 2 ^ shift :=
        Nat.mul_lt_mul_of_pos_right (by decide) (Nat.two_pow_pos shift)
  have same : significand * (10 ^ roundingPlaces * 2 ^ shift) =
      units n * 10 ^ roundingPlaces := by
    rw [value, Nat.mul_assoc, Nat.mul_comm (2 ^ shift)]
  have reached : nearestRank (nearestStep roundingPlaces n) (10 ^ roundingPlaces) =
      shift * binade + significand := by
    rw [rank] at finite
    apply nearestRank_eq_of_near least most (Nat.le_of_lt finite)
    · rw [same]
      omega
    · rw [same]
      omega
  exact reached.trans rank.symm

/-- From 64 on rounding to the places that are kept changes nothing. -/
theorem roundedRank_of_coarse {n : Nat} (finite : n < infinityRank)
    (coarse : 64 * unitsPerOne ≤ units n) : roundedRank roundingPlaces n = n := by
  have high : 2 * binade ≤ n := by
    by_contra low
    rw [units_of_lt (by omega), units_coarse] at coarse
    have : 2 * binade ≤ 2 ^ (6 + unitExponent) :=
      Nat.pow_le_pow_right Nat.two_pos (by decide : 53 ≤ 6 + unitExponent)
    omega
  rcases exists_units_of_le high with ⟨significand, shift, value, rank, least, most⟩
  rw [value] at coarse
  have wide := le_shift_of_coarse most coarse
  rcases Nat.eq_or_lt_of_le least with power | inside
  · -- The binade below is finer, but a power of two from 64 on is a whole number.
    obtain ⟨extra, exponent⟩ : ∃ extra, 52 + 0 + shift = unitExponent + extra :=
      Nat.exists_eq_add_of_le (Nat.le_trans (by decide) (Nat.add_le_add_left wide 52))
    have multiple : units n = unitsPerOne * 2 ^ extra := by
      have parts := two_pow_binade 0 shift
      rw [exponent, Nat.pow_add, Nat.pow_zero, Nat.one_mul] at parts
      rw [value, ← power, ← parts, unitsPerOne_eq]
    exact roundedRank_of_whole roundingPlaces finite multiple
  · exact roundedRank_of_inside finite wide inside most rank value

/-- Below 64 doubles stand closer than the steps of the grid. -/
theorem cell_lt_of_fine {step : Nat} (fine : step < 64 * 10 ^ roundingPlaces) :
    10 ^ roundingPlaces * 2 ^ binadeOf step (10 ^ roundingPlaces) < unitsPerOne := by
  have pos : 0 < 10 ^ roundingPlaces := Nat.pow_pos (by decide)
  have place : binadeOf step (10 ^ roundingPlaces) ≤ 1027 := by
    have quotient : step * unitsPerOne / 10 ^ roundingPlaces < 2 ^ (6 + unitExponent) := by
      rw [Nat.div_lt_iff_lt_mul pos]
      calc step * unitsPerOne < 64 * 10 ^ roundingPlaces * unitsPerOne :=
            Nat.mul_lt_mul_of_pos_right fine unitsPerOne_pos
        _ = 2 ^ (6 + unitExponent) * 10 ^ roundingPlaces := by
            rw [Nat.mul_right_comm, units_coarse]
    unfold binadeOf
    rcases Nat.eq_zero_or_pos (step * unitsPerOne / 10 ^ roundingPlaces) with zero | nonzero
    · rw [zero, Nat.log2_zero]
      omega
    · have := (Nat.log2_lt (Nat.ne_of_gt nonzero)).mpr quotient
      unfold unitExponent at this
      omega
  have exponent : 47 + binadeOf step (10 ^ roundingPlaces) ≤ unitExponent :=
    Nat.add_le_add_left place 47
  calc 10 ^ roundingPlaces * 2 ^ binadeOf step (10 ^ roundingPlaces)
      < 2 ^ 47 * 2 ^ binadeOf step (10 ^ roundingPlaces) :=
        Nat.mul_lt_mul_of_pos_right (by decide) (Nat.two_pow_pos _)
    _ = 2 ^ (47 + binadeOf step (10 ^ roundingPlaces)) := (Nat.pow_add 2 47 _).symm
    _ ≤ 2 ^ unitExponent := Nat.pow_le_pow_right Nat.two_pos exponent
    _ = unitsPerOne := unitsPerOne_eq.symm

/-- Below 64 the double next to a step of the grid rounds back to the step. -/
theorem nearestStep_nearestRank {step : Nat} (fine : step < 64 * 10 ^ roundingPlaces)
    (finite : nearestRank step (10 ^ roundingPlaces) < infinityRank) :
    nearestStep roundingPlaces (nearestRank step (10 ^ roundingPlaces)) = step := by
  have pos : 0 < 10 ^ roundingPlaces := Nat.pow_pos (by decide)
  have ⟨low, high⟩ := units_nearestRank pos finite
  have close := cell_lt_of_fine fine
  apply roundDiv_eq_of_near
  · omega
  · omega

/-- Below 64 no step of the grid beyond 64 is nearest. -/
theorem nearestStep_le {n : Nat} (fine : units n < 64 * unitsPerOne) :
    nearestStep roundingPlaces n ≤ 64 * 10 ^ roundingPlaces := by
  calc nearestStep roundingPlaces n
      ≤ roundDiv (64 * 10 ^ roundingPlaces * unitsPerOne) unitsPerOne := by
        apply roundDiv_mono unitsPerOne_pos
        rw [Nat.mul_right_comm]
        exact Nat.mul_le_mul_right _ (Nat.le_of_lt fine)
    _ = 64 * 10 ^ roundingPlaces := roundDiv_mul_self unitsPerOne_pos _

theorem nearestRank_coarse :
    nearestRank (64 * 10 ^ roundingPlaces) (10 ^ roundingPlaces) = coarseRank := by
  apply nearestRank_step (by decide)
  rw [units_coarseRank, Nat.mul_right_comm]

/-- Below 64 the rounded magnitude is 64 at most. -/
theorem roundedRank_le {n : Nat} (fine : units n < 64 * unitsPerOne) :
    roundedRank roundingPlaces n ≤ coarseRank := by
  rw [← nearestRank_coarse]
  exact nearestRank_mono (Nat.pow_pos (by decide)) (nearestStep_le fine)

/-- Rounding keeps a magnitude below every bound from 64 on that it lies below. -/
theorem roundedRank_lt {n bound : Nat} (finite : n < infinityRank) (below : n < bound)
    (coarse : coarseRank < bound) : roundedRank roundingPlaces n < bound := by
  rcases Nat.lt_or_ge (units n) (64 * unitsPerOne) with fine | high
  · exact Nat.lt_of_le_of_lt (roundedRank_le fine) coarse
  · rw [roundedRank_of_coarse finite high]
    exact below

/-- Rounding a second time changes nothing. -/
theorem roundedRank_roundedRank {n : Nat} (finite : n < infinityRank) :
    roundedRank roundingPlaces (roundedRank roundingPlaces n) = roundedRank roundingPlaces n := by
  rcases Nat.lt_or_ge (units n) (64 * unitsPerOne) with fine | coarse
  · rcases Nat.eq_or_lt_of_le (nearestStep_le fine) with last | inside
    · have bound : roundedRank roundingPlaces n = coarseRank := by
        rw [roundedRank, last, nearestRank_coarse]
      rw [bound]
      exact roundedRank_of_coarse (by decide) (Nat.le_of_eq units_coarseRank.symm)
    · have rounded := roundedRank_lt finite finite (by decide)
      rw [roundedRank, roundedRank, nearestStep_nearestRank inside rounded]
  · rw [roundedRank_of_coarse finite coarse, roundedRank_of_coarse finite coarse]

/-! ## Rounded doubles -/

variable {x : Binary64}

theorem rank_roundTo (finite : x.isFinite = true) :
    (x.roundTo roundingPlaces).rank = roundedRank roundingPlaces x.rank := by
  have inRange : x.rank < infinityRank := of_decide_eq_true finite
  have rounded := roundedRank_lt inRange inRange (by decide)
  have low : roundedRank roundingPlaces x.rank < Nat.pow 2 63 := Nat.lt_trans rounded (by decide)
  rw [roundTo_of_finite finite]
  split
  · rename_i zero
    rw [zero]
    rfl
  · exact rank_ofRank _ low

theorem isFinite_roundTo (finite : x.isFinite = true) :
    (x.roundTo roundingPlaces).isFinite = true := by
  have inRange : x.rank < infinityRank := of_decide_eq_true finite
  rw [isFinite, rank_roundTo finite]
  exact decide_eq_true (roundedRank_lt inRange inRange (by decide))

/-- Rounding a double that has been rounded changes nothing, not even the sign of zero. -/
theorem roundTo_roundTo (finite : x.isFinite = true) :
    (x.roundTo roundingPlaces).roundTo roundingPlaces = x.roundTo roundingPlaces := by
  have inRange : x.rank < infinityRank := of_decide_eq_true finite
  have low : roundedRank roundingPlaces x.rank < Nat.pow 2 63 :=
    Nat.lt_trans (roundedRank_lt inRange inRange (by decide)) (by decide)
  have stays : roundedRank roundingPlaces (x.roundTo roundingPlaces).rank =
      roundedRank roundingPlaces x.rank := by
    rw [rank_roundTo finite, roundedRank_roundedRank inRange]
  rw [roundTo_of_finite (isFinite_roundTo finite), stays, roundTo_of_finite finite]
  split
  · rfl
  · rw [isNegative_ofRank _ low]

end Binary64

end Reckoner
