import Mathlib
import Reckoner.Number.Decimal

/-!
# Decimals that read back

The double nearest to a quotient depends on the value of the quotient alone, and a quotient that is
the exact value of a finite double is rounded to that double. From this follows that the shortest
decimal of a double, with or without its zeros, has the rank of the double.
-/

namespace Reckoner

/-! ## Quotients -/

theorem roundDiv_mul_left {c : Nat} (pos : 0 < c) (num den : Nat) :
    roundDiv (c * num) (c * den) = roundDiv num den := by
  have quotient : c * num / (c * den) = num / den := Nat.mul_div_mul_left num den pos
  have twice : 2 * (c * num % (c * den)) = c * (2 * (num % den)) := by
    rw [Nat.mul_mod_mul_left, Nat.mul_left_comm]
  rcases Nat.lt_trichotomy (2 * (num % den)) den with below | halfway | above
  · rw [roundDiv_of_lt below, roundDiv_of_lt, quotient]
    rw [twice]
    exact Nat.mul_lt_mul_of_pos_left below pos
  · rw [roundDiv_of_eq halfway, roundDiv_of_eq, quotient]
    rw [twice, halfway]
  · rw [roundDiv_of_gt above, roundDiv_of_gt, quotient]
    rw [twice]
    exact Nat.mul_lt_mul_of_pos_left above pos

/-- A whole quotient is not rounded. -/
theorem roundDiv_mul_self {den : Nat} (pos : 0 < den) (n : Nat) : roundDiv (n * den) den = n := by
  rw [roundDiv_of_lt, Nat.mul_div_cancel n pos]
  rw [Nat.mul_mod_left]
  exact pos

namespace Binary64

theorem nearestRank_mul_left {c : Nat} (pos : 0 < c) (num den : Nat) :
    nearestRank (c * num) (c * den) = nearestRank num den := by
  simp only [nearestRank, Nat.mul_assoc c, roundDiv_mul_left pos, Nat.mul_div_mul_left _ _ pos]

/-! ## Exact values -/

theorem units_eq (n : Nat) : units n = (n - (n / binade - 1) * binade) * 2 ^ (n / binade - 1) :=
  rfl

/-- A magnitude in the lowest two binades is its own number of units. -/
theorem units_of_lt {n : Nat} (low : n < 2 * binade) : units n = n := by
  have shift : n / binade - 1 = 0 := by
    have : n / binade < 2 := (Nat.div_lt_iff_lt_mul (by decide)).mpr low
    omega
  rw [units_eq, shift, Nat.zero_mul, Nat.sub_zero, Nat.pow_zero, Nat.mul_one]

/-- Above them, a magnitude has a significand of exactly 53 bits. -/
theorem exists_units_of_le {n : Nat} (high : 2 * binade ≤ n) :
    ∃ significand shift, units n = significand * 2 ^ shift ∧ n = shift * binade + significand ∧
      binade ≤ significand ∧ significand < 2 * binade := by
  have quotient : 2 ≤ n / binade := (Nat.le_div_iff_mul_le (by decide)).mpr high
  have parts := Nat.div_add_mod n binade
  have small : n % binade < binade := Nat.mod_lt n (by decide)
  refine ⟨n - (n / binade - 1) * binade, n / binade - 1, units_eq n, ?_, ?_, ?_⟩
  all_goals
    obtain ⟨q, quotient_eq⟩ : ∃ q, n / binade = q + 1 := ⟨n / binade - 1, by omega⟩
    rw [quotient_eq] at parts ⊢
    rw [Nat.mul_add, Nat.mul_one, Nat.mul_comm] at parts
    simp only [Nat.add_sub_cancel]
    omega

/-- The rank of a number of units is found by rounding to its binade. -/
theorem nearestRank_unitsPerOne (n : Nat) :
    nearestRank n unitsPerOne =
      min infinityRank ((n.log2 - 52) * binade + roundDiv n (2 ^ (n.log2 - 52))) := by
  have one_pos : 0 < unitsPerOne := by decide +kernel
  have scaled : n * unitsPerOne / unitsPerOne = n := Nat.mul_div_cancel _ one_pos
  have reduced : roundDiv (n * unitsPerOne) (unitsPerOne * 2 ^ (n.log2 - 52)) =
      roundDiv n (2 ^ (n.log2 - 52)) := by
    rw [Nat.mul_comm n, roundDiv_mul_left one_pos]
  simp only [nearestRank, scaled, Nat.pow_eq, reduced]

theorem log2_mul_two_pow {significand : Nat} (shift : Nat) (least : binade ≤ significand)
    (most : significand < 2 * binade) : (significand * 2 ^ shift).log2 = 52 + shift := by
  have pos : 0 < significand := Nat.lt_of_lt_of_le (by decide) least
  have nonzero : significand * 2 ^ shift ≠ 0 :=
    Nat.ne_of_gt (Nat.mul_pos pos (Nat.two_pow_pos shift))
  rw [Nat.log2_eq_iff nonzero, Nat.pow_add, Nat.add_right_comm, Nat.pow_add]
  constructor
  · exact Nat.mul_le_mul_right _ least
  · exact Nat.mul_lt_mul_of_pos_right most (Nat.two_pow_pos shift)

/-- The exact value of a finite magnitude is rounded to that magnitude. -/
theorem nearestRank_units {n : Nat} (finite : n < infinityRank) :
    nearestRank (units n) unitsPerOne = n := by
  rw [nearestRank_unitsPerOne]
  rcases Nat.lt_or_ge n (2 * binade) with low | high
  · have shift : n.log2 - 52 = 0 := by
      rcases Nat.eq_zero_or_pos n with rfl | pos
      · rfl
      · have : n.log2 < 53 := (Nat.log2_lt (Nat.ne_of_gt pos)).mpr low
        omega
    have whole : roundDiv n (2 ^ 0) = n := by
      simpa using roundDiv_mul_self Nat.one_pos n
    rw [units_of_lt low, shift, whole, Nat.zero_mul, Nat.zero_add]
    exact Nat.min_eq_right (Nat.le_of_lt finite)
  · rcases exists_units_of_le high with ⟨significand, shift, value, rank, least, most⟩
    rw [value, log2_mul_two_pow shift least most, Nat.add_sub_cancel_left,
      roundDiv_mul_self (Nat.two_pow_pos shift), ← rank]
    exact Nat.min_eq_right (Nat.le_of_lt finite)

theorem units_pos {n : Nat} (pos : 0 < n) : 0 < units n := by
  rcases Nat.lt_or_ge n (2 * binade) with low | high
  · rw [units_of_lt low]
    exact pos
  · rcases exists_units_of_le high with ⟨significand, shift, value, _, least, _⟩
    rw [value]
    exact Nat.mul_pos (Nat.lt_of_lt_of_le (by decide) least) (Nat.two_pow_pos shift)

/-- Finite magnitudes lie below two to the power of 1024. -/
theorem units_lt {n : Nat} (finite : n < infinityRank) : units n < 2 ^ (1024 + unitExponent) := by
  rcases Nat.lt_or_ge n (2 * binade) with low | high
  · rw [units_of_lt low]
    exact Nat.lt_of_lt_of_le low (Nat.pow_le_pow_right Nat.two_pos (by decide : 53 ≤ _))
  · rcases exists_units_of_le high with ⟨significand, shift, value, rank, least, most⟩
    have small : shift + 1 < 2047 := by
      apply Nat.lt_of_mul_lt_mul_right (a := binade)
      rw [Nat.succ_mul]
      unfold infinityRank at finite
      omega
    have exponent : 53 + shift ≤ 1024 + unitExponent := by
      unfold unitExponent
      omega
    calc units n = significand * 2 ^ shift := value
      _ < 2 * binade * 2 ^ shift := Nat.mul_lt_mul_of_pos_right most (Nat.two_pow_pos shift)
      _ = 2 ^ (53 + shift) := by rw [Nat.pow_add]; rfl
      _ ≤ 2 ^ (1024 + unitExponent) := Nat.pow_le_pow_right Nat.two_pos exponent

end Binary64

/-! ## Digits -/

theorem decimalDigits_mul_ten {n : Nat} (pos : 0 < n) :
    decimalDigits (n * 10) = decimalDigits n ++ ['0'] := by
  have parts := Nat.toDigits_append_toDigits (b := 10) (d := 0) (by decide) pos (by decide)
  rw [Nat.toDigits_zero, Nat.add_zero, Nat.mul_comm] at parts
  exact parts.symm

theorem length_decimalDigits_le_iff {n k : Nat} (pos : 0 < k) :
    (decimalDigits n).length ≤ k ↔ n < 10 ^ k :=
  Nat.length_toDigits_le_iff (by decide) pos

namespace Decimal

open Binary64

theorem top_mul_ten {s : Nat} (pos : 0 < s) (e : Int) : top ⟨s * 10, e⟩ = top ⟨s, e + 1⟩ := by
  simp only [top, decimalDigits_mul_ten pos, List.length_append, List.length_singleton]
  omega

/-- The magnitude nearest to a decimal within reach of the doubles. -/
private theorem nearest_mul_ten (s : Nat) (e : Int) :
    (if 0 ≤ e then nearestRank (s * 10 * 10 ^ e.toNat) 1
      else nearestRank (s * 10) (10 ^ (-e).toNat)) =
    if 0 ≤ e + 1 then nearestRank (s * 10 ^ (e + 1).toNat) 1
      else nearestRank s (10 ^ (-(e + 1)).toNat) := by
  rcases Int.lt_trichotomy e (-1) with below | rfl | above
  · have exponent : (-e).toNat = (-(e + 1)).toNat + 1 := by omega
    rw [if_neg (by omega), if_neg (by omega), exponent, Nat.pow_succ, Nat.mul_comm s,
      Nat.mul_comm _ 10, nearestRank_mul_left (by decide)]
  · have whole : nearestRank (10 * s) (10 * 1) = nearestRank s 1 :=
      nearestRank_mul_left (by decide) s 1
    simpa [Nat.mul_comm s] using whole
  · have exponent : (e + 1).toNat = e.toNat + 1 := by omega
    rw [if_pos (by omega), if_pos (by omega), exponent, Nat.pow_succ, Nat.mul_assoc,
      Nat.mul_comm 10]

/-- The rank of a decimal does not hang on zeros at the end of its significand. -/
theorem rank_mul_ten (s : Nat) (e : Int) : rank ⟨s * 10, e⟩ = rank ⟨s, e + 1⟩ := by
  rcases Nat.eq_zero_or_pos s with rfl | pos
  · simp [rank]
  · have nonzero : s * 10 ≠ 0 := by omega
    simp only [rank, top_mul_ten pos, if_neg nonzero, if_neg (Nat.ne_of_gt pos), Nat.pow_eq,
      nearest_mul_ten]

theorem rank_mul_pow (s k : Nat) (e : Int) : rank ⟨s * 10 ^ k, e⟩ = rank ⟨s, e + k⟩ := by
  induction k generalizing e with
  | zero => simp
  | succ k ih =>
      rw [Nat.pow_succ, ← Nat.mul_assoc, rank_mul_ten, ih]
      congr 2
      omega

theorem rank_reduced (d : Decimal) : d.reduced.rank = d.rank := by
  fun_induction reduced d with
  | case1 d trailing ih =>
      have split : d.significand = d.significand / 10 * 10 := by omega
      rw [ih, ← rank_mul_ten, ← split]
  | case2 => rfl

theorem significand_exact (n : Nat) : (exact n).significand = units n * 5 ^ unitExponent := by
  simp only [exact, Nat.pow_eq]

/-- Exact values lie within reach of the doubles. -/
theorem top_exact_mem {n : Nat} (pos : 0 < n) (finite : n < infinityRank) :
    -325 < (exact n).top ∧ (exact n).top < 310 := by
  have top_eq : (exact n).top =
      (decimalDigits (units n * 5 ^ unitExponent)).length + -(unitExponent : Int) := by
    rw [top, significand_exact]
    rfl
  have places : unitExponent = 1074 := rfl
  have many : ¬ (decimalDigits (units n * 5 ^ unitExponent)).length ≤ 750 := by
    rw [length_decimalDigits_le_iff (by decide), Nat.not_lt]
    calc 10 ^ 750 ≤ 1 * 5 ^ unitExponent := by decide +kernel
      _ ≤ units n * 5 ^ unitExponent := Nat.mul_le_mul_right _ (units_pos pos)
  have few : (decimalDigits (units n * 5 ^ unitExponent)).length ≤ 1383 := by
    rw [length_decimalDigits_le_iff (by decide)]
    calc units n * 5 ^ unitExponent < 2 ^ (1024 + unitExponent) * 5 ^ unitExponent :=
          Nat.mul_lt_mul_of_pos_right (units_lt finite) (Nat.pow_pos (by decide))
      _ ≤ 10 ^ 1383 := by decide +kernel
  rw [top_eq]
  omega

/-- The exact value of a finite magnitude has its rank. -/
theorem rank_exact {n : Nat} (pos : 0 < n) (finite : n < infinityRank) : (exact n).rank = n := by
  have ⟨above, below⟩ := top_exact_mem pos finite
  have nonzero : (exact n).significand ≠ 0 := by
    rw [significand_exact]
    exact Nat.ne_of_gt (Nat.mul_pos (units_pos pos) (Nat.pow_pos (by decide)))
  have exponent : ¬ 0 ≤ (exact n).exponent := (by decide : ¬ (0 : Int) ≤ -unitExponent)
  have tens : 10 ^ unitExponent = 5 ^ unitExponent * unitsPerOne := by decide +kernel
  rw [rank, if_neg nonzero, if_neg (Int.not_le.mpr above), if_neg (Int.not_le.mpr below),
    if_neg exponent, significand_exact]
  simp only [exact, Int.neg_neg, Int.toNat_natCast, Nat.pow_eq]
  rw [tens, Nat.mul_comm (units n), nearestRank_mul_left (Nat.pow_pos (by decide)),
    nearestRank_units finite]

theorem rank_of_onGrid? {tie : Tie} {n dropped : Nat} {d : Decimal}
    (found : onGrid? tie n dropped = some d) : d.rank = n := by
  simpa using List.find?_some found

/-- The shortest decimal reads back. -/
theorem rank_shortest (tie : Tie) {n : Nat} (finite : n < infinityRank) :
    (shortest tie n).rank = n := by
  unfold shortest
  split
  · rename_i zero
    subst zero
    rfl
  · rename_i nonzero
    have pos := Nat.pos_of_ne_zero nonzero
    rw [rank_reduced]
    generalize search : List.findSome? _ _ = found
    cases found with
    | none => exact rank_exact pos finite
    | some d =>
        rcases List.exists_of_findSome?_eq_some search with ⟨count, _, hit⟩
        exact rank_of_onGrid? hit

end Decimal

end Reckoner
