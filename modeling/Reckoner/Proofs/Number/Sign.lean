import Reckoner.Number.Layout
import Reckoner.Proofs.Number.Text

/-!
# Signs of doubles

A double is its sign and its rank. Changing the sign keeps the rank, and a number that has a sign is
set down as the sign and the text of its magnitude.
-/

namespace Reckoner

namespace Binary64

theorem toNat_bits_lt (x : Binary64) : x.bits.toNat < 2 * Nat.pow 2 63 :=
  x.bits.toNat_lt

theorem rank_lt (x : Binary64) : x.rank < Nat.pow 2 63 :=
  Nat.mod_lt _ (by decide)

theorem toNat_bits_ofRank (negative : Bool) {n : Nat} (low : n < Nat.pow 2 63) :
    (ofRank negative n).bits.toNat = if negative then Nat.pow 2 63 + n else n := by
  apply UInt64.toNat_ofNat_of_lt'
  change _ < 2 * Nat.pow 2 63
  cases negative with
  | false => exact Nat.lt_of_lt_of_le low (by decide)
  | true => exact Nat.two_mul (Nat.pow 2 63) ▸ Nat.add_lt_add_left low _

/-- A double has the rank and the sign that it is made of. -/
theorem rank_ofRank (negative : Bool) {n : Nat} (low : n < Nat.pow 2 63) :
    (ofRank negative n).rank = n := by
  rw [rank, toNat_bits_ofRank negative low]
  cases negative with
  | false => exact Nat.mod_eq_of_lt low
  | true => exact (Nat.add_mod_left _ _).trans (Nat.mod_eq_of_lt low)

theorem isNegative_ofRank (negative : Bool) {n : Nat} (low : n < Nat.pow 2 63) :
    (ofRank negative n).isNegative = negative := by
  rw [isNegative, toNat_bits_ofRank negative low]
  cases negative with
  | false => exact decide_eq_false (Nat.not_le.mpr low)
  | true => exact decide_eq_true (Nat.le_add_right _ n)

/-- A double is made of its sign and its rank. -/
theorem ofRank_isNegative_rank (x : Binary64) : ofRank x.isNegative x.rank = x := by
  cases sign : x.isNegative with
  | false => exact ofRank_rank sign
  | true =>
      have above : Nat.pow 2 63 ≤ x.bits.toNat := of_decide_eq_true sign
      have below := x.toNat_bits_lt
      have low : x.rank = x.bits.toNat - Nat.pow 2 63 := by
        rw [rank, Nat.mod_eq_sub_mod above, Nat.mod_eq_of_lt]
        omega
      have bits : x.bits.toNat = Nat.pow 2 63 + x.rank := by
        rw [low, Nat.add_sub_cancel' above]
      have same : UInt64.ofNat (Nat.pow 2 63 + x.rank) = x.bits := by
        rw [← bits]
        exact UInt64.ofNat_toNat
      exact congrArg mk same

/-! ## Changing the sign -/

theorem neg_eq (x : Binary64) : -x = ofRank (!x.isNegative) x.rank :=
  rfl

@[simp]
theorem rank_neg (x : Binary64) : (-x).rank = x.rank :=
  rank_ofRank _ x.rank_lt

@[simp]
theorem isNegative_neg (x : Binary64) : (-x).isNegative = !x.isNegative :=
  isNegative_ofRank _ x.rank_lt

theorem neg_neg_self (x : Binary64) : - -x = x := by
  rw [neg_eq, rank_neg, isNegative_neg, Bool.not_not, ofRank_isNegative_rank]

@[simp]
theorem isFinite_neg (x : Binary64) : (-x).isFinite = x.isFinite := by
  rw [isFinite, rank_neg, isFinite]

@[simp]
theorem isUndefined_neg (x : Binary64) : (-x).isUndefined = x.isUndefined := by
  rw [isUndefined, rank_neg, isUndefined]

end Binary64

/-- A number with a sign is set down as the sign and its magnitude. -/
theorem Layout.write_of_isNegative (layout : Layout) {x : Binary64} (finite : x.isFinite = true)
    (negative : x.isNegative = true) : layout.write x = '-' :: layout.write (-x) := by
  have inRange : x.rank < Binary64.infinityRank := of_decide_eq_true finite
  have defined : x.isUndefined = false := decide_eq_false (Nat.not_lt.mpr (Nat.le_of_lt inRange))
  simp only [write, Binary64.isUndefined_neg, Binary64.isFinite_neg, Binary64.isNegative_neg,
    Binary64.rank_neg, defined, finite, negative, if_true, Bool.not_true, Bool.false_eq_true,
    if_false]

end Reckoner
