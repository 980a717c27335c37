/-!
# Rounding a quotient

`roundDiv num den` is the whole number nearest to `num / den`; a quotient halfway between two whole
numbers goes to the even one.
-/

namespace Reckoner

/-- The whole number nearest to `num / den`, ties to even. -/
def roundDiv (num den : Nat) : Nat :=
  let quotient := num / den
  match compare (2 * (num % den)) den with
  | .lt => quotient
  | .eq => quotient + quotient % 2
  | .gt => quotient + 1

theorem roundDiv_of_lt {num den : Nat} (below : 2 * (num % den) < den) :
    roundDiv num den = num / den := by
  simp [roundDiv, Nat.compare_eq_lt.mpr below]

theorem roundDiv_of_eq {num den : Nat} (halfway : 2 * (num % den) = den) :
    roundDiv num den = num / den + num / den % 2 := by
  simp [roundDiv, Nat.compare_eq_eq.mpr halfway]

theorem roundDiv_of_gt {num den : Nat} (above : den < 2 * (num % den)) :
    roundDiv num den = num / den + 1 := by
  simp [roundDiv, Nat.compare_eq_gt.mpr above]

end Reckoner
