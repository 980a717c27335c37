import Reckoner.Number.Binary64

/-!
# Decimals

A decimal is a whole number times a power of ten. `Decimal.rank` reads a decimal as a double. In
the other direction, `Decimal.shortest` finds the shortest decimal that reads back as a given
double: for one, two, and up to seventeen digits it looks at the two decimals next to the exact
value on that grid, and takes the first that reads back, the nearer one first. -/

namespace Reckoner

/-- The number `significand * 10 ^ exponent`. -/
structure Decimal where
  significand : Nat
  exponent : Int
  deriving DecidableEq, Repr

/-- Which way a value halfway between two decimals goes. -/
inductive Tie where
  /-- To the larger magnitude. -/
  | away
  /-- To the even last digit. -/
  | even
  deriving DecidableEq, Repr

/-- Rounds up when the part cut off compares with one half as `part` says. -/
def Tie.roundsUp (tie : Tie) (quotient : Nat) (part : Ordering) : Bool :=
  match part, tie with
  | .lt, _ => false
  | .gt, _ => true
  | .eq, .away => true
  | .eq, .even => quotient % 2 == 1

/-- The decimal digits of `n`, the most significant first. -/
def decimalDigits (n : Nat) : List Char :=
  Nat.toDigits 10 n

namespace Decimal

open Binary64

/-- The exponent of the least power of ten above the decimal, for one that is not zero. -/
def top (d : Decimal) : Int :=
  (decimalDigits d.significand).length + d.exponent

/-- The rank of the double nearest to the decimal. A decimal below every unit is told by its first
digit's place, and so is one beyond every double, so that no large power of ten is formed. -/
def rank (d : Decimal) : Nat :=
  if d.significand = 0 then 0
  else if d.top ≤ -325 then 0
  else if 310 ≤ d.top then infinityRank
  else if 0 ≤ d.exponent then nearestRank (d.significand * Nat.pow 10 d.exponent.toNat) 1
  else nearestRank d.significand (Nat.pow 10 (-d.exponent).toNat)

/-- The exact value of the magnitude of rank `n`. -/
def exact (n : Nat) : Decimal :=
  ⟨units n * Nat.pow 5 unitExponent, -unitExponent⟩

/-- The two multiples of `step` next to `value`, divided by `step`, the nearer first. -/
def neighbours (tie : Tie) (value step : Nat) : List Nat :=
  let low := value / step
  if tie.roundsUp low (compare (2 * (value % step)) step) then [low + 1, low] else [low, low + 1]

/-- A decimal on the grid that drops `dropped` digits of the exact value, if it reads back as the
magnitude of rank `n`. -/
def onGrid? (tie : Tie) (n dropped : Nat) : Option Decimal :=
  let value := exact n
  let grid := (neighbours tie value.significand (Nat.pow 10 dropped)).map fun s =>
    (⟨s, value.exponent + dropped⟩ : Decimal)
  grid.find? (·.rank == n)

/-- The same decimal without zeros at the end of its significand. -/
def reduced (d : Decimal) : Decimal :=
  if d.significand ≠ 0 ∧ d.significand % 10 = 0 then
    reduced ⟨d.significand / 10, d.exponent + 1⟩
  else
    d
termination_by d.significand
decreasing_by
  omega

/-- The shortest decimal that reads back as the magnitude of rank `n`, and of those the nearest. -/
def shortest (tie : Tie) (n : Nat) : Decimal :=
  if n = 0 then ⟨0, 0⟩
  else
    let length := (decimalDigits (exact n).significand).length
    let found := (List.range' 1 17).findSome? fun count => onGrid? tie n (length - count)
    (found.getD (exact n)).reduced

end Decimal

end Reckoner
