import Reckoner.Number.Rounding

/-!
# Doubles

A double is given by its 64 bits. The magnitudes of the doubles are counted from zero upwards: the
*rank* of a double is the number of magnitudes below its own, which is what its bits hold beside the
sign. Every finite magnitude is a whole number of units of `2 ^ (-1074)`, the smallest positive
double. Rounding a quotient to the nearest double is then arithmetic on natural numbers; only sums,
products, quotients and roots are left to the machine.
-/

namespace Reckoner

/-- A double, as its bits: the sign, and below it the rank of the magnitude. -/
structure Binary64 where
  bits : UInt64
  deriving DecidableEq, Repr, Inhabited

namespace Binary64

/-- How many magnitudes share one exponent. -/
def binade : Nat :=
  Nat.pow 2 52

/-- The rank of infinity, above that of every finite double. -/
def infinityRank : Nat :=
  2047 * binade

/-- The least exponent of two, negated: a unit is `1 / 2 ^ unitExponent`. -/
def unitExponent : Nat :=
  1074

/-- The number of units in one. -/
def unitsPerOne : Nat :=
  Nat.pow 2 unitExponent

/-- The bits of a double without the sign. -/
def rank (x : Binary64) : Nat :=
  x.bits.toNat % Nat.pow 2 63

/-- The sign bit of a double. -/
def isNegative (x : Binary64) : Bool :=
  Nat.pow 2 63 ≤ x.bits.toNat

/-- Neither infinite nor undefined. -/
def isFinite (x : Binary64) : Bool :=
  x.rank < infinityRank

/-- Not a number. -/
def isUndefined (x : Binary64) : Bool :=
  infinityRank < x.rank

/-- Less than zero. -/
def isBelowZero (x : Binary64) : Bool :=
  x.isNegative && 0 < x.rank && !x.isUndefined

/-- The double with the given sign and rank. -/
def ofRank (negative : Bool) (n : Nat) : Binary64 :=
  ⟨.ofNat (if negative then Nat.pow 2 63 + n else n)⟩

/-! ## Nearest doubles -/

/-- The finite magnitude of rank `n`, in units. -/
def units (n : Nat) : Nat :=
  let shift := n / binade - 1
  (n - shift * binade) * Nat.pow 2 shift

/-- The rank of the magnitude nearest to `num / den`, ties to the even rank. Past the largest finite
magnitude this is the rank of infinity. -/
def nearestRank (num den : Nat) : Nat :=
  let scaled := num * unitsPerOne
  let shift := (scaled / den).log2 - 52
  min infinityRank (shift * binade + roundDiv scaled (den * Nat.pow 2 shift))

/-- The non-negative double nearest to `num / den`. -/
def nearest (num den : Nat) : Binary64 :=
  ofRank false (nearestRank num den)

/-- The finite double `x` rounded to `places` decimal places, ties to even, and then to the nearest
double. Zero comes out without a sign. -/
def roundTo (places : Nat) (x : Binary64) : Binary64 :=
  if x.isFinite then
    let steps := roundDiv (units x.rank * Nat.pow 10 places) unitsPerOne
    let rounded := nearestRank steps (Nat.pow 10 places)
    if rounded = 0 then ofRank false 0 else ofRank x.isNegative rounded
  else
    x

/-- Whether a double has a fractional part, read off its bits. -/
def hasFraction (x : Binary64) : Bool :=
  x.isFinite && units x.rank % unitsPerOne != 0

/-! ## Arithmetic -/

/-- A value that is not a number. -/
def undefined : Binary64 :=
  ⟨0x7ff8000000000000⟩

/-- A double as the machine's arithmetic takes it. -/
def toFloat (x : Binary64) : Float :=
  .ofBits x.bits

/-- A result of the machine's arithmetic. -/
def ofFloat (x : Float) : Binary64 :=
  ⟨x.toBits⟩

/-- A function of the machine's arithmetic on doubles. -/
def lift (f : Float → Float) (x : Binary64) : Binary64 :=
  ofFloat (f x.toFloat)

/-- An operation of the machine's arithmetic on doubles. -/
def lift₂ (f : Float → Float → Float) (x y : Binary64) : Binary64 :=
  ofFloat (f x.toFloat y.toFloat)

instance : Add Binary64 :=
  ⟨lift₂ (· + ·)⟩

instance : Sub Binary64 :=
  ⟨lift₂ (· - ·)⟩

instance : Mul Binary64 :=
  ⟨lift₂ (· * ·)⟩

instance : Div Binary64 :=
  ⟨lift₂ (· / ·)⟩

/-- Changes the sign bit. -/
instance : Neg Binary64 :=
  ⟨fun x => ofRank (!x.isNegative) x.rank⟩

/-- The square root of a double. -/
def sqrt : Binary64 → Binary64 :=
  lift Float.sqrt

end Binary64

end Reckoner
