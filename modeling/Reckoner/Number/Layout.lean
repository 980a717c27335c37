import Reckoner.Number.Decimal
import Reckoner.Text.Blank

/-!
# Writing numbers

A layout says how the shortest digits of a double are set down: in which range of magnitudes
positionally and where with an exponent, what marks a whole number, and how an exponent is signed.
-/

namespace Reckoner

/-- How numbers are written. -/
structure Layout where
  /-- Which of two shortest decimals at the same distance is written. -/
  tie : Tie
  /-- Numbers whose first digit has this exponent of ten are written positionally. -/
  positional : Int → Bool
  /-- Follows the digits of a whole number that is written positionally. -/
  wholeMark : Text
  /-- Stands before an exponent that is not negative. -/
  plus : Text

namespace Layout

/-- Every number positionally, whole numbers without a point. -/
def plain : Layout where
  tie := .away
  positional _ := true
  wholeMark := []
  plus := []

/-- Every number with an exponent. -/
def scientific : Layout where
  tie := .away
  positional _ := false
  wholeMark := []
  plus := []

/-- A whole number in decimal digits, with a sign if it is negative. -/
def integer (i : Int) : Text :=
  if i < 0 then '-' :: decimalDigits i.natAbs else decimalDigits i.natAbs

/-- Digits with the point after the first `point` of them, zeros being filled in on either side. -/
def positionalText (wholeMark digits : Text) (point : Int) : Text :=
  if digits.length ≤ point then
    digits ++ List.replicate (point.toNat - digits.length) '0' ++ wholeMark
  else if 0 < point then
    digits.take point.toNat ++ '.' :: digits.drop point.toNat
  else
    '0' :: '.' :: List.replicate (-point).toNat '0' ++ digits

/-- Digits with the point after the first of them, and the exponent of ten. -/
def scientificText (plus digits : Text) (exponent : Int) : Text :=
  let fraction := digits.drop 1
  digits.take 1 ++ (if fraction.isEmpty then [] else '.' :: fraction) ++
    'e' :: (if exponent < 0 then [] else plus) ++ integer exponent

/-- A decimal as the layout sets it down. -/
def decimal (layout : Layout) (d : Decimal) : Text :=
  let digits := decimalDigits d.significand
  if layout.positional (d.top - 1) then positionalText layout.wholeMark digits d.top
  else scientificText layout.plus digits (d.top - 1)

/-- A number as the layout sets it down. -/
def write (layout : Layout) (x : Binary64) : Text :=
  if x.isUndefined then "NaN".toList
  else
    let magnitude :=
      if x.isFinite then layout.decimal (.shortest layout.tie x.rank)
      else "inf".toList
    if x.isNegative then '-' :: magnitude else magnitude

end Layout

/-- The text of a number in expressions, results and messages. -/
def numberText (x : Binary64) : Text :=
  Layout.plain.write x

end Reckoner
