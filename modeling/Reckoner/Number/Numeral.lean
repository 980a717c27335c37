import Reckoner.Number.Decimal
import Reckoner.Text.Blank

/-!
# Numerals

A numeral is a run of digits, an optional point with more digits, and an optional exponent. `scan`
cuts the longest numeral off the front of a text; an `e` without digits after it is left alone, so
that it can be read as the constant.
-/

namespace Reckoner

/-- The part of a numeral from its `e` on. -/
structure ExponentPart where
  mark : Char
  sign : Option Char
  digits : Text
  deriving DecidableEq, Repr

namespace ExponentPart

/-- An exponent as it is written. -/
def text (p : ExponentPart) : Text :=
  p.mark :: p.sign.toList ++ p.digits

/-- The exponent of ten. -/
def value (p : ExponentPart) : Int :=
  let magnitude : Int := Nat.ofDigitChars 10 p.digits 0
  if p.sign = some '-' then -magnitude else magnitude

end ExponentPart

/-- A numeral, cut into its parts. -/
structure Numeral where
  whole : Text
  /-- The digits after the point, if there is a point. -/
  fraction : Option Text
  exponent : Option ExponentPart
  deriving DecidableEq, Repr

namespace Numeral

/-- A numeral as it is written. -/
def text (n : Numeral) : Text :=
  n.whole ++ n.fraction.elim [] ('.' :: ·) ++ n.exponent.elim [] ExponentPart.text

/-- The digits before the exponent. -/
def digits (n : Numeral) : Text :=
  n.whole ++ n.fraction.getD []

/-- The number that a numeral denotes. -/
def decimal (n : Numeral) : Decimal :=
  ⟨Nat.ofDigitChars 10 n.digits 0,
    n.exponent.elim 0 ExponentPart.value - (n.fraction.getD []).length⟩

/-! ## Scanning -/

/-- Cuts off a point and the digits after it. -/
def scanFraction : Text → Option Text × Text
  | '.' :: rest => (some (rest.takeWhile Char.isDigit), rest.dropWhile Char.isDigit)
  | t => (none, t)

/-- Cuts off a sign. -/
def scanSign : Text → Option Char × Text
  | '+' :: rest => (some '+', rest)
  | '-' :: rest => (some '-', rest)
  | t => (none, t)

/-- Cuts off an exponent, if there are digits in it. -/
def scanExponent : Text → Option ExponentPart × Text
  | [] => (none, [])
  | mark :: rest =>
    let signed := scanSign rest
    let digits := signed.2.takeWhile Char.isDigit
    if (mark = 'e' ∨ mark = 'E') ∧ digits ≠ [] then
      (some ⟨mark, signed.1, digits⟩, signed.2.dropWhile Char.isDigit)
    else
      (none, mark :: rest)

/-- Cuts the longest numeral off the front of a text. -/
def scan (t : Text) : Numeral × Text :=
  let fraction := scanFraction (t.dropWhile Char.isDigit)
  let exponent := scanExponent fraction.2
  (⟨t.takeWhile Char.isDigit, fraction.1, exponent.1⟩, exponent.2)

theorem scanFraction_append (t : Text) :
    (scanFraction t).1.elim [] ('.' :: ·) ++ (scanFraction t).2 = t := by
  fun_cases scanFraction t <;> simp

theorem scanSign_append (t : Text) : (scanSign t).1.toList ++ (scanSign t).2 = t := by
  fun_cases scanSign t <;> simp

theorem scanExponent_append (t : Text) :
    (scanExponent t).1.elim [] ExponentPart.text ++ (scanExponent t).2 = t := by
  cases t with
  | nil => rfl
  | cons mark rest =>
    simp only [scanExponent]
    split
    · simp [ExponentPart.text, scanSign_append]
    · rfl

/-- Scanning loses nothing. -/
theorem scan_append (t : Text) : (scan t).1.text ++ (scan t).2 = t := by
  simp only [scan, text, List.append_assoc, scanExponent_append, scanFraction_append,
    List.takeWhile_append_dropWhile]

/-- A numeral starts with a digit or with a point. -/
def startsAt (c : Char) : Bool :=
  c.isDigit || c == '.'

theorem scan_text_ne_nil {c : Char} (start : startsAt c = true) (rest : Text) :
    (scan (c :: rest)).1.text ≠ [] := by
  by_cases digit : c.isDigit = true
  · simp [scan, text, digit]
  · have point : c = '.' := by simpa [startsAt, digit] using start
    subst point
    simp [scan, text, scanFraction, digit]

/-- A text that starts like a numeral gets shorter. -/
theorem scan_length_le {c : Char} (start : startsAt c = true) (rest : Text) :
    (scan (c :: rest)).2.length ≤ rest.length := by
  have whole := congrArg List.length (scan_append (c :: rest))
  have nonempty := List.length_pos_iff.mpr (scan_text_ne_nil start rest)
  simp only [List.length_append, List.length_cons] at whole
  omega

end Numeral

end Reckoner
