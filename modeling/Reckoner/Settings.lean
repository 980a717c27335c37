import Reckoner.Text.Blank

/-!
# Settings

Settings come from an environment of named texts. Blanks around a setting do not count.
-/

namespace Reckoner

/-- Named texts. -/
abbrev Environment := Text → Option Text

namespace Environment

/-- The setting with the given name, unless it is blank. -/
def setting? (env : Environment) (name : String) : Option Text :=
  ((env name.toList).map Text.trim).filter (· ≠ [])

end Environment

namespace Settings

/-- The number that decimal digits denote, a plus sign allowed in front, if it is below `bound`. -/
def natural? (bound : Nat) (t : Text) : Option Nat :=
  let digits := if t.head? = some '+' then t.drop 1 else t
  let n := Nat.ofDigitChars 10 digits 0
  if digits ≠ [] ∧ digits.all Char.isDigit ∧ n < bound then some n else none

/-- The words that turn a switch on. -/
def affirmations : List Text :=
  ["1", "true", "yes", "on"].map String.toList

/-- A switch is on if its setting is one of the affirming words, in any case. -/
def isOn (value : Option Text) : Bool :=
  value.any fun t => affirmations.contains ((Text.trim t).map Char.toLower)

end Settings

end Reckoner
