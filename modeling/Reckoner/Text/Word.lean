import Reckoner.Text.Blank
import Reckoner.Text.Table.Word

/-!
# Word characters and word boundaries

A word character is a letter, mark, digit, connecting punctuation mark or join control. A place
between two characters is a word boundary when exactly one of them is a word character; the ends of
a text count as other characters.
-/

namespace Reckoner.Text

/-- Characters that belong to words. -/
def isWord (c : Char) : Bool :=
  if c.toNat < 0x80 then c.isAlphanum || c == '_' else Table.word.contains c

/-- Decimal digits of any script. -/
def isDecimalDigit (c : Char) : Bool :=
  if c.toNat < 0x80 then c.isDigit else Table.digit.contains c

/-- Whether there is a word character on one side of a place. -/
def isWordAt (side : Option Char) : Bool :=
  side.any isWord

/-- The place between `before` and `after` is a word boundary. -/
def isBoundary (before after : Option Char) : Bool :=
  isWordAt before != isWordAt after

@[simp]
theorem isWordAt_none : isWordAt none = false :=
  rfl

@[simp]
theorem isWordAt_some (c : Char) : isWordAt (some c) = isWord c :=
  rfl

end Reckoner.Text
