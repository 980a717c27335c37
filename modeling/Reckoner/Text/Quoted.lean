import Reckoner.Text.Blank
import Reckoner.Text.Table.Printable

/-!
# Quoted text

Text is shown between double quotes. Quotes and backslashes are escaped, the common controls have
escapes of their own, and characters without a picture of their own are shown by their code point in
braces.
-/

namespace Reckoner.Text

/-- The digits of `n` in base sixteen, lower case. -/
def hexDigits (n : Nat) : Text :=
  Nat.toDigits 16 n

/-- Shown by its code point rather than by itself. -/
def needsCodePoint (c : Char) : Bool :=
  Table.extending.contains c || Table.unprintable.contains c

/-- A character as it is shown inside quotes. -/
def quotedChar (c : Char) : Text :=
  if c = '\x00' then ['\\', '0']
  else if c = '\t' then ['\\', 't']
  else if c = '\r' then ['\\', 'r']
  else if c = '\n' then ['\\', 'n']
  else if c = '\\' then ['\\', '\\']
  else if c = '"' then ['\\', '"']
  else if needsCodePoint c then "\\u\x7b".toList ++ hexDigits c.toNat ++ "\x7d".toList
  else [c]

/-- A text as it is shown between quotes. -/
def quoted (t : Text) : Text :=
  '"' :: t.flatMap quotedChar ++ ['"']

end Reckoner.Text
