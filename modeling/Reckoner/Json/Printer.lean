import Reckoner.Json

/-!
# Writing JSON

Values are written on one line without blanks. Inside strings only quotes, backslashes and controls
are escaped.
-/

namespace Reckoner.Json

/-- A control character by its code, in four digits. -/
def controlEscape (c : Char) : Text :=
  let digits := Text.hexDigits c.toNat
  "\\u".toList ++ List.replicate (4 - digits.length) '0' ++ digits

/-- A character inside a string. -/
def escaped (c : Char) : Text :=
  if c = '"' then ['\\', '"']
  else if c = '\\' then ['\\', '\\']
  else if c = '\x08' then ['\\', 'b']
  else if c = '\t' then ['\\', 't']
  else if c = '\n' then ['\\', 'n']
  else if c = '\x0c' then ['\\', 'f']
  else if c = '\r' then ['\\', 'r']
  else if c.toNat < 0x20 then controlEscape c
  else [c]

/-- A string in quotes. -/
def stringText (t : Text) : Text :=
  '"' :: t.flatMap escaped ++ ['"']

mutual

/-- The text of a value. -/
def print : Json → Text
  | null => "null".toList
  | bool b => (if b then "true" else "false").toList
  | integer i => Layout.integer i
  | float x => floatText x
  | string t => stringText t
  | array elements => '[' :: printElements elements ++ [']']
  | object members => "\x7b".toList ++ printMembers members ++ "\x7d".toList

/-- The texts of the elements of an array, with commas between them. -/
def printElements : List Json → Text
  | [] => []
  | [j] => print j
  | j :: js => print j ++ ',' :: printElements js

/-- The texts of the members of an object, with commas between them. -/
def printMembers : List (Text × Json) → Text
  | [] => []
  | [(name, j)] => stringText name ++ ':' :: print j
  | (name, j) :: rest => stringText name ++ ':' :: print j ++ ',' :: printMembers rest

end

end Reckoner.Json
