import Reckoner.Number.Layout
import Reckoner.Text.Quoted

/-!
# JSON values

Numbers are whole numbers of at most 64 bits or doubles. The members of an object keep their order,
and a name may occur more than once; the last member of a name counts.
-/

namespace Reckoner

/-- JSON values. -/
inductive Json where
  | null
  | bool (b : Bool)
  | integer (i : Int)
  | float (x : Binary64)
  | string (t : Text)
  | array (elements : List Json)
  | object (members : List (Text × Json))
  deriving Inhabited

/-- Floats in JSON: whole numbers have a fraction of zero, and an exponent is written below `1e-5`
and from `1e16` on. -/
def Layout.json : Layout where
  tie := .even
  positional exponent := -5 ≤ exponent && exponent < 16
  wholeMark := ".0".toList
  plus := ['+']

namespace Json

/-- The text of a float, which is `null` where there is no number. -/
def floatText (x : Binary64) : Text :=
  if x.isFinite then Layout.json.write x else "null".toList

/-- The value of the last member with the given name. -/
def member? (name : Text) (members : List (Text × Json)) : Option Json :=
  (members.reverse.find? (·.1 = name)).map (·.2)

/-- What kind of value this is, as messages say it. -/
def describe : Json → Text
  | null => "null".toList
  | bool b => "boolean \x60".toList ++ (if b then "true" else "false").toList ++ "\x60".toList
  | integer i => "integer \x60".toList ++ Layout.integer i ++ "\x60".toList
  | float x => "floating point \x60".toList ++ floatText x ++ "\x60".toList
  | string t => "string ".toList ++ Text.quoted t
  | array _ => "sequence".toList
  | object _ => "map".toList

end Json

end Reckoner
