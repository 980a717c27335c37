import Reckoner.Number.Layout

/-!
# Vocabulary and tokens

The closed vocabulary of strict expressions: eight functions, two constants, two angle units and the
marks between them.
-/

namespace Reckoner

/-- The functions of one number, or of a number and a base. -/
inductive Func where
  | sin
  | cos
  | tan
  | log
  | log10
  | ln
  | exp
  | sqrt
  deriving DecidableEq, Repr

namespace Func

/-- The word for a function. -/
def name : Func → Text
  | sin => "sin".toList
  | cos => "cos".toList
  | tan => "tan".toList
  | log => "log".toList
  | log10 => "log10".toList
  | ln => "ln".toList
  | exp => "exp".toList
  | sqrt => "sqrt".toList

/-- Every function. -/
def all : List Func :=
  [sin, cos, tan, log, log10, ln, exp, sqrt]

/-- The function with the given name, in lower case. -/
def ofName? (word : Text) : Option Func :=
  all.find? (·.name = word)

/-- Whether a function takes `count` arguments: `log` may be given a base, the others take one. -/
def accepts (f : Func) (count : Nat) : Bool :=
  count == 1 || (f == log && count == 2)

/-- The functions whose argument is an angle. -/
def isTrig : Func → Bool
  | sin | cos | tan => true
  | _ => false

end Func

/-- The named numbers. -/
inductive Constant where
  | pi
  | e
  deriving DecidableEq, Repr

namespace Constant

/-- The word for a constant. -/
def name : Constant → Text
  | pi => "pi".toList
  | e => "e".toList

/-- The double nearest to a constant. -/
def value : Constant → Binary64
  | pi => ⟨0x400921fb54442d18⟩
  | e => ⟨0x4005bf0a8b145769⟩

end Constant

/-- The units an angle may be written in. -/
inductive AngleUnit where
  | deg
  | rad
  deriving DecidableEq, Repr

namespace AngleUnit

/-- The word for a unit. -/
def name : AngleUnit → Text
  | deg => "deg".toList
  | rad => "rad".toList

end AngleUnit

/-- The number of degrees in a half turn, 180. -/
def halfTurn : Binary64 :=
  ⟨0x4066800000000000⟩

/-- How an angle without a unit is read. -/
inductive AngleMode where
  | rad
  | deg
  deriving DecidableEq, Repr

namespace AngleMode

/-- The sign for a mode. -/
def name : AngleMode → Text
  | rad => "RAD".toList
  | deg => "DEG".toList

end AngleMode

/-- The units of meaning in a strict expression. -/
inductive Token where
  | number (x : Binary64)
  | constant (c : Constant)
  | func (f : Func)
  | unit (u : AngleUnit)
  | plus
  | minus
  | star
  | slash
  | caret
  | comma
  | openParen
  | closeParen
  deriving DecidableEq

namespace Token

/-- A token as messages name it. -/
def describe : Token → Text
  | number x => "number ".toList ++ numberText x
  | constant c => "'".toList ++ c.name ++ "'".toList
  | func f => "'".toList ++ f.name ++ "'".toList
  | unit u => "unit '".toList ++ u.name ++ "'".toList
  | plus => "'+'".toList
  | minus => "'-'".toList
  | star => "'*'".toList
  | slash => "'/'".toList
  | caret => "'^'".toList
  | comma => "','".toList
  | openParen => "'('".toList
  | closeParen => "')'".toList

/-- The token that a single character stands for. -/
def ofMark? : Char → Option Token
  | '+' => some plus
  | '-' => some minus
  | '*' => some star
  | '/' => some slash
  | '^' => some caret
  | ',' => some comma
  | '(' => some openParen
  | ')' => some closeParen
  | _ => none

/-- The token that a word stands for, the word being in lower case. -/
def ofWord? (word : Text) : Option Token :=
  match Func.ofName? word with
  | some f => some (func f)
  | none =>
    if word = Constant.name .pi then some (constant .pi)
    else if word = Constant.name .e then some (constant .e)
    else if word = AngleUnit.name .deg then some (unit .deg)
    else if word = AngleUnit.name .rad then some (unit .rad)
    else none

end Token

end Reckoner
