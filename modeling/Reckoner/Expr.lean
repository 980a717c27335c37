import Reckoner.Token

/-!
# Expressions

The trees that strict expressions denote. Groups leave no node; a unit that is written after an
operand, a function that is named without arguments and a call with any number of arguments have
nodes of their own.
-/

namespace Reckoner

/-- The operations on two numbers. -/
inductive Operator where
  | add
  | sub
  | mul
  | div
  | pow
  deriving DecidableEq, Repr

namespace Operator

/-- An operator with the spaces it is printed with. -/
def symbol : Operator → Text
  | add => " + ".toList
  | sub => " - ".toList
  | mul => " * ".toList
  | div => " / ".toList
  | pow => "^".toList

/-- How tightly an operator binds. -/
def precedence : Operator → Nat
  | add | sub => 1
  | mul | div => 2
  | pow => 4

end Operator

/-- Expression trees. -/
inductive Expr where
  | number (x : Binary64)
  | constant (c : Constant)
  /-- A function that is named and not called. -/
  | reference (f : Func)
  | call (f : Func) (args : List Expr)
  | neg (operand : Expr)
  | binary (left : Expr) (op : Operator) (right : Expr)
  /-- An operand with an angle unit after it. -/
  | withUnit (operand : Expr) (u : AngleUnit)
  deriving Inhabited

namespace Expr

/-! ## Measures and tests -/

mutual

/-- The number of nodes on the longest path from the root. -/
def height : Expr → Nat
  | number _ | constant _ | reference _ => 1
  | call _ args => 1 + maxHeight args
  | neg operand | withUnit operand _ => 1 + height operand
  | binary left _ right => 1 + max (height left) (height right)

/-- The height of the tallest of some trees. -/
def maxHeight : List Expr → Nat
  | [] => 0
  | e :: es => max (height e) (maxHeight es)

end

mutual

/-- Somewhere in the tree a unit is written. -/
def hasUnit : Expr → Bool
  | withUnit .. => true
  | number _ | constant _ | reference _ => false
  | call _ args => anyHasUnit args
  | neg operand => hasUnit operand
  | binary left _ right => hasUnit left || hasUnit right

/-- Somewhere in the trees a unit is written. -/
def anyHasUnit : List Expr → Bool
  | [] => false
  | e :: es => hasUnit e || anyHasUnit es

end

/-- Somewhere in the tree a function is called or named. -/
def hasCall : Expr → Bool
  | call .. | reference _ => true
  | number _ | constant _ => false
  | neg operand | withUnit operand _ => hasCall operand
  | binary left _ right => hasCall left || hasCall right

/-- The tree describes work to do: under its signs and units there is an operator or a call. A
number, a constant or a function's name is an answer already. -/
def isComputation : Expr → Bool
  | binary .. | call .. => true
  | neg operand | withUnit operand _ => isComputation operand
  | number _ | constant _ | reference _ => false

/-- How tightly the root of a tree binds. -/
def precedence : Expr → Nat
  | binary _ op _ => op.precedence
  | neg _ => 3
  | _ => 5

theorem height_pos (e : Expr) : 0 < e.height := by
  cases e <;> simp only [height] <;> omega

end Expr

end Reckoner
