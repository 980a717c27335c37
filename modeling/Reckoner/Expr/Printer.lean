import Reckoner.Expr

/-!
# Printing expressions

An expression is printed with the parentheses that its tree needs: an operand stands in parentheses
when its root binds less tightly than its place asks for. Powers associate to the right, all other
operators to the left.
-/

namespace Reckoner.Expr

/-- Puts a printed operand into parentheses if `wrap` says so. -/
def grouped (wrap : Bool) (printed : Text) : Text :=
  if wrap then '(' :: printed ++ [')'] else printed

/-- The left operand of an operator needs parentheses. -/
def wrapsLeft (op : Operator) (left : Expr) : Bool :=
  if op = .pow then left.precedence ≤ op.precedence else left.precedence < op.precedence

/-- The right operand of an operator needs parentheses. -/
def wrapsRight (op : Operator) (right : Expr) : Bool :=
  if op = .pow then right.precedence < op.precedence else right.precedence ≤ op.precedence

mutual

/-- The text of an expression. -/
def print : Expr → Text
  | number x => numberText x
  | constant c => c.name
  | reference f => f.name
  | call f args => f.name ++ '(' :: printArguments args ++ [')']
  | neg operand => '-' :: grouped (operand.precedence < 3) (print operand)
  | binary left op right =>
    grouped (wrapsLeft op left) (print left) ++ op.symbol ++
      grouped (wrapsRight op right) (print right)
  | withUnit operand u => grouped (operand.precedence < 5) (print operand) ++ ' ' :: u.name

/-- The text of an argument list, without its parentheses. -/
def printArguments : List Expr → Text
  | [] => []
  | [e] => print e
  | e :: es => print e ++ ", ".toList ++ printArguments es

end

end Reckoner.Expr
