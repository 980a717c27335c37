import Reckoner.Error
import Reckoner.Expr

/-!
# Values of expressions

A tree denotes a real number or, when it only names a function, that function. Functions cannot take
part in arithmetic, and an operation whose value would not be real is refused; everything else
follows the arithmetic of doubles, infinities and undefined values included. Operands are evaluated
before their operator and from left to right, and the first refusal counts.
-/

namespace Reckoner

/-- The functions that are computed by a mathematical library. -/
structure Elementary where
  sin : Binary64 → Binary64
  cos : Binary64 → Binary64
  tan : Binary64 → Binary64
  exp : Binary64 → Binary64
  ln : Binary64 → Binary64
  log10 : Binary64 → Binary64
  pow : Binary64 → Binary64 → Binary64

/-- The library that comes with the machine. -/
def Elementary.native : Elementary where
  sin := .lift Float.sin
  cos := .lift Float.cos
  tan := .lift Float.tan
  exp := .lift Float.exp
  ln := .lift Float.log
  log10 := .lift Float.log10
  pow := .lift₂ Float.pow

/-- What a tree denotes. -/
inductive Value where
  | real (x : Binary64)
  | callable (f : Func)
  deriving DecidableEq

namespace Value

/-- The number that takes part in arithmetic. -/
def toReal : Value → Except CalcError Binary64
  | real x => .ok x
  | callable f => .error (.incompleteCall f)

end Value

/-- The value of an operation on `x`, unless `x` is below zero. -/
def unlessNegative (x : Binary64) (what : ComplexValue) (result : Binary64) :
    Except CalcError Binary64 :=
  if x.isBelowZero then .error (.unsupportedResult what) else .ok result

/-- Applies an operator. A negative number has no real power with a fractional exponent. -/
def Operator.apply (library : Elementary) (op : Operator) (a b : Binary64) :
    Except CalcError Binary64 :=
  match op with
  | .add => .ok (a + b)
  | .sub => .ok (a - b)
  | .mul => .ok (a * b)
  | .div => .ok (a / b)
  | .pow =>
    if a.isBelowZero && b.hasFraction then .error (.unsupportedResult (.pow a b))
    else .ok (library.pow a b)

/-- The first argument of a call; a call without arguments has an undefined one. -/
def firstArgument (args : List Binary64) : Binary64 :=
  args.head?.getD .undefined

/-- Applies a function. Roots and logarithms of negative numbers are not real. -/
def Func.apply (library : Elementary) (f : Func) (args : List Binary64) :
    Except CalcError Binary64 :=
  let x := firstArgument args
  match f with
  | .sin => .ok (library.sin x)
  | .cos => .ok (library.cos x)
  | .tan => .ok (library.tan x)
  | .exp => .ok (library.exp x)
  | .sqrt => unlessNegative x (.sqrt x) x.sqrt
  | .ln => unlessNegative x (.ln x) (library.ln x)
  | .log10 => unlessNegative x (.log10 x) (library.log10 x)
  | .log =>
    match args[1]? with
    | some base =>
      if x.isBelowZero || base.isBelowZero then
        .error (.unsupportedResult (.logBase x base))
      else
        .ok (library.ln x / library.ln base)
    | none => unlessNegative x (.log x) (library.log10 x)

/-- An angle in the given unit, in radians. -/
def AngleUnit.toRadians (u : AngleUnit) (x : Binary64) : Binary64 :=
  match u with
  | deg => x * (Constant.value .pi / halfTurn)
  | rad => x

namespace Expr

mutual

/-- What a tree denotes. -/
def value (library : Elementary) : Expr → Except CalcError Value
  | number x => .ok (.real x)
  | constant c => .ok (.real c.value)
  | reference f => .ok (.callable f)
  | call f args => do
    let xs ← reals library args
    return .real (← f.apply library xs)
  | neg operand => do
    let x ← (← value library operand).toReal
    return .real (-x)
  | binary left op right => do
    let a ← (← value library left).toReal
    let b ← (← value library right).toReal
    return .real (← op.apply library a b)
  | withUnit operand u => do
    let x ← (← value library operand).toReal
    return .real (u.toRadians x)

/-- The numbers that some trees denote. -/
def reals (library : Elementary) : List Expr → Except CalcError (List Binary64)
  | [] => return []
  | e :: es => do
    let x ← (← value library e).toReal
    let xs ← reals library es
    return x :: xs

end

end Expr

end Reckoner
