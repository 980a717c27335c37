import Reckoner.Expr

/-!
# Canonical expressions

Brings a tree into the form that is evaluated: units are multiplied out, a logarithm without a
base becomes the decimal logarithm, and in degree mode the angles that hold no unit are read as
degrees. Whether an angle holds a unit is decided on the tree as it was written. -/

namespace Reckoner.Expr

/-- An angle in degrees, in radians. -/
def degreesToRadians (e : Expr) : Expr :=
  binary (binary e .mul (constant .pi)) .div (number halfTurn)

/-- The arguments of a call of `f` are angles without a unit, to be read as degrees. -/
def readsDegrees (mode : AngleMode) (f : Func) (args : List Expr) : Bool :=
  mode = .deg && f.isTrig && args.head?.any (!·.hasUnit)

/-- A call whose arguments are canonical; a logarithm without a base is decimal. -/
def canonicalCall (f : Func) (args : List Expr) : Expr :=
  if f = .log ∧ args.length = 1 then call .log10 args else call f args

mutual

/-- The canonical form of a tree. -/
def canonical (mode : AngleMode) : Expr → Expr
  | number x => number x
  | constant c => constant c
  | reference f => reference f
  | call f args =>
    let arguments := canonicalArguments mode args
    canonicalCall f
      (if readsDegrees mode f args then arguments.map degreesToRadians else arguments)
  | neg operand => neg (canonical mode operand)
  | binary left op right => binary (canonical mode left) op (canonical mode right)
  | withUnit operand .deg => degreesToRadians (canonical mode operand)
  | withUnit operand .rad => canonical mode operand

/-- The canonical forms of some trees. -/
def canonicalArguments (mode : AngleMode) : List Expr → List Expr
  | [] => []
  | e :: es => canonical mode e :: canonicalArguments mode es

end

theorem canonicalArguments_eq_map (mode : AngleMode) (args : List Expr) :
    canonicalArguments mode args = args.map (canonical mode) := by
  induction args with
  | nil => rfl
  | cons e es ih => rw [canonicalArguments, ih, List.map_cons]

end Reckoner.Expr
