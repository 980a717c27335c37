import Reckoner.Expr.OfText
import Reckoner.Expr.Value

/-!
# Evaluation

The one way from a text to an answer: read it, bring it into canonical form, evaluate the tree, and
present the value. Values that are not finite are refused, very large ones are presented with an
exponent, and the others are rounded to fourteen places, which absorbs the noise of the arithmetic.
-/

namespace Reckoner

/-- The decimal places that are kept. -/
def roundingPlaces : Nat :=
  14

/-- The rank of the least magnitude that is presented with an exponent, `10 ^ 21`. -/
def exponentRank : Nat :=
  Binary64.nearestRank (Nat.pow 10 21) 1

/-- An answer as it is presented. -/
inductive Answer where
  | numeric (x : Binary64)
  | formatted (t : Text)
  deriving DecidableEq

namespace Answer

/-- An answer as it is printed. -/
def text : Answer → Text
  | numeric x => numberText x
  | formatted t => t

/-- The number in an answer that is a number. -/
def number? : Answer → Option Binary64
  | numeric x => some x
  | formatted _ => none

end Answer

/-- What is known after a successful evaluation. -/
structure Evaluation where
  canonical : Text
  answer : Answer
  deriving DecidableEq

/-- How texts are evaluated. -/
structure Evaluator where
  /-- Computes the elementary functions. -/
  library : Elementary := .native
  /-- Whether answers are rounded. -/
  rounds : Bool := true

namespace Evaluator

/-- Presents the value of a tree. -/
def present (evaluator : Evaluator) : Value → Except CalcError Answer
  | .callable f => .error (.incompleteCall f)
  | .real x =>
    if !x.isFinite then .error .nonFiniteResult
    else if exponentRank ≤ x.rank then .ok (.formatted (Layout.scientific.write x))
    else .ok (.numeric (if evaluator.rounds then x.roundTo roundingPlaces else x))

/-- The answer of a canonical tree. -/
def answer (evaluator : Evaluator) (tree : Expr) : Except CalcError Answer := do
  evaluator.present (← tree.value evaluator.library)

/-- Evaluates a text. -/
def evaluate (evaluator : Evaluator) (mode : AngleMode) (t : Text) :
    Except CalcError Evaluation := do
  let tree ← Expr.ofText mode t
  let answer ← evaluator.answer tree
  return ⟨tree.print, answer⟩

end Evaluator

end Reckoner
