import Reckoner.Text.Pattern

/-!
# The gate for strict expressions

Tells by its characters alone whether a text looks like a strict expression: apart from known words
it holds only digits, marks and blanks; it holds an operator or a call; and it holds a digit or a
constant. Known words are taken out wherever they stand, also inside longer ones.
-/

namespace Reckoner.Gate

open Text

/-- The known words, longer ones before those they start with. -/
def vocabulary : List Text :=
  ["log10", "log", "ln", "sin", "cos", "tan", "exp", "sqrt", "pi", "deg", "rad", "e"].map
    String.toList

/-- The words that a parenthesis may follow. -/
def functionWords : List Text :=
  ["log10", "log", "ln", "sin", "cos", "tan", "exp", "sqrt"].map String.toList

/-- The length of the known word at a place. -/
def vocabularyAt : Matcher := fun _ t =>
  (vocabulary.find? fun word => (afterPattern? word t).isSome).map List.length

/-- What is left of a text when the known words are taken out. -/
def remainder (t : Text) : Text :=
  replaced vocabularyAt [] t

/-- The marks between operands. -/
def isOperator (c : Char) : Bool :=
  c ∈ ['+', '-', '*', '/', '^']

/-- The characters that may be left when the known words are gone. -/
def isAllowed (c : Char) : Bool :=
  isBlank c || c.isDigit || isOperator c || c ∈ ['(', ')', '.', ',', 'e', 'E']

/-- Apart from known words there are only digits, marks and blanks, and some of those. -/
def isLikelyMath (t : Text) : Bool :=
  let rest := remainder t
  !rest.isEmpty && rest.all isAllowed

/-- A function's name starts at this place, and a parenthesis follows it. -/
def startsCall (before : Option Char) (t : Text) : Bool :=
  isBoundary before t.head? &&
    functionWords.any fun word =>
      (afterPattern? word t).any fun rest => (rest.dropWhile isBlank).head? = some '('

/-- There is an operator or a call. -/
def hasOperatorOrCall (t : Text) : Bool :=
  t.any isOperator || occurs startsCall none t

/-- The word stands at this place, with word boundaries on both sides. -/
def standsAlone (word : Text) (before : Option Char) (t : Text) : Bool :=
  isBoundary before t.head? &&
    (afterPattern? word t).any fun rest => isBoundary (t.take word.length).getLast? rest.head?

/-- There is a digit or a constant. -/
def hasDigitOrConstant (t : Text) : Bool :=
  t.any isDecimalDigit || occurs (standsAlone ['p', 'i']) none t ||
    occurs (standsAlone ['e']) none t

/-- The text looks like a strict expression. -/
def passes (t : Text) : Bool :=
  isLikelyMath t && hasOperatorOrCall t && hasDigitOrConstant t

end Reckoner.Gate
