import Reckoner.Expr.Canonical
import Reckoner.Expr.Parser
import Reckoner.Expr.Printer
import Reckoner.Text.LowerCase
import Reckoner.Token.Lexeme

/-!
# Reading text as an expression

Before a text is read it is tidied: a byte order mark in front goes, letters become lower case, and
runs of blanks become single spaces.
-/

namespace Reckoner

namespace Text

/-- The mark that may stand in front of a text to tell its byte order. -/
def byteOrderMark : Char :=
  '\ufeff'

/-- Drops one byte order mark from the front. -/
def withoutMark : Text → Text
  | [] => []
  | c :: rest => if c = byteOrderMark then rest else c :: rest

/-- The form of a text that is read: without a mark, in lower case, on one line. -/
def tidy (t : Text) : Text :=
  collapse (lower (withoutMark t))

end Text

namespace Expr

/-- The expression that a strict text spells. -/
def ofStrict (t : Text) : Except CalcError Expr :=
  match tokenize t with
  | .error e => .error e
  | .ok tokens => (parse tokens).mapError .parseFailure

/-- The expression that a text spells, in canonical form. -/
def ofText (mode : AngleMode) (t : Text) : Except CalcError Expr :=
  let tidied := Text.tidy t
  if tidied = [] then .error .emptyInput else (ofStrict tidied).map (canonical mode)

end Expr

/-- The canonical text of an expression. -/
def canonicalText (mode : AngleMode) (t : Text) : Except CalcError Text :=
  (Expr.ofText mode t).map Expr.print

end Reckoner
