import Reckoner.Error
import Reckoner.Json.Reader

/-!
# Replies of a language service

A service is asked to answer with an object that holds the expression. Its reply may stand in a code
fence. A reply that is JSON has to have the right shape; of one that is not JSON, the first fragment
in backticks is taken, or else the first one in double quotes.
-/

namespace Reckoner.ServiceReply

open Text

/-- The three backticks around a code block. -/
def fence : Text :=
  "\x60\x60\x60".toList

/-- What stands in a code block, if the whole text is one. -/
def fenced? (t : Text) : Option Text :=
  if fence.isPrefixOf t ∧ fence.isSuffixOf t ∧ 2 * fence.length ≤ t.length then
    let body := (t.drop fence.length).take (t.length - 2 * fence.length)
    some (trim (body.dropWhile Char.isAlpha))
  else
    none

/-- What stands before the next mark, if there is a mark and it does not stand at the front. -/
def upTo? (mark : Char) (t : Text) : Option Text :=
  let inside := t.takeWhile (· != mark)
  if inside ≠ [] ∧ inside.length < t.length then some inside else none

/-- The first fragment between two marks that is not empty. -/
def fragment? (mark : Char) : Text → Option Text
  | [] => none
  | c :: rest =>
    if c = mark then (upTo? mark rest).or (fragment? mark rest) else fragment? mark rest

/-- The expression in a reply of the right shape: the member of that name, or the only element of an
array. -/
def ofJson : Json → Except ShapeError Text
  | .object members =>
    match Json.member? "expression".toList members with
    | some (.string t) => .ok t
    | some other => .error (.notAString other.describe)
    | none => .error .missingExpression
  | .array [] => .error .noElements
  | .array [.string t] => .ok t
  | .array (.string _ :: others) => .error (.surplusElements (others.length + 1))
  | .array (other :: _) => .error (.notAString other.describe)
  | other => .error (.notAReply other.describe)

/-- The expression in a reply, as it stands there. -/
def rawExpression (content : Text) : Except NormalizationError Text :=
  match Json.ofText? content with
  | some j => (ofJson j).mapError .unexpectedShape
  | none =>
    match fragment? '\x60' content, fragment? '"' content with
    | some inside, _ => .ok inside
    | none, some inside => .ok inside
    | none, none => .error .noExpression

/-- The expression in a reply. -/
def expression (reply : Text) : Except CalcError Text :=
  let content := (fenced? (trim reply)).getD (trim reply)
  match rawExpression content with
  | .error cause => .error (.normalizationFailed cause)
  | .ok found =>
    if (trim found).isEmpty then .error (.normalizationFailed .emptyReply) else .ok (trim found)

end Reckoner.ServiceReply
