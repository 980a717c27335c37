import Reckoner.Pipeline

/-!
# Scripts

A script has one question per line. Blank lines and comments are passed over, and every question is
answered in the same mode.
-/

namespace Reckoner.Script

/-- A line that starts like this is a comment. -/
def isComment (line : Text) : Bool :=
  ['#'].isPrefixOf line || ['/', '/'].isPrefixOf line

/-- The questions of a script, line by line. -/
def questions (mode : AngleMode) (lines : List Text) : List Question :=
  lines.filterMap fun line =>
    if isComment (Text.trim line) then none else (Question.ofText mode line).toOption

/-- A question of a script with what came of it. -/
structure Entry where
  question : Question
  outcome : Except Failure Success

variable {m : Type → Type} [Monad m]

/-- Answers the questions of a script in order. -/
def run (pipeline : Pipeline m) (mode : AngleMode) (lines : List Text) : m (List Entry) :=
  (questions mode lines).mapM fun q => return ⟨q, ← pipeline.run q⟩

end Reckoner.Script
