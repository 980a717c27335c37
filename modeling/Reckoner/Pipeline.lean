import Reckoner.Evaluation
import Reckoner.Filler
import Reckoner.Gate
import Reckoner.Question

/-!
# From questions to answers

A question is answered by the first of these that succeeds: the text as typed, if it passes the
gate; the text without filler phrases, if that is another text and passes the gate; and the
expression that a normalizer makes of the question. The normalizer is asked at most once. Without a
normalizer, a text that passed no gate is evaluated as typed.

What the local steps find and what becomes of the normalizer's reply are plain functions; only the
asking happens in a monad, so that a normalizer may be a service, a script or a recording.
-/

namespace Reckoner

/-- Where an answer came from. -/
inductive Stage where
  /-- The text as typed passed the gate. -/
  | typed
  /-- The text without filler phrases passed the gate. -/
  | stripped
  /-- A normalizer gave the expression. -/
  | normalized
  /-- There is no normalizer, and the text was evaluated past the gate. -/
  | ungated
  deriving DecidableEq, Repr

/-- An answered question. -/
structure Success where
  answer : Answer
  canonical : Text
  stage : Stage
  /-- The text that was evaluated, where it is not the question's. -/
  normalized : Option Text
  deriving DecidableEq

/-- An unanswered question. -/
structure Failure where
  error : CalcError
  /-- The text that was evaluated, where it is not the question's. -/
  normalized : Option Text
  deriving DecidableEq

/-- What a normalizer makes of a question. -/
abbrev Reply := Except CalcError Text

namespace Evaluator

/-- Evaluates a text on behalf of a stage. -/
def attempt (evaluator : Evaluator) (mode : AngleMode) (stage : Stage) (normalized : Option Text)
    (t : Text) : Except Failure Success :=
  match evaluator.evaluate mode t with
  | .ok done => .ok ⟨done.answer, done.canonical, stage, normalized⟩
  | .error e => .error ⟨e, normalized⟩

/-- The attempt on the text as typed, if that text passes the gate. -/
def attemptTyped (evaluator : Evaluator) (q : Question) : Option (Except Failure Success) :=
  if Gate.passes q.text then some (evaluator.attempt q.mode .typed none q.text) else none

/-- The attempt on the text without filler phrases, if that is another text and passes the gate. -/
def attemptStripped (evaluator : Evaluator) (q : Question) : Option (Except Failure Success) :=
  let shorter := Filler.stripped q.text
  if shorter ≠ q.text ∧ Gate.passes shorter = true then
    some (evaluator.attempt q.mode .stripped (some shorter) shorter)
  else
    none

/-- What comes of the text without filler phrases, `last` being the failure before it. -/
def afterTyped (evaluator : Evaluator) (q : Question) (last : Option Failure) :
    Except (Option Failure) Success :=
  match evaluator.attemptStripped q with
  | some (.ok done) => .ok done
  | some (.error failure) => .error (some failure)
  | none => .error last

/-- What the local attempts come to: an answer, or the failure of the last attempt that was made. -/
def attemptLocally (evaluator : Evaluator) (q : Question) : Except (Option Failure) Success :=
  match evaluator.attemptTyped q with
  | some (.ok done) => .ok done
  | some (.error failure) => evaluator.afterTyped q (some failure)
  | none => evaluator.afterTyped q none

/-- What happens without a normalizer when the local attempts have not answered. -/
def withoutNormalizer (evaluator : Evaluator) (q : Question) (last : Option Failure) :
    Except Failure Success :=
  match last with
  | some failure => .error failure
  | none => evaluator.attempt q.mode .ungated none q.text

end Evaluator

/-- Refuses a normalizer's expression that is blank or leaves nothing to compute. An expression that
cannot be read is let through, so that its evaluation can say why. -/
def vetted (mode : AngleMode) (expression : Text) : Reply :=
  if (Text.trim expression).isEmpty then .error (.normalizationFailed .blankExpression)
  else
    match Expr.ofText mode expression with
    | .ok tree =>
      if tree.isComputation then .ok expression
      else .error (.normalizationFailed (.bareValue expression))
    | .error _ => .ok expression

/-- What becomes of a normalizer's reply. Where it is of no use, an earlier failure says more than
the normalizer's. -/
def Evaluator.settle (evaluator : Evaluator) (q : Question) (last : Option Failure)
    (reply : Reply) : Except Failure Success :=
  match reply.bind (vetted q.mode) with
  | .ok expression => evaluator.attempt q.mode .normalized (some expression) expression
  | .error e => .error (last.getD ⟨e, none⟩)

/-- An evaluator with or without a normalizer. -/
structure Pipeline (m : Type → Type) where
  evaluator : Evaluator := {}
  normalizer : Option (Question → m Reply) := none

namespace Pipeline

variable {m : Type → Type} [Monad m]

/-- Answers a question. -/
def run (pipeline : Pipeline m) (q : Question) : m (Except Failure Success) :=
  match pipeline.evaluator.attemptLocally q with
  | .ok done => pure (.ok done)
  | .error last =>
    match pipeline.normalizer with
    | none => pure (pipeline.evaluator.withoutNormalizer q last)
    | some ask => do
      let reply ← ask q
      return pipeline.evaluator.settle q last reply

end Pipeline

end Reckoner
