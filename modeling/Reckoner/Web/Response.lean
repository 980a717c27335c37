import Reckoner.Json.Printer
import Reckoner.Pipeline
import Reckoner.Web.Request

/-!
# Responses

A request is answered with a status and one JSON object: the result with status 200, the failure
with status 400, and status 500 if the normalizer broke down. -/

namespace Reckoner

namespace Answer

/-- An answer as JSON. -/
def toJson : Answer → Json
  | numeric x => .float x
  | formatted t => .string t

end Answer

/-- The answer to a request. -/
inductive WebResponse where
  /-- The request could not be read. -/
  | rejected (cause : Rejection)
  | answered (status : Nat) (body : Json)

namespace WebResponse

/-- The members of an object, the last of which is there only if there is a text. -/
def withNormalized (members : List (Text × Json)) (normalized : Option Text) : Json :=
  .object (members ++ (normalized.map fun t => ("normalized".toList, Json.string t)).toList)

/-- The answer to a request that has a result. -/
def ofSuccess (done : Success) : WebResponse :=
  answered 200 (withNormalized [("result".toList, done.answer.toJson)] done.normalized)

/-- The answer to a request that has none. -/
def ofFailure (failure : Failure) : WebResponse :=
  answered 400
    (withNormalized
      [("error".toList, .string failure.error.message), ("kind".toList, .string failure.error.kind)]
      failure.normalized)

/-- The answer to a request whose evaluation was lost. -/
def lost : WebResponse :=
  answered 500 (.object [("error".toList, .string "internal error while evaluating".toList)])

/-- The answer to a request whose evaluation ended in `outcome`, if it ended. -/
def ofOutcome : Option (Except Failure Success) → WebResponse
  | some (.ok done) => ofSuccess done
  | some (.error failure) => ofFailure failure
  | none => lost

/-- The HTTP status. -/
def status : WebResponse → Nat
  | rejected _ => 400
  | answered status _ => status

end WebResponse

namespace Pipeline

variable {m : Type → Type} [Monad m]

/-- Answers a request that could be read. A normalizer that breaks down has no reply. -/
def answer (pipeline : Pipeline (OptionT m)) (request : WebRequest) : m WebResponse :=
  match Question.ofText (request.mode.getD .rad) (request.expression.getD []) with
  | .error e => pure (.ofFailure ⟨e, none⟩)
  | .ok q => do
    let outcome ← (pipeline.run q).run
    return .ofOutcome outcome

/-- Answers a message with the given content type. -/
def respond (pipeline : Pipeline (OptionT m)) (contentType : Option Text) (body : Text) :
    m WebResponse :=
  match WebRequest.ofMessage contentType body with
  | .error cause => pure (.rejected cause)
  | .ok request => pipeline.answer request

end Pipeline

end Reckoner
