import Reckoner.History
import Reckoner.Pipeline

/-!
# Sessions

A session takes lines one after the other. Some lines are commands to the session itself; the others
are questions. What carries over from line to line is the angle mode and the history of the answers.
-/

namespace Reckoner

/-- What carries over from line to line. -/
structure Session where
  mode : AngleMode
  history : History := .empty

/-- What a line asks a session to do. -/
inductive Command where
  | skip
  | leave
  | help
  | version
  | about
  | setMode (mode : AngleMode)
  | clearHistory
  | showHistory
  /-- Every other line is a question. -/
  | ask (line : Text)
  deriving DecidableEq

namespace Command

/-- The words that are commands. -/
def table : List (Text × Command) :=
  [("exit", leave), ("quit", leave), ("help", help), ("version", version),
    ("--version", version), ("-v", version), ("about", about), ("--about", about),
    ("deg", setMode .deg), ("rad", setMode .rad), ("history clear", clearHistory),
    ("history", showHistory)].map fun entry => (entry.1.toList, entry.2)

/-- What a line asks for; blanks around it do not count. -/
def ofLine (line : Text) : Command :=
  let trimmed := Text.trim line
  if trimmed = [] then skip
  else ((table.find? (·.1 = trimmed)).map (·.2)).getD (ask trimmed)

end Command

/-- What a session answers to a line. -/
inductive Notice where
  | silence
  | farewell
  | help
  | version
  | about
  | modeSet (mode : AngleMode)
  | historyCleared
  | historyShown (entries : List HistoryEntry)
  | answered (done : Success)
  | failed (failure : Failure)

namespace Session

variable {m : Type → Type} [Monad m]

/-- Answers a question and, if there is an answer, puts it into the history. -/
def ask (pipeline : Pipeline m) (session : Session) (line : Text) : m (Session × Notice) :=
  match Question.ofText session.mode line with
  | .error _ => pure (session, .silence)
  | .ok q => do
    match ← pipeline.run q with
    | .ok done =>
      let history := session.history.record line done.answer.text
      return ({ session with history }, .answered done)
    | .error failure => return (session, .failed failure)

/-- Takes a line. -/
def step (pipeline : Pipeline m) (session : Session) (line : Text) : m (Session × Notice) :=
  match Command.ofLine line with
  | .skip => pure (session, .silence)
  | .leave => pure (session, .farewell)
  | .help => pure (session, .help)
  | .version => pure (session, .version)
  | .about => pure (session, .about)
  | .setMode mode => pure ({ session with mode }, .modeSet mode)
  | .clearHistory => pure ({ session with history := session.history.clear }, .historyCleared)
  | .showHistory => pure (session, .historyShown session.history.entries)
  | .ask question => session.ask pipeline question

/-- Takes lines up to the one that ends the session, and gives what is answered to each of them
together with the session after it. -/
def run (pipeline : Pipeline m) (session : Session) : List Text → m (List (Session × Notice))
  | [] => pure []
  | line :: lines => do
    let next ← session.step pipeline line
    match next.2 with
    | .farewell => return [next]
    | _ => return next :: (← run pipeline next.1 lines)

end Session

end Reckoner
