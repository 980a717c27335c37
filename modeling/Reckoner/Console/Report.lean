import Reckoner.Console.Banner
import Reckoner.Script
import Reckoner.Session

/-!
# Reports

How sessions and scripts are put into words on a console.
-/

namespace Reckoner

open Transcript

/-- The line that says what was evaluated, where it is not the question. -/
def normalizedLine (line : Text → Transcript) (normalized : Option Text) : Transcript :=
  normalized.elim [] fun t => line ("  (read as: ".toList ++ t ++ ")".toList)

/-- A number in at least two places. -/
def placeText (n : Nat) : Text :=
  if n < 10 then ' ' :: decimalDigits n else decimalDigits n

/-- The entries of a history, numbered from one. -/
def historyTranscript (entries : List HistoryEntry) : Transcript :=
  if entries.isEmpty then outLine "(no history)".toList
  else
    (entries.zipIdx 1).flatMap fun (entry, place) =>
      outLine (placeText place ++ ". ".toList ++ entry.input ++ " = ".toList ++ entry.output)

namespace Notice

/-- What a session prints. -/
def transcript : Notice → Transcript
  | silence => []
  | farewell => outLine "Exiting...".toList
  | help => [.out Banner.help]
  | version => outLine Banner.version
  | about => outLine Banner.about
  | modeSet mode => outLine ("Angle mode: ".toList ++ mode.name)
  | historyCleared => outLine "History cleared.".toList
  | historyShown entries => historyTranscript entries
  | answered done =>
    outLine ("= ".toList ++ done.answer.text) ++ normalizedLine outLine done.normalized
  | failed failure =>
    errLine ("Error: ".toList ++ failure.error.message) ++
      normalizedLine errLine failure.normalized

end Notice

namespace Session

/-- What stands in front of every line of a session. -/
def prompt : Output :=
  .out "> ".toList

/-- What a session starts with. -/
def greeting (mode : AngleMode) : Transcript :=
  outLine
    ("Enter an expression or a question (angle mode ".toList ++ mode.name ++
      ", \x60help\x60 for more):".toList)

end Session

namespace Script.Entry

/-- What a script prints for a question. -/
def transcript (entry : Entry) : Transcript :=
  match entry.outcome with
  | .ok done => outLine (entry.question.text ++ " = ".toList ++ done.answer.text)
  | .error failure =>
    errLine
      ("Error: ".toList ++ entry.question.text ++ ": ".toList ++ failure.error.message)

end Script.Entry

end Reckoner
