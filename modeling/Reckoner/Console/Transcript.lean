import Reckoner.Text.Blank

/-!
# Transcripts

What a run prints, in order, on the two streams of a console.
-/

namespace Reckoner

/-- A piece of output. -/
inductive Output where
  /-- On the stream for results. -/
  | out (t : Text)
  /-- On the stream for errors. -/
  | err (t : Text)
  deriving DecidableEq

/-- The output of a run, in order. -/
abbrev Transcript := List Output

namespace Transcript

/-- A line of results. -/
def outLine (t : Text) : Transcript :=
  [.out (t ++ ['\n'])]

/-- A line of errors. -/
def errLine (t : Text) : Transcript :=
  [.err (t ++ ['\n'])]

/-- What appears on the stream for results. -/
def results (transcript : Transcript) : Text :=
  transcript.flatMap fun
    | .out t => t
    | .err _ => []

/-- What appears on the stream for errors. -/
def errors (transcript : Transcript) : Text :=
  transcript.flatMap fun
    | .out _ => []
    | .err t => t

end Transcript

/-- How a run ends. -/
structure RunResult where
  code : Nat
  transcript : Transcript

end Reckoner
