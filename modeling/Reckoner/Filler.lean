import Reckoner.Text.Pattern

/-!
# Filler phrases

Takes the words around a question out of it: known phrases such as `what is` go, blanks collapse,
and so do the marks that end a question. Nothing is added to what stays. -/

namespace Reckoner.Filler

open Text

/-- The phrases, each a list of words. -/
def phrases : List (List Text) :=
  [["what", "is"], ["what's"], ["whats"], ["calculate"], ["compute"], ["please"], ["solve"],
    ["evaluate"], ["the", "value", "of"]].map (·.map String.toList)

/-- The text after at least one blank. -/
def afterBlanks? : Text → Option Text
  | [] => none
  | c :: rest => if isBlank c then some (rest.dropWhile isBlank) else none

/-- The text after the words of a phrase, which have blanks between them. -/
def afterWords? : List Text → Text → Option Text
  | [], t => some t
  | [word], t => afterPattern? word t
  | word :: next :: words, t =>
    (afterPattern? word t).bind fun rest =>
      (afterBlanks? rest).bind fun rest => afterWords? (next :: words) rest

/-- How many characters the phrase takes at the front of a text where it ends with a word. -/
def phraseLength? (phrase : List Text) (t : Text) : Option Nat :=
  (afterWords? phrase t).bind fun rest =>
    let length := t.length - rest.length
    if isBoundary (t.take length).getLast? rest.head? then some length else none

/-- The length of the phrase at a place; it starts and ends at a word boundary. -/
def phraseAt : Matcher := fun before t =>
  if isBoundary before t.head? then phrases.findSome? (phraseLength? · t) else none

/-- The marks that may end a question. -/
def isFinalMark (c : Char) : Bool :=
  c ∈ ['?', '=', '!']

/-- The text without filler phrases and final marks, on one line. -/
def stripped (t : Text) : Text :=
  trim (dropTrailing isFinalMark (collapse (replaced phraseAt [' '] t)))

end Reckoner.Filler
