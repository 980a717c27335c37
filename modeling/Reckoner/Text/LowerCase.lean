import Reckoner.Text.Blank
import Reckoner.Text.Table.Case

/-!
# Lower case

Lower-casing goes character by character, with two exceptions to one character for one: a dotted
capital I leaves an `i` and a combining dot, and a capital sigma at the end of a word takes its
final form. -/

namespace Reckoner.Text

/-- The lower-case image of a character that has one of its own. -/
def Table.CaseRun.lower? (run : Table.CaseRun) (c : Char) : Option Char :=
  if run.first ≤ c.toNat ∧ c.toNat ≤ run.last ∧ (c.toNat - run.first) % run.step = 0 then
    some (Char.ofNat (run.image + (c.toNat - run.first)))
  else
    none

/-- The lower-case image of one character, where it does not hang on its neighbours. -/
def lowerChar (c : Char) : Char :=
  if c.toNat < 0x80 then c.toLower else (Table.lowered.findSome? (·.lower? c)).getD c

/-- Letters with case. -/
def isCased (c : Char) : Bool :=
  if c.toNat < 0x80 then c.isAlpha else Table.cased.contains c

/-- Characters that may stand between a sigma and the letter that decides its form. -/
def isCaseIgnorable (c : Char) : Bool :=
  if c.toNat < 0x80 then "'.:^\x60".toList.contains c else Table.caseIgnorable.contains c

/-- The first character that is not passed over has case. -/
def startsCased (t : Text) : Bool :=
  (t.dropWhile isCaseIgnorable).head?.any isCased

/-- The lower-case image of `c` with the text `before` it, last character first, and the text
`after` it. -/
def lowerAt (before : Text) (c : Char) (after : Text) : Text :=
  if c = 'Σ' then [if startsCased before && !startsCased after then 'ς' else 'σ']
  else if c = 'İ' then ['i', '\u0307']
  else [lowerChar c]

/-- The lower-case image of the rest of a text, `before` being what stands in front of it, last
character first. -/
def lowerFrom : Text → Text → Text
  | _, [] => []
  | before, c :: rest => lowerAt before c rest ++ lowerFrom (c :: before) rest

/-- The lower-case image of a text. -/
def lower (t : Text) : Text :=
  lowerFrom [] t

@[simp]
theorem lower_nil : lower [] = [] :=
  rfl

@[simp]
theorem lowerFrom_nil (before : Text) : lowerFrom before [] = [] :=
  rfl

@[simp]
theorem lowerFrom_cons (before : Text) (c : Char) (rest : Text) :
    lowerFrom before (c :: rest) = lowerAt before c rest ++ lowerFrom (c :: before) rest :=
  rfl

end Reckoner.Text
