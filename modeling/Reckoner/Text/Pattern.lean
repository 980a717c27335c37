import Reckoner.Text.Word

/-!
# Finding and replacing

A matcher looks at one place of a text, with the character before the place and the text after it,
and says how many characters match there. `occurs` asks whether it matches anywhere; `replaced`
replaces the matches that are found from left to right, each search starting where the last match
ended.
-/

namespace Reckoner.Text

/-- Tells how many characters match at a place, given the character before and the text after it. -/
abbrev Matcher := Option Char → Text → Option Nat

/-- `c` spells the lower-case letter `l` of a pattern when case is ignored. Case folding gives `s`
and `k` one more spelling each, the long s and the kelvin sign. -/
def spells (l c : Char) : Bool :=
  c.toLower == l || (l == 's' && c == 'ſ') || (l == 'k' && c == '\u212a')

/-- The text after `pattern` at the front of `t`, case ignored. -/
def afterPattern? : Text → Text → Option Text
  | [], t => some t
  | _ :: _, [] => none
  | l :: pattern, c :: t => if spells l c then afterPattern? pattern t else none

/-- `p` holds at some place of the text, given the character before the text. -/
def occurs (p : Option Char → Text → Bool) : Option Char → Text → Bool
  | before, [] => p before []
  | before, c :: rest => p before (c :: rest) || occurs p (some c) rest

/-- Replaces the matches of `m`, given the character before the text. -/
def replacedFrom (m : Matcher) (replacement : Text) : Option Char → Text → Text
  | _, [] => []
  | before, c :: rest =>
    match m before (c :: rest) with
    | some n =>
      replacement ++
        replacedFrom m replacement (some ((rest.take (n - 1)).getLast?.getD c)) (rest.drop (n - 1))
    | none => c :: replacedFrom m replacement (some c) rest
termination_by _ t => t.length
decreasing_by
  all_goals
    simp only [List.length_drop, List.length_cons]
    omega

/-- Replaces the matches of `m` from left to right. -/
def replaced (m : Matcher) (replacement : Text) (t : Text) : Text :=
  replacedFrom m replacement none t

@[simp]
theorem afterPattern?_nil (t : Text) : afterPattern? [] t = some t := by
  cases t <;> rfl

@[simp]
theorem occurs_nil (p : Option Char → Text → Bool) (before : Option Char) :
    occurs p before [] = p before [] :=
  rfl

@[simp]
theorem occurs_cons (p : Option Char → Text → Bool) (before : Option Char) (c : Char)
    (rest : Text) :
    occurs p before (c :: rest) = (p before (c :: rest) || occurs p (some c) rest) :=
  rfl

@[simp]
theorem replacedFrom_nil (m : Matcher) (replacement : Text) (before : Option Char) :
    replacedFrom m replacement before [] = [] := by
  simp [replacedFrom]

end Reckoner.Text
