import Reckoner.Text.Ranges

/-!
# Text and blank space

A text is a list of characters. This file fixes what counts as blank space, and cuts a text at its
blanks: off its ends (`trim`) and into words (`words`). Joining the words with single spaces
(`collapse`) gives the layout that the rest of the calculator works on.
-/

namespace Reckoner

/-- A text is the list of its characters. -/
abbrev Text := List Char

namespace Text

/-- The code points with the Unicode property `White_Space`. -/
def blankRanges : CodeRanges :=
  [(0x09, 0x0d), (0x20, 0x20), (0x85, 0x85), (0xa0, 0xa0), (0x1680, 0x1680), (0x2000, 0x200a),
    (0x2028, 0x2029), (0x202f, 0x202f), (0x205f, 0x205f), (0x3000, 0x3000)]

/-- Blank characters. -/
def isBlank (c : Char) : Bool :=
  blankRanges.contains c

/-- Drops the longest run of characters with property `p` from the end. -/
def dropTrailing (p : Char → Bool) (t : Text) : Text :=
  (t.reverse.dropWhile p).reverse

/-- Drops the blanks at both ends. -/
def trim (t : Text) : Text :=
  dropTrailing isBlank (t.dropWhile isBlank)

/-- The maximal runs of characters that are not blank, in order. -/
def words : Text → List Text
  | [] => []
  | c :: rest =>
    if isBlank c then words rest
    else
      (c :: rest.takeWhile (!isBlank ·)) :: words (rest.dropWhile (!isBlank ·))
termination_by t => t.length
decreasing_by
  all_goals
    have := (List.dropWhile_sublist (l := rest) (!isBlank ·)).length_le
    simp only [List.length_cons]
    omega

/-- Joins words with one space between neighbours. -/
def unwords (ws : List Text) : Text :=
  [' '].intercalate ws

/-- Writes every run of blanks as one space, and none at the ends. -/
def collapse (t : Text) : Text :=
  unwords (words t)

/-! ## Small laws -/

@[simp]
theorem dropTrailing_nil (p : Char → Bool) : dropTrailing p [] = [] :=
  rfl

@[simp]
theorem trim_nil : trim [] = [] :=
  rfl

@[simp]
theorem words_nil : words [] = [] := by
  rw [words]

theorem words_cons_of_blank {c : Char} (rest : Text) (blank : isBlank c = true) :
    words (c :: rest) = words rest := by
  rw [words, if_pos blank]

theorem words_cons_of_not_blank {c : Char} (rest : Text) (visible : isBlank c = false) :
    words (c :: rest) =
      (c :: rest.takeWhile (!isBlank ·)) :: words (rest.dropWhile (!isBlank ·)) := by
  rw [words, if_neg (Bool.eq_false_iff.mp visible)]

end Text

end Reckoner
