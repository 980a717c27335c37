import Reckoner.Error
import Reckoner.Number.Numeral

/-!
# Lexemes

A text is cut into lexemes from left to right: the longest numeral where a digit or a point stands,
the longest run of letters and digits where a letter stands, and a single character anywhere else.
Cutting loses nothing and never fails; whether a lexeme has a meaning is a question of its own.
-/

namespace Reckoner

namespace Numeral

/-- The double nearest to a numeral. There have to be digits, and the double has to be finite. -/
def read (n : Numeral) : Except SyntaxError Binary64 :=
  if n.digits.isEmpty then .error (.malformedNumber n.text)
  else if n.decimal.rank < Binary64.infinityRank then .ok (Binary64.ofRank false n.decimal.rank)
  else .error (.numberOutOfRange n.text)

end Numeral

/-- A piece of a text. -/
inductive Lexeme where
  /-- A character on its own. -/
  | mark (c : Char)
  /-- A letter and the letters and digits after it. -/
  | word (letters : Text)
  | numeral (n : Numeral)
  deriving DecidableEq

namespace Lexeme

/-- A lexeme as it is written. -/
def text : Lexeme → Text
  | mark c => [c]
  | word letters => letters
  | numeral n => n.text

/-- Cuts off the lexeme that starts with `c`. -/
def scan (c : Char) (rest : Text) : Lexeme × Text :=
  if Numeral.startsAt c then
    let cut := Numeral.scan (c :: rest)
    (numeral cut.1, cut.2)
  else if c.isAlpha then
    (word (c :: rest.takeWhile Char.isAlphanum), rest.dropWhile Char.isAlphanum)
  else
    (mark c, rest)

/-- Cutting off one lexeme loses nothing. -/
theorem scan_append (c : Char) (rest : Text) :
    (scan c rest).1.text ++ (scan c rest).2 = c :: rest := by
  unfold scan
  split
  · exact Numeral.scan_append (c :: rest)
  · split
    · simp [text]
    · rfl

theorem scan_length_le (c : Char) (rest : Text) : (scan c rest).2.length ≤ rest.length := by
  unfold scan
  split
  · rename_i start
    exact Numeral.scan_length_le start rest
  · split
    · exact (List.dropWhile_sublist _).length_le
    · exact Nat.le_refl _

/-- The token that a lexeme stands for; blanks stand for none. Words are read in any case. -/
def read : Lexeme → Except CalcError (Option Token)
  | mark c =>
    match Token.ofMark? c with
    | some token => .ok (some token)
    | none => if Text.isBlank c then .ok none else .error (.disallowedToken [c])
  | word letters =>
    let lowered := letters.map Char.toLower
    match Token.ofWord? lowered with
    | some token => .ok (some token)
    | none => .error (.disallowedToken lowered)
  | numeral n =>
    match n.read with
    | .ok x => .ok (some (.number x))
    | .error cause => .error (.parseFailure cause)

end Lexeme

/-- The lexemes of a text, in order. -/
def lexemes : Text → List Lexeme
  | [] => []
  | c :: rest => (Lexeme.scan c rest).1 :: lexemes (Lexeme.scan c rest).2
termination_by t => t.length
decreasing_by
  have := Lexeme.scan_length_le c rest
  simp only [List.length_cons]
  omega

@[simp]
theorem lexemes_nil : lexemes [] = [] := by
  simp [lexemes]

theorem lexemes_cons (c : Char) (rest : Text) :
    lexemes (c :: rest) = (Lexeme.scan c rest).1 :: lexemes (Lexeme.scan c rest).2 := by
  rw [lexemes]

/-- The lexemes of a text make up the text. -/
theorem flatMap_text_lexemes (t : Text) : (lexemes t).flatMap Lexeme.text = t := by
  fun_induction lexemes t with
  | case1 => rfl
  | case2 c rest ih =>
    rw [List.flatMap_cons, ih, Lexeme.scan_append]

/-! ## Tokens -/

/-- The tokens of a list of lexemes, or the failure of the first lexeme without a meaning. -/
def tokensOf : List Lexeme → Except CalcError (List Token)
  | [] => .ok []
  | lexeme :: rest =>
    match lexeme.read with
    | .error e => .error e
    | .ok token =>
      match tokensOf rest with
      | .error e => .error e
      | .ok tokens => .ok (token.toList ++ tokens)

/-- The tokens of a text. -/
def tokenize (t : Text) : Except CalcError (List Token) :=
  tokensOf (lexemes t)

theorem tokensOf_cons {lexeme : Lexeme} {token : Option Token} (read : lexeme.read = .ok token)
    (rest : List Lexeme) :
    tokensOf (lexeme :: rest) = (tokensOf rest).map fun tokens => token.toList ++ tokens := by
  rw [tokensOf, read]
  cases tokensOf rest <;> rfl

/-- A text that is a single lexeme with a meaning is a single token. -/
theorem tokenize_of_lexeme {t : Text} {lexeme : Lexeme} {token : Token}
    (single : lexemes t = [lexeme]) (read : lexeme.read = .ok (some token)) :
    tokenize t = .ok [token] := by
  rw [tokenize, single, tokensOf_cons read]
  rfl

end Reckoner
