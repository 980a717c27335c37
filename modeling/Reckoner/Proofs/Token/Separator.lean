import Mathlib.Data.List.TakeWhile
import Reckoner.Token.Lexeme

/-!
# Separators

Some characters never belong to a numeral or a word with more than one character. The lexemes on
the two sides of such a character are cut as if the other side were not there, so that the tokens of
a text are those of its parts, and its failure is that of the first part that fails.
-/

namespace Reckoner

namespace Text

/-- A condition on the characters of a text is decided character by character, and not for all
characters there are. -/
instance (priority := 2000) decidableForallMem {p : Char → Prop} [DecidablePred p] (t : Text) :
    Decidable (∀ c ∈ t, p c) :=
  List.decidableBAll p t

theorem isDigit_iff (c : Char) : c.isDigit = true ↔ 48 ≤ c.toNat ∧ c.toNat ≤ 57 :=
  (Bool.and_eq_true_iff).trans (and_congr decide_eq_true_iff decide_eq_true_iff)

theorem isAlpha_iff (c : Char) :
    c.isAlpha = true ↔ 65 ≤ c.toNat ∧ c.toNat ≤ 90 ∨ 97 ≤ c.toNat ∧ c.toNat ≤ 122 := by
  have upper : c.isUpper = true ↔ 65 ≤ c.toNat ∧ c.toNat ≤ 90 := decide_eq_true_iff
  have lower : c.isLower = true ↔ 97 ≤ c.toNat ∧ c.toNat ≤ 122 :=
    Bool.and_eq_true_iff.trans (and_congr decide_eq_true_iff decide_eq_true_iff)
  exact Bool.or_eq_true_iff.trans (or_congr upper lower)

end Text

/-- The character ends every numeral and every word before it. -/
structure Parts (s : Char) : Prop where
  not_alphanum : s.isAlphanum = false
  not_point : s ≠ '.'
  not_plus : s ≠ '+'
  not_minus : s ≠ '-'

namespace Parts

variable {s : Char}

theorem not_digit (parts : Parts s) : s.isDigit = false := by
  have alphanum := parts.not_alphanum
  simp only [Char.isAlphanum, Bool.or_eq_false_iff] at alphanum
  exact alphanum.2

theorem not_alpha (parts : Parts s) : s.isAlpha = false := by
  have alphanum := parts.not_alphanum
  simp only [Char.isAlphanum, Bool.or_eq_false_iff] at alphanum
  exact alphanum.1

theorem not_exponent (parts : Parts s) : ¬ (s = 'e' ∨ s = 'E') := by
  have alpha := parts.not_alpha
  rintro (rfl | rfl)
  · exact absurd alpha (by decide)
  · exact absurd alpha (by decide)

theorem of_blank (blank : Text.isBlank s = true) : Parts s := by
  rcases Text.CodeRanges.contains_iff.mp blank with ⟨range, mem, low, high⟩
  have apart : s.toNat < 43 ∨ 123 ≤ s.toNat := by
    simp only [Text.blankRanges, List.mem_cons, List.not_mem_nil, or_false] at mem
    rcases mem with rfl | rfl | rfl | rfl | rfl | rfl | rfl | rfl | rfl | rfl <;> omega
  have other : ∀ c : Char, 43 ≤ c.toNat → c.toNat < 123 → s ≠ c := by
    rintro c least most rfl
    omega
  constructor
  · rw [Bool.eq_false_iff, ne_eq, Char.isAlphanum, Bool.or_eq_true, Text.isAlpha_iff,
      Text.isDigit_iff]
    omega
  · exact other _ (by decide) (by decide)
  · exact other _ (by decide) (by decide)
  · exact other _ (by decide) (by decide)

end Parts

/-! ## Cutting at a separator -/

theorem takeWhile_append_of_neg {p : Char → Bool} {s : Char} (ends : p s = false) (a b : Text) :
    (a ++ s :: b).takeWhile p = a.takeWhile p := by
  induction a with
  | nil => simp [ends]
  | cons c a ih => simp only [List.cons_append, List.takeWhile_cons, ih]

theorem dropWhile_append_of_neg {p : Char → Bool} {s : Char} (ends : p s = false) (a b : Text) :
    (a ++ s :: b).dropWhile p = a.dropWhile p ++ s :: b := by
  induction a with
  | nil => simp [ends]
  | cons c a ih =>
      simp only [List.cons_append, List.dropWhile_cons, ih]
      split <;> rfl

namespace Numeral

variable {s : Char}

theorem scanFraction_append_of_parts (parts : Parts s) (a b : Text) :
    scanFraction (a ++ s :: b) = ((scanFraction a).1, (scanFraction a).2 ++ s :: b) := by
  fun_cases scanFraction a with
  | case1 rest =>
      simp only [List.cons_append, scanFraction, takeWhile_append_of_neg parts.not_digit,
        dropWhile_append_of_neg parts.not_digit]
  | case2 _ no_point =>
      cases a with
      | nil =>
          rw [List.nil_append, scanFraction]
          rintro rest ⟨⟩
          exact parts.not_point rfl
      | cons c a =>
          rw [List.cons_append, scanFraction]
          rintro rest ⟨⟩
          exact no_point a rfl

theorem scanSign_append_of_parts (parts : Parts s) (a b : Text) :
    scanSign (a ++ s :: b) = ((scanSign a).1, (scanSign a).2 ++ s :: b) := by
  fun_cases scanSign a with
  | case1 rest => rfl
  | case2 rest => rfl
  | case3 _ no_plus no_minus =>
      cases a with
      | nil =>
          rw [List.nil_append, scanSign]
          · rintro rest ⟨⟩
            exact parts.not_plus rfl
          · rintro rest ⟨⟩
            exact parts.not_minus rfl
      | cons c a =>
          rw [List.cons_append, scanSign]
          · rintro rest ⟨⟩
            exact no_plus a rfl
          · rintro rest ⟨⟩
            exact no_minus a rfl

theorem scanExponent_append_of_parts (parts : Parts s) (a b : Text) :
    scanExponent (a ++ s :: b) = ((scanExponent a).1, (scanExponent a).2 ++ s :: b) := by
  cases a with
  | nil =>
      have noExponent : ¬ ((s = 'e' ∨ s = 'E') ∧
          (scanSign b).2.takeWhile Char.isDigit ≠ []) := fun both => parts.not_exponent both.1
      simp only [List.nil_append, scanExponent, if_neg noExponent]
  | cons c a =>
      simp only [List.cons_append, scanExponent, scanSign_append_of_parts parts,
        takeWhile_append_of_neg parts.not_digit, dropWhile_append_of_neg parts.not_digit]
      split <;> rfl

theorem scan_append_of_parts (parts : Parts s) (a b : Text) :
    scan (a ++ s :: b) = ((scan a).1, (scan a).2 ++ s :: b) := by
  simp only [scan, takeWhile_append_of_neg parts.not_digit,
    dropWhile_append_of_neg parts.not_digit, scanFraction_append_of_parts parts,
    scanExponent_append_of_parts parts]

end Numeral

theorem Lexeme.scan_append_of_parts {s : Char} (parts : Parts s) (c : Char) (a b : Text) :
    scan c (a ++ s :: b) = ((scan c a).1, (scan c a).2 ++ s :: b) := by
  have numeral := Numeral.scan_append_of_parts parts (c :: a) b
  rw [List.cons_append] at numeral
  simp only [scan, numeral, takeWhile_append_of_neg parts.not_alphanum,
    dropWhile_append_of_neg parts.not_alphanum]
  split
  · rfl
  · split <;> rfl

/-- A separator and what follows it are cut as if nothing stood before. -/
theorem lexemes_append_of_parts {s : Char} (parts : Parts s) (a b : Text) :
    lexemes (a ++ s :: b) = lexemes a ++ lexemes (s :: b) := by
  fun_induction lexemes a with
  | case1 => rfl
  | case2 c rest ih =>
      rw [List.cons_append, lexemes_cons, Lexeme.scan_append_of_parts parts, ih, List.cons_append]

/-! ## Tokens of parts -/

theorem tokensOf_append (first second : List Lexeme) :
    tokensOf (first ++ second) =
      (tokensOf first).bind fun before =>
        (tokensOf second).map fun after => before ++ after := by
  induction first with
  | nil =>
      rw [List.nil_append]
      cases tokensOf second <;> rfl
  | cons lexeme first ih =>
      rw [List.cons_append]
      cases meaning : lexeme.read with
      | error e => rw [tokensOf, tokensOf, meaning]; rfl
      | ok token =>
          rw [tokensOf_cons meaning, tokensOf_cons meaning, ih]
          cases tokensOf first with
          | error e => rfl
          | ok before => cases tokensOf second <;> simp [Except.bind, Except.map]

/-- The tokens of a text are those before a separator and those from it on. -/
theorem tokenize_append_of_parts {s : Char} (parts : Parts s) (a b : Text) :
    tokenize (a ++ s :: b) =
      (tokenize a).bind fun before => (tokenize (s :: b)).map fun after => before ++ after := by
  rw [tokenize, lexemes_append_of_parts parts, tokensOf_append]
  rfl

/-- Texts that have tokens can be put together at a separator. -/
theorem tokenize_append {s : Char} {a b : Text} {before after : List Token} (parts : Parts s)
    (first : tokenize a = .ok before) (second : tokenize (s :: b) = .ok after) :
    tokenize (a ++ s :: b) = .ok (before ++ after) := by
  rw [tokenize_append_of_parts parts, first, second]
  rfl

/-! ## Single lexemes -/

@[simp]
theorem tokenize_nil : tokenize [] = .ok [] := by
  rw [tokenize, lexemes_nil, tokensOf]

theorem lexemes_cons_mark {c : Char} (start : Numeral.startsAt c = false)
    (alpha : c.isAlpha = false) (rest : Text) :
    lexemes (c :: rest) = .mark c :: lexemes rest := by
  have cut : Lexeme.scan c rest = (.mark c, rest) := by simp [Lexeme.scan, start, alpha]
  rw [lexemes_cons, cut]

/-- The marks with their tokens. -/
def Token.marks : List (Char × Token) :=
  [('+', plus), ('-', minus), ('*', star), ('/', slash), ('^', caret), (',', comma),
    ('(', openParen), (')', closeParen)]

theorem Token.mem_marks {c : Char} {token : Token} (mark : ofMark? c = some token) :
    (c, token) ∈ marks := by
  unfold ofMark? at mark
  split at mark <;> cases mark <;> decide

theorem Func.name_of_ofName? {word : Text} {f : Func} (known : ofName? word = some f) :
    f.name = word := by
  unfold ofName? at known
  simpa using List.find?_some known

/-- A known word is the name of its token. -/
theorem Token.ofWord?_cases {word : Text} {token : Token} (known : ofWord? word = some token) :
    (∃ f, token = func f ∧ word = f.name) ∨ (∃ k, token = constant k ∧ word = k.name) ∨
      ∃ u, token = unit u ∧ word = u.name := by
  unfold ofWord? at known
  split at known
  · rename_i f named
    cases known
    exact .inl ⟨f, rfl, (Func.name_of_ofName? named).symm⟩
  · repeat' split at known
    all_goals cases known
    · exact .inr (.inl ⟨.pi, rfl, ‹_›⟩)
    · exact .inr (.inl ⟨.e, rfl, ‹_›⟩)
    · exact .inr (.inr ⟨.deg, rfl, ‹_›⟩)
    · exact .inr (.inr ⟨.rad, rfl, ‹_›⟩)

/-- Blanks stand for no token. -/
theorem Lexeme.read_mark_of_blank {s : Char} (blank : Text.isBlank s = true) :
    (mark s).read = .ok none := by
  rw [read]
  split
  · rename_i token mark
    have visible : ∀ m ∈ Token.marks, Text.isBlank m.1 = false := by decide
    have contrary := visible _ (Token.mem_marks mark)
    rw [blank] at contrary
    contradiction
  · rw [if_pos blank]

/-- A character that is a lexeme of its own gives its token, whatever follows it. -/
theorem tokenize_cons {c : Char} {token : Option Token} (start : Numeral.startsAt c = false)
    (alpha : c.isAlpha = false) (meaning : (Lexeme.mark c).read = .ok token) (rest : Text) :
    tokenize (c :: rest) = (tokenize rest).map fun tokens => token.toList ++ tokens := by
  rw [tokenize, lexemes_cons_mark start alpha, tokensOf_cons meaning, tokenize]

theorem tokenize_cons_blank {s : Char} (blank : Text.isBlank s = true) (t : Text) :
    tokenize (s :: t) = tokenize t := by
  have parts := Parts.of_blank blank
  have start : Numeral.startsAt s = false := by
    simp [Numeral.startsAt, parts.not_digit, parts.not_point]
  rw [tokenize_cons start parts.not_alpha (Lexeme.read_mark_of_blank blank)]
  cases tokenize t <;> rfl

/-- A mark is a token whatever follows it. -/
theorem tokenize_cons_mark {c : Char} {token : Token} {rest : Text} {tokens : List Token}
    (mark : Token.ofMark? c = some token) (read : tokenize rest = .ok tokens) :
    tokenize (c :: rest) = .ok (token :: tokens) := by
  have single : ∀ m ∈ Token.marks, Numeral.startsAt m.1 = false ∧ m.1.isAlpha = false := by decide
  rcases single _ (Token.mem_marks mark) with ⟨start, alpha⟩
  have meaning : (Lexeme.mark c).read = .ok (some token) := by
    rw [Lexeme.read, mark]
  rw [tokenize_cons start alpha meaning, read]
  rfl

/-- A space in front of a text leaves its tokens. -/
theorem tokenize_cons_space (rest : Text) : tokenize (' ' :: rest) = tokenize rest :=
  tokenize_cons_blank rfl rest

/-- A word of the vocabulary is a single token. -/
theorem tokenize_word {c : Char} {rest : Text} {token : Token} (alpha : c.isAlpha = true)
    (letters : rest.all Char.isAlphanum = true)
    (known : Token.ofWord? ((c :: rest).map Char.toLower) = some token) :
    tokenize (c :: rest) = .ok [token] := by
  have start : Numeral.startsAt c = false := by
    rw [Bool.eq_false_iff]
    intro starts
    rw [Numeral.startsAt, Bool.or_eq_true, beq_iff_eq] at starts
    rcases starts with digit | rfl
    · rw [Text.isAlpha_iff] at alpha
      rw [Text.isDigit_iff] at digit
      omega
    · contradiction
  have all : ∀ d ∈ rest, d.isAlphanum = true := List.all_eq_true.mp letters
  have cut : Lexeme.scan c rest = (.word (c :: rest), []) := by
    simp [Lexeme.scan, start, alpha, List.takeWhile_eq_self_iff.mpr all,
      List.dropWhile_eq_nil_iff.mpr all]
  have meaning : (Lexeme.word (c :: rest)).read = .ok (some token) := by
    rw [Lexeme.read, known]
  have single : lexemes (c :: rest) = [.word (c :: rest)] := by
    rw [lexemes_cons, cut, lexemes_nil]
  exact tokenize_of_lexeme single meaning

theorem tokenize_func (f : Func) : tokenize f.name = .ok [.func f] := by
  cases f <;> exact tokenize_word rfl rfl rfl

theorem tokenize_constant (c : Constant) : tokenize c.name = .ok [.constant c] := by
  cases c <;> exact tokenize_word rfl rfl rfl

theorem tokenize_unit (u : AngleUnit) : tokenize u.name = .ok [.unit u] := by
  cases u <;> exact tokenize_word rfl rfl rfl

/-! ## Separated texts -/

/-- The character is a separator, and this is the token that it stands for. A sign is no separator,
since it may belong to the exponent of a numeral. -/
inductive Separates : Char → Option Token → Prop where
  | blank {s : Char} (isBlank : Text.isBlank s = true) : Separates s none
  | star : Separates '*' (some .star)
  | slash : Separates '/' (some .slash)
  | caret : Separates '^' (some .caret)
  | comma : Separates ',' (some .comma)
  | openParen : Separates '(' (some .openParen)
  | closeParen : Separates ')' (some .closeParen)

namespace Separates

variable {s : Char} {token : Option Token}

theorem parts (separates : Separates s token) : Parts s := by
  cases separates with
  | blank isBlank => exact .of_blank isBlank
  | _ => exact ⟨by decide, by decide, by decide, by decide⟩

theorem read (separates : Separates s token) : (Lexeme.mark s).read = .ok token := by
  cases separates with
  | blank isBlank => exact Lexeme.read_mark_of_blank isBlank
  | _ => rfl

/-- The tokens of a text with a separator in it, or the failure of the first of its parts that
fails. -/
theorem tokenize_append (separates : Separates s token) (a b : Text) :
    tokenize (a ++ s :: b) =
      (tokenize a).bind fun before =>
        (tokenize b).map fun after => before ++ (token.toList ++ after) := by
  have parts := separates.parts
  have start : Numeral.startsAt s = false := by
    simp [Numeral.startsAt, parts.not_digit, parts.not_point]
  rw [tokenize_append_of_parts parts, tokenize_cons start parts.not_alpha separates.read]
  cases tokenize b <;> rfl

end Separates

/-- The two sides of a separator have their tokens each by itself. A failure of the first side is a
failure of the whole, and so is one of the second side if the first has tokens. -/
theorem tokenize_separated {s : Char} {token : Option Token} (separates : Separates s token)
    (a b : Text) :
    (∀ before after, tokenize a = .ok before → tokenize b = .ok after →
        tokenize (a ++ s :: b) = .ok (before ++ (token.toList ++ after))) ∧
      (∀ e, tokenize a = .error e → tokenize (a ++ s :: b) = .error e) ∧
      ∀ before e, tokenize a = .ok before → tokenize b = .error e →
        tokenize (a ++ s :: b) = .error e := by
  rw [separates.tokenize_append]
  refine ⟨?_, ?_, ?_⟩
  · intro before after first second
    rw [first, second]
    rfl
  · intro e first
    rw [first]
    rfl
  · intro before e first second
    rw [first, second]
    rfl

/-- The theorem applies to a blank that keeps the digits of an exponent from its numeral. -/
theorem tokenize_separated_exponent :
    Separates ' ' none ∧
      tokenize "2e".toList = .ok [.number ⟨0x4000000000000000⟩, .constant .e] ∧
      tokenize "-3".toList = .ok [.minus, .number ⟨0x4008000000000000⟩] ∧
      tokenize "2e -3".toList =
        .ok [.number ⟨0x4000000000000000⟩, .constant .e, .minus, .number ⟨0x4008000000000000⟩] := by
  have separates : Separates ' ' none := .blank (by decide)
  have first : tokenize "2e".toList = .ok [.number ⟨0x4000000000000000⟩, .constant .e] := by
    decide +kernel
  have second : tokenize "-3".toList = .ok [.minus, .number ⟨0x4008000000000000⟩] := by
    decide +kernel
  exact ⟨separates, first, second,
    (tokenize_separated separates "2e".toList "-3".toList).1 _ _ first second⟩

end Reckoner
