import Mathlib.Data.List.Forall2
import Mathlib.Data.List.ReduceOption
import Reckoner.Proofs.Token.Renders

/-!
# Longest lexemes

What a text is cut into stands here as a relation of its own, apart from the scanner. A numeral is
the longest one at its place, a word goes on up to the first character that is no letter and no
digit, and every other character stands alone. The relation has one solution for each text, which is
the one that the scanner finds, so that the tokens of a text and its failures can be read off any
such cutting.
-/

namespace Reckoner

/-! ## The longest numeral -/

namespace ExponentPart

theorem IsScanned.scanSign_append {p : ExponentPart} (scanned : p.IsScanned) (rest : Text) :
    Numeral.scanSign (p.sign.toList ++ (p.digits ++ rest)) = (p.sign, p.digits ++ rest) := by
  rcases p with ⟨mark, sign, digits⟩
  cases sign with
  | some c => rcases scanned.sign c rfl with rfl | rfl <;> rfl
  | none =>
      rcases List.exists_cons_of_ne_nil scanned.digits_ne_nil with ⟨c, others, rfl⟩
      have digit := scanned.digits c List.mem_cons_self
      change Numeral.scanSign (c :: (others ++ rest)) = (none, c :: (others ++ rest))
      rw [Numeral.scanSign]
      · rintro t ⟨⟩
        exact absurd digit (by decide)
      · rintro t ⟨⟩
        exact absurd digit (by decide)

/-- An exponent is scanned with all the digits behind it. -/
theorem IsScanned.scanExponent_append {p : ExponentPart} (scanned : p.IsScanned) (rest : Text) :
    Numeral.scanExponent (p.text ++ rest) =
      (some { p with digits := p.digits ++ rest.takeWhile Char.isDigit },
        rest.dropWhile Char.isDigit) := by
  have text : p.text ++ rest = p.mark :: (p.sign.toList ++ (p.digits ++ rest)) := by
    simp [ExponentPart.text]
  have taken : (p.digits ++ rest).takeWhile Char.isDigit =
      p.digits ++ rest.takeWhile Char.isDigit :=
    List.takeWhile_append_of_pos scanned.digits
  have left : (p.digits ++ rest).dropWhile Char.isDigit = rest.dropWhile Char.isDigit :=
    List.dropWhile_append_of_pos scanned.digits
  have both : (p.mark = 'e' ∨ p.mark = 'E') ∧ p.digits ++ rest.takeWhile Char.isDigit ≠ [] :=
    ⟨scanned.mark, List.append_ne_nil_of_left_ne_nil scanned.digits_ne_nil _⟩
  rw [text]
  simp only [Numeral.scanExponent, scanned.scanSign_append, taken, left, if_pos both]

/-- An exponent is neither a digit nor a point at its front. -/
theorem IsScanned.front {p : ExponentPart} (scanned : p.IsScanned) (rest : Text) :
    ∃ t, p.text ++ rest = p.mark :: t ∧ p.mark.isDigit = false ∧ p.mark ≠ '.' := by
  refine ⟨p.sign.toList ++ p.digits ++ rest, rfl, ?_⟩
  rcases scanned.mark with mark | mark <;> rw [mark] <;> decide

end ExponentPart

namespace Numeral

variable {n m : Numeral} {t rest : Text}

theorem scanFraction_of_not_point {c : Char} (notPoint : c ≠ '.') (t : Text) :
    scanFraction (c :: t) = (none, c :: t) := by
  rw [scanFraction]
  rintro rest ⟨⟩
  exact notPoint rfl

/-- Behind an exponent, a numeral goes on with digits only. -/
theorem IsScanned.scan_of_exponent {p : ExponentPart} (scanned : n.IsScanned)
    (exponent : n.exponent = some p) (rest : Text) :
    scan (n.text ++ rest) =
      ({ n with exponent := some { p with digits := p.digits ++ rest.takeWhile Char.isDigit } },
        rest.dropWhile Char.isDigit) := by
  rcases n with ⟨whole, fraction, _⟩
  cases exponent
  have part := scanned.exponent p rfl
  have scanPart := part.scanExponent_append rest
  rcases part.front rest with ⟨more, text, notDigit, notPoint⟩
  have stop : (p.text ++ rest).takeWhile Char.isDigit = [] ∧
      (p.text ++ rest).dropWhile Char.isDigit = p.text ++ rest := by
    simp [text, notDigit]
  cases fraction with
  | none =>
      have noFraction : scanFraction (p.text ++ rest) = (none, p.text ++ rest) := by
        rw [text, scanFraction_of_not_point notPoint]
      simp [scan, Numeral.text, List.takeWhile_append_of_pos scanned.whole,
        List.dropWhile_append_of_pos scanned.whole, stop, noFraction, scanPart]
  | some f =>
      have digits := scanned.fraction f rfl
      simp [scan, Numeral.text, List.takeWhile_append_of_pos scanned.whole,
        List.dropWhile_append_of_pos scanned.whole, scanFraction,
        List.takeWhile_append_of_pos digits, List.dropWhile_append_of_pos digits, stop, scanPart]

/-- Behind a point, a numeral goes on with digits and an exponent. -/
theorem IsScanned.scan_of_fraction {f : Text} (scanned : n.IsScanned)
    (fraction : n.fraction = some f) (exponent : n.exponent = none) (rest : Text) :
    scan (n.text ++ rest) =
      (⟨n.whole, some (f ++ rest.takeWhile Char.isDigit),
          (scanExponent (rest.dropWhile Char.isDigit)).1⟩,
        (scanExponent (rest.dropWhile Char.isDigit)).2) := by
  rcases n with ⟨whole, _, _⟩
  cases fraction
  cases exponent
  have digits := scanned.fraction f rfl
  simp [scan, Numeral.text, List.takeWhile_append_of_pos scanned.whole,
    List.dropWhile_append_of_pos scanned.whole, scanFraction,
    List.takeWhile_append_of_pos digits, List.dropWhile_append_of_pos digits]

/-- Behind digits, a numeral goes on as any other numeral. -/
theorem IsScanned.scan_of_whole (scanned : n.IsScanned) (fraction : n.fraction = none)
    (exponent : n.exponent = none) (rest : Text) :
    scan (n.text ++ rest) =
      ({ (scan rest).1 with whole := n.whole ++ (scan rest).1.whole }, (scan rest).2) := by
  rcases n with ⟨whole, _, _⟩
  cases fraction
  cases exponent
  simp [scan, Numeral.text, List.takeWhile_append_of_pos scanned.whole,
    List.dropWhile_append_of_pos scanned.whole]

/-- A numeral is scanned whole, and with all that goes on with it. -/
theorem IsScanned.text_prefix_scan (scanned : n.IsScanned) (rest : Text) :
    n.text <+: (scan (n.text ++ rest)).1.text := by
  cases exponent : n.exponent with
  | some p =>
      rw [scanned.scan_of_exponent exponent]
      exact ⟨rest.takeWhile Char.isDigit, by simp [text, exponent, ExponentPart.text]⟩
  | none =>
      cases fraction : n.fraction with
      | some f =>
          rw [scanned.scan_of_fraction fraction exponent]
          simp only [text, fraction, exponent, Option.elim_some, Option.elim_none, List.append_nil]
          simp
      | none =>
          rw [scanned.scan_of_whole fraction exponent]
          simp [text, fraction, exponent]

/-- A numeral is read off its own text. -/
theorem IsScanned.scan_text (scanned : n.IsScanned) : scan n.text = (n, []) := by
  rw [← List.append_nil n.text]
  cases exponent : n.exponent with
  | some p =>
      rw [scanned.scan_of_exponent exponent]
      rcases n with ⟨whole, fraction, _⟩
      cases exponent
      simp
  | none =>
      cases fraction : n.fraction with
      | some f =>
          rw [scanned.scan_of_fraction fraction exponent]
          rcases n with ⟨whole, _, _⟩
          cases fraction
          cases exponent
          simp [scanExponent]
      | none =>
          rw [scanned.scan_of_whole fraction exponent]
          rcases n with ⟨whole, _, _⟩
          cases fraction
          cases exponent
          simp [scan, scanFraction, scanExponent]

/-- The numeral stands at the front of the text, and no longer numeral does. -/
structure IsLongest (n : Numeral) (t : Text) : Prop where
  scanned : n.IsScanned
  stands : n.text <+: t
  longest : ∀ m : Numeral, m.IsScanned → m.text <+: t → m.text.length ≤ n.text.length

theorem isLongest_scan (t : Text) : (scan t).1.IsLongest t where
  scanned := isScanned_scan t
  stands := ⟨(scan t).2, scan_append t⟩
  longest := by
    rintro m scanned ⟨rest, rfl⟩
    exact (scanned.text_prefix_scan rest).length_le

example : (scan "2e-x".toList).1.text = "2".toList := by decide

/-- There is one longest numeral. -/
theorem IsLongest.eq_scan (longest : n.IsLongest t) : n = (scan t).1 := by
  have other := isLongest_scan t
  have length : n.text.length = (scan t).1.text.length :=
    Nat.le_antisymm (other.longest n longest.scanned longest.stands)
      (longest.longest _ other.scanned other.stands)
  have text : n.text = (scan t).1.text :=
    (List.prefix_of_prefix_length_le longest.stands other.stands length.le).eq_of_length length
  have first := longest.scanned.scan_text
  rw [text, other.scanned.scan_text] at first
  exact (congrArg Prod.fst first).symm

end Numeral

/-! ## Cutting -/

/-- The text is cut into the lexemes, and every character of it belongs to one of them. -/
inductive Cuts : Text → List Lexeme → Prop where
  | nil : Cuts [] []
  | numeral {n : Numeral} {rest : Text} {others : List Lexeme}
      (opens : n.whole ≠ [] ∨ n.fraction ≠ none) (longest : n.IsLongest (n.text ++ rest))
      (after : Cuts rest others) : Cuts (n.text ++ rest) (.numeral n :: others)
  | word {c : Char} {letters rest : Text} {others : List Lexeme} (head : c.isAlpha = true)
      (tail : ∀ d ∈ letters, d.isAlphanum = true) (ends : ∀ d ∈ rest.head?, d.isAlphanum = false)
      (after : Cuts rest others) : Cuts (c :: letters ++ rest) (.word (c :: letters) :: others)
  | mark {c : Char} {rest : Text} {others : List Lexeme} (notNumeral : Numeral.startsAt c = false)
      (notWord : c.isAlpha = false) (after : Cuts rest others) :
      Cuts (c :: rest) (.mark c :: others)

theorem Numeral.startsAt_of_isAlpha {c : Char} (alpha : c.isAlpha = true) : startsAt c = false := by
  rw [Bool.eq_false_iff]
  intro starts
  rw [startsAt, Bool.or_eq_true, beq_iff_eq] at starts
  rcases starts with digit | rfl
  · rw [Text.isAlpha_iff] at alpha
    rw [Text.isDigit_iff] at digit
    omega
  · contradiction

/-- A numeral with a digit or a point before its exponent starts with one. -/
theorem Numeral.IsScanned.exists_cons {n : Numeral} (scanned : n.IsScanned)
    (opens : n.whole ≠ [] ∨ n.fraction ≠ none) :
    ∃ c t, n.text = c :: t ∧ startsAt c = true := by
  rcases n with ⟨whole, fraction, exponent⟩
  cases whole with
  | cons c digits =>
      have digit := scanned.whole c List.mem_cons_self
      exact ⟨c, _, rfl, Bool.or_eq_true_iff.mpr (.inl digit)⟩
  | nil =>
      cases fraction with
      | none => simp at opens
      | some f => exact ⟨'.', _, rfl, rfl⟩

/-- The numeral at a digit or a point has a digit or a point before its exponent. -/
theorem Numeral.scan_opens {c : Char} (starts : startsAt c = true) (rest : Text) :
    (scan (c :: rest)).1.whole ≠ [] ∨ (scan (c :: rest)).1.fraction ≠ none := by
  by_cases digit : c.isDigit = true
  · exact .inl (by simp [scan, digit])
  · have point : c = '.' := by simpa [startsAt, digit] using starts
    subst point
    exact .inr (by simp [scan, scanFraction, digit])

/-- A text is cut into its lexemes. -/
theorem cuts_lexemes (t : Text) : Cuts t (lexemes t) := by
  fun_induction lexemes t with
  | case1 => exact .nil
  | case2 c rest ih =>
      rcases Lexeme.scan_cases c rest with ⟨n, left, starts, cut, whole, scanned⟩ |
        ⟨letters, left, alpha, tail, ends, rfl, scanned⟩ | ⟨notNumeral, notWord, scanned⟩
      · have opens := Numeral.scan_opens starts rest
        have longest := Numeral.isLongest_scan (c :: rest)
        rw [cut] at opens longest
        rw [scanned] at ih ⊢
        rw [← whole] at longest ⊢
        exact .numeral opens longest ih
      · rw [scanned] at ih ⊢
        exact .word alpha tail ends ih
      · rw [scanned] at ih ⊢
        exact .mark notNumeral notWord ih

/-- A text is cut in one way only. -/
theorem Cuts.eq_lexemes {t : Text} {ls : List Lexeme} (cut : Cuts t ls) : ls = lexemes t := by
  induction cut with
  | nil => exact lexemes_nil.symm
  | @numeral n rest others opens longest _ ih =>
      rcases longest.scanned.exists_cons opens with ⟨c, t, text, starts⟩
      have first := longest.eq_scan
      have left := Numeral.scan_append (n.text ++ rest)
      rw [← first] at left
      have scanned : Numeral.scan (n.text ++ rest) = (n, rest) :=
        Prod.ext first.symm (List.append_cancel_left left)
      rw [text, List.cons_append] at scanned ⊢
      have cut : Lexeme.scan c (t ++ rest) = (.numeral n, rest) := by
        rw [Lexeme.scan, if_pos starts, scanned]
      rw [lexemes_cons, cut, ih]
  | @word c letters rest others head tail ends _ ih =>
      have starts := Numeral.startsAt_of_isAlpha head
      have cut : Lexeme.scan c (letters ++ rest) = (.word (c :: letters), rest) := by
        have stop : rest.takeWhile Char.isAlphanum = [] ∧
            rest.dropWhile Char.isAlphanum = rest := by
          cases rest with
          | nil => exact ⟨rfl, rfl⟩
          | cons d rest => simp [ends d rfl]
        rw [Lexeme.scan, if_neg (Bool.eq_false_iff.mp starts), if_pos head,
          List.takeWhile_append_of_pos tail, List.dropWhile_append_of_pos tail, stop.1, stop.2,
          List.append_nil]
      rw [List.cons_append, lexemes_cons, cut, ih]
  | mark notNumeral notWord _ ih => rw [lexemes_cons_mark notNumeral notWord, ih]

/-! ## Meanings -/

/-- The word that a token is written as, if it is a word. -/
def Token.word? : Token → Option Text
  | func f => some f.name
  | constant c => some c.name
  | unit u => some u.name
  | _ => none

theorem Token.ofWord?_eq_some_iff {word : Text} {token : Token} :
    ofWord? word = some token ↔ token.word? = some word := by
  constructor
  · intro known
    rcases ofWord?_cases known with ⟨f, rfl, rfl⟩ | ⟨c, rfl, rfl⟩ | ⟨u, rfl, rfl⟩ <;> rfl
  · intro named
    cases token with
    | func f =>
        cases named
        cases f <;> rfl
    | constant c =>
        cases named
        cases c <;> rfl
    | unit u =>
        cases named
        cases u <;> rfl
    | _ => contradiction

theorem Token.ofMark?_eq_some_iff {c : Char} {token : Token} :
    ofMark? c = some token ↔ (c, token) ∈ marks := by
  have known : ∀ m ∈ marks, ofMark? m.1 = some m.2 := by decide
  exact ⟨mem_marks, known (c, token)⟩

namespace Lexeme

/-- The lexeme stands for a token, or for none. -/
inductive Means : Lexeme → Option Token → Prop where
  | blank {c : Char} (isBlank : Text.isBlank c = true) : Means (mark c) none
  | mark {c : Char} {token : Token} (isMark : (c, token) ∈ Token.marks) :
      Means (mark c) (some token)
  | word {letters : Text} {token : Token}
      (named : token.word? = some (letters.map Char.toLower)) : Means (word letters) (some token)
  | numeral {n : Numeral} (digits : n.digits ≠ [])
      (finite : n.decimal.rank < Binary64.infinityRank) :
      Means (numeral n) (some (.number (Binary64.ofRank false n.decimal.rank)))

/-- The lexeme has no meaning, which makes this failure. -/
inductive Fails : Lexeme → CalcError → Prop where
  | unknownMark {c : Char} (visible : Text.isBlank c = false)
      (unknown : ∀ token, (c, token) ∉ Token.marks) : Fails (mark c) (.disallowedToken [c])
  | unknownWord {letters : Text}
      (unknown : ∀ token : Token, token.word? ≠ some (letters.map Char.toLower)) :
      Fails (word letters) (.disallowedToken (letters.map Char.toLower))
  | malformed {n : Numeral} (noDigits : n.digits = []) :
      Fails (numeral n) (.parseFailure (.malformedNumber n.text))
  | outOfRange {n : Numeral} (digits : n.digits ≠ [])
      (overflows : Binary64.infinityRank ≤ n.decimal.rank) :
      Fails (numeral n) (.parseFailure (.numberOutOfRange n.text))

theorem Means.read {lexeme : Lexeme} {token : Option Token} (means : Means lexeme token) :
    lexeme.read = .ok token := by
  cases means with
  | blank isBlank => exact read_mark_of_blank isBlank
  | mark isMark => rw [Lexeme.read, Token.ofMark?_eq_some_iff.mpr isMark]
  | word named => rw [Lexeme.read, Token.ofWord?_eq_some_iff.mpr named]
  | @numeral n digits finite =>
      have nonempty : ¬ n.digits.isEmpty = true := by simpa using digits
      rw [Lexeme.read, Numeral.read, if_neg nonempty, if_pos finite]

theorem Fails.read {lexeme : Lexeme} {e : CalcError} (fails : Fails lexeme e) :
    lexeme.read = .error e := by
  cases fails with
  | @unknownMark c visible unknown =>
      have none : Token.ofMark? c = none := by
        cases mark : Token.ofMark? c with
        | none => rfl
        | some token => exact absurd (Token.ofMark?_eq_some_iff.mp mark) (unknown token)
      rw [Lexeme.read, none]
      simp [visible]
  | @unknownWord letters unknown =>
      have none : Token.ofWord? (letters.map Char.toLower) = none := by
        cases word : Token.ofWord? (letters.map Char.toLower) with
        | none => rfl
        | some token => exact absurd (Token.ofWord?_eq_some_iff.mp word) (unknown token)
      rw [Lexeme.read, none]
  | malformed noDigits => rw [Lexeme.read, Numeral.read, noDigits]; rfl
  | @outOfRange n digits overflows =>
      have nonempty : ¬ n.digits.isEmpty = true := by simpa using digits
      rw [Lexeme.read, Numeral.read, if_neg nonempty, if_neg (Nat.not_lt.mpr overflows)]

/-- Every lexeme has a meaning or a failure. -/
theorem means_or_fails (lexeme : Lexeme) :
    (∃ token, Means lexeme token) ∨ ∃ e, Fails lexeme e := by
  cases lexeme with
  | mark c =>
      by_cases known : ∃ token, (c, token) ∈ Token.marks
      · rcases known with ⟨token, isMark⟩
        exact .inl ⟨_, .mark isMark⟩
      · cases blank : Text.isBlank c with
        | true => exact .inl ⟨_, .blank blank⟩
        | false => exact .inr ⟨_, .unknownMark blank (not_exists.mp known)⟩
  | word letters =>
      by_cases known : ∃ token : Token, token.word? = some (letters.map Char.toLower)
      · rcases known with ⟨token, named⟩
        exact .inl ⟨_, .word named⟩
      · exact .inr ⟨_, .unknownWord (not_exists.mp known)⟩
  | numeral n =>
      by_cases noDigits : n.digits = []
      · exact .inr ⟨_, .malformed noDigits⟩
      · by_cases finite : n.decimal.rank < Binary64.infinityRank
        · exact .inl ⟨_, .numeral noDigits finite⟩
        · exact .inr ⟨_, .outOfRange noDigits (Nat.le_of_not_lt finite)⟩

theorem read_eq_ok_iff {lexeme : Lexeme} {token : Option Token} :
    lexeme.read = .ok token ↔ Means lexeme token := by
  constructor
  · intro read
    rcases means_or_fails lexeme with ⟨other, means⟩ | ⟨e, fails⟩
    · cases means.read.symm.trans read
      exact means
    · cases fails.read.symm.trans read
  · exact Means.read

end Lexeme

/-! ## Tokens -/

theorem tokensOf_eq_ok_iff {ls : List Lexeme} {tokens : List Token} :
    tokensOf ls = .ok tokens ↔
      ∃ meanings, List.Forall₂ Lexeme.Means ls meanings ∧ tokens = meanings.reduceOption := by
  induction ls generalizing tokens with
  | nil => simp [tokensOf, eq_comm]
  | cons lexeme ls ih =>
      constructor
      · intro read
        rcases tokensOf_cons_eq_ok read with ⟨token, others, meaning, after, rfl⟩
        rcases ih.mp after with ⟨meanings, each, rfl⟩
        refine ⟨token :: meanings, .cons (Lexeme.read_eq_ok_iff.mp meaning) each, ?_⟩
        cases token <;> rfl
      · rintro ⟨_, each, rfl⟩
        cases each with
        | @cons _ token _ meanings means each =>
            rw [tokensOf_cons means.read, ih.mpr ⟨meanings, each, rfl⟩]
            cases token <;> rfl

/-- The failure of a list of lexemes is that of the first one without a meaning. -/
theorem tokensOf_eq_error_iff {ls : List Lexeme} {e : CalcError} :
    tokensOf ls = .error e ↔
      ∃ before lexeme after, ls = before ++ lexeme :: after ∧
        (∀ l ∈ before, ∃ token, Lexeme.Means l token) ∧ Lexeme.Fails lexeme e := by
  induction ls with
  | nil => simp [tokensOf]
  | cons first ls ih =>
      constructor
      · intro failed
        rcases Lexeme.means_or_fails first with ⟨token, means⟩ | ⟨cause, fails⟩
        · rw [tokensOf_cons means.read] at failed
          cases rest : tokensOf ls with
          | ok tokens =>
              rw [rest] at failed
              contradiction
          | error cause =>
              rw [rest] at failed
              cases failed
              rcases ih.mp rest with ⟨before, lexeme, after, rfl, meant, fails⟩
              exact ⟨first :: before, lexeme, after, rfl,
                List.forall_mem_cons.mpr ⟨⟨token, means⟩, meant⟩, fails⟩
        · rw [tokensOf, fails.read] at failed
          cases failed
          exact ⟨[], first, ls, rfl, List.forall_mem_nil _, fails⟩
      · rintro ⟨before, lexeme, after, whole, meant, fails⟩
        cases before with
        | nil =>
            cases whole
            rw [tokensOf, fails.read]
        | cons _ before =>
            cases whole
            rcases List.forall_mem_cons.mp meant with ⟨⟨token, means⟩, others⟩
            rw [tokensOf_cons means.read, ih.mpr ⟨before, lexeme, after, rfl, others, fails⟩]
            rfl

/-- The tokens of a text are those of the lexemes that it is cut into, if all of them have a
meaning. Otherwise the text fails as the leftmost lexeme without a meaning does. -/
theorem tokenize_exact (t : Text) :
    (∀ tokens, tokenize t = .ok tokens ↔
        ∃ ls meanings, Cuts t ls ∧ List.Forall₂ Lexeme.Means ls meanings ∧
          tokens = meanings.reduceOption) ∧
      ∀ e, tokenize t = .error e ↔
        ∃ before lexeme after, Cuts t (before ++ lexeme :: after) ∧
          (∀ l ∈ before, ∃ token, Lexeme.Means l token) ∧ Lexeme.Fails lexeme e := by
  constructor
  · intro tokens
    rw [tokenize, tokensOf_eq_ok_iff]
    constructor
    · rintro ⟨meanings, each, same⟩
      exact ⟨lexemes t, meanings, cuts_lexemes t, each, same⟩
    · rintro ⟨ls, meanings, cut, each, same⟩
      rw [← cut.eq_lexemes]
      exact ⟨meanings, each, same⟩
  · intro e
    rw [tokenize, tokensOf_eq_error_iff]
    constructor
    · rintro ⟨before, lexeme, after, whole, meant, fails⟩
      refine ⟨before, lexeme, after, ?_, meant, fails⟩
      rw [← whole]
      exact cuts_lexemes t
    · rintro ⟨before, lexeme, after, cut, meant, fails⟩
      exact ⟨before, lexeme, after, cut.eq_lexemes.symm, meant, fails⟩

end Reckoner
