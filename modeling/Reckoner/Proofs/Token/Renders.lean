import Reckoner.Gate
import Reckoner.Proofs.Text.Case
import Reckoner.Proofs.Text.Words

/-!
# Texts that have tokens

`Renders tokens t` says how a text spells its tokens, lexeme by lexeme. Every text that has tokens
is such a rendering, so that what holds of its characters is shown by induction on the rendering.
-/

namespace Reckoner

/-! ## Numerals -/

/-- The exponent is made of an `e`, a sign or none, and digits. -/
structure ExponentPart.IsScanned (p : ExponentPart) : Prop where
  mark : p.mark = 'e' ∨ p.mark = 'E'
  sign : ∀ c ∈ p.sign, c = '+' ∨ c = '-'
  digits_ne_nil : p.digits ≠ []
  digits : ∀ c ∈ p.digits, c.isDigit = true

/-- The numeral is made of digits on both sides of its point, and an exponent. -/
structure Numeral.IsScanned (n : Numeral) : Prop where
  whole : ∀ c ∈ n.whole, c.isDigit = true
  fraction : ∀ f ∈ n.fraction, ∀ c ∈ f, c.isDigit = true
  exponent : ∀ p ∈ n.exponent, p.IsScanned

namespace Numeral

theorem isDigit_of_mem_takeWhile {t : Text} : ∀ c ∈ t.takeWhile Char.isDigit, c.isDigit = true :=
  fun _ mem => List.mem_takeWhile_imp mem

theorem isDigit_scanFraction (t : Text) :
    ∀ f ∈ (scanFraction t).1, ∀ c ∈ f, c.isDigit = true := by
  fun_cases scanFraction t with
  | case1 rest =>
      rintro f ⟨⟩
      exact isDigit_of_mem_takeWhile
  | case2 => rintro f ⟨⟩

theorem eq_sign_of_scanSign (t : Text) : ∀ c ∈ (scanSign t).1, c = '+' ∨ c = '-' := by
  fun_cases scanSign t with
  | case1 rest =>
      rintro c ⟨⟩
      exact .inl rfl
  | case2 rest =>
      rintro c ⟨⟩
      exact .inr rfl
  | case3 => rintro c ⟨⟩

theorem isScanned_scanExponent (t : Text) : ∀ p ∈ (scanExponent t).1, p.IsScanned := by
  cases t with
  | nil => rintro p ⟨⟩
  | cons mark rest =>
      rw [scanExponent]
      split
      · rename_i both
        rintro p ⟨⟩
        exact ⟨both.1, eq_sign_of_scanSign rest, both.2, isDigit_of_mem_takeWhile⟩
      · rintro p ⟨⟩

theorem isScanned_scan (t : Text) : (scan t).1.IsScanned :=
  ⟨isDigit_of_mem_takeWhile, isDigit_scanFraction _, isScanned_scanExponent _⟩

end Numeral

/-! ## Words -/

/-- Only known words are tokens. -/
theorem Token.mem_vocabulary {word : Text} {token : Token} (known : ofWord? word = some token) :
    word ∈ Gate.vocabulary := by
  rcases ofWord?_cases known with ⟨f, _, rfl⟩ | ⟨k, _, rfl⟩ | ⟨u, _, rfl⟩
  · cases f <;> decide
  · cases k <;> decide
  · cases u <;> decide

/-! ## Renderings -/

/-- The text spells the tokens. -/
inductive Renders : List Token → Text → Prop where
  | nil : Renders [] []
  | blank {c : Char} {tokens : List Token} {t : Text} (isBlank : Text.isBlank c = true)
      (rest : Renders tokens t) : Renders tokens (c :: t)
  | mark {c : Char} {token : Token} {tokens : List Token} {t : Text}
      (isMark : Token.ofMark? c = some token) (rest : Renders tokens t) :
      Renders (token :: tokens) (c :: t)
  | word {c : Char} {letters : Text} {token : Token} {tokens : List Token} {t : Text}
      (head : c.isAlpha = true) (tail : ∀ d ∈ letters, d.isAlphanum = true)
      (known : Token.ofWord? ((c :: letters).map Char.toLower) = some token)
      (ends : ∀ d ∈ t.head?, d.isAlphanum = false) (rest : Renders tokens t) :
      Renders (token :: tokens) (c :: letters ++ t)
  | numeral {n : Numeral} {x : Binary64} {tokens : List Token} {t : Text} (scanned : n.IsScanned)
      (read : n.read = .ok x) (rest : Renders tokens t) :
      Renders (.number x :: tokens) (n.text ++ t)

theorem tokensOf_cons_eq_ok {lexeme : Lexeme} {lexemes : List Lexeme} {tokens : List Token}
    (read : tokensOf (lexeme :: lexemes) = .ok tokens) :
    ∃ token others, lexeme.read = .ok token ∧ tokensOf lexemes = .ok others ∧
      tokens = token.toList ++ others := by
  cases meaning : lexeme.read with
  | error e =>
      rw [tokensOf, meaning] at read
      contradiction
  | ok token =>
      rw [tokensOf_cons meaning] at read
      cases after : tokensOf lexemes with
      | error e =>
          rw [after] at read
          contradiction
      | ok others =>
          rw [after] at read
          cases read
          exact ⟨token, others, rfl, rfl, rfl⟩

/-- A lexeme is cut off as a numeral, as a word or as a single character. -/
theorem Lexeme.scan_cases (c : Char) (rest : Text) :
    (∃ n after, Numeral.startsAt c = true ∧ Numeral.scan (c :: rest) = (n, after) ∧
      n.text ++ after = c :: rest ∧ scan c rest = (numeral n, after)) ∨
    (∃ letters after, c.isAlpha = true ∧ (∀ d ∈ letters, d.isAlphanum = true) ∧
      (∀ d ∈ after.head?, d.isAlphanum = false) ∧ letters ++ after = rest ∧
      scan c rest = (word (c :: letters), after)) ∨
    Numeral.startsAt c = false ∧ c.isAlpha = false ∧ scan c rest = (mark c, rest) := by
  unfold scan
  by_cases start : Numeral.startsAt c = true
  · exact .inl ⟨_, _, start, rfl, Numeral.scan_append (c :: rest), if_pos start⟩
  · rw [if_neg start]
    by_cases alpha : c.isAlpha = true
    · refine .inr (.inl ⟨_, _, alpha, fun _ mem => List.mem_takeWhile_imp mem, ?_,
        List.takeWhile_append_dropWhile, if_pos alpha⟩)
      intro d head
      have stops := List.head?_dropWhile_not Char.isAlphanum rest
      rw [head] at stops
      exact stops
    · exact .inr (.inr ⟨Bool.eq_false_iff.mpr start, Bool.eq_false_iff.mpr alpha, if_neg alpha⟩)

/-- A text that has tokens is a rendering of them. -/
theorem renders_of_tokenize {t : Text} {tokens : List Token} (read : tokenize t = .ok tokens) :
    Renders tokens t := by
  rw [tokenize] at read
  fun_induction lexemes t generalizing tokens with
  | case1 =>
      cases read
      exact .nil
  | case2 c rest ih =>
      rcases tokensOf_cons_eq_ok read with ⟨token, others, meaning, after, rfl⟩
      have others := ih after
      rcases Lexeme.scan_cases c rest with ⟨n, left, _, cut, whole, scanned⟩ |
        ⟨letters, left, alpha, tail, ends, rfl, scanned⟩ | ⟨_, _, scanned⟩
      · rw [scanned] at meaning others
        rw [Lexeme.read] at meaning
        split at meaning
        · rename_i x number
          cases meaning
          have isScanned := Numeral.isScanned_scan (c :: rest)
          rw [cut] at isScanned
          rw [← whole]
          exact .numeral isScanned number others
        · contradiction
      · rw [scanned] at meaning others
        rw [Lexeme.read] at meaning
        split at meaning
        · rename_i token known
          cases meaning
          exact .word alpha tail known ends others
        · contradiction
      · rw [scanned] at meaning others
        rw [Lexeme.read] at meaning
        split at meaning
        · rename_i isMark
          cases meaning
          exact .mark isMark others
        · split at meaning
          · rename_i blank
            cases meaning
            exact .blank blank others
          · contradiction

/-! ## Characters of a rendering -/

theorem Text.ascii_of_isAlphanum {c : Char} (alphanum : c.isAlphanum = true) : c.toNat < 0x80 := by
  rw [Char.isAlphanum, Bool.or_eq_true, isAlpha_iff, isDigit_iff] at alphanum
  omega

theorem Text.ascii_of_isDigit {c : Char} (digit : c.isDigit = true) : c.toNat < 0x80 := by
  rw [isDigit_iff] at digit
  omega

theorem ExponentPart.IsScanned.ascii {p : ExponentPart} (scanned : p.IsScanned) :
    ∀ c ∈ p.text, c.toNat < 0x80 := by
  intro c mem
  rw [text, List.cons_append, List.mem_cons, List.mem_append, Option.mem_toList] at mem
  rcases mem with rfl | sign | digit
  · rcases scanned.mark with mark | mark <;> rw [mark] <;> decide
  · rcases scanned.sign c sign with rfl | rfl <;> decide
  · exact Text.ascii_of_isDigit (scanned.digits c digit)

theorem Numeral.IsScanned.ascii {n : Numeral} (scanned : n.IsScanned) :
    ∀ c ∈ n.text, c.toNat < 0x80 := by
  rcases n with ⟨whole, fraction, exponent⟩
  intro c mem
  rw [text, List.mem_append, List.mem_append] at mem
  rcases mem with (inWhole | inFraction) | inExponent
  · exact Text.ascii_of_isDigit (scanned.whole c inWhole)
  · cases fraction with
    | none => contradiction
    | some digits =>
        rcases List.mem_cons.mp inFraction with rfl | digit
        · decide
        · exact Text.ascii_of_isDigit (scanned.fraction digits rfl c digit)
  · cases exponent with
    | none => contradiction
    | some p => exact (scanned.exponent p rfl).ascii c inExponent

/-- Beyond ASCII there are only blanks in a text that has tokens. -/
theorem Renders.isPlain {tokens : List Token} {t : Text} (renders : Renders tokens t) :
    ∀ c ∈ t, Text.IsPlain c := by
  induction renders with
  | nil => simp
  | blank isBlank _ ih => exact List.forall_mem_cons.mpr ⟨.inr isBlank, ih⟩
  | mark isMark _ ih =>
      have marks : ∀ m ∈ Token.marks, m.1.toNat < 0x80 := by decide
      exact List.forall_mem_cons.mpr ⟨.inl (marks _ (Token.mem_marks isMark)), ih⟩
  | word head tail _ _ _ ih =>
      refine List.forall_mem_append.mpr
        ⟨List.forall_mem_cons.mpr ⟨.inl ?_, fun d mem => .inl ?_⟩, ih⟩
      · exact Text.ascii_of_isAlphanum (Bool.or_eq_true_iff.mpr (.inl head))
      · exact Text.ascii_of_isAlphanum (tail d mem)
  | numeral scanned _ _ ih =>
      exact List.forall_mem_append.mpr ⟨fun c mem => .inl (scanned.ascii c mem), ih⟩

/-! ## Layout -/

/-- The layout of a text decides nothing about its tokens. -/
theorem tokenize_eq_of_words_eq {a b : Text} (same : Text.words a = Text.words b) :
    tokenize a = tokenize b := by
  refine Text.eq_of_words_eq tokenize
    (fun first second => first.bind fun before => second.map fun after => before ++ after)
    ?_ ?_ ?_ same
  · intro s a b blank
    rw [tokenize_append_of_parts (Parts.of_blank blank), tokenize_cons_blank blank]
  · intro t
    rw [tokenize_nil]
    cases tokenize t <;> rfl
  · intro t
    rw [tokenize_nil]
    cases tokenize t <;> simp [Except.bind, Except.map]

end Reckoner
