import Reckoner.Proofs.Expr.Layout
import Reckoner.Proofs.Gate.Lexeme

/-!
# What is not allowed

Every character outside the alphabet is a lexeme of its own, and every word that is not known is one
without a meaning, so that a text with one of them cannot be evaluated. It is cut and read in one
pass from left to right: the leftmost lexeme without a meaning counts, and that may be a numeral.
-/

namespace Reckoner

open Text

/-- The characters that strict texts are written with, blanks apart. -/
def inAlphabet (c : Char) : Bool :=
  c.isAlphanum || c == '.' || (Token.ofMark? c).isSome

/-- The text holds a character outside the alphabet or a word outside the vocabulary. -/
def HoldsDisallowed (t : Text) : Prop :=
  (∃ c ∈ t, isBlank c = false ∧ inAlphabet c = false) ∨
    ∃ letters, Lexeme.word letters ∈ lexemes t ∧ letters.map Char.toLower ∉ Gate.vocabulary

theorem inAlphabet_of_isAlphanum {c : Char} (alphanum : c.isAlphanum = true) :
    inAlphabet c = true := by
  rw [inAlphabet, alphanum]
  rfl

theorem inAlphabet_of_isDigit {c : Char} (digit : c.isDigit = true) : inAlphabet c = true :=
  inAlphabet_of_isAlphanum (Bool.or_eq_true_iff.mpr (.inr digit))

theorem ExponentPart.IsScanned.inAlphabet {p : ExponentPart} (scanned : p.IsScanned) :
    ∀ c ∈ p.text, Reckoner.inAlphabet c = true := by
  intro c mem
  rw [text, List.cons_append, List.mem_cons, List.mem_append, Option.mem_toList] at mem
  rcases mem with rfl | sign | digit
  · rcases scanned.mark with same | same <;> rw [same] <;> decide
  · rcases scanned.sign c sign with rfl | rfl <;> decide
  · exact inAlphabet_of_isDigit (scanned.digits c digit)

theorem Numeral.IsScanned.inAlphabet {n : Numeral} (scanned : n.IsScanned) :
    ∀ c ∈ n.text, Reckoner.inAlphabet c = true := by
  rcases n with ⟨whole, fraction, exponent⟩
  intro c mem
  rw [text, List.mem_append, List.mem_append] at mem
  rcases mem with (digit | behindPoint) | behindMark
  · exact inAlphabet_of_isDigit (scanned.whole c digit)
  · cases fraction with
    | none => contradiction
    | some f =>
        rcases List.mem_cons.mp behindPoint with rfl | digit
        · decide
        · exact inAlphabet_of_isDigit (scanned.fraction f rfl c digit)
  · cases exponent with
    | none => contradiction
    | some p => exact (scanned.exponent p rfl).inAlphabet c behindMark

/-- A character outside the alphabet is a lexeme of its own. -/
theorem Cuts.mark_mem {t : Text} {ls : List Lexeme} (cut : Cuts t ls) {c : Char} (mem : c ∈ t)
    (outside : inAlphabet c = false) : .mark c ∈ ls := by
  induction cut with
  | nil => contradiction
  | @numeral n rest ls _ longest _ ih =>
      rcases List.mem_append.mp mem with inside | behind
      · rw [longest.scanned.inAlphabet c inside] at outside
        contradiction
      · exact List.mem_cons_of_mem _ (ih behind)
  | @word first letters rest ls head tail _ _ ih =>
      rcases List.mem_append.mp mem with inside | behind
      · have alphanum : ∀ d ∈ first :: letters, d.isAlphanum = true :=
          List.forall_mem_cons.mpr ⟨Bool.or_eq_true_iff.mpr (.inl head), tail⟩
        rw [inAlphabet_of_isAlphanum (alphanum c inside)] at outside
        contradiction
      · exact List.mem_cons_of_mem _ (ih behind)
  | mark _ _ _ ih =>
      rcases List.mem_cons.mp mem with rfl | behind
      · exact List.mem_cons_self
      · exact List.mem_cons_of_mem _ (ih behind)

namespace Lexeme

theorem fails_mark_of_outside {c : Char} (visible : isBlank c = false)
    (outside : inAlphabet c = false) : Fails (mark c) (.disallowedToken [c]) := by
  refine .unknownMark visible fun token isMark => ?_
  rw [inAlphabet, Token.ofMark?_eq_some_iff.mpr isMark, Option.isSome_some, Bool.or_true] at outside
  contradiction

theorem fails_word_of_notMem {letters : Text}
    (unknown : letters.map Char.toLower ∉ Gate.vocabulary) :
    Fails (word letters) (.disallowedToken (letters.map Char.toLower)) :=
  .unknownWord fun _ named => unknown (Token.mem_vocabulary (Token.ofWord?_eq_some_iff.mpr named))

theorem Fails.eq {lexeme : Lexeme} {e e' : CalcError} (fails : Fails lexeme e)
    (other : Fails lexeme e') : e = e' :=
  Except.error.inj (fails.read.symm.trans other.read)

theorem Means.not_fails {lexeme : Lexeme} {token : Option Token} (means : Means lexeme token)
    {e : CalcError} : ¬ Fails lexeme e := by
  intro fails
  cases means.read.symm.trans fails.read

theorem exists_read_of_means {n : Numeral} {token : Option Token}
    (means : Means (numeral n) token) : ∃ x, n.read = .ok x := by
  have read := means.read
  cases value : n.read with
  | ok x => exact ⟨x, rfl⟩
  | error cause =>
      rw [Lexeme.read, value] at read
      contradiction

/-- A lexeme without a meaning is one that is not allowed, or a numeral that has no value. -/
theorem disallowed_or_numeral_of_fails {lexeme : Lexeme} {e : CalcError} (fails : Fails lexeme e) :
    (∃ word, e = .disallowedToken word) ∨
      ∃ n cause, lexeme = numeral n ∧ n.read = .error cause ∧ e = .parseFailure cause := by
  cases lexeme with
  | mark c =>
      cases fails
      exact .inl ⟨_, rfl⟩
  | word letters =>
      cases fails
      exact .inl ⟨_, rfl⟩
  | numeral n =>
      have read := fails.read
      rw [Lexeme.read] at read
      cases value : n.read with
      | ok x =>
          rw [value] at read
          contradiction
      | error cause =>
          rw [value] at read
          exact .inr ⟨n, cause, rfl, value, (Except.error.inj read).symm⟩

/-- The lexeme is not allowed, whatever stands around it. -/
def IsDisallowed (lexeme : Lexeme) : Prop :=
  ∃ word, Fails lexeme (.disallowedToken word)

/-- Of the lexemes that are not allowed one comes first. -/
theorem exists_first_disallowed {ls : List Lexeme} {lexeme : Lexeme} (mem : lexeme ∈ ls)
    (disallowed : lexeme.IsDisallowed) :
    ∃ before first after, ls = before ++ first :: after ∧ first.IsDisallowed ∧
      ∀ l ∈ before, ¬ l.IsDisallowed := by
  induction ls with
  | nil => contradiction
  | cons l ls ih =>
      by_cases here : l.IsDisallowed
      · exact ⟨[], l, ls, rfl, here, List.forall_mem_nil _⟩
      · rcases List.mem_cons.mp mem with rfl | later
        · exact absurd disallowed here
        · rcases ih later with ⟨before, first, after, rfl, isFirst, none⟩
          exact ⟨l :: before, first, after, rfl, isFirst, List.forall_mem_cons.mpr ⟨here, none⟩⟩

end Lexeme

theorem HoldsDisallowed.exists_lexeme {t : Text} (holds : HoldsDisallowed t) :
    ∃ lexeme ∈ lexemes t, lexeme.IsDisallowed := by
  rcases holds with ⟨c, mem, visible, outside⟩ | ⟨letters, mem, unknown⟩
  · exact ⟨.mark c, (cuts_lexemes t).mark_mem mem outside, _,
      Lexeme.fails_mark_of_outside visible outside⟩
  · exact ⟨.word letters, mem, _, Lexeme.fails_word_of_notMem unknown⟩

theorem HoldsDisallowed.ne_nil {t : Text} (holds : HoldsDisallowed t) : t ≠ [] := by
  rintro rfl
  rcases holds.exists_lexeme with ⟨lexeme, mem, _⟩
  rw [lexemes_nil] at mem
  contradiction

namespace Evaluator

variable {evaluator : Evaluator} {mode : AngleMode} {t : Text}

/-- A text that holds something disallowed fails. It fails with the first lexeme that is not
allowed, wherever the rest of the text goes wrong, exactly when every numeral in front of that
lexeme has a value. Otherwise it fails as the first numeral without one does. -/
theorem evaluate_disallowed (evaluator : Evaluator) (mode : AngleMode) {t : Text}
    (holds : HoldsDisallowed (tidy t)) :
    ∃ before first word after, Cuts (tidy t) (before ++ first :: after) ∧
      first.Fails (.disallowedToken word) ∧ (∀ l ∈ before, ¬ l.IsDisallowed) ∧
      ((∀ n, .numeral n ∈ before → ∃ x, n.read = .ok x) ∧
          evaluator.evaluate mode t = .error (.disallowedToken word) ∨
        ∃ front n cause back, before = front ++ .numeral n :: back ∧
          (∀ m, .numeral m ∈ front → ∃ x, m.read = .ok x) ∧ n.read = .error cause ∧
          evaluator.evaluate mode t = .error (.parseFailure cause)) := by
  rcases holds.exists_lexeme with ⟨lexeme, mem, disallowed⟩
  obtain ⟨e, refused⟩ : ∃ e, tokenize (tidy t) = .error e := by
    cases read : tokenize (tidy t) with
    | error e => exact ⟨e, rfl⟩
    | ok tokens =>
        rcases means_of_tokenize read lexeme mem with ⟨token, means⟩
        rcases disallowed with ⟨word, fails⟩
        exact absurd fails means.not_fails
  have evaluated : evaluator.evaluate mode t = .error e :=
    evaluate_eq_error_of_tokenize holds.ne_nil refused
  rcases tokensOf_eq_error_iff.mp refused with ⟨front, stop, back, whole, meant, fails⟩
  have cut := cuts_lexemes (tidy t)
  have allowed : ∀ l ∈ front, ¬ l.IsDisallowed := by
    rintro l mem ⟨word, fails⟩
    rcases meant l mem with ⟨token, means⟩
    exact means.not_fails fails
  have numerals : ∀ n, .numeral n ∈ front → ∃ x, n.read = .ok x := by
    intro n mem
    rcases meant _ mem with ⟨token, means⟩
    exact Lexeme.exists_read_of_means means
  rcases Lexeme.disallowed_or_numeral_of_fails fails with ⟨word, rfl⟩ | ⟨n, cause, rfl, read, rfl⟩
  · exact ⟨front, stop, word, back, whole ▸ cut, fails, allowed, .inl ⟨numerals, evaluated⟩⟩
  · -- The lexeme that is not allowed stands behind the numeral that stops the reading.
    have behind : lexeme ∈ back := by
      rw [whole, List.mem_append, List.mem_cons] at mem
      rcases mem with inFront | rfl | inBack
      · exact absurd disallowed (allowed lexeme inFront)
      · rcases disallowed with ⟨word, other⟩
        cases fails.eq other
      · exact inBack
    rcases Lexeme.exists_first_disallowed behind disallowed with
      ⟨between, first, after, rfl, ⟨word, isFirst⟩, none⟩
    refine ⟨front ++ .numeral n :: between, first, word, after, ?_, isFirst, ?_,
      .inr ⟨front, n, cause, between, rfl, numerals, read, evaluated⟩⟩
    · rw [List.append_assoc, List.cons_append, ← whole]
      exact cut
    · intro l mem
      rw [List.mem_append, List.mem_cons] at mem
      rcases mem with inFront | rfl | inBetween
      · exact allowed l inFront
      · rintro ⟨word, other⟩
        cases fails.eq other
      · exact none l inBetween

/-- An unknown word stands behind a numeral that has a value and in front of one that has none. -/
theorem evaluate_disallowed_word :
    HoldsDisallowed (tidy "2 + FOO( 1e999".toList) ∧
      ∃ before first after, Cuts (tidy "2 + FOO( 1e999".toList) (before ++ first :: after) ∧
        first.Fails (.disallowedToken "foo".toList) ∧ (∀ l ∈ before, ¬ l.IsDisallowed) ∧
        (∀ n, .numeral n ∈ before → ∃ x, n.read = .ok x) ∧
        evaluate {} .rad "2 + FOO( 1e999".toList = .error (.disallowedToken "foo".toList) := by
  have holds : HoldsDisallowed (tidy "2 + FOO( 1e999".toList) :=
    .inr ⟨"foo".toList, by decide +kernel, by decide⟩
  have value : evaluate {} .rad "2 + FOO( 1e999".toList =
      .error (.disallowedToken "foo".toList) := by
    decide +kernel
  refine ⟨holds, ?_⟩
  rcases evaluate_disallowed {} .rad holds with ⟨before, first, word, after, cut, fails, allowed,
    ⟨numerals, failed⟩ | ⟨_, _, _, _, _, _, _, failed⟩⟩
  · rw [value] at failed
    cases failed
    exact ⟨before, first, after, cut, fails, allowed, numerals, value⟩
  · rw [value] at failed
    cases failed

/-- A point without digits in front of a character that is not allowed. -/
theorem evaluate_malformed_before_disallowed :
    HoldsDisallowed (tidy ". $".toList) ∧
      evaluate {} .rad ". $".toList =
        .error (.parseFailure (.malformedNumber ".".toList)) := by
  have value : evaluate {} .rad ". $".toList =
      .error (.parseFailure (.malformedNumber ".".toList)) := by
    decide +kernel
  exact ⟨.inl ⟨'$', by decide +kernel, by decide, by decide⟩, value⟩

end Evaluator

end Reckoner
