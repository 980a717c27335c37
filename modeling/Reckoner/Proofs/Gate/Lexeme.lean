import Reckoner.Proofs.Gate
import Reckoner.Proofs.Token.Cutting

/-!
# Lexemes that remain

Of a text that has tokens the gate takes out the words, and nothing else that starts a lexeme: every
numeral, mark and blank leaves at least its first character. So such a text looks like mathematics
exactly when it is more than a word.
-/

namespace Reckoner

/-- The lexeme is a word. -/
def Lexeme.IsWord (lexeme : Lexeme) : Prop :=
  ∃ letters, lexeme = word letters

/-- Every lexeme of a text that has tokens stands for a token or for none. -/
theorem means_of_tokenize {t : Text} {tokens : List Token} (read : tokenize t = .ok tokens) :
    ∀ lexeme ∈ lexemes t, ∃ token, lexeme.Means token := by
  rcases tokensOf_eq_ok_iff.mp read with ⟨meanings, each, _⟩
  have both : List.Forall₂ (fun lexeme token => (∃ token, lexeme.Means token) ∧
      lexeme.Means token) (lexemes t) meanings :=
    each.imp fun _ token means => ⟨⟨token, means⟩, means⟩
  exact ((List.forall₂_and_left _ _).mp both).1

namespace Gate

open Text

/-- A word that stands for a token is a known one. -/
theorem mem_vocabulary_of_means {letters : Text} {token : Option Token}
    (means : Lexeme.Means (.word letters) token) : letters.map Char.toLower ∈ vocabulary := by
  cases means with
  | word named => exact Token.mem_vocabulary (Token.ofWord?_eq_some_iff.mpr named)

/-- Marks that stand for a token, and blanks, are no letters of known words. -/
theorem isForeign_of_means {c : Char} {token : Option Token}
    (means : Lexeme.Means (.mark c) token) : IsForeign c := by
  cases means with
  | blank isBlank => exact .of_blank isBlank
  | mark isMark => exact .of_mark (Token.ofMark?_eq_some_iff.mpr isMark)

/-- No known word starts with a digit or a point. -/
theorem remainder_cons_of_startsAt {c : Char} (starts : Numeral.startsAt c = true) (rest : Text) :
    remainder (c :: rest) = c :: remainder rest := by
  have ascii : c.toNat < 0x80 := by
    rcases Bool.or_eq_true_iff.mp starts with digit | point
    · exact ascii_of_isDigit digit
    · rw [beq_iff_eq.mp point]
      decide
  have alone : ∀ word ∈ vocabulary, word.head? ≠ some (foldedChar c) :=
    of_ascii (p := fun c => Numeral.startsAt c = true →
      ∀ word ∈ vocabulary, word.head? ≠ some (foldedChar c)) (by decide) ascii starts
  exact remainder_cons_of_none (vocabularyAt_of_head alone rest)

/-- Nothing remains of a text that has tokens exactly when all its lexemes are words. -/
theorem remainder_eq_nil_iff {t : Text} {ls : List Lexeme} (cut : Cuts t ls)
    (meant : ∀ lexeme ∈ ls, ∃ token, lexeme.Means token) (plain : ∀ c ∈ t, IsPlain c) :
    remainder t = [] ↔ ∀ lexeme ∈ ls, lexeme.IsWord := by
  induction cut with
  | nil => simp
  | @numeral n rest ls opens longest _ _ =>
      rcases longest.scanned.exists_cons opens with ⟨c, digits, text, starts⟩
      rw [text, List.cons_append, remainder_cons_of_startsAt starts, List.forall_mem_cons]
      simp [Lexeme.IsWord]
  | @word c letters rest ls head tail ends _ ih =>
      have alphanum : ∀ d ∈ c :: letters, d.isAlphanum = true :=
        List.forall_mem_cons.mpr ⟨Bool.or_eq_true_iff.mpr (.inl head), tail⟩
      rcases List.forall_mem_cons.mp meant with ⟨⟨token, means⟩, others⟩
      have behind : ∀ d ∈ rest, IsPlain d := fun d mem => plain d (List.mem_append_right _ mem)
      rw [remainder_word_append alphanum (mem_vocabulary_of_means means) behind ends,
        ih others behind, List.forall_mem_cons]
      exact (and_iff_right ⟨_, rfl⟩).symm
  | @mark c rest ls _ _ _ _ =>
      rcases List.forall_mem_cons.mp meant with ⟨⟨token, means⟩, _⟩
      have apart := (isForeign_of_means means).apart rest
      rw [remainder_cons_of_apart apart, List.forall_mem_cons]
      simp [Lexeme.IsWord]

/-- A text that has tokens looks like mathematics exactly when there is more in it than a word: a
numeral, a mark or a blank. -/
theorem isLikelyMath_iff {t : Text} {tokens : List Token} (read : tokenize t = .ok tokens) :
    isLikelyMath t = true ↔ ∃ lexeme ∈ lexemes t, ¬ lexeme.IsWord := by
  have renders := renders_of_tokenize read
  have clean : (remainder t).all isAllowed = true :=
    List.all_eq_true.mpr (isClean_of_renders renders)
  have words := remainder_eq_nil_iff (cuts_lexemes t) (means_of_tokenize read) renders.isPlain
  rw [isLikelyMath, clean, Bool.and_true, Bool.not_eq_true', List.isEmpty_eq_false_iff, ne_eq,
    words]
  simp only [not_forall, exists_prop]

/-- Words that hold other words, an exponent that is no constant, and a constant behind a point. -/
theorem isLikelyMath_iff_mixed :
    (∃ lexeme ∈ lexemes "LOG10 2e5pi.5exp".toList, ¬ lexeme.IsWord) ∧
      isLikelyMath "LOG10 2e5pi.5exp".toList = true := by
  have read : tokenize "LOG10 2e5pi.5exp".toList =
      .ok [.func .log10, .number ⟨0x41086a0000000000⟩, .constant .pi, .number ⟨0x3fe0000000000000⟩,
        .func .exp] := by decide +kernel
  have more : ∃ lexeme ∈ lexemes "LOG10 2e5pi.5exp".toList, ¬ lexeme.IsWord := by
    refine ⟨.mark ' ', by decide +kernel, ?_⟩
    rintro ⟨letters, same⟩
    cases same
  exact ⟨more, (isLikelyMath_iff read).mpr more⟩

end Gate

end Reckoner
