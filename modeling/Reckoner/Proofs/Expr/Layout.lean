import Reckoner.Proofs.Expr.CanonicalText
import Reckoner.Proofs.Filler
import Reckoner.Proofs.Gate
import Reckoner.Proofs.Text.LowerCase

/-!
# Layout

Reading a text goes through its tidied form, which depends on the words of the text and not on the
blanks around and between them, nor on the case of its letters. Only the place of a byte order mark
counts: behind a blank it is a character like any other, and one that is not allowed.
-/

namespace Reckoner

open Text Gate

namespace Text

theorem isBlank_byteOrderMark : isBlank byteOrderMark = false := by
  decide

theorem withoutMark_of_head? {t : Text} (bare : t.head? ≠ some byteOrderMark) :
    withoutMark t = t := by
  cases t with
  | nil => rfl
  | cons c rest =>
      have notMark : c ≠ byteOrderMark := fun same => bare (congrArg some same)
      rw [withoutMark, if_neg notMark]

theorem head?_ne_byteOrderMark_of_blank {t : Text} (blank : t.head?.any isBlank = true) :
    t.head? ≠ some byteOrderMark := by
  intro marked
  rw [marked, Option.any_some, isBlank_byteOrderMark] at blank
  contradiction

end Text

namespace Gate.IsClean

variable {t : Text}

theorem byteOrderMark_notMem (clean : IsClean t) : byteOrderMark ∉ t := by
  intro mem
  have refused : Gate.isAllowed byteOrderMark = false := by decide
  rw [clean.isAllowed mem Filler.isForeign_byteOrderMark] at refused
  contradiction

theorem withoutMark_eq_self (clean : IsClean t) : withoutMark t = t :=
  withoutMark_of_head? fun marked => clean.byteOrderMark_notMem (List.mem_of_mem_head? marked)

end Gate.IsClean

namespace Text

@[simp]
theorem tidy_nil : tidy [] = [] := by
  rw [tidy, withoutMark, lower_nil, collapse, words_nil]
  rfl

/-- Blanks around a text are of no account, unless they stand in front of a byte order mark. -/
theorem words_withoutMark_append {before t after : Text} (front : ∀ c ∈ before, isBlank c = true)
    (back : ∀ c ∈ after, isBlank c = true)
    (bare : before = [] ∨ t.head? ≠ some byteOrderMark) :
    words (withoutMark (before ++ t ++ after)) = words (withoutMark t) := by
  by_cases marked : t.head? = some byteOrderMark
  · obtain rfl := bare.resolve_right (· marked)
    obtain ⟨rest, rfl⟩ := List.head?_eq_some_iff.mp marked
    exact words_enclosed front back rest
  · have visible : ∀ gap : Text, (∀ c ∈ gap, isBlank c = true) → byteOrderMark ∉ gap := by
      intro gap blank mem
      have marked := blank _ mem
      rw [isBlank_byteOrderMark] at marked
      contradiction
    have outside : (before ++ t ++ after).head? ≠ some byteOrderMark := by
      rw [List.head?_append, List.head?_append, ne_eq, Option.or_eq_some_iff, Option.or_eq_some_iff]
      rintro ((first | ⟨_, first⟩) | ⟨_, first⟩)
      · exact visible before front (List.mem_of_mem_head? first)
      · exact marked first
      · exact visible after back (List.mem_of_mem_head? first)
    rw [withoutMark_of_head? outside, withoutMark_of_head? marked,
      words_enclosed front back]

/-- Blanks are of account only as such, wherever they stand. -/
theorem words_withoutMark_append_blanks {gap other : Text} (nonempty : gap ≠ [])
    (otherNonempty : other ≠ []) (blank : ∀ c ∈ gap, isBlank c = true)
    (otherBlank : ∀ c ∈ other, isBlank c = true) (front back : Text) :
    words (withoutMark (front ++ gap ++ back)) = words (withoutMark (front ++ other ++ back)) := by
  have split : ∀ gap : Text, gap ≠ [] → (∀ c ∈ gap, isBlank c = true) →
      words (withoutMark (front ++ gap ++ back)) = words (withoutMark front) ++ words back := by
    intro gap nonempty blank
    cases front with
    | nil =>
        have first : (gap ++ back).head?.any isBlank = true := by
          obtain ⟨s, gap, rfl⟩ := List.exists_cons_of_ne_nil nonempty
          exact blank s List.mem_cons_self
        have whole := words_append_blanks nonempty blank [] back
        rw [List.nil_append] at whole ⊢
        rw [withoutMark_of_head? (head?_ne_byteOrderMark_of_blank first), whole]
        rfl
    | cons c front =>
        rw [List.cons_append, List.cons_append, withoutMark, withoutMark]
        split
        · exact words_append_blanks nonempty blank front back
        · exact words_append_blanks nonempty blank (c :: front) back
  rw [split gap nonempty blank, split other otherNonempty otherBlank]

theorem trim_subset (t : Text) : trim t ⊆ t :=
  List.Subset.trans (dropTrailing_isPrefix _ _).subset (List.dropWhile_sublist _).subset

/-- A text is its trimmed form with blanks around it. -/
theorem exists_blanks_trim (t : Text) :
    ∃ before after : Text, before ++ trim t ++ after = t ∧ (∀ c ∈ before, isBlank c = true) ∧
      ∀ c ∈ after, isBlank c = true := by
  rcases dropTrailing_append isBlank (t.dropWhile isBlank) with ⟨after, whole, back⟩
  refine ⟨t.takeWhile isBlank, after, ?_, fun c mem => List.mem_takeWhile_imp mem, back⟩
  rw [List.append_assoc, trim, whole, List.takeWhile_append_dropWhile]

/-- Trimming leaves what a text is tidied to, unless it brings a byte order mark to the front. -/
theorem tidy_trim {t : Text}
    (bare : t.head?.any isBlank = true → (trim t).head? ≠ some byteOrderMark) :
    tidy (trim t) = tidy t := by
  rcases exists_blanks_trim t with ⟨before, after, whole, front, back⟩
  have unmarked : before = [] ∨ (trim t).head? ≠ some byteOrderMark := by
    cases before with
    | nil => exact .inl rfl
    | cons s before =>
        apply Or.inr
        apply bare
        rw [← whole]
        exact front s List.mem_cons_self
  have same := words_withoutMark_append front back unmarked
  rw [whole] at same
  exact tidy_eq_of_words_eq same.symm

end Text

namespace Expr

variable {mode : AngleMode} {t : Text} {tree : Expr}

theorem ofText_eq_of_tidy_eq {a b : Text} (same : tidy a = tidy b) (mode : AngleMode) :
    ofText mode a = ofText mode b := by
  rw [ofText, ofText, same]

/-- What is read is the canonical form of the tree that the tokens of the tidied text spell. -/
theorem exists_parse_of_ofText (read : ofText mode t = .ok tree) :
    ∃ tokens strict, tokenize (tidy t) = .ok tokens ∧ parse tokens = .ok strict ∧
      canonical mode strict = tree := by
  rcases ofText_eq_ok_iff.mp read with ⟨_, strict, readStrict, reduced⟩
  rcases ofStrict_eq_ok_iff.mp readStrict with ⟨tokens, lexed, parsed⟩
  exact ⟨tokens, strict, lexed, parsed, reduced⟩

/-- A text that can be read is a rendering of its tokens, but for its letter case and a byte order
mark. -/
theorem renders_of_ofText (read : ofText mode t = .ok tree) :
    ∃ tokens, tokenize (tidy t) = .ok tokens ∧ Renders tokens ((withoutMark t).map lowerChar) := by
  rcases exists_parse_of_ofText read with ⟨tokens, _, spelled, _⟩
  refine ⟨tokens, spelled, ?_⟩
  rw [tidy, tokenize_eq_of_words_eq (words_collapse _)] at spelled
  have renders := renders_of_tokenize spelled
  rwa [lower_eq_map_of_plain renders.isPlain] at renders

/-- A text that can be read is clean behind its byte order mark. -/
theorem isClean_of_ofText (read : ofText mode t = .ok tree) : IsClean (withoutMark t) := by
  rcases renders_of_ofText read with ⟨tokens, _, renders⟩
  exact isClean_map_lowerChar_iff.mp (isClean_of_renders renders)

/-- Trimming leaves what a text spells. -/
theorem ofText_trim (clean : IsClean (withoutMark t)) (mode : AngleMode) :
    ofText mode (trim t) = ofText mode t := by
  refine ofText_eq_of_tidy_eq (tidy_trim fun blank marked => ?_) mode
  -- The text starts with a blank, so that none of it goes as a mark.
  rw [withoutMark_of_head? (head?_ne_byteOrderMark_of_blank blank)] at clean
  exact clean.byteOrderMark_notMem (trim_subset t (List.mem_of_mem_head? marked))

/-- Taking filler phrases out of a clean text leaves what it spells. -/
theorem ofText_stripped (clean : IsClean t) (mode : AngleMode) :
    ofText mode (Filler.stripped t) = ofText mode t := by
  have nearly : Filler.IsNearlyClean t := fun c mem => .inl (clean c mem)
  have collapsed : IsClean (collapse t) := (isClean_iff_of_words_eq (words_collapse t)).mpr clean
  rw [Filler.stripped_eq_collapse nearly]
  refine ofText_eq_of_tidy_eq (tidy_eq_of_words_eq ?_) mode
  rw [collapsed.withoutMark_eq_self, clean.withoutMark_eq_self, words_collapse]

end Expr

/-! ## Evaluation -/

namespace Evaluator

variable {evaluator : Evaluator} {mode : AngleMode}

theorem evaluate_eq_of_ofText_eq {a b : Text} (same : Expr.ofText mode a = Expr.ofText mode b) :
    evaluator.evaluate mode a = evaluator.evaluate mode b := by
  rw [evaluate, evaluate, same]

theorem evaluate_eq_of_tidy_eq {a b : Text} (same : tidy a = tidy b) :
    evaluator.evaluate mode a = evaluator.evaluate mode b :=
  evaluate_eq_of_ofText_eq (Expr.ofText_eq_of_tidy_eq same mode)

/-- What the lexer refuses is refused before anything else is looked at. -/
theorem evaluate_eq_error_of_tokenize {t : Text} {e : CalcError} (nonempty : tidy t ≠ [])
    (refused : tokenize (tidy t) = .error e) : evaluator.evaluate mode t = .error e := by
  rw [evaluate, Expr.ofText, if_neg nonempty, Expr.ofStrict, refused]
  rfl

/-- Behind a blank, a byte order mark is no token. -/
theorem evaluate_mark_of_blank {before : Text} (nonempty : before ≠ [])
    (blank : ∀ c ∈ before, isBlank c = true) (rest : Text) :
    evaluator.evaluate mode (before ++ byteOrderMark :: rest) =
      .error (.disallowedToken [byteOrderMark]) := by
  have outside : (before ++ byteOrderMark :: rest).head?.any isBlank = true := by
    obtain ⟨s, before, rfl⟩ := List.exists_cons_of_ne_nil nonempty
    exact blank s List.mem_cons_self
  have kept := withoutMark_of_head? (head?_ne_byteOrderMark_of_blank outside)
  have around := words_enclosed blank (List.forall_mem_nil _) (byteOrderMark :: rest)
  rw [List.append_nil] at around
  obtain ⟨tail, tidied⟩ :
      ∃ tail, tidy (before ++ byteOrderMark :: rest) = byteOrderMark :: tail := by
    have lowered : lower (byteOrderMark :: rest) =
        byteOrderMark :: lowerFrom [byteOrderMark] rest := rfl
    rw [tidy, kept, collapse, words_lower_of_words_eq around, lowered,
      words_cons_of_not_blank _ isBlank_byteOrderMark]
    rcases unwords_cons_eq_append (byteOrderMark :: (lowerFrom [byteOrderMark] rest).takeWhile
      (!isBlank ·)) (words ((lowerFrom [byteOrderMark] rest).dropWhile (!isBlank ·))) with
      ⟨tail, joined⟩
    exact ⟨_, joined⟩
  have refused : tokenize (byteOrderMark :: tail) = .error (.disallowedToken [byteOrderMark]) := by
    rw [tokenize, lexemes_cons_mark (by decide) (by decide), tokensOf]
    rfl
  rw [← tidied] at refused
  apply evaluate_eq_error_of_tokenize _ refused
  rw [tidied]
  exact List.cons_ne_nil _ _

/-- Evaluation sees neither the layout of a text nor the case of its letters. Blanks around the
text, other blanks in place of blanks, and the case of the letters of ASCII change nothing, errors
included, and trimming first changes nothing. The one exception is a byte order mark with blanks in
front of it, which fails where it would go without the blanks. -/
theorem evaluate_layout (evaluator : Evaluator) (mode : AngleMode) :
    (∀ before t after : Text, (∀ c ∈ before, isBlank c = true) → (∀ c ∈ after, isBlank c = true) →
      evaluator.evaluate mode (before ++ t ++ after) =
        if before ≠ [] ∧ t.head? = some byteOrderMark then
          .error (.disallowedToken [byteOrderMark])
        else evaluator.evaluate mode t) ∧
    (∀ front gap other back : Text, gap ≠ [] → other ≠ [] → (∀ c ∈ gap, isBlank c = true) →
      (∀ c ∈ other, isBlank c = true) →
      evaluator.evaluate mode (front ++ gap ++ back) =
        evaluator.evaluate mode (front ++ other ++ back)) ∧
    (∀ a b : Text, a.map Char.toLower = b.map Char.toLower →
      evaluator.evaluate mode a = evaluator.evaluate mode b) ∧
    ∀ t : Text, (t.head?.any isBlank = true → (trim t).head? ≠ some byteOrderMark) →
      (Question.ofText mode t).bind (fun q => evaluator.evaluate q.mode q.text) =
        evaluator.evaluate mode t := by
  refine ⟨?_, ?_, ?_, ?_⟩
  · intro before t after front back
    split
    · rename_i hidden
      obtain ⟨rest, rfl⟩ := List.head?_eq_some_iff.mp hidden.2
      rw [List.append_assoc]
      exact evaluate_mark_of_blank hidden.1 front (rest ++ after)
    · rename_i bare
      have unmarked : before = [] ∨ t.head? ≠ some byteOrderMark := by
        by_cases none : before = []
        · exact .inl none
        · exact .inr fun marked => bare ⟨none, marked⟩
      exact evaluate_eq_of_tidy_eq
        (tidy_eq_of_words_eq (words_withoutMark_append front back unmarked))
  · intro front gap other back nonempty otherNonempty blank otherBlank
    exact evaluate_eq_of_tidy_eq (tidy_eq_of_words_eq
      (words_withoutMark_append_blanks nonempty otherNonempty blank otherBlank front back))
  · intro a b same
    apply evaluate_eq_of_tidy_eq
    rw [← tidy_map_toLower a, same, tidy_map_toLower]
  · intro t bare
    rw [← evaluate_eq_of_tidy_eq (tidy_trim bare)]
    by_cases empty : trim t = []
    · rw [Question.ofText, dif_pos empty, empty, evaluate, Expr.ofText, tidy_nil]
      rfl
    · rw [Question.ofText_of_nonempty mode empty]
      rfl

/-- The theorem applies to a text in mixed case with a tab in front and a no-break space behind, to
a line break in place of a space behind a capital sigma, and to a text with blanks at both ends. -/
theorem evaluate_layout_logarithm :
    evaluate {} .deg ("\t".toList ++ "Log(2E3)  Deg".toList ++ "\u00a0".toList) =
        evaluate {} .deg "Log(2E3)  Deg".toList ∧
      evaluate {} .deg ("ΑΣ".toList ++ " ".toList ++ "+ 1".toList) =
        evaluate {} .deg ("ΑΣ".toList ++ "\r\n".toList ++ "+ 1".toList) ∧
      evaluate {} .deg "Log(2E3)  Deg".toList = evaluate {} .deg "log(2e3)  deg".toList ∧
      (Question.ofText .deg " 2 pi\n".toList).bind (fun q => evaluate {} q.mode q.text) =
        evaluate {} .deg " 2 pi\n".toList := by
  rcases evaluate_layout {} .deg with ⟨around, within, letters, trimmed⟩
  refine ⟨?_, ?_, ?_, ?_⟩
  · have bare :
        ¬ ("\t".toList ≠ [] ∧ "Log(2E3)  Deg".toList.head? = some byteOrderMark) := by
      decide
    exact (around "\t".toList "Log(2E3)  Deg".toList "\u00a0".toList (by decide) (by decide)).trans
      (if_neg bare)
  · exact within "ΑΣ".toList " ".toList "\r\n".toList "+ 1".toList (by decide) (by decide)
      (by decide) (by decide)
  · exact letters _ _ (by decide)
  · exact trimmed " 2 pi\n".toList (by decide)

/-- A space in front of a byte order mark turns an answer into a failure, and trimming it off turns
the failure into the answer. -/
theorem evaluate_blank_before_mark :
    evaluate {} .rad "\ufeff1".toList = .ok ⟨"1".toList, .numeric ⟨0x3ff0000000000000⟩⟩ ∧
      evaluate {} .rad (" ".toList ++ "\ufeff1".toList) =
        .error (.disallowedToken [byteOrderMark]) ∧
      (Question.ofText .rad (" ".toList ++ "\ufeff1".toList)).bind
          (fun q => evaluate {} q.mode q.text) =
        .ok ⟨"1".toList, .numeric ⟨0x3ff0000000000000⟩⟩ := by
  decide +kernel

end Evaluator

end Reckoner
