import Reckoner.Proofs.Filler.Pieces

/-!
# Stripping again

A text is left as it is by stripping exactly when it is on one line, no phrase stands in it and no
mark ends it. One pass need not get there: where a phrase goes, the words of another may come
together, and where a last run of marks goes, another run may come to the end. Phrases of one word
are all gone after one pass.
-/

namespace Reckoner.Filler

open Text

/-! ## Texts that are left as they are -/

/-- Somewhere in the text, which stands behind `before`, there is a phrase. -/
def HasPhrase (before : Option Char) (t : Text) : Prop :=
  ∃ front s rest : Text, front ++ (s ++ rest) = t ∧ Stands (behind before front) s rest

/-- There is nothing to strip in the text. -/
structure IsStripped (t : Text) : Prop where
  collapsed : collapse t = t
  noPhrase : ¬ HasPhrase none t
  noMark : ∀ c ∈ t.getLast?, isFinalMark c = false

section Blanks

variable {before : Option Char} {c : Char} {t u : Text}

theorem not_hasPhrase_nil : ¬ HasPhrase before [] := by
  rintro ⟨front, s, rest, whole, stands⟩
  rcases List.append_eq_nil_iff.mp (List.append_eq_nil_iff.mp whole).2 with ⟨none, _⟩
  exact stands.ne_nil none

theorem hasPhrase_cons_iff :
    HasPhrase before (c :: t) ↔ phraseAt before (c :: t) ≠ none ∨ HasPhrase (some c) t := by
  rw [ne_eq, phraseAt_eq_none_iff]
  constructor
  · rintro ⟨front, s, rest, whole, stands⟩
    cases front with
    | nil => exact .inl fun nowhere => nowhere s rest whole stands
    | cons d front =>
        obtain ⟨rfl, rfl⟩ := List.cons_eq_cons.mp whole
        exact .inr ⟨front, s, rest, rfl, stands⟩
  · rintro (here | ⟨front, s, rest, rfl, stands⟩)
    · push Not at here
      rcases here with ⟨s, rest, whole, stands⟩
      exact ⟨[], s, rest, whole, stands⟩
    · exact ⟨c :: front, s, rest, rfl, stands⟩

/-- A text stays as it is when its phrases are blanked out exactly if it has none. -/
theorem Blanks.eq_iff (blanks : Blanks before t u) : u = t ↔ ¬ HasPhrase before t := by
  induction blanks with
  | nil => exact iff_of_true rfl not_hasPhrase_nil
  | kept none _ ih =>
      rw [hasPhrase_cons_iff, List.cons_inj_right, ih, not_or, not_not]
      exact (and_iff_right none).symm
  | @phrase before s t u stands _ _ =>
      apply iff_of_false
      · intro same
        obtain ⟨c, s, rfl⟩ := List.exists_cons_of_ne_nil stands.ne_nil
        obtain ⟨rfl, _⟩ := List.cons_eq_cons.mp same
        have starts : isWordAt (some ' ') = true := stands.phrase.word_ends.1
        contradiction
      · exact not_not.mpr ⟨[], s, t, rfl, stands⟩

/-- How many characters of the text are visible. -/
def visibleCount (t : Text) : Nat :=
  t.countP (!isBlank ·)

theorem visibleCount_collapse (t : Text) : visibleCount (collapse t) = visibleCount t := by
  rw [visibleCount, visibleCount, List.countP_eq_length_filter, List.countP_eq_length_filter,
    filter_visible_of_words_eq (words_collapse t)]

theorem visibleCount_pos {s : Text} (phrase : IsPhrase s) : 0 < visibleCount s := by
  have starts := phrase.word_ends.1
  obtain ⟨c, s, rfl⟩ := List.exists_cons_of_ne_nil (ne_nil_of_isWordAt_head? starts)
  apply List.countP_pos_iff.mpr
  refine ⟨c, List.mem_cons_self, ?_⟩
  rw [Bool.not_eq_true', Bool.eq_false_iff]
  intro blank
  have other := isWord_of_blank blank
  rw [List.head?_cons, isWordAt_some, other] at starts
  contradiction

/-- Where a phrase is blanked out, visible characters go. -/
theorem Blanks.eq_or_visibleCount_lt (blanks : Blanks before t u) :
    u = t ∨ visibleCount u < visibleCount t := by
  induction blanks with
  | nil => exact .inl rfl
  | @kept before c t u _ _ ih =>
      rcases ih with rfl | less
      · exact .inl rfl
      · right
        rw [visibleCount, visibleCount, List.countP_cons, List.countP_cons]
        exact Nat.add_lt_add_right less _
  | @phrase before s t u stands _ ih =>
      right
      have space : visibleCount (' ' :: u) = visibleCount u := List.countP_cons_of_neg (by decide)
      have parts : visibleCount (s ++ t) = visibleCount s + visibleCount t := List.countP_append
      have visible := visibleCount_pos stands.phrase
      rw [space, parts]
      rcases ih with rfl | less
      · exact Nat.lt_add_of_pos_left visible
      · exact less.trans (Nat.lt_add_of_pos_left visible)

end Blanks

theorem withoutMarks_isPrefix (t : Text) : withoutMarks t <+: t :=
  (dropTrailing_isPrefix isBlank _).trans (dropTrailing_isPrefix isFinalMark t)

/-- A text on one line stays as it is without its last marks exactly if no mark ends it. -/
theorem withoutMarks_eq_self_iff {t : Text} (collapsed : collapse t = t) :
    withoutMarks t = t ↔ ∀ c ∈ t.getLast?, isFinalMark c = false := by
  constructor
  · intro same c last
    have whole : dropTrailing isFinalMark t = t := by
      apply (dropTrailing_isPrefix isFinalMark t).eq_of_length_le
      calc
        t.length = (withoutMarks t).length := by rw [same]
        _ ≤ (dropTrailing isFinalMark t).length := (dropTrailing_isPrefix isBlank _).length_le
    rw [← whole] at last
    exact not_of_mem_getLast?_dropTrailing last
  · intro noMark
    have blanks : dropTrailing isBlank t = t := by
      rw [← collapsed]
      exact dropTrailing_unwords fun _ mem => visible_of_mem_words mem
    rcases List.eq_nil_or_concat' t with rfl | ⟨front, c, rfl⟩
    · rfl
    · rw [withoutMarks, dropTrailing_append_of_neg (noMark c (by simp)), blanks]

/-- The texts that stripping leaves as they are. -/
theorem stripped_eq_self_iff (t : Text) : stripped t = t ↔ IsStripped t := by
  have blanks := blanks_replacedFrom none t
  constructor
  · intro same
    have collapsed : collapse t = t := by rw [← same, collapse_stripped, same]
    rw [stripped_eq_withoutMarks, replaced] at same
    have kept : replacedFrom phraseAt [' '] none t = t := by
      apply blanks.eq_or_visibleCount_lt.resolve_right
      -- No visible character is gone, and a phrase has some.
      apply Nat.not_lt.mpr
      calc
        visibleCount t ≤ visibleCount (collapse (replacedFrom phraseAt [' '] none t)) := by
          nth_rewrite 1 [← same]
          exact (withoutMarks_isPrefix _).sublist.countP_le
        _ = visibleCount (replacedFrom phraseAt [' '] none t) := visibleCount_collapse _
    rw [kept, collapsed] at same
    exact ⟨collapsed, blanks.eq_iff.mp kept, (withoutMarks_eq_self_iff collapsed).mp same⟩
  · rintro ⟨collapsed, noPhrase, noMark⟩
    rw [stripped_eq_withoutMarks, replaced, blanks.eq_iff.mpr noPhrase, collapsed]
    exact (withoutMarks_eq_self_iff collapsed).mpr noMark

/-! ## Phrases of one word -/

/-- Somewhere in the text, which stands behind `before`, there is a phrase of one word. -/
def HasWordPhrase (before : Option Char) (t : Text) : Prop :=
  ∃ front s rest : Text,
    front ++ (s ++ rest) = t ∧ IsPiece s ∧ Stands (behind before front) s rest

theorem isWordAt_behind {first second : Option Char} (same : isWordAt first = isWordAt second)
    (front : Text) : isWordAt (behind first front) = isWordAt (behind second front) := by
  cases front with
  | nil => exact same
  | cons c front => rfl

theorem isWordAt_head?_append {tail : Text} (apart : isWordAt tail.head? = false) (rest : Text) :
    isWordAt (rest ++ tail).head? = isWordAt rest.head? := by
  cases rest with
  | nil => exact apart
  | cons d rest => rfl

/-- A phrase stands as well where the text goes on, but not with a word character. -/
theorem HasWordPhrase.append {before : Option Char} {t tail : Text}
    (has : HasWordPhrase before t) (apart : isWordAt tail.head? = false) :
    HasWordPhrase before (t ++ tail) := by
  rcases has with ⟨front, s, rest, rfl, isPiece, stands⟩
  have further := (stands_congr rfl (isWordAt_head?_append apart rest)).mpr stands
  exact ⟨front, s, rest ++ tail, by simp, isPiece, further⟩

/-- A piece of a text is on one side of a blank. -/
theorem IsPiece.before_or_behind {front s rest a b : Text} {c : Char} (isPiece : IsPiece s)
    (blank : isBlank c = true) (whole : front ++ (s ++ rest) = a ++ c :: b) :
    (∃ back : Text, a = front ++ (s ++ back) ∧ rest = back ++ c :: b) ∨
      ∃ lead : Text, front = a ++ c :: lead ∧ b = lead ++ (s ++ rest) := by
  have apart : c ∉ s := by
    intro mem
    rw [isPiece.2 c mem] at blank
    contradiction
  rcases List.append_eq_append_iff.mp whole with ⟨tail, rfl, behind⟩ | ⟨head, rfl, inFront⟩
  · rcases List.append_eq_append_iff.mp behind with ⟨back, rfl, reached⟩ | ⟨cut, rfl, reached⟩
    · exact .inl ⟨back, rfl, reached⟩
    · rcases List.cons_eq_append_iff.mp reached with ⟨rfl, reached⟩ | ⟨cut, rfl, _⟩
      · exact .inl ⟨[], by simp, reached.symm⟩
      · exact absurd (List.mem_append_right tail List.mem_cons_self) apart
  · rcases List.cons_eq_append_iff.mp inFront with ⟨rfl, reached⟩ | ⟨lead, rfl, reached⟩
    · obtain ⟨d, s, rfl⟩ := List.exists_cons_of_ne_nil isPiece.1
      obtain ⟨rfl, _⟩ := List.cons_eq_cons.mp reached
      exact absurd List.mem_cons_self apart
    · exact .inr ⟨lead, rfl, reached⟩

/-- A phrase of one word is on one side of a blank. -/
theorem hasWordPhrase_append_blank {before : Option Char} {c : Char} (blank : isBlank c = true)
    (a b : Text) :
    HasWordPhrase before (a ++ c :: b) ↔ HasWordPhrase before a ∨ HasWordPhrase none b := by
  have apart : isWordAt (c :: b).head? = false := isWord_of_blank blank
  have other : isWordAt (some c) = isWordAt none := apart
  constructor
  · rintro ⟨front, s, rest, whole, isPiece, stands⟩
    rcases isPiece.before_or_behind blank whole with ⟨back, rfl, rfl⟩ | ⟨lead, rfl, rfl⟩
    · have inFront := (stands_congr rfl (isWordAt_head?_append apart back)).mp stands
      exact .inl ⟨front, s, back, rfl, isPiece, inFront⟩
    · rw [behind_append] at stands
      have behind := (stands_congr (isWordAt_behind other lead) rfl).mp stands
      exact .inr ⟨lead, s, rest, rfl, isPiece, behind⟩
  · rintro (has | ⟨front, s, rest, rfl, isPiece, stands⟩)
    · exact has.append apart
    · have further : Stands (behind before (a ++ c :: front)) s rest := by
        rw [behind_append]
        exact (stands_congr (isWordAt_behind other front) rfl).mpr stands
      exact ⟨a ++ c :: front, s, rest, by simp, isPiece, further⟩

theorem not_hasWordPhrase_nil {before : Option Char} : ¬ HasWordPhrase before [] := by
  rintro ⟨front, s, rest, whole, isPiece, _⟩
  exact isPiece.1 (List.append_eq_nil_iff.mp (List.append_eq_nil_iff.mp whole).2).1

/-- The layout of a text decides nothing about phrases of one word. -/
theorem hasWordPhrase_iff_of_words_eq {a b : Text} (same : words a = words b) :
    HasWordPhrase none a ↔ HasWordPhrase none b := by
  have equal : HasWordPhrase none a = HasWordPhrase none b := by
    refine eq_of_words_eq (HasWordPhrase none) Or ?_ ?_ ?_ same
    · intro c a b blank
      exact propext (hasWordPhrase_append_blank blank a b)
    · intro t
      simp [not_hasWordPhrase_nil]
    · intro t
      simp [not_hasWordPhrase_nil]
  rw [equal]

/-- What is kept of a text is the same characters in a row. -/
theorem Blanks.exists_kept {before : Option Char} {t s rest : Text}
    (blanks : Blanks before t (s ++ rest)) (visible : ∀ c ∈ s, isBlank c = false) :
    ∃ t', s ++ t' = t ∧ Blanks (behind before s) t' rest := by
  induction s generalizing before t with
  | nil => exact ⟨t, rfl, blanks⟩
  | cons c s ih =>
      rcases List.forall_mem_cons.mp visible with ⟨first, others⟩
      cases blanks with
      | kept _ blanks =>
          rcases ih blanks others with ⟨t', rfl, after⟩
          exact ⟨t', rfl, after⟩
      | phrase => contradiction

/-- Behind a word character there is the same as before. -/
theorem Blanks.isWordAt_head? {before : Option Char} {t u : Text} (blanks : Blanks before t u)
    (inWord : isWordAt before = true) : isWordAt t.head? = isWordAt u.head? := by
  cases blanks with
  | nil => rfl
  | kept => rfl
  | phrase stands _ =>
      rw [(stands_iff.mp stands).2.1] at inWord
      contradiction

/-- No phrase of one word is left where phrases are blanked out. -/
theorem Blanks.not_hasWordPhrase {before side : Option Char} {t u : Text}
    (blanks : Blanks before t u)
    (same : isWordAt side = isWordAt before ∨ isWordAt t.head? = false) :
    ¬ HasWordPhrase side u := by
  rintro ⟨front, s, rest, rfl, isPiece, stands⟩
  induction front generalizing before side t with
  | nil =>
      rcases stands.phrase.word_ends with ⟨first, last⟩
      obtain ⟨c, s, rfl⟩ := List.exists_cons_of_ne_nil isPiece.1
      rcases List.forall_mem_cons.mp isPiece.2 with ⟨visible, others⟩
      cases blanks with
      | kept none blanks =>
          -- All of the phrase was kept, so it stands in the text, where the matcher found none.
          rcases blanks.exists_kept others with ⟨t', rfl, after⟩
          have starts : isWordAt side = isWordAt before := by
            apply same.resolve_right
            exact Bool.eq_false_iff.not_left.mpr first
          have inWord : isWordAt (behind (some c) s) = true := by
            rwa [← behind_eq_getLast? (List.cons_ne_nil c s) before] at last
          have ends := (after.isWordAt_head? inWord).symm
          exact phraseAt_eq_none_iff.mp none (c :: s) t' rfl
            ((stands_congr starts ends).mp stands)
      | phrase => contradiction
  | cons c front ih =>
      cases blanks with
      | kept _ blanks => exact ih (.inl rfl) blanks stands
      | phrase found blanks => exact ih (.inr (stands_iff.mp found).2.2) blanks stands

theorem isWord_of_isFinalMark {c : Char} (mark : isFinalMark c = true) : isWord c = false := by
  have marks : ∀ c ∈ ['?', '=', '!'], isWord c = false := by decide
  exact marks c (of_decide_eq_true mark)

/-- The marks at the end and the blanks in front of them are no word characters. -/
theorem exists_withoutMarks_append (t : Text) :
    ∃ tail : Text, withoutMarks t ++ tail = t ∧ isWordAt tail.head? = false := by
  rcases dropTrailing_append isFinalMark t with ⟨marks, whole, final⟩
  rcases dropTrailing_append isBlank (dropTrailing isFinalMark t) with ⟨gap, front, blank⟩
  refine ⟨gap ++ marks, ?_, ?_⟩
  · rw [← List.append_assoc, withoutMarks, front, whole]
  · cases gap with
    | cons c gap => exact isWord_of_blank (blank c List.mem_cons_self)
    | nil =>
        cases marks with
        | nil => rfl
        | cons c marks => exact isWord_of_isFinalMark (final c List.mem_cons_self)

theorem not_hasWordPhrase_stripped (t : Text) : ¬ HasWordPhrase none (stripped t) := by
  intro has
  rw [stripped_eq_withoutMarks] at has
  rcases exists_withoutMarks_append (collapse (replaced phraseAt [' '] t)) with ⟨tail, whole, apart⟩
  have inLine := has.append apart
  rw [whole, hasWordPhrase_iff_of_words_eq (words_collapse _)] at inLine
  exact (blanks_replacedFrom none t).not_hasWordPhrase (.inl rfl) inLine

/-! ## Marks that are left -/

/-- Of words on a line the last one loses its final marks, and goes if it has no other characters. -/
theorem withoutMarks_unwords_concat {ws : List Text} {w : Text}
    (each : ∀ v ∈ ws ++ [w], IsPiece v) :
    withoutMarks (unwords (ws ++ [w])) =
      if dropTrailing isFinalMark w = [] then unwords ws
      else unwords (ws ++ [dropTrailing isFinalMark w]) := by
  have front : ∀ v ∈ ws, IsPiece v := fun v mem => each v (List.mem_append_left _ mem)
  have last : withoutMarks w = dropTrailing isFinalMark w := by
    apply dropTrailing_eq_self
    intro c mem
    exact (each w (by simp)).2 c ((dropTrailing_isPrefix isFinalMark w).subset mem)
  by_cases first : ws = []
  · subst first
    rw [List.nil_append, unwords_singleton, last, List.nil_append, unwords_singleton]
    split
    · assumption
    · rfl
  · rw [unwords_append first (List.cons_ne_nil w []), unwords_singleton,
      withoutMarks_append (dropTrailing_unwords front), last,
      unwords_append first (List.cons_ne_nil _ []), unwords_singleton]

/-- A mark is left at the end where a last word of marks alone goes. -/
theorem exists_marks_of_getLast? {t : Text} {c : Char} (last : c ∈ (stripped t).getLast?)
    (mark : isFinalMark c = true) :
    ∃ marks : Text, marks ≠ [] ∧ (∀ d ∈ marks, isFinalMark d = true) ∧
      words (replaced phraseAt [' '] t) = words (stripped t) ++ [marks] := by
  have each : ∀ w ∈ words (replaced phraseAt [' '] t), IsPiece w :=
    fun _ mem => visible_of_mem_words mem
  rw [stripped_eq_withoutMarks, collapse] at last ⊢
  generalize words (replaced phraseAt [' '] t) = ws at each last ⊢
  rcases List.eq_nil_or_concat' ws with rfl | ⟨ws, w, rfl⟩
  · contradiction
  · rw [withoutMarks_unwords_concat each] at last ⊢
    have isPiece := each w (by simp)
    by_cases none : dropTrailing isFinalMark w = []
    · rcases dropTrailing_append isFinalMark w with ⟨marks, whole, final⟩
      rw [none, List.nil_append] at whole
      subst whole
      rw [if_pos none, words_unwords fun v mem => each v (List.mem_append_left _ mem)]
      exact ⟨marks, isPiece.1, final, rfl⟩
    · rcases unwords_concat_eq_append ws (dropTrailing isFinalMark w) with ⟨front, joined⟩
      rw [if_neg none, joined, List.getLast?_append_of_ne_nil _ none] at last
      rw [not_of_mem_getLast?_dropTrailing last] at mark
      contradiction

/-- Stripping a second time changes nothing exactly if no phrase stands in the stripped text and no
mark ends it. A phrase that is left is not of one word, and where a mark is left, a word of marks
alone went from behind it. -/
theorem stripped_again (t : Text) :
    (stripped (stripped t) = stripped t ↔
      ¬ HasPhrase none (stripped t) ∧ ∀ c ∈ (stripped t).getLast?, isFinalMark c = false) ∧
    ¬ HasWordPhrase none (stripped t) ∧
    ∀ c ∈ (stripped t).getLast?, isFinalMark c = true →
      ∃ marks : Text, marks ≠ [] ∧ (∀ d ∈ marks, isFinalMark d = true) ∧
        words (replaced phraseAt [' '] t) = words (stripped t) ++ [marks] := by
  constructor
  · rw [stripped_eq_self_iff]
    constructor
    · rintro ⟨_, noPhrase, noMark⟩
      exact ⟨noPhrase, noMark⟩
    · rintro ⟨noPhrase, noMark⟩
      exact ⟨collapse_stripped t, noPhrase, noMark⟩
  constructor
  · exact not_hasWordPhrase_stripped t
  · exact fun c last mark => exists_marks_of_getLast? last mark

/-- The mark that is left stood before another one. -/
theorem stripped_again_mark :
    '=' ∈ (stripped "what is 2 + 2 = ?".toList).getLast? ∧ isFinalMark '=' = true ∧
      ∃ marks : Text, marks ≠ [] ∧ (∀ d ∈ marks, isFinalMark d = true) ∧
        words (replaced phraseAt [' '] "what is 2 + 2 = ?".toList) =
          words (stripped "what is 2 + 2 = ?".toList) ++ [marks] := by
  have last : '=' ∈ (stripped "what is 2 + 2 = ?".toList).getLast? := by decide +kernel
  have mark : isFinalMark '=' = true := by decide
  exact ⟨last, mark, (stripped_again _).2.2 '=' last mark⟩

/-- A mark comes to the end, and a phrase together, when the text is stripped. -/
theorem stripped_exposed :
    (stripped "2 + 2 = ?".toList = "2 + 2 =".toList ∧
      stripped (stripped "2 + 2 = ?".toList) = "2 + 2".toList) ∧
    stripped "what please is 2 + 2".toList = "what is 2 + 2".toList ∧
      stripped (stripped "what please is 2 + 2".toList) = "2 + 2".toList := by
  decide +kernel

end Reckoner.Filler
