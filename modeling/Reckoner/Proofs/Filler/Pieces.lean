import Reckoner.Proofs.Filler
import Reckoner.Proofs.Filler.Phrase

/-!
# What stripping leaves

Stripping cuts blanks, whole filler phrases and one last run of final marks out of a text. What stays
are pieces of the text in their order, put one space apart. No two of them run into each other, since
something is cut out between any two, and a text that has tokens keeps them.
-/

namespace Reckoner

namespace Text

/-! ## Places -/

/-- The character before the place behind `front`, when `before` stands before `front`. -/
def behind : Option Char → Text → Option Char
  | before, [] => before
  | _, c :: front => behind (some c) front

theorem behind_append (before : Option Char) (a b : Text) :
    behind before (a ++ b) = behind (behind before a) b := by
  induction a generalizing before with
  | nil => rfl
  | cons c a ih => exact ih (some c)

theorem behind_eq_getLast? {front : Text} (nonempty : front ≠ []) (before : Option Char) :
    behind before front = front.getLast? := by
  induction front generalizing before with
  | nil => contradiction
  | cons c front ih =>
      cases front with
      | nil => rfl
      | cons d front =>
          rw [List.getLast?_cons_cons]
          exact ih (List.cons_ne_nil d front) (some c)

end Text

namespace Filler

open Text

/-! ## Gaps and pieces -/

/-- Between `before` and `back` there is nothing but blanks and whole phrases. -/
inductive Gap : Option Char → Text → Text → Prop where
  | nil {before : Option Char} {back : Text} : Gap before [] back
  | blank {before : Option Char} {c : Char} {gap back : Text} (isBlank : isBlank c = true)
      (rest : Gap (some c) gap back) : Gap before (c :: gap) back
  | phrase {before : Option Char} {s gap back : Text} (stands : Stands before s (gap ++ back))
      (rest : Gap (behind before s) gap back) : Gap before (s ++ gap) back

/-- A run of visible characters. -/
def IsPiece (w : Text) : Prop :=
  w ≠ [] ∧ ∀ c ∈ w, isBlank c = false

/-- What stands behind `before` is made of the pieces, with gaps between them, a run of marks, and a
gap at the end. -/
inductive Leaves (isMark : Char → Bool) : Option Char → Text → List Text → Prop where
  | ending {before : Option Char} {marks gap : Text} (final : ∀ c ∈ marks, isMark c = true)
      (rest : Gap (behind before marks) gap []) : Leaves isMark before (marks ++ gap) []
  | last {before : Option Char} {piece t : Text} (isPiece : IsPiece piece)
      (rest : Leaves isMark (behind before piece) t []) : Leaves isMark before (piece ++ t) [piece]
  | next {before : Option Char} {piece gap t : Text} {pieces : List Text} (isPiece : IsPiece piece)
      (apart : gap ≠ []) (between : Gap (behind before piece) gap t)
      (rest : Leaves isMark (behind (behind before piece) gap) t pieces) :
      Leaves isMark before (piece ++ (gap ++ t)) (piece :: pieces)

theorem Gap.append {before : Option Char} {a b back : Text} (first : Gap before a (b ++ back))
    (second : Gap (behind before a) b back) : Gap before (a ++ b) back := by
  generalize whole : b ++ back = behindFirst at first
  induction first with
  | nil => exact second
  | blank isBlank _ ih => exact .blank isBlank (ih second whole)
  | phrase stands _ ih =>
      subst whole
      rw [behind_append] at second
      rw [← List.append_assoc] at stands
      rw [List.append_assoc]
      exact .phrase stands (ih second rfl)

namespace Leaves

variable {isMark : Char → Bool} {before : Option Char} {t : Text} {pieces : List Text}

theorem of_gap (gap : Gap before t []) : Leaves isMark before t [] :=
  @ending isMark before [] t (List.forall_mem_nil _) gap

theorem isPiece_of_mem (leaves : Leaves isMark before t pieces) : ∀ w ∈ pieces, IsPiece w := by
  induction leaves with
  | ending => exact List.forall_mem_nil _
  | last isPiece => exact List.forall_mem_singleton.mpr isPiece
  | next isPiece _ _ _ ih => exact List.forall_mem_cons.mpr ⟨isPiece, ih⟩

/-- A visible character in front of a piece belongs to the piece. -/
theorem extend {c : Char} {w : Text} (visible : isBlank c = false)
    (leaves : Leaves isMark (some c) t (w :: pieces)) :
    Leaves isMark before (c :: t) ((c :: w) :: pieces) := by
  have extended (isPiece : IsPiece w) : IsPiece (c :: w) :=
    ⟨List.cons_ne_nil c w, List.forall_mem_cons.mpr ⟨visible, isPiece.2⟩⟩
  cases leaves with
  | last isPiece rest => exact .last (extended isPiece) rest
  | next isPiece apart between rest => exact .next (extended isPiece) apart between rest

/-- Where nothing counts as a mark, a gap is left at the end. -/
theorem gap_of_nil (leaves : Leaves (fun _ => false) before t []) : Gap before t [] := by
  cases leaves with
  | @ending _ marks gap final rest =>
      cases marks with
      | nil => exact rest
      | cons c marks => exact absurd (final c List.mem_cons_self) Bool.false_ne_true

end Leaves

/-! ## Blanking out phrases -/

/-- The second text is the first one, which stands behind `before`, with the phrases that are found
from left to right blanked out by a space each. -/
inductive Blanks : Option Char → Text → Text → Prop where
  | nil {before : Option Char} : Blanks before [] []
  | kept {before : Option Char} {c : Char} {t u : Text} (none : phraseAt before (c :: t) = none)
      (rest : Blanks (some c) t u) : Blanks before (c :: t) (c :: u)
  | phrase {before : Option Char} {s t u : Text} (stands : Stands before s t)
      (rest : Blanks (behind before s) t u) : Blanks before (s ++ t) (' ' :: u)

theorem blanks_replacedFrom (before : Option Char) (t : Text) :
    Blanks before t (replacedFrom phraseAt [' '] before t) := by
  fun_induction replacedFrom phraseAt [' '] before t with
  | case1 => exact .nil
  | case2 before c rest n found ih =>
      rcases stands_of_phraseAt found with ⟨s, t, whole, rfl, stands⟩
      obtain ⟨d, s, rfl⟩ := List.exists_cons_of_ne_nil stands.ne_nil
      obtain ⟨rfl, rfl⟩ : d = c ∧ s ++ t = rest := List.cons_eq_cons.mp whole
      have last : some (s.getLast?.getD d) = behind before (d :: s) := by
        rw [behind_eq_getLast? (List.cons_ne_nil d s), List.getLast?_cons]
      rw [List.length_cons, Nat.add_sub_cancel, List.take_left, List.drop_left, last] at ih
      rw [List.length_cons, Nat.add_sub_cancel, List.take_left, List.drop_left, last]
      exact .phrase stands ih
  | case3 before c rest none ih => exact .kept none ih

/-- The words of the text with its phrases blanked out are pieces of the text. -/
theorem Blanks.exists_leaves {before : Option Char} {t u : Text} (blanks : Blanks before t u) :
    ∃ lead rest : Text, lead ++ rest = t ∧ Gap before lead rest ∧
      Leaves (fun _ => false) (behind before lead) rest (words u) ∧
      ∀ c ∈ u.head?, (isBlank c = true ↔ lead ≠ []) := by
  induction blanks with
  | nil =>
      rw [words_nil]
      exact ⟨[], [], rfl, .nil, .of_gap .nil, by simp⟩
  | @phrase before s t u stands _ ih =>
      rcases ih with ⟨lead, rest, rfl, gap, leaves, _⟩
      rw [words_cons_of_blank u rfl]
      refine ⟨s ++ lead, rest, List.append_assoc s lead rest, .phrase stands gap, ?_, ?_⟩
      · rwa [behind_append]
      · rintro c ⟨⟩
        exact iff_of_true rfl (List.append_ne_nil_of_left_ne_nil stands.ne_nil lead)
  | @kept before c t u _ blanks ih =>
      rcases ih with ⟨lead, rest, rfl, gap, leaves, starts⟩
      cases isBlank : isBlank c with
      | true =>
          rw [words_cons_of_blank u isBlank]
          refine ⟨c :: lead, rest, rfl, .blank isBlank gap, leaves, ?_⟩
          rintro _ ⟨⟩
          exact iff_of_true isBlank (List.cons_ne_nil c lead)
      | false =>
          refine ⟨[], c :: (lead ++ rest), rfl, .nil, ?_, ?_⟩
          · have isPiece : IsPiece [c] :=
              ⟨List.cons_ne_nil c [], List.forall_mem_singleton.mpr isBlank⟩
            by_cases none : lead = []
            · subst none
              cases u with
              | nil =>
                  cases blanks
                  rw [words_cons_of_apart isBlank (by simp), words_nil]
                  exact .last isPiece (.of_gap .nil)
              | cons d u =>
                  have visible : Text.isBlank d = false := by
                    rw [Bool.eq_false_iff]
                    exact fun blank => (starts d rfl).mp blank rfl
                  rcases exists_words_cons_cons isBlank visible u with ⟨w, ws, inner, outer⟩
                  rw [inner] at leaves
                  rw [outer]
                  exact leaves.extend isBlank
            · rw [words_cons_of_apart isBlank fun d head => (starts d head).mpr none]
              exact .next isPiece none gap leaves
          · rintro _ ⟨⟩
            simp [isBlank]

/-! ## The marks at the end -/

/-- The text without a last run of final marks and without the blanks in front of that run. -/
def withoutMarks (t : Text) : Text :=
  dropTrailing isBlank (dropTrailing isFinalMark t)

/-- A last word loses its final marks, and is gone if it has no other characters. -/
theorem exists_leaves_of_word {before : Option Char} {w gap : Text} (isPiece : IsPiece w)
    (ends : Gap (behind before w) gap []) :
    ∃ pieces, Leaves isFinalMark before (w ++ gap) pieces ∧ withoutMarks w = unwords pieces := by
  rcases dropTrailing_append isFinalMark w with ⟨marks, whole, final⟩
  generalize kept : dropTrailing isFinalMark w = v at whole
  subst whole
  rw [behind_append] at ends
  rw [withoutMarks, kept, List.append_assoc]
  cases v with
  | nil => exact ⟨[], @Leaves.ending isFinalMark before marks gap final ends, rfl⟩
  | cons c v =>
      have visible : ∀ d ∈ c :: v, isBlank d = false :=
        fun d mem => isPiece.2 d (List.mem_append_left marks mem)
      refine ⟨[c :: v], .last ⟨List.cons_ne_nil c v, visible⟩ (.ending final ends), ?_⟩
      rw [dropTrailing_eq_self visible, unwords_singleton]

/-- Behind a text and a space, marks are dropped with the space in front of them where they make up
all the rest. -/
theorem withoutMarks_append {w : Text} (ends : dropTrailing isBlank w = w) (t : Text) :
    withoutMarks (w ++ ' ' :: t) =
      if withoutMarks t = [] then w else w ++ ' ' :: withoutMarks t := by
  have space : dropTrailing isFinalMark (' ' :: t) = ' ' :: dropTrailing isFinalMark t :=
    dropTrailing_cons_of_neg rfl t
  have kept : dropTrailing isFinalMark (w ++ ' ' :: t) = w ++ ([' '] ++ dropTrailing isFinalMark t) := by
    rw [dropTrailing_append_eq_ite, space, if_neg (List.cons_ne_nil _ _)]
    rfl
  rw [withoutMarks, withoutMarks, kept, dropTrailing_append_eq_ite isBlank w,
    dropTrailing_append_eq_ite isBlank [' ']]
  by_cases none : dropTrailing isBlank (dropTrailing isFinalMark t) = []
  · rw [if_pos none, if_pos none, if_pos (by decide), ends]
  · rw [if_neg none, if_neg none, if_neg (List.append_ne_nil_of_right_ne_nil _ none)]
    rfl

theorem unwords_ne_nil {pieces : List Text} (nonempty : pieces ≠ [])
    (each : ∀ w ∈ pieces, IsPiece w) : unwords pieces ≠ [] := by
  obtain ⟨w, ws, rfl⟩ := List.exists_cons_of_ne_nil nonempty
  rcases unwords_cons_eq_append w ws with ⟨tail, joined⟩
  rw [joined]
  exact List.append_ne_nil_of_left_ne_nil (each w List.mem_cons_self).1 tail

/-- The pieces lose a last run of final marks. -/
theorem Leaves.exists_withoutMarks {before : Option Char} {t : Text} {ws : List Text}
    (leaves : Leaves (fun _ => false) before t ws) :
    ∃ pieces, Leaves isFinalMark before t pieces ∧ withoutMarks (unwords ws) = unwords pieces := by
  induction leaves with
  | ending final rest =>
      have gap := (Leaves.ending final rest).gap_of_nil
      exact ⟨[], .of_gap gap, rfl⟩
  | last isPiece rest =>
      rw [unwords_singleton]
      exact exists_leaves_of_word isPiece rest.gap_of_nil
  | @next before w gap t ws isPiece apart between rest ih =>
      cases ws with
      | nil =>
          have ends := rest.gap_of_nil
          rw [← List.append_nil t] at between
          rw [unwords_singleton]
          exact exists_leaves_of_word isPiece (between.append ends)
      | cons v ws =>
          rcases ih with ⟨pieces, leaves, same⟩
          refine ⟨w :: pieces, .next isPiece apart between leaves, ?_⟩
          rw [unwords_cons_of_ne_nil w (List.cons_ne_nil v ws),
            withoutMarks_append (dropTrailing_eq_self isPiece.2), same]
          by_cases none : pieces = []
          · subst none
            rw [unwords_singleton]
            rfl
          · rw [if_neg (unwords_ne_nil none leaves.isPiece_of_mem), unwords_cons_of_ne_nil w none]

theorem stripped_eq_withoutMarks (t : Text) :
    stripped t = withoutMarks (collapse (replaced phraseAt [' '] t)) := by
  have visible : ∀ w ∈ words (replaced phraseAt [' '] t), w ≠ [] ∧ ∀ c ∈ w, isBlank c = false :=
    fun _ mem => visible_of_mem_words mem
  rw [stripped, trim, collapse, withoutMarks,
    dropWhile_eq_self_of_isPrefix (dropTrailing_isPrefix _ _) (dropWhile_unwords visible)]

theorem exists_leaves_stripped (t : Text) :
    ∃ lead rest pieces, t = lead ++ rest ∧ Gap none lead rest ∧
      Leaves isFinalMark (behind none lead) rest pieces ∧ stripped t = unwords pieces := by
  rcases (blanks_replacedFrom none t).exists_leaves with ⟨lead, rest, rfl, gap, leaves, _⟩
  rcases leaves.exists_withoutMarks with ⟨pieces, leaves, same⟩
  exact ⟨lead, rest, pieces, rfl, gap, leaves, (stripped_eq_withoutMarks _).trans same⟩

@[simp]
theorem collapse_stripped (t : Text) : collapse (stripped t) = stripped t := by
  rcases exists_leaves_stripped t with ⟨_, _, pieces, _, _, leaves, joined⟩
  rw [joined, collapse, words_unwords leaves.isPiece_of_mem]

/-- A stripped text is made of pieces of the text, one space apart. In the text there are only blanks
and whole filler phrases before, between and behind them, and a run of final marks behind the last.
A text that has tokens has the same tokens when it is stripped. -/
theorem stripped_leaves (t : Text) :
    (∃ lead rest pieces, t = lead ++ rest ∧ Gap none lead rest ∧
      Leaves isFinalMark (behind none lead) rest pieces ∧ stripped t = unwords pieces ∧
        words (stripped t) = pieces) ∧
      ∀ tokens, tokenize t = .ok tokens → tokenize (stripped t) = .ok tokens := by
  constructor
  · rcases exists_leaves_stripped t with ⟨lead, rest, pieces, whole, gap, leaves, joined⟩
    refine ⟨lead, rest, pieces, whole, gap, leaves, joined, ?_⟩
    rw [joined, words_unwords leaves.isPiece_of_mem]
  · intro tokens read
    have clean := Gate.isClean_of_renders (renders_of_tokenize read)
    rw [stripped_eq_collapse fun c mem => .inl (clean c mem),
      tokenize_eq_of_words_eq (words_collapse t), read]

/-- Blanks of several kinds, around the text and where an exponent and a product could be read. -/
theorem stripped_leaves_spaced :
    tokenize "\t2 e\u00a0-3\n Log10( .5 )\u3000deg ".toList =
        .ok [.number ⟨0x4000000000000000⟩, .constant .e, .minus, .number ⟨0x4008000000000000⟩,
          .func .log10, .openParen, .number ⟨0x3fe0000000000000⟩, .closeParen, .unit .deg] ∧
      tokenize (stripped "\t2 e\u00a0-3\n Log10( .5 )\u3000deg ".toList) =
        .ok [.number ⟨0x4000000000000000⟩, .constant .e, .minus, .number ⟨0x4008000000000000⟩,
          .func .log10, .openParen, .number ⟨0x3fe0000000000000⟩, .closeParen, .unit .deg] := by
  have read : tokenize "\t2 e\u00a0-3\n Log10( .5 )\u3000deg ".toList =
      .ok [.number ⟨0x4000000000000000⟩, .constant .e, .minus, .number ⟨0x4008000000000000⟩,
        .func .log10, .openParen, .number ⟨0x3fe0000000000000⟩, .closeParen, .unit .deg] := by
    decide +kernel
  exact ⟨read, (stripped_leaves _).2 _ read⟩

/-- What is cut is cut: every phrase that the search from left to right meets, and of what is then
left the whole last run of final marks, with the blanks in front of it. -/
theorem stripped_cuts (t : Text) :
    ∃ blanked gap marks : Text, Blanks none t blanked ∧
      collapse blanked = stripped t ++ (gap ++ marks) ∧
      (∀ c ∈ gap, isBlank c = true) ∧ (∀ c ∈ marks, isFinalMark c = true) ∧
      (∀ c ∈ (stripped t ++ gap).getLast?, isFinalMark c = false) ∧
      ∀ c ∈ (stripped t).getLast?, isBlank c = false := by
  generalize blanked_eq : replaced phraseAt [' '] t = blanked
  have blanks : Blanks none t blanked := by
    rw [← blanked_eq]
    exact blanks_replacedFrom none t
  have cut := stripped_eq_withoutMarks t
  rw [blanked_eq, withoutMarks] at cut
  rcases dropTrailing_append isFinalMark (collapse blanked) with ⟨marks, whole, final⟩
  rcases dropTrailing_append isBlank (dropTrailing isFinalMark (collapse blanked))
    with ⟨gap, front, blank⟩
  rw [← cut] at front
  refine ⟨blanked, gap, marks, blanks, ?_, blank, final, ?_, ?_⟩
  · rw [← List.append_assoc, front, whole]
  · intro c last
    rw [front] at last
    exact not_of_mem_getLast?_dropTrailing last
  · intro c last
    rw [cut] at last
    exact not_of_mem_getLast?_dropTrailing last

example : stripped "What  is 2 pleaseplus3 the value\tof + COMPUTE .5e1?! ".toList =
    "2 pleaseplus3 + .5e1".toList := by
  decide +kernel

end Filler

end Reckoner
