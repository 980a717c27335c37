import Reckoner.Filler
import Reckoner.Proofs.Gate.Operand

/-!
# Filler phrases in a text

A phrase is written in any case, with blanks between its words. It stands in a text where there is a
word boundary at either end of it. The matcher finds a phrase at a place exactly when one stands
there.
-/

namespace Reckoner.Filler

open Text

/-- The text is made of the words in order, in any case, with blanks between them. -/
inductive SpellsWords : List Text → Text → Prop where
  | last {word s : Text} (spelled : s.map foldedChar = word) : SpellsWords [word] s
  | next {word following s gap t : Text} {words : List Text} (spelled : s.map foldedChar = word)
      (nonempty : gap ≠ []) (blank : ∀ c ∈ gap, isBlank c = true)
      (rest : SpellsWords (following :: words) t) :
      SpellsWords (word :: following :: words) (s ++ (gap ++ t))

/-- The text is a filler phrase. -/
def IsPhrase (s : Text) : Prop :=
  ∃ phrase ∈ phrases, SpellsWords phrase s

/-- `s` is a filler phrase that stands between `before` and `rest`, with a word boundary at either
end. -/
structure Stands (before : Option Char) (s rest : Text) : Prop where
  phrase : IsPhrase s
  starts : isBoundary before s.head? = true
  ends : isBoundary s.getLast? rest.head? = true

/-! ## Words of phrases -/

/-- The characters of a phrase's word are visible ASCII, with letters at both ends. -/
structure IsPhraseWord (word : Text) : Prop where
  ascii : ∀ l ∈ word, l.toNat < 0x80
  head : word.head?.any Char.isAlpha = true
  last : word.getLast?.any Char.isAlpha = true

theorem isPhraseWord_of_mem {phrase : List Text} (known : phrase ∈ phrases) :
    ∀ word ∈ phrase, IsPhraseWord word := by
  have all : ∀ phrase ∈ phrases, ∀ word ∈ phrase, (∀ l ∈ word, l.toNat < 0x80) ∧
      word.head?.any Char.isAlpha = true ∧ word.getLast?.any Char.isAlpha = true := by decide
  intro word mem
  rcases all phrase known word mem with ⟨ascii, head, last⟩
  exact ⟨ascii, head, last⟩

/-- What spells a letter is a word character. -/
theorem isWord_of_isAlpha_foldedChar {c : Char} (letter : (foldedChar c).isAlpha = true) :
    isWord c = true := by
  by_cases small : c.toNat < 0x80
  · exact of_ascii (p := fun c => (foldedChar c).isAlpha = true → isWord c = true) (by decide)
      small letter
  by_cases longS : c.toNat = 0x17f
  · rw [show c = 'ſ' from Char.toNat_inj.mp longS]
    decide +kernel
  by_cases kelvin : c.toNat = 0x212a
  · rw [show c = '\u212a' from Char.toNat_inj.mp kelvin]
    decide +kernel
  have large := Nat.le_of_not_lt small
  rw [foldedChar_of_not_ascii large longS kelvin] at letter
  exact absurd (ascii_of_isAlphanum (Bool.or_eq_true_iff.mpr (.inl letter))) small

theorem isWordAt_of_isAlpha_foldedChar {side : Option Char}
    (letter : (side.map foldedChar).any Char.isAlpha = true) : isWordAt side = true := by
  cases side with
  | none => contradiction
  | some c => exact isWord_of_isAlpha_foldedChar letter

section SpellsWords

variable {word : Text} {words : List Text} {s : Text}

theorem IsPhraseWord.ends (known : IsPhraseWord word) (spelled : s.map foldedChar = word) :
    isWordAt s.head? = true ∧ isWordAt s.getLast? = true := by
  have head := known.head
  have last := known.last
  rw [← spelled, List.head?_map] at head
  rw [← spelled, List.getLast?_map] at last
  exact ⟨isWordAt_of_isAlpha_foldedChar head, isWordAt_of_isAlpha_foldedChar last⟩

theorem ne_nil_of_isWordAt_head? (head : isWordAt s.head? = true) : s ≠ [] := by
  rintro rfl
  contradiction

/-- A phrase starts and ends with a word character. -/
theorem SpellsWords.ends (spells : SpellsWords words s)
    (known : ∀ word ∈ words, IsPhraseWord word) :
    isWordAt s.head? = true ∧ isWordAt s.getLast? = true := by
  induction spells with
  | @last word s spelled => exact (known word List.mem_cons_self).ends spelled
  | @next word _ s gap t _ spelled _ _ _ ih =>
      rcases List.forall_mem_cons.mp known with ⟨first, others⟩
      have front := (first.ends spelled).1
      have back := (ih others).2
      have behind : t ≠ [] := ne_nil_of_isWordAt_head? (ih others).1
      constructor
      · rwa [List.head?_append_of_ne_nil _ (ne_nil_of_isWordAt_head? front)]
      · rwa [List.getLast?_append_of_ne_nil _ (List.append_ne_nil_of_right_ne_nil gap behind),
          List.getLast?_append_of_ne_nil _ behind]

end SpellsWords

/-! ## The matcher -/

theorem afterBlanks?_append {gap rest : Text} (nonempty : gap ≠ [])
    (blank : ∀ c ∈ gap, isBlank c = true) (stops : isWordAt rest.head? = true) :
    afterBlanks? (gap ++ rest) = some rest := by
  obtain ⟨c, gap, rfl⟩ := List.exists_cons_of_ne_nil nonempty
  rcases List.forall_mem_cons.mp blank with ⟨first, others⟩
  have stays : rest.dropWhile isBlank = rest := by
    cases rest with
    | nil => rfl
    | cons d rest =>
        have visible : ¬ isBlank d = true := by
          intro isBlank
          have other := isWord_of_blank isBlank
          rw [List.head?_cons, isWordAt_some, other] at stops
          contradiction
        exact List.dropWhile_cons_of_neg visible
  rw [List.cons_append, afterBlanks?, if_pos first, List.dropWhile_append_of_pos others, stays]

theorem exists_gap_of_afterBlanks? {t rest : Text} (found : afterBlanks? t = some rest) :
    ∃ gap : Text, gap ≠ [] ∧ (∀ c ∈ gap, isBlank c = true) ∧ gap ++ rest = t := by
  cases t with
  | nil => contradiction
  | cons c t =>
      rw [afterBlanks?] at found
      split at found
      · rename_i blank
        cases found
        refine ⟨c :: t.takeWhile isBlank, List.cons_ne_nil _ _, ?_, ?_⟩
        · exact List.forall_mem_cons.mpr ⟨blank, fun _ mem => List.mem_takeWhile_imp mem⟩
        · rw [List.cons_append, List.takeWhile_append_dropWhile]
      · contradiction

theorem afterWords?_eq_some_iff {word : Text} {words : List Text} {t rest : Text}
    (known : ∀ w ∈ word :: words, IsPhraseWord w) :
    afterWords? (word :: words) t = some rest ↔
      ∃ s : Text, s ++ rest = t ∧ SpellsWords (word :: words) s := by
  induction words generalizing word t with
  | nil =>
      rw [afterWords?, afterPattern?_eq_some_iff (known word List.mem_cons_self).ascii]
      constructor
      · rintro ⟨s, whole, spelled⟩
        exact ⟨s, whole, .last spelled⟩
      · rintro ⟨s, whole, spells⟩
        cases spells with
        | last spelled => exact ⟨s, whole, spelled⟩
  | cons following words ih =>
      rcases List.forall_mem_cons.mp known with ⟨first, others⟩
      rw [afterWords?, Option.bind_eq_some_iff]
      constructor
      · rintro ⟨_, matched, more⟩
        rcases Option.bind_eq_some_iff.mp more with ⟨_, blanks, found⟩
        rcases (afterPattern?_eq_some_iff first.ascii).mp matched with ⟨s, rfl, spelled⟩
        rcases exists_gap_of_afterBlanks? blanks with ⟨gap, nonempty, blank, rfl⟩
        rcases (ih others).mp found with ⟨t, rfl, spells⟩
        refine ⟨s ++ (gap ++ t), ?_, .next spelled nonempty blank spells⟩
        rw [List.append_assoc, List.append_assoc]
      · rintro ⟨_, rfl, spells⟩
        cases spells with
        | @next _ _ s gap t _ spelled nonempty blank spells =>
            have head := (spells.ends others).1
            have stops : isWordAt (t ++ rest).head? = true := by
              rwa [List.head?_append_of_ne_nil _ (ne_nil_of_isWordAt_head? head)]
            refine ⟨gap ++ (t ++ rest), ?_, ?_⟩
            · refine (afterPattern?_eq_some_iff first.ascii).mpr ⟨s, ?_, spelled⟩
              rw [List.append_assoc, List.append_assoc]
            · rw [afterBlanks?_append nonempty blank stops, Option.bind_some]
              exact (ih others).mpr ⟨t, rfl, spells⟩

/-- The length of a phrase at the front of a text is that of the characters that spell it. -/
theorem phraseLength?_eq_some_iff {phrase : List Text} (known : phrase ∈ phrases) {t : Text}
    {n : Nat} :
    phraseLength? phrase t = some n ↔
      ∃ s rest : Text, s ++ rest = t ∧ SpellsWords phrase s ∧
        isBoundary s.getLast? rest.head? = true ∧ s.length = n := by
  have nonempty : ∀ phrase ∈ phrases, phrase ≠ [] := by decide
  obtain ⟨word, words, rfl⟩ := List.exists_cons_of_ne_nil (nonempty phrase known)
  have each := isPhraseWord_of_mem known
  have length (s rest : Text) : (s ++ rest).length - rest.length = s.length := by
    rw [List.length_append, Nat.add_sub_cancel]
  rw [phraseLength?, Option.bind_eq_some_iff]
  constructor
  · rintro ⟨rest, after, found⟩
    rcases (afterWords?_eq_some_iff each).mp after with ⟨s, rfl, spells⟩
    dsimp only at found
    rw [length, List.take_left] at found
    split at found
    · rename_i ends
      exact ⟨s, rest, rfl, spells, ends, Option.some.inj found⟩
    · contradiction
  · rintro ⟨s, rest, rfl, spells, ends, rfl⟩
    refine ⟨rest, (afterWords?_eq_some_iff each).mpr ⟨s, rfl, spells⟩, ?_⟩
    dsimp only
    rw [length, List.take_left, if_pos ends]

/-- A phrase starts and ends with a word character. -/
theorem IsPhrase.word_ends {s : Text} (phrase : IsPhrase s) :
    isWordAt s.head? = true ∧ isWordAt s.getLast? = true := by
  rcases phrase with ⟨phrase, known, spells⟩
  exact spells.ends (isPhraseWord_of_mem known)

/-- A phrase stands where there is no word character on either side of it. -/
theorem stands_iff {before : Option Char} {s rest : Text} :
    Stands before s rest ↔
      IsPhrase s ∧ isWordAt before = false ∧ isWordAt rest.head? = false := by
  constructor
  · rintro ⟨phrase, starts, ends⟩
    rw [isBoundary, phrase.word_ends.1, bne_iff_ne, ← Bool.eq_false_iff] at starts
    rw [isBoundary, phrase.word_ends.2, bne_iff_ne, ne_comm, ← Bool.eq_false_iff] at ends
    exact ⟨phrase, starts, ends⟩
  · rintro ⟨phrase, front, back⟩
    constructor
    · exact phrase
    · rw [isBoundary, phrase.word_ends.1, front]
      rfl
    · rw [isBoundary, phrase.word_ends.2, back]
      rfl

theorem stands_congr {first second : Option Char} {s rest following : Text}
    (front : isWordAt first = isWordAt second)
    (back : isWordAt rest.head? = isWordAt following.head?) :
    Stands first s rest ↔ Stands second s following := by
  rw [stands_iff, stands_iff, front, back]

theorem Stands.ne_nil {before : Option Char} {s rest : Text} (stands : Stands before s rest) :
    s ≠ [] :=
  ne_nil_of_isWordAt_head? stands.phrase.word_ends.1

/-- The matcher finds phrases that stand at the place. -/
theorem stands_of_phraseAt {before : Option Char} {t : Text} {n : Nat}
    (found : phraseAt before t = some n) :
    ∃ s rest : Text, s ++ rest = t ∧ s.length = n ∧ Stands before s rest := by
  rw [phraseAt] at found
  split at found
  · rename_i starts
    rcases List.exists_of_findSome?_eq_some found with ⟨phrase, known, length⟩
    rcases (phraseLength?_eq_some_iff known).mp length with ⟨s, rest, rfl, spells, ends, rfl⟩
    have head := (spells.ends (isPhraseWord_of_mem known)).1
    rw [List.head?_append_of_ne_nil _ (ne_nil_of_isWordAt_head? head)] at starts
    exact ⟨s, rest, rfl, rfl, ⟨phrase, known, spells⟩, starts, ends⟩
  · contradiction

/-- The matcher misses no phrase. -/
theorem phraseAt_eq_none_iff {before : Option Char} {t : Text} :
    phraseAt before t = none ↔ ∀ s rest : Text, s ++ rest = t → ¬ Stands before s rest := by
  constructor
  · rintro none s rest rfl stands
    have front : (s ++ rest).head? = s.head? := List.head?_append_of_ne_nil _ stands.ne_nil
    have starts := stands.starts
    rcases stands.phrase with ⟨phrase, known, spells⟩
    rw [← front] at starts
    rw [phraseAt, if_pos starts, List.findSome?_eq_none_iff] at none
    have length := (phraseLength?_eq_some_iff known).mpr ⟨s, rest, rfl, spells, stands.ends, rfl⟩
    rw [none phrase known] at length
    contradiction
  · intro nowhere
    rw [Option.eq_none_iff_forall_ne_some]
    intro n found
    rcases stands_of_phraseAt found with ⟨s, rest, whole, _, stands⟩
    exact nowhere s rest whole stands

end Reckoner.Filler
