import Mathlib.Data.List.Find
import Reckoner.Proofs.Token.Renders

/-!
# What the gate takes out of a text

The remainder of a text splits wherever no known word can reach over the cut or start behind it. So
the marks and blanks of a text always remain, and a text that has tokens leaves nothing but allowed
characters: its words are known words, and are taken out whole.
-/

namespace Reckoner.Gate

open Text

/-! ## Known words at a place -/

theorem ascii_of_mem_vocabulary : ∀ word ∈ vocabulary, ∀ l ∈ word, l.toNat < 0x80 := by
  decide

theorem ne_nil_of_mem_vocabulary : ∀ word ∈ vocabulary, word ≠ [] := by
  decide

/-- The known words that a place spells. -/
theorem vocabularyAt_eq (before : Option Char) (t : Text) :
    vocabularyAt before t =
      (vocabulary.find? fun word => word <+: t.map foldedChar).map List.length := by
  rw [vocabularyAt]
  refine congrArg _ (List.find?_congr fun word mem => ?_)
  rw [Bool.eq_iff_iff, decide_eq_true_iff]
  exact afterPattern?_isSome_iff (ascii_of_mem_vocabulary word mem)

theorem vocabularyAt_eq_none_iff {before : Option Char} {t : Text} :
    vocabularyAt before t = none ↔ ∀ word ∈ vocabulary, ¬ word <+: t.map foldedChar := by
  simp [vocabularyAt_eq]

theorem vocabularyAt_nil (before : Option Char) : vocabularyAt before [] = none := by
  refine vocabularyAt_eq_none_iff.mpr fun word mem front => ?_
  exact ne_nil_of_mem_vocabulary word mem (List.prefix_nil.mp front)

theorem exists_word_of_vocabularyAt {before : Option Char} {t : Text} {n : Nat}
    (found : vocabularyAt before t = some n) :
    ∃ word ∈ vocabulary, word.length = n ∧ word <+: t.map foldedChar := by
  rw [vocabularyAt_eq, Option.map_eq_some_iff] at found
  rcases found with ⟨word, first, length⟩
  have spelled := List.find?_some first
  rw [decide_eq_true_iff] at spelled
  exact ⟨word, List.mem_of_find?_eq_some first, length, spelled⟩

theorem length_le_of_vocabularyAt {before : Option Char} {t : Text} {n : Nat}
    (found : vocabularyAt before t = some n) : 0 < n ∧ n ≤ t.length := by
  rcases exists_word_of_vocabularyAt found with ⟨word, mem, rfl, spelled⟩
  refine ⟨List.length_pos_iff.mpr (ne_nil_of_mem_vocabulary word mem), ?_⟩
  simpa using spelled.length_le

/-! ## Remainders -/

/-- What stands before a text is of no account. -/
theorem replacedFrom_vocabularyAt (before : Option Char) (t : Text) :
    replacedFrom vocabularyAt [] before t = remainder t := by
  rw [remainder, replaced]
  cases t with
  | nil => rw [replacedFrom_nil, replacedFrom_nil]
  | cons c rest =>
      have same : vocabularyAt before (c :: rest) = vocabularyAt none (c :: rest) := rfl
      rw [replacedFrom, replacedFrom, same]

@[simp]
theorem remainder_nil : remainder [] = [] := by
  rw [remainder, replaced, replacedFrom_nil]

theorem remainder_cons_of_none {c : Char} {rest : Text}
    (none : vocabularyAt none (c :: rest) = none) :
    remainder (c :: rest) = c :: remainder rest := by
  rw [remainder, replaced, replacedFrom, none]
  exact congrArg (c :: ·) (replacedFrom_vocabularyAt (some c) rest)

theorem remainder_of_some {t : Text} {n : Nat} (found : vocabularyAt none t = some n) :
    remainder t = remainder (t.drop n) := by
  cases t with
  | nil =>
      rw [vocabularyAt_nil] at found
      contradiction
  | cons c rest =>
      obtain ⟨n, rfl⟩ := Nat.exists_eq_add_one_of_ne_zero (length_le_of_vocabularyAt found).1.ne'
      rw [remainder, replaced, replacedFrom, found]
      exact replacedFrom_vocabularyAt _ _

/-- Induction along the places of a text that its remainder is found at. -/
theorem remainder_induct {motive : Text → Prop} (nil : motive [])
    (kept : ∀ c rest, vocabularyAt none (c :: rest) = none → motive rest → motive (c :: rest))
    (taken : ∀ t n, vocabularyAt none t = some n → motive (t.drop n) → motive t) (t : Text) :
    motive t := by
  induction length : t.length using Nat.strong_induction_on generalizing t with
  | _ k ih =>
  cases found : vocabularyAt none t with
  | none =>
      cases t with
      | nil => exact nil
      | cons c rest =>
          refine kept c rest found (ih rest.length ?_ rest rfl)
          rw [← length]
          exact Nat.lt_succ_self _
  | some n =>
      have ⟨positive, inside⟩ := length_le_of_vocabularyAt found
      refine taken t n found (ih _ ?_ _ rfl)
      rw [List.length_drop, length]
      omega

/-! ## Cutting a text in two -/

/-- No known word starts at the front of the text or reaches into it from before. -/
def Apart (t : Text) : Prop :=
  ∀ word ∈ vocabulary, ∀ tail : Text, tail <:+ word → tail ≠ [] → ¬ tail <+: t.map foldedChar

/-- A word at the front of two texts reaches over the end of the first one or not. -/
theorem prefix_append_cases {word a b : Text} (front : word <+: a ++ b) :
    word <+: a ∨ ∃ tail, tail ≠ [] ∧ word = a ++ tail ∧ tail <+: b := by
  rcases front with ⟨rest, whole⟩
  rcases List.append_eq_append_iff.mp whole with ⟨_, inFront, _⟩ | ⟨tail, across, inRest⟩
  · exact .inl ⟨_, inFront.symm⟩
  · by_cases none : tail = []
    · exact .inl ⟨[], by rw [across, none, List.append_nil, List.append_nil]⟩
    · exact .inr ⟨tail, none, across, ⟨rest, inRest.symm⟩⟩

theorem prefix_append_iff_of_apart {word b : Text} (mem : word ∈ vocabulary) (apart : Apart b)
    (a : Text) : word <+: (a ++ b).map foldedChar ↔ word <+: a.map foldedChar := by
  rw [List.map_append]
  refine ⟨fun front => ?_, fun front => front.trans (List.prefix_append _ _)⟩
  rcases prefix_append_cases front with inFront | ⟨tail, nonempty, across, inRest⟩
  · exact inFront
  · exact absurd inRest (apart word mem tail ⟨_, across.symm⟩ nonempty)

theorem vocabularyAt_append_of_apart {b : Text} (apart : Apart b) (before : Option Char)
    (a : Text) : vocabularyAt before (a ++ b) = vocabularyAt before a := by
  rw [vocabularyAt_eq, vocabularyAt_eq]
  refine congrArg _ (List.find?_congr fun word mem => ?_)
  rw [Bool.eq_iff_iff, decide_eq_true_iff, decide_eq_true_iff]
  exact prefix_append_iff_of_apart mem apart a

/-- A remainder splits where no known word crosses the cut. -/
theorem remainder_append_of_apart {b : Text} (apart : Apart b) (a : Text) :
    remainder (a ++ b) = remainder a ++ remainder b := by
  induction a using remainder_induct with
  | nil => rw [remainder_nil, List.nil_append, List.nil_append]
  | kept c rest found ih =>
      have same := (vocabularyAt_append_of_apart apart none (c :: rest)).trans found
      rw [List.cons_append] at same ⊢
      rw [remainder_cons_of_none found, remainder_cons_of_none same, ih, List.cons_append]
  | taken a n found ih =>
      have same := (vocabularyAt_append_of_apart apart none a).trans found
      rw [remainder_of_some found, remainder_of_some same,
        List.drop_append_of_le_length (length_le_of_vocabularyAt found).2, ih]

theorem remainder_cons_of_apart {c : Char} {rest : Text} (apart : Apart (c :: rest)) :
    remainder (c :: rest) = c :: remainder rest := by
  refine remainder_cons_of_none (vocabularyAt_eq_none_iff.mpr fun word mem => ?_)
  exact apart word mem word List.suffix_rfl (ne_nil_of_mem_vocabulary word mem)

/-- The character spells no letter of a known word. -/
def IsForeign (c : Char) : Prop :=
  ∀ word ∈ vocabulary, foldedChar c ∉ word

instance (c : Char) : Decidable (IsForeign c) :=
  inferInstanceAs (Decidable (∀ word ∈ vocabulary, foldedChar c ∉ word))

theorem IsForeign.apart {c : Char} (foreign : IsForeign c) (rest : Text) : Apart (c :: rest) := by
  rintro word mem tail suffix nonempty ⟨others, whole⟩
  obtain ⟨l, tail, rfl⟩ := List.exists_cons_of_ne_nil nonempty
  rw [List.map_cons, List.cons_append, List.cons.injEq] at whole
  exact foreign word mem (whole.1 ▸ suffix.subset List.mem_cons_self)

theorem IsForeign.of_blank {c : Char} (blank : isBlank c = true) : IsForeign c := by
  intro word mem inWord
  rw [foldedChar_of_blank blank] at inWord
  have visible : ∀ word ∈ vocabulary, ∀ l ∈ word, isBlank l = false := by decide
  have contrary := visible word mem c inWord
  rw [blank] at contrary
  contradiction

/-- Foreign characters remain. -/
theorem mem_remainder {c : Char} {t : Text} (foreign : IsForeign c) (mem : c ∈ t) :
    c ∈ remainder t := by
  obtain ⟨a, b, rfl⟩ := List.append_of_mem mem
  rw [remainder_append_of_apart (foreign.apart b), remainder_cons_of_apart (foreign.apart b)]
  simp

/-! ## Texts that look like expressions -/

/-- Apart from known words there are only allowed characters. -/
def IsClean (t : Text) : Prop :=
  ∀ c ∈ remainder t, isAllowed c = true

theorem IsClean.isAllowed {c : Char} {t : Text} (clean : IsClean t) (mem : c ∈ t)
    (foreign : IsForeign c) : Gate.isAllowed c = true :=
  clean c (mem_remainder foreign mem)

theorem isClean_of_isLikelyMath {t : Text} (likely : isLikelyMath t = true) : IsClean t := by
  rw [isLikelyMath, Bool.and_eq_true] at likely
  exact List.all_eq_true.mp likely.2

theorem isClean_of_passes {t : Text} (passes : passes t = true) : IsClean t := by
  rw [Gate.passes, Bool.and_eq_true, Bool.and_eq_true] at passes
  exact isClean_of_isLikelyMath passes.1.1

theorem ne_nil_of_passes {t : Text} (passes : passes t = true) : t ≠ [] := by
  rintro rfl
  rw [Gate.passes, isLikelyMath, remainder_nil] at passes
  contradiction

/-! ### Layout and letter case -/

/-- The layout of a text decides nothing about whether it is clean. -/
theorem isClean_iff_of_words_eq {a b : Text} (same : words a = words b) :
    IsClean a ↔ IsClean b := by
  have visible : ∀ t : Text,
      IsClean t ↔ ∀ c ∈ (remainder t).filter (!isBlank ·), isAllowed c = true := by
    intro t
    simp only [IsClean, List.mem_filter, Bool.not_eq_true']
    refine ⟨fun clean c mem => clean c mem.1, fun clean c mem => ?_⟩
    cases blank : isBlank c with
    | false => exact clean c ⟨mem, blank⟩
    | true => rw [isAllowed, blank]; rfl
  have remains : (remainder a).filter (!isBlank ·) = (remainder b).filter (!isBlank ·) := by
    refine eq_of_words_eq (fun t => (remainder t).filter (!isBlank ·)) (· ++ ·) ?_ ?_ ?_ same
    · intro s a b blank
      have apart := (IsForeign.of_blank blank).apart b
      rw [remainder_append_of_apart apart, remainder_cons_of_apart apart]
      simp [blank]
    · exact fun t => by rw [remainder_nil]; rfl
    · exact fun t => by rw [remainder_nil]; exact List.append_nil _
  rw [visible, visible, remains]

theorem vocabularyAt_map_lowerChar (before : Option Char) (t : Text) :
    vocabularyAt before (t.map lowerChar) = vocabularyAt before t := by
  rw [vocabularyAt_eq, vocabularyAt_eq]
  refine congrArg _ (List.find?_congr fun word mem => ?_)
  rw [Bool.eq_iff_iff, decide_eq_true_iff, decide_eq_true_iff]
  exact prefix_map_lowerChar_iff (ascii_of_mem_vocabulary word mem) t

theorem remainder_map_lowerChar (t : Text) :
    remainder (t.map lowerChar) = (remainder t).map lowerChar := by
  induction t using remainder_induct with
  | nil => rw [List.map_nil, remainder_nil, List.map_nil]
  | kept c rest found ih =>
      have same := (vocabularyAt_map_lowerChar none (c :: rest)).trans found
      rw [remainder_cons_of_none found, List.map_cons, remainder_cons_of_none same, ih,
        List.map_cons]
  | taken t n found ih =>
      have same := (vocabularyAt_map_lowerChar none t).trans found
      rw [remainder_of_some found, remainder_of_some same, ← List.map_drop, ih]

theorem isAllowed_of_not_ascii {c : Char} (large : 0x80 ≤ c.toNat) : isAllowed c = isBlank c := by
  have notDigit : c.isDigit = false := by
    rw [Bool.eq_false_iff, ne_eq, isDigit_iff]
    omega
  have notMark : ∀ marks : List Char, (∀ d ∈ marks, d.toNat < 0x80) → decide (c ∈ marks) = false :=
    fun marks small => decide_eq_false fun mem => absurd (small c mem) (Nat.not_lt.mpr large)
  rw [isAllowed, isOperator, notDigit, notMark _ (by decide), notMark _ (by decide)]
  simp only [Bool.or_false]

@[simp]
theorem isAllowed_lowerChar (c : Char) : isAllowed (lowerChar c) = isAllowed c := by
  by_cases small : c.toNat < 0x80
  · exact of_ascii (p := fun c => isAllowed (lowerChar c) = isAllowed c) (by decide) small
  have large := Nat.le_of_not_lt small
  rcases lowerChar_of_not_ascii large with same | ⟨run, mem, inRun, inImage⟩
  · rw [same]
  · rcases image_of_mem_lowered run mem with beyond | ⟨_, isFirst, isLast⟩
    · have imageLarge : 0x80 ≤ (lowerChar c).toNat := by omega
      rw [isAllowed_of_not_ascii large, isAllowed_of_not_ascii imageLarge, isBlank_lowerChar]
    · have kelvin : c = '\u212a' := Char.toNat_inj.mp (show c.toNat = 0x212a by omega)
      rw [kelvin]
      decide

/-- What is plain in lower case was so before. -/
theorem IsClean.isPlain {t : Text} (clean : IsClean t) (plain : ∀ c ∈ t.map lowerChar, IsPlain c) :
    ∀ c ∈ t, IsPlain c := by
  intro c mem
  refine (isPlain_of_lowerChar (plain _ (List.mem_map_of_mem mem))).resolve_right ?_
  rintro rfl
  have foreign : IsForeign '\u212a' := by decide
  have refused : Gate.isAllowed '\u212a' = false := by decide
  rw [clean.isAllowed mem foreign] at refused
  contradiction

theorem isClean_map_lowerChar_iff {t : Text} : IsClean (t.map lowerChar) ↔ IsClean t := by
  simp [IsClean, remainder_map_lowerChar]

/-! ### Texts that have tokens -/

theorem IsForeign.of_mark {c : Char} {token : Token} (isMark : Token.ofMark? c = some token) :
    IsForeign c := by
  have marks : ∀ m ∈ Token.marks, IsForeign m.1 := by decide
  exact marks _ (Token.mem_marks isMark)

theorem IsForeign.of_not_alphanum {c : Char} (ascii : c.toNat < 0x80)
    (other : c.isAlphanum = false) : IsForeign c :=
  of_ascii (p := fun c => c.isAlphanum = false → IsForeign c) (by decide +kernel) ascii other

theorem map_foldedChar {letters : Text} (alphanum : ∀ c ∈ letters, c.isAlphanum = true) :
    letters.map foldedChar = letters.map Char.toLower :=
  List.map_congr_left fun c mem => of_ascii (p := fun c => foldedChar c = c.toLower) (by decide)
    (ascii_of_isAlphanum (alphanum c mem))

/-- A known word is taken out whole. -/
theorem remainder_word {letters : Text} (alphanum : ∀ c ∈ letters, c.isAlphanum = true)
    (known : letters.map Char.toLower ∈ vocabulary) : remainder letters = [] := by
  have longest : ∀ word ∈ vocabulary,
      (vocabulary.find? fun other => other <+: word) = some word := by decide
  have found : vocabularyAt none letters = some letters.length := by
    rw [vocabularyAt_eq, map_foldedChar alphanum, longest _ known, Option.map_some, List.length_map]
  rw [remainder_of_some found, List.drop_length, remainder_nil]

/-- A known word that ends where it stands is taken out, and nothing of what follows it. -/
theorem remainder_word_append {letters t : Text} (alphanum : ∀ c ∈ letters, c.isAlphanum = true)
    (known : letters.map Char.toLower ∈ vocabulary) (plain : ∀ c ∈ t, IsPlain c)
    (ends : ∀ c ∈ t.head?, c.isAlphanum = false) : remainder (letters ++ t) = remainder t := by
  have apart : Apart t := by
    cases t with
    | nil =>
        rintro word mem tail suffix nonempty front
        exact nonempty (List.prefix_nil.mp front)
    | cons c t =>
        rcases plain c List.mem_cons_self with ascii | blank
        · exact (IsForeign.of_not_alphanum ascii (ends c rfl)).apart t
        · exact (IsForeign.of_blank blank).apart t
  rw [remainder_append_of_apart apart, remainder_word alphanum known, List.nil_append]

theorem vocabularyAt_of_head {c : Char} (head : ∀ word ∈ vocabulary, word.head? ≠ some (foldedChar c))
    (rest : Text) : vocabularyAt none (c :: rest) = none := by
  refine vocabularyAt_eq_none_iff.mpr ?_
  rintro word mem ⟨tail, whole⟩
  obtain ⟨l, word, rfl⟩ := List.exists_cons_of_ne_nil (ne_nil_of_mem_vocabulary word mem)
  rw [List.map_cons, List.cons_append, List.cons.injEq] at whole
  exact head _ mem (congrArg some whole.1)

theorem remainder_digits {digits : Text} (all : ∀ c ∈ digits, c.isDigit = true) (t : Text) :
    remainder (digits ++ t) = digits ++ remainder t := by
  induction digits with
  | nil => rfl
  | cons c digits ih =>
      have ⟨head, tail⟩ := List.forall_mem_cons.mp all
      have alone : ∀ word ∈ vocabulary, word.head? ≠ some (foldedChar c) :=
        of_ascii (p := fun c => c.isDigit = true →
          ∀ word ∈ vocabulary, word.head? ≠ some (foldedChar c)) (by decide)
          (ascii_of_isDigit head) head
      rw [List.cons_append, remainder_cons_of_none (vocabularyAt_of_head alone _), ih tail,
        List.cons_append]

/-- The `e` of an exponent is taken out, since no `x` follows it. -/
theorem remainder_exponentMark {mark c : Char} (isMark : mark = 'e' ∨ mark = 'E')
    (other : foldedChar c ≠ 'x') (rest : Text) :
    remainder (mark :: c :: rest) = remainder (c :: rest) := by
  have folded : foldedChar mark = 'e' := by rcases isMark with rfl | rfl <;> decide
  have longer : ∀ word ∈ vocabulary, word = ['e'] ∨ word.head? ≠ some 'e' ∨
      word.take 2 = ['e', 'x'] := by decide
  have found : vocabularyAt none (mark :: c :: rest) = some 1 := by
    have only : ∀ word ∈ vocabulary,
        decide (word <+: (mark :: c :: rest).map foldedChar) = decide (word = ['e']) := by
      intro word mem
      rw [decide_eq_decide, List.map_cons, List.map_cons, folded]
      rcases longer word mem with rfl | head | two
      · exact ⟨fun _ => rfl, fun _ => ⟨_, rfl⟩⟩
      · refine ⟨fun front => absurd ?_ head, fun single => absurd (by rw [single]; rfl) head⟩
        obtain ⟨l, word, rfl⟩ := List.exists_cons_of_ne_nil (ne_nil_of_mem_vocabulary word mem)
        rw [List.head?_cons, (List.cons_prefix_cons.mp front).1]
      · refine ⟨fun front => absurd ?_ other, fun single => ?_⟩
        · have short := (List.take_prefix 2 word).trans front
          rw [two] at short
          exact (List.cons_prefix_cons.mp (List.cons_prefix_cons.mp short).2).1.symm
        · rw [single] at two
          contradiction
    have single : (vocabulary.find? fun word => word = ['e']) = some ['e'] := by decide
    rw [vocabularyAt_eq, List.find?_congr only, single]
    rfl
  exact remainder_of_some found

theorem isAllowed_of_isDigit {c : Char} (digit : c.isDigit = true) : isAllowed c = true := by
  simp [isAllowed, digit]

theorem foldedChar_ne_of_isDigit {c : Char} (digit : c.isDigit = true) : foldedChar c ≠ 'x' :=
  of_ascii (p := fun c => c.isDigit = true → foldedChar c ≠ 'x') (by decide)
    (ascii_of_isDigit digit) digit

namespace IsClean

variable {t : Text}

theorem cons {c : Char} (foreign : IsForeign c) (allowed : Gate.isAllowed c = true)
    (clean : IsClean t) : IsClean (c :: t) := by
  rw [IsClean, remainder_cons_of_apart (foreign.apart t)]
  exact List.forall_mem_cons.mpr ⟨allowed, clean⟩

theorem digits_append {digits : Text} (all : ∀ c ∈ digits, c.isDigit = true) (clean : IsClean t) :
    IsClean (digits ++ t) := by
  rw [IsClean, remainder_digits all]
  exact List.forall_mem_append.mpr ⟨fun c mem => isAllowed_of_isDigit (all c mem), clean⟩

theorem exponent_append {p : ExponentPart} (scanned : p.IsScanned) (clean : IsClean t) :
    IsClean (p.text ++ t) := by
  rcases p with ⟨mark, sign, digits⟩
  have rest : IsClean (digits ++ t) := clean.digits_append scanned.digits
  cases sign with
  | none =>
      obtain ⟨d, digits, rfl⟩ := List.exists_cons_of_ne_nil scanned.digits_ne_nil
      have digit := scanned.digits d List.mem_cons_self
      have skipped := remainder_exponentMark scanned.mark (foldedChar_ne_of_isDigit digit)
        (digits ++ t)
      exact fun c mem => rest c (skipped ▸ mem)
  | some s =>
      have signs : ∀ s ∈ ['+', '-'], foldedChar s ≠ 'x' ∧ Gate.isAllowed s = true ∧
          s.toNat < 0x80 ∧ s.isAlphanum = false := by decide
      rcases signs s (by simpa using scanned.sign s rfl) with ⟨other, allowed, ascii, apart⟩
      have skipped := remainder_exponentMark scanned.mark other (digits ++ t)
      have signed := rest.cons (.of_not_alphanum ascii apart) allowed
      exact fun c mem => signed c (skipped ▸ mem)

theorem numeral_append {n : Numeral} (scanned : n.IsScanned) (clean : IsClean t) :
    IsClean (n.text ++ t) := by
  rcases n with ⟨whole, fraction, exponent⟩
  have fromExponent : IsClean (exponent.elim [] ExponentPart.text ++ t) := by
    cases exponent with
    | none => exact clean
    | some p => exact clean.exponent_append (scanned.exponent p rfl)
  have fromFraction : IsClean (fraction.elim [] ('.' :: ·) ++
      (exponent.elim [] ExponentPart.text ++ t)) := by
    cases fraction with
    | none => exact fromExponent
    | some digits =>
        exact (fromExponent.digits_append (scanned.fraction digits rfl)).cons
          (.of_not_alphanum (by decide) (by decide)) (by decide)
  rw [Numeral.text, List.append_assoc, List.append_assoc]
  exact fromFraction.digits_append scanned.whole

end IsClean

/-- A text that has tokens leaves nothing but allowed characters. -/
theorem isClean_of_renders {tokens : List Token} {t : Text} (renders : Renders tokens t) :
    IsClean t := by
  induction renders with
  | nil =>
      intro c mem
      rw [remainder_nil] at mem
      contradiction
  | blank isBlank _ clean =>
      exact clean.cons (.of_blank isBlank) (by rw [isAllowed, isBlank]; rfl)
  | mark isMark _ clean =>
      have marks : ∀ m ∈ Token.marks, isAllowed m.1 = true := by decide
      exact clean.cons (.of_mark isMark) (marks _ (Token.mem_marks isMark))
  | @word c letters token tokens t head tail known ends rest clean =>
      have alphanum : ∀ d ∈ c :: letters, d.isAlphanum = true :=
        List.forall_mem_cons.mpr ⟨Bool.or_eq_true_iff.mpr (.inl head), tail⟩
      rw [IsClean,
        remainder_word_append alphanum (Token.mem_vocabulary known) rest.isPlain ends]
      exact clean
  | numeral scanned _ _ clean => exact clean.numeral_append scanned

end Reckoner.Gate
