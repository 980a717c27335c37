import Mathlib.Data.List.Infix
import Reckoner.Proofs.Gate.Lexeme

/-!
# Compound words

The gate takes known words out wherever they stand, so that a word of a text that looks like an
expression need not be a known one: it may be put together of known words and digits. A long s
beside a word is the one character that a known word can share with it, and nothing else passes.
-/

namespace Reckoner

open Text

/-- The pieces of a text make up the text. -/
theorem Cuts.flatMap_text {t : Text} {ls : List Lexeme} (cut : Cuts t ls) :
    ls.flatMap Lexeme.text = t := by
  rw [cut.eq_lexemes, flatMap_text_lexemes]

theorem ExponentPart.IsScanned.isDigit_getLast {p : ExponentPart} (scanned : p.IsScanned) {c : Char}
    (last : c ∈ p.text.getLast?) : c.isDigit = true := by
  rw [text, List.getLast?_append_of_ne_nil _ scanned.digits_ne_nil] at last
  exact scanned.digits c (List.mem_of_getLast? last)

/-- A numeral ends with a digit or with its point. -/
theorem Numeral.IsScanned.not_isAlpha_getLast {n : Numeral} (scanned : n.IsScanned) {c : Char}
    (last : c ∈ n.text.getLast?) : c.isAlpha = false := by
  have digits : ∀ {d : Char}, d.isDigit = true → d.isAlpha = false := by
    intro d digit
    rw [Bool.eq_false_iff, ne_eq, isAlpha_iff]
    rw [isDigit_iff] at digit
    omega
  rcases n with ⟨whole, fraction, exponent⟩
  rw [text, List.getLast?_append, List.getLast?_append, Option.mem_def, Option.or_eq_some_iff,
    Option.or_eq_some_iff] at last
  rcases last with behindMark | ⟨_, behindPoint | ⟨_, digit⟩⟩
  · cases exponent with
    | none => cases behindMark
    | some p => exact digits ((scanned.exponent p rfl).isDigit_getLast behindMark)
  · cases fraction with
    | none => cases behindPoint
    | some f =>
        rcases List.mem_cons.mp (List.mem_of_getLast? behindPoint) with rfl | digit
        · decide
        · exact digits (scanned.fraction f rfl c digit)
  · exact digits (scanned.whole c (List.mem_of_getLast? digit))

/-- The text `w` stands between two others as a word does: it is made of letters and digits, with a
letter in front, no letter stands before it, and neither a letter nor a digit behind it. -/
structure IsWordBetween (front w back : Text) : Prop where
  before : ∀ c ∈ front.getLast?, c.isAlpha = false
  head : ∃ c letters, w = c :: letters ∧ c.isAlpha = true
  letters : ∀ c ∈ w, c.isAlphanum = true
  after : ∀ c ∈ back.head?, c.isAlphanum = false

theorem IsWordBetween.append {front w back : Text} (stands : IsWordBetween front w back) {l : Text}
    (alone : front = [] → ∀ c ∈ l.getLast?, c.isAlpha = false) :
    IsWordBetween (l ++ front) w back where
  before := by
    intro c last
    rw [List.getLast?_append, Option.mem_def, Option.or_eq_some_iff, List.getLast?_eq_none_iff]
      at last
    rcases last with inFront | ⟨empty, inPiece⟩
    · exact stands.before c inFront
    · exact alone empty c inPiece
  head := stands.head
  letters := stands.letters
  after := stands.after

/-- What a text is cut into as a word stands as one between the texts around it. -/
theorem Cuts.isWordBetween {t : Text} {before after : List Lexeme} {w : Text}
    (cut : Cuts t (before ++ .word w :: after)) :
    IsWordBetween (before.flatMap Lexeme.text) w (after.flatMap Lexeme.text) := by
  induction before generalizing t with
  | nil =>
      cases cut with
      | @word c letters rest _ head tail ends rest =>
          rw [rest.flatMap_text]
          exact ⟨fun _ none => by contradiction, ⟨c, letters, rfl, head⟩,
            List.forall_mem_cons.mpr ⟨Bool.or_eq_true_iff.mpr (.inl head), tail⟩, ends⟩
  | cons l before ih =>
      rw [List.flatMap_cons]
      cases cut with
      | numeral _ longest rest =>
          exact (ih rest).append fun _ c last => longest.scanned.not_isAlpha_getLast last
      | @word _ _ rest _ _ _ ends cut =>
          refine (ih cut).append fun empty => ?_
          -- With nothing in between, the one word would have gone on with the other.
          rcases (ih cut).head with ⟨c, letters, rfl, alpha⟩
          have whole : (before ++ .word (c :: letters) :: after).flatMap Lexeme.text = rest :=
            cut.flatMap_text
          rw [List.flatMap_append, empty, List.nil_append, List.flatMap_cons] at whole
          have stops := ends c (by rw [← whole]; rfl)
          rw [Char.isAlphanum, alpha] at stops
          contradiction
      | mark _ notWord rest =>
          refine (ih rest).append fun _ c last => ?_
          cases last
          exact notWord

namespace Gate

/-! ## Known words over the end of a text -/

/-- The letters of known words are spelled by letters, digits and the long s. -/
theorem isAlphanum_or_eq_longS {word : Text} {c : Char} (mem : word ∈ vocabulary)
    (inWord : foldedChar c ∈ word) : c.isAlphanum = true ∨ c = 'ſ' := by
  by_cases ascii : c.toNat < 0x80
  · left
    exact of_ascii (p := fun c => ∀ word ∈ vocabulary, foldedChar c ∈ word → c.isAlphanum = true)
      (by decide +kernel) ascii word mem inWord
  · right
    by_contra other
    have longS : c.toNat ≠ 0x17f := fun same => other (Char.toNat_inj.mp same)
    by_cases kelvin : c = '\u212a'
    · rw [kelvin] at inWord
      have foreign : IsForeign '\u212a' := by decide
      exact foreign word mem inWord
    · have notKelvin : c.toNat ≠ 0x212a := fun same => kelvin (Char.toNat_inj.mp same)
      rw [foldedChar_of_not_ascii (Nat.le_of_not_lt ascii) longS notKelvin] at inWord
      exact ascii (ascii_of_mem_vocabulary word mem c inWord)

/-- The letter s stands first or last in known words. -/
theorem eq_or_eq_of_tail_s : ∀ word ∈ vocabulary, ∀ tail ∈ word.tails, tail.head? = some 's' →
    tail = word ∨ tail = ['s'] := by
  decide

/-- Digits stand last in known words. -/
theorem isDigit_of_tail_digit : ∀ word ∈ vocabulary, ∀ tail ∈ word.tails,
    tail.head?.any Char.isDigit = true → ∀ c ∈ tail, c.isDigit = true := by
  decide

/-- A known word goes on behind letters and digits only into a long s, and ends there. -/
theorem eq_s_of_across {word a tail back : Text} (mem : word ∈ vocabulary) (before : a ≠ [])
    (nonempty : tail ≠ []) (whole : word = a ++ tail) (across : tail <+: back.map foldedChar)
    (ends : ∀ c ∈ back.head?, c.isAlphanum = false) : tail = ['s'] ∧ back.head? = some 'ſ' := by
  rcases List.exists_cons_of_ne_nil nonempty with ⟨s, tail, rfl⟩
  cases back with
  | nil => cases List.prefix_nil.mp across
  | cons d back =>
      rw [List.map_cons, List.cons_prefix_cons] at across
      have inWord : foldedChar d ∈ word := by
        rw [whole, across.1]
        exact List.mem_append_right _ List.mem_cons_self
      have longS : d = 'ſ' := by
        refine (isAlphanum_or_eq_longS mem inWord).resolve_left fun alphanum => ?_
        rw [ends d rfl] at alphanum
        contradiction
      have isS : s = 's' := by
        rw [across.1, longS]
        decide
      have isTail : s :: tail ∈ word.tails := (List.mem_tails _ _).mpr ⟨a, whole.symm⟩
      rcases eq_or_eq_of_tail_s word mem _ isTail (congrArg some isS) with all | last
      · rw [all, List.self_eq_append_left] at whole
        exact absurd whole before
      · exact ⟨last, congrArg some longS⟩

/-! ## What passes as a word -/

/-- The text is put together of known words and digits. -/
inductive IsCompound : Text → Prop where
  | nil : IsCompound []
  | known {word rest : Text} (mem : word ∈ vocabulary) (others : IsCompound rest) :
      IsCompound (word ++ rest)
  | digit {d : Char} {rest : Text} (isDigit : d.isDigit = true) (others : IsCompound rest) :
      IsCompound (d :: rest)

/-- Of the characters that may remain, those that read as letters and digits are digits. -/
theorem isDigit_of_isAllowed {c : Char} (allowed : isAllowed c = true)
    (letter : (foldedChar c).isAlphanum = true) (unknown : foldedChar c ≠ 'e') :
    c.isDigit = true := by
  by_cases ascii : c.toNat < 0x80
  · exact of_ascii (p := fun c => isAllowed c = true → (foldedChar c).isAlphanum = true →
      foldedChar c ≠ 'e' → c.isDigit = true) (by decide +kernel) ascii allowed letter unknown
  · rw [isAllowed_of_not_ascii (Nat.le_of_not_lt ascii)] at allowed
    rw [foldedChar_of_blank allowed] at letter
    exact absurd (ascii_of_isAlphanum letter) ascii

theorem foldedChar_of_isDigit {c : Char} (digit : c.isDigit = true) : foldedChar c = c :=
  of_ascii (p := fun c => c.isDigit = true → foldedChar c = c) (by decide) (ascii_of_isDigit digit)
    digit

theorem isClean_of_cons {c : Char} {rest : Text} (none : vocabularyAt none (c :: rest) = none)
    (clean : IsClean (c :: rest)) : isAllowed c = true ∧ IsClean rest := by
  rw [IsClean, remainder_cons_of_none none] at clean
  exact List.forall_mem_cons.mp clean

/-- A text is clean if what stands behind a known word at its front is. -/
theorem isClean_append_iff {word front back : Text}
    (found : vocabularyAt none (front ++ back) = some word.length)
    (inside : word <+: front.map foldedChar) :
    IsClean (front ++ back) ↔ IsClean (front.drop word.length ++ back) := by
  have fits : word.length ≤ front.length := by simpa using inside.length_le
  rw [IsClean, remainder_of_some found, List.drop_append_of_le_length fits]
  rfl

theorem length_drop_lt {word front : Text} (mem : word ∈ vocabulary)
    (inside : word <+: front.map foldedChar) :
    (front.drop word.length).length < front.length := by
  have fits : word.length ≤ front.length := by simpa using inside.length_le
  have nonempty := List.length_pos_iff.mpr (ne_nil_of_mem_vocabulary word mem)
  rw [List.length_drop]
  omega

/-- A clean text starts with known words and digits, up to the first character that is no letter and
no digit, or up to a long s at that place. -/
theorem exists_isCompound_of_isClean {letters back : Text}
    (read : ∀ c ∈ letters, (foldedChar c).isAlphanum = true)
    (ends : ∀ c ∈ back.head?, c.isAlphanum = false) (clean : IsClean (letters ++ back)) :
    ∃ b, (b = [] ∨ b = ['s'] ∧ back.head? = some 'ſ') ∧
      IsCompound (letters.map foldedChar ++ b) := by
  induction length : letters.length using Nat.strong_induction_on generalizing letters with
  | _ n ih =>
  cases letters with
  | nil => exact ⟨[], .inl rfl, .nil⟩
  | cons c letters =>
      cases found : vocabularyAt none (c :: letters ++ back) with
      | none =>
          have unknown : foldedChar c ≠ 'e' := by
            intro isE
            refine vocabularyAt_eq_none_iff.mp found ['e'] (by decide) ?_
            rw [List.cons_append, List.map_cons, isE]
            exact ⟨_, rfl⟩
          rcases isClean_of_cons found clean with ⟨allowed, clean⟩
          have digit := isDigit_of_isAllowed allowed (read c List.mem_cons_self) unknown
          rcases ih letters.length (by simp [← length]) (List.forall_mem_cons.mp read).2 clean rfl
            with ⟨b, behind, compound⟩
          refine ⟨b, behind, ?_⟩
          rw [List.map_cons, foldedChar_of_isDigit digit, List.cons_append]
          exact .digit digit compound
      | some k =>
          rcases exists_word_of_vocabularyAt found with ⟨word, mem, rfl, front⟩
          rw [List.map_append] at front
          rcases prefix_append_cases front with inside | ⟨tail, nonempty, whole, across⟩
          · -- The known word lies inside of the letters.
            have dropClean := (isClean_append_iff found inside).mp clean
            have shorter := length_drop_lt mem inside
            rw [length] at shorter
            rcases ih _ shorter (fun d mem => read d (List.mem_of_mem_drop mem)) dropClean rfl
              with ⟨b, behind, compound⟩
            refine ⟨b, behind, ?_⟩
            rcases inside with ⟨rest, split⟩
            have dropped : ((c :: letters).drop word.length).map foldedChar = rest := by
              rw [List.map_drop, ← split, List.drop_left]
            rw [← split, List.append_assoc, ← dropped]
            exact .known mem compound
          · -- The known word goes on behind the letters.
            rcases eq_s_of_across mem (by simp) nonempty whole across ends with ⟨rfl, longS⟩
            refine ⟨['s'], .inr ⟨rfl, longS⟩, ?_⟩
            rw [← whole, ← List.append_nil word]
            exact .known mem .nil

/-- A known word goes on into a word with a letter in front only from a long s, and starts there. -/
theorem eq_longS_of_across {word front tail u : Text} (mem : word ∈ vocabulary)
    (before : ∀ c ∈ front.getLast?, c.isAlpha = false)
    (head : ∃ c letters, u = c :: letters ∧ c.isAlpha = true) (nonempty : front ≠ [])
    (reaches : tail ≠ []) (whole : word = front.map foldedChar ++ tail)
    (across : tail <+: u.map foldedChar) : front = ['ſ'] := by
  rcases head with ⟨c, letters, rfl, alpha⟩
  rcases List.exists_cons_of_ne_nil reaches with ⟨first, tail, rfl⟩
  rw [List.map_cons, List.cons_prefix_cons] at across
  rcases (List.eq_nil_or_concat front).resolve_left nonempty with ⟨init, l, rfl⟩
  rw [List.concat_eq_append, List.map_append, List.append_assoc] at whole
  have isTail : foldedChar l :: first :: tail ∈ word.tails :=
    (List.mem_tails _ _).mpr ⟨init.map foldedChar, whole.symm⟩
  have inWord : foldedChar l ∈ word :=
    ((List.mem_tails _ _).mp isTail).subset List.mem_cons_self
  rcases isAlphanum_or_eq_longS mem inWord with alphanum | longS
  · have notAlpha : l.isAlpha = false := before l (by simp)
    have digit : l.isDigit = true := by
      rwa [Char.isAlphanum, notAlpha, Bool.false_or] at alphanum
    rw [foldedChar_of_isDigit digit] at isTail
    have letterDigit := isDigit_of_tail_digit word mem _ isTail digit first (by simp)
    have folded : (foldedChar c).isDigit = false :=
      of_ascii (p := fun c => c.isAlpha = true → (foldedChar c).isDigit = false) (by decide)
        (ascii_of_isAlphanum (Bool.or_eq_true_iff.mpr (.inl alpha))) alpha
    rw [across.1, folded] at letterDigit
    contradiction
  · have isS : foldedChar l = 's' := by
      rw [longS]
      decide
    rcases eq_or_eq_of_tail_s word mem _ isTail (congrArg some isS) with all | last
    · rw [← all, List.map_singleton, List.singleton_append, List.self_eq_append_left,
        List.map_eq_nil_iff] at whole
      rw [whole, longS]
      rfl
    · exact absurd (List.cons.inj last).2 (List.cons_ne_nil _ _)

/-- A clean text is clean from a word in it on, or from the long s in front of the word. -/
theorem isClean_of_append {front u : Text} (before : ∀ c ∈ front.getLast?, c.isAlpha = false)
    (head : ∃ c letters, u = c :: letters ∧ c.isAlpha = true) (clean : IsClean (front ++ u)) :
    IsClean u ∨ front.getLast? = some 'ſ' ∧ IsClean ('ſ' :: u) := by
  induction length : front.length using Nat.strong_induction_on generalizing front with
  | _ n ih =>
  by_cases empty : front = []
  · rw [empty] at clean
    exact .inl clean
  obtain longS | ⟨taken, rest, nonempty, split, rest_clean⟩ : front = ['ſ'] ∨
      ∃ taken rest, taken ≠ [] ∧ front = taken ++ rest ∧ IsClean (rest ++ u) := by
    cases found : vocabularyAt none (front ++ u) with
    | none =>
        obtain ⟨c, rest, rfl⟩ := List.exists_cons_of_ne_nil empty
        exact .inr ⟨[c], rest, List.cons_ne_nil _ _, rfl, (isClean_of_cons found clean).2⟩
    | some k =>
        rcases exists_word_of_vocabularyAt found with ⟨word, mem, rfl, spelled⟩
        rw [List.map_append] at spelled
        rcases prefix_append_cases spelled with inside | ⟨tail, reaches, whole, across⟩
        · refine .inr ⟨front.take word.length, _, ?_, (List.take_append_drop _ _).symm,
            (isClean_append_iff found inside).mp clean⟩
          simp [ne_nil_of_mem_vocabulary word mem, empty]
        · exact .inl (eq_longS_of_across mem before head empty reaches whole across)
  · subst longS
    exact .inr ⟨rfl, clean⟩
  · subst split
    have shorter : rest.length < n := by
      rw [← length, List.length_append]
      have := List.length_pos_iff.mpr nonempty
      omega
    have same : ∀ c ∈ rest.getLast?, c ∈ (taken ++ rest).getLast? :=
      fun c last => List.mem_getLast?_append_of_mem_getLast? last
    apply (ih _ shorter (fun c last => before c (same c last)) rest_clean rfl).imp_right
    exact And.imp_left (same 'ſ')

/-- The words of a clean text are made of known words and digits, if a long s beside them may be
read with them. -/
theorem exists_isCompound_of_isWordBetween {front w back : Text}
    (stands : IsWordBetween front w back) (clean : IsClean (front ++ (w ++ back))) :
    ∃ a b, (a = [] ∨ a = ['s'] ∧ front.getLast? = some 'ſ') ∧
      (b = [] ∨ b = ['s'] ∧ back.head? = some 'ſ') ∧
      IsCompound (a ++ w.map Char.toLower ++ b) := by
  have read : ∀ c ∈ w, (foldedChar c).isAlphanum = true := fun c mem =>
    of_ascii (p := fun c => c.isAlphanum = true → (foldedChar c).isAlphanum = true) (by decide)
      (ascii_of_isAlphanum (stands.letters c mem)) (stands.letters c mem)
  have head : ∃ c letters, w ++ back = c :: letters ∧ c.isAlpha = true := by
    rcases stands.head with ⟨c, letters, rfl, alpha⟩
    exact ⟨c, letters ++ back, rfl, alpha⟩
  rw [← map_foldedChar stands.letters]
  rcases isClean_of_append stands.before head clean with clean | ⟨last, clean⟩
  · rcases exists_isCompound_of_isClean read stands.after clean with ⟨b, behind, compound⟩
    exact ⟨[], b, .inl rfl, behind, compound⟩
  · have readS : ∀ c ∈ 'ſ' :: w, (foldedChar c).isAlphanum = true :=
      List.forall_mem_cons.mpr ⟨by decide, read⟩
    rcases exists_isCompound_of_isClean readS stands.after clean with ⟨b, behind, compound⟩
    exact ⟨['s'], b, .inr ⟨rfl, last⟩, behind, compound⟩

/-! ## Every compound word passes -/

/-- Longer words stand before those that they start with. -/
theorem vocabulary_pairwise : vocabulary.Pairwise fun first second => ¬ first <+: second := by
  decide +kernel

theorem isDigit_head_of_mem_vocabulary : ∀ word ∈ vocabulary,
    word.head?.all fun c => !c.isDigit && c != 'x' := by
  decide

/-- A known word that starts with another one goes on with the base ten or with an x. -/
theorem drop_of_prefix_of_mem_vocabulary : ∀ word ∈ vocabulary, ∀ longer ∈ vocabulary,
    word <+: longer → longer.drop word.length = [] ∨ longer.drop word.length = ['1', '0'] ∨
      (longer.drop word.length).head? = some 'x' := by
  decide

/-- Where a known word stands the longest one is found. -/
theorem vocabularyAt_of_prefix {word t : Text} (mem : word ∈ vocabulary)
    (front : word <+: t.map foldedChar) : ∃ longer ∈ vocabulary,
      vocabularyAt none t = some longer.length ∧ word <+: longer ∧ longer <+: t.map foldedChar := by
  cases found : vocabulary.find? fun word => word <+: t.map foldedChar with
  | none => exact absurd front (by simpa using List.find?_eq_none.mp found word mem)
  | some longer =>
      have spelled := List.find?_some found
      rw [decide_eq_true_iff] at spelled
      refine ⟨longer, List.mem_of_find?_eq_some found, by rw [vocabularyAt_eq, found]; rfl, ?_,
        spelled⟩
      rcases (List.find?_eq_some_iff_append.mp found).2 with ⟨before, after, whole, none⟩
      have order := vocabulary_pairwise
      rw [whole, List.mem_append, List.mem_cons] at mem
      rw [whole, List.pairwise_append, List.pairwise_cons] at order
      rcases mem with earlier | rfl | later
      · exact absurd front (by simpa using none word earlier)
      · exact List.prefix_rfl
      · exact (List.prefix_or_prefix_of_prefix front spelled).resolve_right
          (order.2.1.1 word later)

namespace IsCompound

theorem cons_cases {c : Char} {rest : Text} (compound : IsCompound (c :: rest)) :
    c.isDigit = true ∧ IsCompound rest ∨
      ∃ word ∈ vocabulary, ∃ others, c :: rest = word ++ others ∧ IsCompound others := by
  generalize same : c :: rest = t at compound
  cases compound with
  | nil => cases same
  | known mem others => exact .inr ⟨_, mem, _, rfl, others⟩
  | digit isDigit others =>
      cases same
      exact .inl ⟨isDigit, others⟩

theorem head_cases {c : Char} {rest : Text} (compound : IsCompound (c :: rest)) :
    c.isDigit = true ∧ IsCompound rest ∨ c.isDigit = false ∧ c ≠ 'x' := by
  refine compound.cons_cases.imp_right ?_
  rintro ⟨word, mem, others, split, _⟩
  obtain ⟨l, word, rfl⟩ := List.exists_cons_of_ne_nil (ne_nil_of_mem_vocabulary word mem)
  cases split
  simpa using isDigit_head_of_mem_vocabulary _ mem

/-- What makes a known word a longer one is compound, too. -/
theorem drop {word extra others : Text} (mem : word ∈ vocabulary)
    (longer : word ++ extra ∈ vocabulary) (inside : extra <+: others)
    (compound : IsCompound others) : IsCompound (others.drop extra.length) := by
  have digit : ∀ {d : Char} {rest : Text}, d.isDigit = true → IsCompound (d :: rest) →
      IsCompound rest := by
    intro d rest digit compound
    rcases compound.head_cases with ⟨_, rest⟩ | ⟨notDigit, _⟩
    · exact rest
    · rw [digit] at notDigit
      contradiction
  rcases inside with ⟨rest, rfl⟩
  have known := drop_of_prefix_of_mem_vocabulary word mem _ longer (List.prefix_append _ _)
  rw [List.drop_left] at known
  rw [List.drop_left]
  rcases known with rfl | rfl | x
  · exact compound
  · exact digit (by decide) (digit (by decide) compound)
  · obtain ⟨tail, rfl⟩ := List.head?_eq_some_iff.mp x
    rcases compound.head_cases with ⟨isDigit, _⟩ | ⟨_, other⟩
    · exact absurd isDigit (by decide)
    · exact absurd rfl other

/-- Whatever a compound word is put together of, the gate takes it out down to its digits. -/
theorem isClean_append {w back : Text} (letters : ∀ c ∈ w, c.isAlphanum = true)
    (compound : IsCompound (w.map Char.toLower)) (apart : Apart back) (clean : IsClean back) :
    IsClean (w ++ back) := by
  induction length : w.length using Nat.strong_induction_on generalizing w with
  | _ n ih =>
  cases w with
  | nil => exact clean
  | cons c w =>
      rw [List.map_cons] at compound
      rcases compound.cons_cases with ⟨digit, others⟩ | ⟨word, mem, others, split, compound⟩
      · have isDigit : c.isDigit = true :=
          of_ascii (p := fun c => c.toLower.isDigit = true → c.isDigit = true) (by decide)
            (ascii_of_isAlphanum (letters c List.mem_cons_self)) digit
        have rest := ih w.length (by simp [← length]) (List.forall_mem_cons.mp letters).2 others rfl
        have single : ∀ d ∈ [c], d.isDigit = true := List.forall_mem_singleton.mpr isDigit
        change IsClean ([c] ++ (w ++ back))
        exact rest.digits_append single
      · rw [← List.map_cons, ← map_foldedChar letters] at split
        have front : word <+: (c :: w ++ back).map foldedChar := by
          rw [List.map_append, split, List.append_assoc]
          exact List.prefix_append _ _
        rcases vocabularyAt_of_prefix mem front with ⟨_, longer, found, ⟨extra, rfl⟩, spelled⟩
        rw [List.map_append] at spelled
        have inside : word ++ extra <+: (c :: w).map foldedChar := by
          rcases prefix_append_cases spelled with inside | ⟨tail, reaches, whole, across⟩
          · exact inside
          · exact absurd across (apart _ longer tail ⟨_, whole.symm⟩ reaches)
        have shorter := length_drop_lt longer inside
        rw [length] at shorter
        rw [isClean_append_iff found inside]
        rw [split, List.prefix_append_right_inj] at inside
        have left : ((c :: w).drop (word ++ extra).length).map Char.toLower =
            others.drop extra.length := by
          rw [List.map_drop, ← map_foldedChar letters, split, List.length_append,
            ← List.drop_drop, List.drop_left]
        exact ih _ shorter (fun d mem => letters d (List.mem_of_mem_drop mem))
          (left ▸ compound.drop mem longer inside) rfl

end IsCompound

theorem passes_append_sum {w : Text} (letters : ∀ c ∈ w, c.isAlphanum = true)
    (compound : IsCompound (w.map Char.toLower)) : passes (w ++ "+ 1".toList) = true := by
  have apart : Apart "+ 1".toList := IsForeign.apart (by decide) _
  have sum : IsClean "+ 1".toList := by
    unfold IsClean
    decide +kernel
  have clean := compound.isClean_append letters apart sum
  have plus : '+' ∈ remainder (w ++ "+ 1".toList) :=
    mem_remainder (by decide) (List.mem_append_right _ List.mem_cons_self)
  have likely : isLikelyMath (w ++ "+ 1".toList) = true := by
    rw [isLikelyMath, Bool.and_eq_true, Bool.not_eq_true', List.isEmpty_eq_false_iff]
    exact ⟨List.ne_nil_of_mem plus, List.all_eq_true.mpr clean⟩
  have operator : (w ++ "+ 1".toList).any isOperator = true :=
    List.any_eq_true.mpr ⟨'+', List.mem_append_right _ List.mem_cons_self, by decide⟩
  have digit : (w ++ "+ 1".toList).any isDecimalDigit = true :=
    List.any_eq_true.mpr ⟨'1', List.mem_append_right _ (by decide), by decide⟩
  rw [passes, likely, hasOperatorOrCall, operator, hasDigitOrConstant, digit]
  rfl

/-- In a text that passes, every word is put together of known words and digits, where a long s
beside the word may count as its first or its last letter. Every word that is put together like this
passes in some text. -/
theorem passes_word :
    (∀ (t : Text) (before : List Lexeme) (w : Text) (after : List Lexeme),
      Cuts t (before ++ .word w :: after) → passes t = true →
      ∃ a b, (a = [] ∨ a = ['s'] ∧ (before.flatMap Lexeme.text).getLast? = some 'ſ') ∧
        (b = [] ∨ b = ['s'] ∧ (after.flatMap Lexeme.text).head? = some 'ſ') ∧
        IsCompound (a ++ w.map Char.toLower ++ b)) ∧
      ∀ (c : Char) (letters : Text), c.isAlpha = true → (∀ d ∈ letters, d.isAlphanum = true) →
        IsCompound ((c :: letters).map Char.toLower) →
        .word (c :: letters) ∈ lexemes (c :: letters ++ "+ 1".toList) ∧
          passes (c :: letters ++ "+ 1".toList) = true := by
  constructor
  · intro t before w after cut strict
    refine exists_isCompound_of_isWordBetween cut.isWordBetween ?_
    have whole := cut.flatMap_text
    rw [List.flatMap_append, List.flatMap_cons] at whole
    rw [← whole] at strict
    exact isClean_of_passes strict
  · intro c letters alpha tail compound
    have alphanum : ∀ d ∈ c :: letters, d.isAlphanum = true :=
      List.forall_mem_cons.mpr ⟨Bool.or_eq_true_iff.mpr (.inl alpha), tail⟩
    have ends : ∀ d ∈ "+ 1".toList.head?, d.isAlphanum = false := by
      rintro d ⟨⟩
      decide
    have cut := Cuts.word alpha tail ends (cuts_lexemes _)
    exact ⟨cut.eq_lexemes ▸ List.mem_cons_self, passes_append_sum alphanum compound⟩

/-- A word between two others that share a long s with it, and a word of three known ones. -/
theorem passes_word_longS :
    (passes "1 + ſIN2coſ".toList = true ∧
      ∃ a b, (a = [] ∨ a = ['s'] ∧ "1 + ſ".toList.getLast? = some 'ſ') ∧
        (b = [] ∨ b = ['s'] ∧ "ſ".toList.head? = some 'ſ') ∧
        IsCompound (a ++ "in2co".toList ++ b)) ∧
      passes "Log10pie+ 1".toList = true := by
  rcases passes_word with ⟨made, passing⟩
  have strict : passes "1 + ſIN2coſ".toList = true := by decide +kernel
  have cut : Cuts "1 + ſIN2coſ".toList
      ([.numeral ⟨['1'], none, none⟩, .mark ' ', .mark '+', .mark ' ', .mark 'ſ'] ++
        .word "IN2co".toList :: [.mark 'ſ']) := by
    have found : lexemes "1 + ſIN2coſ".toList =
        ([.numeral ⟨['1'], none, none⟩, .mark ' ', .mark '+', .mark ' ', .mark 'ſ'] ++
          .word "IN2co".toList :: [.mark 'ſ']) := by
      decide +kernel
    rw [← found]
    exact cuts_lexemes _
  have compound : IsCompound ("Log10pie".toList.map Char.toLower) :=
    .known (show "log10".toList ∈ vocabulary by decide)
      (.known (show "pi".toList ∈ vocabulary by decide)
        (.known (show "e".toList ∈ vocabulary by decide) .nil))
  exact ⟨⟨strict, made _ _ _ _ cut strict⟩,
    (passing 'L' "og10pie".toList (by decide) (by decide) compound).2⟩

/-- Two known words in one that is not known. -/
theorem passes_pie :
    .word "pie".toList ∈ lexemes "pie * 2".toList ∧ "pie".toList ∉ vocabulary ∧
      passes "pie * 2".toList = true := by
  decide +kernel

end Gate

end Reckoner
