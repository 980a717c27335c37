import Mathlib.Data.List.Infix
import Reckoner.Filler
import Reckoner.Expr.OfText
import Reckoner.Proofs.Gate

/-!
# Texts without filler phrases

Every filler phrase holds letters that no known word holds, or holds in that order, so that they are
still there when the known words are gone. A text whose remainder has none of them is not changed by
taking filler phrases out, except for its layout.
-/

namespace Reckoner

namespace Text

/-- A text in which nothing matches is left as it is. -/
theorem replacedFrom_eq_self {m : Matcher} {t : Text}
    (nowhere : ∀ before place, place <:+ t → m before place = none) (replacement : Text)
    (before : Option Char) : replacedFrom m replacement before t = t := by
  induction t generalizing before with
  | nil => rw [replacedFrom_nil]
  | cons c rest ih =>
      rw [replacedFrom, nowhere before (c :: rest) List.suffix_rfl]
      have after := ih (fun before place suffix =>
        nowhere before place (suffix.trans (List.suffix_cons c rest))) (some c)
      exact congrArg (c :: ·) after

end Text

namespace Filler

open Text Gate

/-- Letters that remain of each phrase when the known words are taken out. -/
def telltales : List Text :=
  ["w", "h", "u", "m", "v", "le"].map String.toList

theorem ne_nil_of_mem_telltales : ∀ tell ∈ telltales, tell ≠ [] := by
  decide

/-- Every phrase starts with a word that holds a telltale. -/
theorem telltale_of_mem_phrases :
    ∀ phrase ∈ phrases, (∀ word ∈ phrase, ∀ l ∈ word, l.toNat < 0x80) ∧
      ∃ tell ∈ telltales, ∃ word ∈ phrase.head?, tell <:+: word := by
  decide

theorem prefix_of_afterWords? {word : Text} {words : List Text} {t rest : Text}
    (ascii : ∀ l ∈ word, l.toNat < 0x80) (found : afterWords? (word :: words) t = some rest) :
    word <+: t.map foldedChar := by
  rw [← afterPattern?_isSome_iff ascii]
  cases words with
  | nil =>
      rw [afterWords?] at found
      rw [found, Option.isSome_some]
  | cons next words =>
      rw [afterWords?, Option.bind_eq_some_iff] at found
      rcases found with ⟨_, first, _⟩
      rw [first, Option.isSome_some]

/-- Where a phrase is found, there is a telltale. -/
theorem telltale_of_phraseAt {before : Option Char} {t : Text} {n : Nat}
    (found : phraseAt before t = some n) : ∃ tell ∈ telltales, tell <:+: t.map foldedChar := by
  unfold phraseAt at found
  split at found
  · rcases List.exists_of_findSome?_eq_some found with ⟨phrase, mem, length⟩
    rcases telltale_of_mem_phrases phrase mem with ⟨ascii, tell, known, word, head, inWord⟩
    obtain ⟨words, rfl⟩ : ∃ words, phrase = word :: words := List.head?_eq_some_iff.mp head
    rw [phraseLength?, Option.bind_eq_some_iff] at length
    rcases length with ⟨rest, matched, _⟩
    have front := prefix_of_afterWords? (ascii word List.mem_cons_self) matched
    exact ⟨tell, known, inWord.trans front.isInfix⟩
  · contradiction

/-- Known words leave telltales alone. -/
theorem apart_of_telltale {tell t : Text} (known : tell ∈ telltales)
    (front : tell <+: t.map foldedChar) : Apart t := by
  have clash : ∀ tell ∈ telltales, ∀ word ∈ vocabulary, ∀ tail ∈ word.tails, tail ≠ [] →
      ¬ tail <+: tell ∧ ¬ tell <+: tail := by decide
  intro word mem tail suffix nonempty reached
  have apart := clash tell known word mem tail ((List.mem_tails _ _).mpr suffix) nonempty
  rcases List.prefix_or_prefix_of_prefix reached front with inTell | inTail
  · exact apart.1 inTell
  · exact apart.2 inTail

/-- The first letter of a telltale is not allowed in an expression. -/
theorem not_isAllowed_of_telltale {tell t : Text} {c : Char} (known : tell ∈ telltales)
    (front : tell <+: (c :: t).map foldedChar) :
    isAllowed c = false ∧ c ≠ byteOrderMark := by
  have heads : ∀ tell ∈ telltales, tell.head?.any (· ∈ ['w', 'h', 'u', 'm', 'v', 'l']) = true := by
    decide
  obtain ⟨l, tail, rfl⟩ := List.exists_cons_of_ne_nil (ne_nil_of_mem_telltales tell known)
  have letter : l ∈ ['w', 'h', 'u', 'm', 'v', 'l'] := of_decide_eq_true (heads _ known)
  rw [(List.cons_prefix_cons.mp front).1] at letter
  by_cases ascii : c.toNat < 0x80
  · exact of_ascii (p := fun c => foldedChar c ∈ ['w', 'h', 'u', 'm', 'v', 'l'] →
      isAllowed c = false ∧ c ≠ byteOrderMark) (by decide) ascii letter
  · have small : ∀ l ∈ ['w', 'h', 'u', 'm', 'v', 'l'], l.toNat < 0x80 ∧ l ≠ 's' ∧ l ≠ 'k' := by
      decide
    rcases small _ letter with ⟨foldedAscii, notS, notK⟩
    have longS : c ≠ 'ſ' := fun same => notS (by rw [same]; rfl)
    have kelvin : c ≠ '\u212a' := fun same => notK (by rw [same]; rfl)
    rw [foldedChar, if_neg longS, if_neg kelvin,
      toLower_of_not_ascii (Nat.le_of_not_lt ascii)] at foldedAscii
    exact absurd foldedAscii ascii

/-! ## Texts that are clean but for byte order marks -/

theorem isForeign_byteOrderMark : IsForeign byteOrderMark := by
  decide

/-- The text is clean but for byte order marks. -/
def IsNearlyClean (t : Text) : Prop :=
  ∀ c ∈ remainder t, isAllowed c = true ∨ c = byteOrderMark

theorem isNearlyClean_of_withoutMark {t : Text} (clean : IsClean (withoutMark t)) :
    IsNearlyClean t := by
  cases t with
  | nil => exact fun c mem => .inl (clean c mem)
  | cons c rest =>
      by_cases mark : c = byteOrderMark
      · rw [withoutMark, if_pos mark] at clean
        have foreign : IsForeign c := by
          rw [mark]
          exact isForeign_byteOrderMark
        rw [IsNearlyClean, remainder_cons_of_apart (foreign.apart rest)]
        exact List.forall_mem_cons.mpr ⟨.inr mark, fun d mem => .inl (clean d mem)⟩
      · rw [withoutMark, if_neg mark] at clean
        exact fun d mem => .inl (clean d mem)

theorem phraseAt_eq_none {t : Text} (clean : IsNearlyClean t) (before : Option Char)
    (place : Text) (suffix : place <:+ t) : phraseAt before place = none := by
  rw [Option.eq_none_iff_forall_ne_some]
  intro n found
  rcases telltale_of_phraseAt found with ⟨tell, known, before, after, spelled⟩
  -- The telltale starts at some `c` of the text, and so `c` remains.
  obtain ⟨lead, rest, rfl, _, back⟩ := List.append_eq_map_iff.mp
    ((List.append_assoc before tell after).symm.trans spelled)
  have front : tell <+: rest.map foldedChar := ⟨after, back.symm⟩
  obtain ⟨c, rest, rfl⟩ : ∃ c others, rest = c :: others := by
    apply List.exists_cons_of_ne_nil
    rintro rfl
    exact ne_nil_of_mem_telltales tell known (List.prefix_nil.mp front)
  rcases suffix with ⟨lead', whole⟩
  have apart := apart_of_telltale known front
  have remains : c ∈ remainder t := by
    rw [← whole, ← List.append_assoc, remainder_append_of_apart apart,
      remainder_cons_of_apart apart]
    simp
  rcases not_isAllowed_of_telltale known front with ⟨refused, notMark⟩
  rcases clean c remains with allowed | mark
  · rw [allowed] at refused
    contradiction
  · exact notMark mark

/-- Nothing but layout is taken out of a clean text. -/
theorem stripped_eq_collapse {t : Text} (clean : IsNearlyClean t) : stripped t = collapse t := by
  have noMark : ∀ c ∈ collapse t, isFinalMark c = false := by
    intro c mem
    rw [Bool.eq_false_iff]
    intro isMark
    have marks : ∀ c ∈ ['?', '=', '!'], isBlank c = false ∧ isAllowed c = false ∧
        c ≠ byteOrderMark ∧ c.toNat < 0x80 ∧ c.isAlphanum = false := by decide
    rcases marks c (of_decide_eq_true isMark) with ⟨visible, refused, notMark, ascii, other⟩
    have inText := (mem_iff_of_words_eq (words_collapse t) visible).mp mem
    rcases clean c (mem_remainder (.of_not_alphanum ascii other) inText) with allowed | mark
    · rw [allowed] at refused
      contradiction
    · exact notMark mark
  rw [stripped, replaced, replacedFrom_eq_self (phraseAt_eq_none clean),
    dropTrailing_eq_self noMark, trim_collapse]

end Filler

end Reckoner
