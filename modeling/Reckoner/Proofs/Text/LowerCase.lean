import Reckoner.Expr.OfText
import Reckoner.Proofs.Text.Case
import Reckoner.Proofs.Text.Words

/-!
# Lower case and layout

The form that a capital sigma takes hangs on the letters around it, but not on any beyond a blank. So
lower-casing goes word by word, and what a text is tidied to depends on its words and not on the blanks
between them. Letters of ASCII may be capital or small: lower-casing them first changes nothing.
-/

namespace Reckoner.Text

/-! ## Blanks -/

theorem cased_avoids_blank :
    ∀ blank ∈ blankRanges, ∀ range ∈ Table.cased ++ Table.caseIgnorable,
      blank.2 < range.1 ∨ range.2 < blank.1 := by
  decide +kernel

/-- A blank has no case, and it is not passed over. -/
theorem not_cased_of_blank {s : Char} (blank : isBlank s = true) :
    isCased s = false ∧ isCaseIgnorable s = false := by
  by_cases ascii : s.toNat < 0x80
  · exact of_ascii
      (p := fun s => isBlank s = true → isCased s = false ∧ isCaseIgnorable s = false)
      (by decide) ascii blank
  · have apart : ∀ table : CodeRanges, table ⊆ Table.cased ++ Table.caseIgnorable →
        table.contains s = false := by
      intro table known
      rw [Bool.eq_false_iff]
      intro inTable
      rcases CodeRanges.contains_iff.mp blank with ⟨gap, inBlank, low, high⟩
      rcases CodeRanges.contains_iff.mp inTable with ⟨range, mem, first, last⟩
      have disjoint := cased_avoids_blank gap inBlank range (known mem)
      omega
    rw [isCased, if_neg ascii, isCaseIgnorable, if_neg ascii]
    exact ⟨apart _ (List.subset_append_left _ _), apart _ (List.subset_append_right _ _)⟩

/-- What stands beyond a blank does not decide the form of a sigma. -/
theorem startsCased_append_blank {s : Char} (blank : isBlank s = true) (a b : Text) :
    startsCased (a ++ s :: b) = startsCased a := by
  rcases not_cased_of_blank blank with ⟨uncased, stops⟩
  rw [startsCased, startsCased, dropWhile_append_of_neg stops]
  cases a.dropWhile isCaseIgnorable with
  | nil => simp [uncased]
  | cons c rest => rfl

theorem lowerFrom_beyond_blank {s : Char} (blank : isBlank s = true) (front before t : Text) :
    lowerFrom (front ++ s :: before) t = lowerFrom front t := by
  induction t generalizing front with
  | nil => rfl
  | cons c rest ih =>
      rw [lowerFrom_cons, lowerFrom_cons, ← List.cons_append, ih, lowerAt,
        startsCased_append_blank blank, ← lowerAt]

theorem lowerAt_of_blank {s : Char} (blank : isBlank s = true) (before after : Text) :
    lowerAt before s after = [s] := by
  have notSigma : s ≠ 'Σ' := by
    rintro rfl
    exact absurd blank (by decide)
  have notDotted : s ≠ 'İ' := by
    rintro rfl
    exact absurd blank (by decide)
  rw [lowerAt, if_neg notSigma, if_neg notDotted, lowerChar_of_blank blank]

theorem lowerFrom_append_blank {s : Char} (blank : isBlank s = true) (before a b : Text) :
    lowerFrom before (a ++ s :: b) = lowerFrom before a ++ s :: lower b := by
  induction a generalizing before with
  | nil =>
      have after := lowerFrom_beyond_blank blank [] before b
      rw [List.nil_append] at after
      rw [List.nil_append, lowerFrom_cons, lowerAt_of_blank blank, after]
      rfl
  | cons c a ih =>
      rw [List.cons_append, lowerFrom_cons, lowerFrom_cons, ih, lowerAt,
        startsCased_append_blank blank, ← lowerAt, List.append_assoc]

/-- The parts on both sides of a blank are lower-cased for themselves. -/
theorem lower_append_blank {s : Char} (blank : isBlank s = true) (a b : Text) :
    lower (a ++ s :: b) = lower a ++ s :: lower b :=
  lowerFrom_append_blank blank [] a b

/-- The layout of a text decides nothing about its words in lower case. -/
theorem words_lower_of_words_eq {a b : Text} (same : words a = words b) :
    words (lower a) = words (lower b) := by
  refine eq_of_words_eq (fun t => words (lower t)) (· ++ ·) ?_ ?_ ?_ same
  · intro s a b blank
    rw [lower_append_blank blank, words_append_blank blank]
  · exact fun t => by rw [lower_nil, words_nil, List.nil_append]
  · exact fun t => by rw [lower_nil, words_nil, List.append_nil]

/-- Texts with the same words are tidied alike. -/
theorem tidy_eq_of_words_eq {a b : Text} (same : words (withoutMark a) = words (withoutMark b)) :
    tidy a = tidy b := by
  rw [tidy, tidy, collapse, collapse, words_lower_of_words_eq same]

/-! ## Letters of ASCII -/

theorem isCased_toLower (c : Char) : isCased c.toLower = isCased c := by
  by_cases ascii : c.toNat < 0x80
  · exact of_ascii (p := fun c => isCased c.toLower = isCased c) (by decide) ascii
  · rw [toLower_of_not_ascii (Nat.le_of_not_lt ascii)]

theorem isCaseIgnorable_toLower (c : Char) : isCaseIgnorable c.toLower = isCaseIgnorable c := by
  by_cases ascii : c.toNat < 0x80
  · exact of_ascii (p := fun c => isCaseIgnorable c.toLower = isCaseIgnorable c) (by decide) ascii
  · rw [toLower_of_not_ascii (Nat.le_of_not_lt ascii)]

theorem startsCased_map_toLower (t : Text) : startsCased (t.map Char.toLower) = startsCased t := by
  have ignorable : isCaseIgnorable ∘ Char.toLower = isCaseIgnorable :=
    funext isCaseIgnorable_toLower
  rw [startsCased, List.dropWhile_map, ignorable, List.head?_map, Option.any_map, startsCased]
  simp only [isCased_toLower]

theorem lowerAt_toLower (before : Text) (c : Char) (after : Text) :
    lowerAt (before.map Char.toLower) c.toLower (after.map Char.toLower) =
      lowerAt before c after := by
  rw [lowerAt, lowerAt, startsCased_map_toLower, startsCased_map_toLower]
  by_cases ascii : c.toNat < 0x80
  · have plain : c ≠ 'Σ' ∧ c ≠ 'İ' ∧ c.toLower ≠ 'Σ' ∧ c.toLower ≠ 'İ' ∧
        lowerChar c.toLower = lowerChar c :=
      of_ascii (p := fun c => c ≠ 'Σ' ∧ c ≠ 'İ' ∧ c.toLower ≠ 'Σ' ∧ c.toLower ≠ 'İ' ∧
        lowerChar c.toLower = lowerChar c) (by decide) ascii
    rcases plain with ⟨notSigma, notDotted, smallSigma, smallDotted, same⟩
    rw [if_neg notSigma, if_neg notDotted, if_neg smallSigma, if_neg smallDotted, same]
  · rw [toLower_of_not_ascii (Nat.le_of_not_lt ascii)]

theorem lowerFrom_map_toLower (before t : Text) :
    lowerFrom (before.map Char.toLower) (t.map Char.toLower) = lowerFrom before t := by
  induction t generalizing before with
  | nil => rfl
  | cons c rest ih =>
      rw [List.map_cons, lowerFrom_cons, lowerFrom_cons, lowerAt_toLower, ← List.map_cons, ih]

theorem withoutMark_map_toLower (t : Text) :
    withoutMark (t.map Char.toLower) = (withoutMark t).map Char.toLower := by
  cases t with
  | nil => rfl
  | cons c rest =>
      have mark : c.toLower = byteOrderMark ↔ c = byteOrderMark := by
        by_cases ascii : c.toNat < 0x80
        · exact of_ascii (p := fun c => c.toLower = byteOrderMark ↔ c = byteOrderMark) (by decide)
            ascii
        · rw [toLower_of_not_ascii (Nat.le_of_not_lt ascii)]
      rw [List.map_cons, withoutMark, withoutMark]
      by_cases first : c = byteOrderMark
      · rw [if_pos first, if_pos (mark.mpr first)]
      · rw [if_neg first, if_neg (mt mark.mp first), List.map_cons]

/-- The case of the letters of ASCII is of no account. -/
theorem tidy_map_toLower (t : Text) : tidy (t.map Char.toLower) = tidy t := by
  rw [tidy, withoutMark_map_toLower, lower, ← List.map_nil, lowerFrom_map_toLower]
  rfl

end Reckoner.Text
