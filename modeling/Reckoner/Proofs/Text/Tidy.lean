import Reckoner.Expr.OfText
import Reckoner.Proofs.Text.Words

/-!
# Texts that are tidy

A text of small letters and other characters without case, its words a single space apart, is not
changed when it is tidied.
-/

namespace Reckoner.Text

/-! ## Lower case -/

/-- The character is visible, and it is its own image in lower case. -/
def isQuiet (c : Char) : Bool :=
  c.toNat < 0x80 && !c.isUpper && !isBlank c

theorem isQuiet_iff {c : Char} :
    isQuiet c = true ↔ c.toNat < 0x80 ∧ c.isUpper = false ∧ isBlank c = false := by
  simp [isQuiet, and_assoc]

theorem lowerAt_of_not_upper {c : Char} (ascii : c.toNat < 0x80) (small : c.isUpper = false)
    (before after : Text) : lowerAt before c after = [c] := by
  have notSigma : c ≠ 'Σ' := by
    rintro rfl
    contradiction
  have notDotted : c ≠ 'İ' := by
    rintro rfl
    contradiction
  have outside : ¬ (c.val ≥ 'A'.val ∧ c.val ≤ 'Z'.val) := of_decide_eq_false small
  have lowered : c.toLower = c := dif_neg outside
  have same : lowerChar c = c := by
    rw [lowerChar, if_pos ascii, lowered]
  rw [lowerAt, if_neg notSigma, if_neg notDotted, same]

theorem lowerFrom_eq_self {t : Text} (small : ∀ c ∈ t, c.toNat < 0x80 ∧ c.isUpper = false)
    (before : Text) : lowerFrom before t = t := by
  induction t generalizing before with
  | nil => rfl
  | cons c rest ih =>
      have ⟨⟨ascii, notUpper⟩, others⟩ := List.forall_mem_cons.mp small
      rw [lowerFrom_cons, lowerAt_of_not_upper ascii notUpper, ih others]
      rfl

/-! ## Settled texts -/

/-- A text of small letters and other characters without case, with a space between its words. -/
inductive Settled : Text → Prop where
  | word {w : Text} (nonempty : w ≠ []) (quiet : ∀ c ∈ w, isQuiet c = true) : Settled w
  | spaced {a b : Text} : Settled a → Settled b → Settled (a ++ ' ' :: b)

namespace Settled

variable {a b t : Text}

theorem ne_nil (settled : Settled t) : t ≠ [] := by
  cases settled with
  | word nonempty => exact nonempty
  | spaced => simp

/-- Settled texts can be put together without a space. -/
theorem append (first : Settled a) (second : Settled b) : Settled (a ++ b) := by
  induction first generalizing b with
  | @word a nonempty quiet =>
      induction second with
      | word _ others =>
          apply Settled.word (List.append_ne_nil_of_left_ne_nil nonempty _)
          exact List.forall_mem_append.mpr ⟨quiet, others⟩
      | spaced _ after ih =>
          rw [← List.append_assoc]
          exact .spaced ih after
  | spaced before _ _ ih =>
      rw [List.append_assoc, List.cons_append]
      exact .spaced before (ih second)

theorem small (settled : Settled t) : ∀ c ∈ t, c.toNat < 0x80 ∧ c.isUpper = false := by
  induction settled with
  | word _ quiet =>
      intro c mem
      rcases isQuiet_iff.mp (quiet c mem) with ⟨ascii, notUpper, _⟩
      exact ⟨ascii, notUpper⟩
  | spaced _ _ first second =>
      have space : Char.toNat ' ' < 0x80 ∧ Char.isUpper ' ' = false := by decide
      exact List.forall_mem_append.mpr ⟨first, List.forall_mem_cons.mpr ⟨space, second⟩⟩

theorem words_ne_nil (settled : Settled t) : words t ≠ [] := by
  induction settled with
  | word nonempty quiet =>
      rw [words_of_visible nonempty fun c mem => (isQuiet_iff.mp (quiet c mem)).2.2]
      exact List.cons_ne_nil _ _
  | spaced _ _ first =>
      rw [words_append_blank rfl]
      exact List.append_ne_nil_of_left_ne_nil first _

theorem collapse_eq_self (settled : Settled t) : collapse t = t := by
  induction settled with
  | word nonempty quiet =>
      rw [collapse, words_of_visible nonempty fun c mem => (isQuiet_iff.mp (quiet c mem)).2.2,
        unwords, List.intercalate_singleton]
  | spaced before after first second =>
      rw [collapse] at first second
      rw [collapse, words_append_blank rfl, unwords_append before.words_ne_nil after.words_ne_nil,
        first, second]

theorem withoutMark_eq_self (settled : Settled t) : withoutMark t = t := by
  cases t with
  | nil => rfl
  | cons c rest =>
      have notMark : c ≠ byteOrderMark := by
        rintro rfl
        have ⟨ascii, _⟩ := settled.small _ List.mem_cons_self
        contradiction
      rw [withoutMark, if_neg notMark]

/-- Tidying leaves a settled text as it is. -/
theorem tidy_eq_self (settled : Settled t) : tidy t = t := by
  rw [tidy, settled.withoutMark_eq_self, lower, lowerFrom_eq_self settled.small,
    settled.collapse_eq_self]

end Settled

end Reckoner.Text
