import Reckoner.Console.Lines
import Reckoner.Proofs.Text.Words

/-!
# Lines

A text in which lines are written one under the other is cut into these lines again. A carriage
return at the end of a line is a blank like others.
-/

namespace Reckoner.Text

/-! ## Lines of a written text -/

theorem splitLines_cons {line : Text} (single : '\n' ∉ line) (rest : Text) :
    splitLines (· == '\n') (line ++ '\n' :: rest) = line :: splitLines (· == '\n') rest := by
  induction line with
  | nil => rfl
  | cons c line ih =>
      simp only [List.mem_cons, not_or] at single
      rcases single with ⟨first, others⟩
      have inLine : ¬ (c == '\n') = true := by simpa using Ne.symm first
      rw [List.cons_append, splitLines, if_neg inLine, ih others]

theorem splitLines_last {line : Text} (single : '\n' ∉ line) (nonempty : line ≠ []) :
    splitLines (· == '\n') line = [line] := by
  induction line with
  | nil => contradiction
  | cons c line ih =>
      simp only [List.mem_cons, not_or] at single
      rcases single with ⟨first, others⟩
      have inLine : ¬ (c == '\n') = true := by simpa using Ne.symm first
      rw [splitLines, if_neg inLine]
      cases line with
      | nil => rfl
      | cons d line => rw [ih others (List.cons_ne_nil d line)]

/-- The text with the lines, the last of which may have no end. -/
inductive Writes : List Text → Text → Prop where
  | nil : Writes [] []
  | last (line : Text) (nonempty : line ≠ []) : Writes [line] line
  | cons (line : Text) {lines : List Text} {t : Text} (rest : Writes lines t) :
      Writes (line :: lines) (line ++ '\n' :: t)

theorem Writes.splitLines_eq {lines : List Text} {t : Text} (writes : Writes lines t)
    (single : ∀ line ∈ lines, '\n' ∉ line) : splitLines (· == '\n') t = lines := by
  induction writes with
  | nil => rfl
  | last line nonempty => exact splitLines_last (single line List.mem_cons_self) nonempty
  | cons line rest ih =>
      rcases List.forall_mem_cons.mp single with ⟨first, others⟩
      rw [splitLines_cons first, ih others]

/-! ## Blanks at the end of a line -/

theorem trim_concat_blank {c : Char} (blank : isBlank c = true) (t : Text) :
    trim (t ++ [c]) = trim t :=
  trim_append (List.forall_mem_nil _) (List.forall_mem_singleton.mpr blank) t

@[simp]
theorem trim_withoutReturn (t : Text) : trim (withoutReturn t) = trim t := by
  rw [withoutReturn]
  split
  · rename_i ends
    rcases List.getLast?_eq_some_iff.mp ends with ⟨front, rfl⟩
    rw [List.dropLast_concat, trim_concat_blank (by decide)]
  · rfl

end Reckoner.Text
