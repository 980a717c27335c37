import Reckoner.Error

/-!
# Questions

What a user enters: a text that is neither blank nor surrounded by blanks, and the angle mode that
it was entered under. -/

namespace Reckoner

namespace Text

theorem dropWhile_dropWhile (p : Char → Bool) (t : Text) :
    (t.dropWhile p).dropWhile p = t.dropWhile p := by
  induction t with
  | nil => rfl
  | cons c rest ih =>
    by_cases holds : p c = true
    · rw [List.dropWhile_cons_of_pos holds, ih]
    · rw [List.dropWhile_cons_of_neg holds, List.dropWhile_cons_of_neg holds]

theorem dropTrailing_dropTrailing (p : Char → Bool) (t : Text) :
    dropTrailing p (dropTrailing p t) = dropTrailing p t := by
  simp [dropTrailing, dropWhile_dropWhile]

/-- What is dropped from the end leaves the front of a text as it is. -/
theorem dropTrailing_isPrefix (p : Char → Bool) (t : Text) : dropTrailing p t <+: t := by
  have suffix := List.dropWhile_suffix p (l := t.reverse)
  have reversed := List.reverse_prefix.mpr suffix
  simpa [dropTrailing] using reversed

theorem dropWhile_eq_self_of_isPrefix {p : Char → Bool} {s t : Text} (front : s <+: t)
    (fixed : t.dropWhile p = t) : s.dropWhile p = s := by
  cases s with
  | nil => rfl
  | cons c rest =>
    obtain ⟨tail, rfl⟩ := front
    by_cases holds : p c = true
    · have shorter := (List.dropWhile_sublist p (l := rest ++ tail)).length_le
      rw [List.cons_append, List.dropWhile_cons_of_pos holds] at fixed
      have lengths := congrArg List.length fixed
      simp only [List.length_cons] at lengths
      omega
    · exact List.dropWhile_cons_of_neg holds

@[simp]
theorem trim_trim (t : Text) : trim (trim t) = trim t := by
  have front := dropWhile_eq_self_of_isPrefix
    (dropTrailing_isPrefix isBlank (t.dropWhile isBlank)) (dropWhile_dropWhile isBlank t)
  unfold trim
  rw [front, dropTrailing_dropTrailing]

end Text

/-- A text to evaluate, with the angle mode in force. -/
structure Question where
  text : Text
  mode : AngleMode
  trimmed : Text.trim text = text
  nonempty : text ≠ []

namespace Question

/-- The question that a text asks, unless the text is blank. -/
def ofText (mode : AngleMode) (t : Text) : Except CalcError Question :=
  if nonempty : Text.trim t = [] then .error .emptyInput
  else .ok ⟨Text.trim t, mode, Text.trim_trim t, nonempty⟩

theorem eq_of_text_of_mode {p q : Question} (text : p.text = q.text) (mode : p.mode = q.mode) :
    p = q := by
  cases p
  cases q
  cases text
  cases mode
  rfl

theorem ofText_of_nonempty {line : Text} (mode : AngleMode) (nonempty : Text.trim line ≠ []) :
    ofText mode line = .ok ⟨Text.trim line, mode, Text.trim_trim line, nonempty⟩ :=
  dif_neg nonempty

@[simp]
theorem ofText_trim (mode : AngleMode) (line : Text) :
    ofText mode (Text.trim line) = ofText mode line := by
  simp only [ofText, Text.trim_trim]

end Question

end Reckoner
