import Mathlib.Data.List.Basic
import Mathlib.Data.List.TakeWhile
import Reckoner.Proofs.Token.Separator
import Reckoner.Question

/-!
# Words

How a text splits into words at its blanks. Everything follows from one law: a blank between two
texts keeps their words apart. In particular, whatever is put together at blanks from what it is of
the parts depends on the words alone, and not on the layout.
-/

namespace Reckoner.Text

/-! ## The words of a text -/

theorem words_append_blank {s : Char} (blank : isBlank s = true) (a b : Text) :
    words (a ++ s :: b) = words a ++ words b := by
  have visible : (!isBlank s) = false := by rw [blank]; rfl
  fun_induction words a with
  | case1 => rw [List.nil_append, words_cons_of_blank b blank, List.nil_append]
  | case2 c rest first ih => rw [List.cons_append, words_cons_of_blank _ first, ih]
  | case3 c rest first ih =>
      rw [List.cons_append, words_cons_of_not_blank _ (Bool.eq_false_iff.mpr first),
        takeWhile_append_of_neg visible, dropWhile_append_of_neg visible, ih, List.cons_append]

theorem words_of_visible {w : Text} (nonempty : w ≠ []) (visible : ∀ c ∈ w, isBlank c = false) :
    words w = [w] := by
  cases w with
  | nil => contradiction
  | cons c rest =>
      have ⟨head, tail⟩ := List.forall_mem_cons.mp visible
      have all : ∀ d ∈ rest, (!isBlank d) = true := fun d mem => by rw [tail d mem]; rfl
      rw [words_cons_of_not_blank rest head, List.takeWhile_eq_self_iff.mpr all,
        List.dropWhile_eq_nil_iff.mpr all, words_nil]

theorem words_of_blank {t : Text} (blank : ∀ c ∈ t, isBlank c = true) : words t = [] := by
  induction t with
  | nil => exact words_nil
  | cons c rest ih =>
      have ⟨head, tail⟩ := List.forall_mem_cons.mp blank
      rw [words_cons_of_blank rest head, ih tail]

/-- Words are not empty, and there is no blank in them. -/
theorem visible_of_mem_words {w t : Text} (mem : w ∈ words t) :
    w ≠ [] ∧ ∀ c ∈ w, isBlank c = false := by
  fun_induction words t with
  | case1 => contradiction
  | case2 c rest blank ih => exact ih mem
  | case3 c rest visible ih =>
      rcases List.mem_cons.mp mem with rfl | mem
      · refine ⟨List.cons_ne_nil _ _, List.forall_mem_cons.mpr
          ⟨Bool.eq_false_iff.mpr visible, fun d inWord => ?_⟩⟩
        simpa using List.mem_takeWhile_imp inWord
      · exact ih mem

theorem words_cons_of_apart {c : Char} {t : Text} (visible : isBlank c = false)
    (apart : ∀ d ∈ t.head?, isBlank d = true) : words (c :: t) = [c] :: words t := by
  rw [words_cons_of_not_blank t visible]
  cases t with
  | nil => rfl
  | cons d t => simp [apart d rfl]

/-- A visible character in front of a word belongs to the word. -/
theorem exists_words_cons_cons {c d : Char} (first : isBlank c = false) (second : isBlank d = false)
    (t : Text) :
    ∃ w ws, words (d :: t) = w :: ws ∧ words (c :: d :: t) = (c :: w) :: ws := by
  refine ⟨_, _, words_cons_of_not_blank t second, ?_⟩
  rw [words_cons_of_not_blank _ first]
  simp [second]

/-! ## Joining words -/

theorem unwords_singleton (w : Text) : unwords [w] = w :=
  List.intercalate_singleton

theorem unwords_append {first second : List Text} (before : first ≠ []) (after : second ≠ []) :
    unwords (first ++ second) = unwords first ++ ' ' :: unwords second := by
  induction first with
  | nil => contradiction
  | cons w first ih =>
      cases first with
      | nil =>
          rw [unwords, List.cons_append, List.nil_append, List.intercalate_cons_of_ne_nil after,
            unwords, List.intercalate_singleton, List.append_assoc]
          rfl
      | cons v first =>
          have rest := ih (List.cons_ne_nil v first)
          simp only [unwords, List.cons_append, List.intercalate_cons_cons] at rest ⊢
          rw [rest]
          simp only [List.append_assoc]

theorem unwords_cons_of_ne_nil {ws : List Text} (w : Text) (more : ws ≠ []) :
    unwords (w :: ws) = w ++ ' ' :: unwords ws := by
  have parts := unwords_append (List.cons_ne_nil w []) more
  rwa [unwords_singleton] at parts

theorem unwords_cons_eq_append (w : Text) (ws : List Text) :
    ∃ tail : Text, unwords (w :: ws) = w ++ tail := by
  cases ws with
  | nil => exact ⟨[], by rw [unwords, List.intercalate_singleton, List.append_nil]⟩
  | cons v ws =>
      exact ⟨_, unwords_append (List.cons_ne_nil w []) (List.cons_ne_nil v ws) |>.trans
        (by rw [unwords, List.intercalate_singleton])⟩

theorem unwords_concat_eq_append (ws : List Text) (w : Text) :
    ∃ front : Text, unwords (ws ++ [w]) = front ++ w := by
  cases ws with
  | nil => exact ⟨[], by rw [List.nil_append, unwords, List.intercalate_singleton]; rfl⟩
  | cons v ws =>
      refine ⟨unwords (v :: ws) ++ [' '], ?_⟩
      rw [unwords_append (List.cons_ne_nil v ws) (List.cons_ne_nil w []), List.append_assoc,
        unwords, unwords, List.intercalate_singleton, List.singleton_append]

theorem words_unwords {ws : List Text}
    (visible : ∀ w ∈ ws, w ≠ [] ∧ ∀ c ∈ w, isBlank c = false) : words (unwords ws) = ws := by
  induction ws with
  | nil => exact words_nil
  | cons w ws ih =>
      have ⟨⟨nonempty, head⟩, tail⟩ := List.forall_mem_cons.mp visible
      cases ws with
      | nil => rw [unwords, List.intercalate_singleton, words_of_visible nonempty head]
      | cons v ws =>
          rw [unwords, List.intercalate_cons_cons, List.append_assoc, List.singleton_append,
            words_append_blank (by decide), words_of_visible nonempty head]
          exact congrArg (w :: ·) (ih tail)

@[simp]
theorem words_collapse (t : Text) : words (collapse t) = words t :=
  words_unwords fun _ mem => visible_of_mem_words mem

/-! ## Trimming -/

theorem dropTrailing_append (p : Char → Bool) (t : Text) :
    ∃ tail : Text, dropTrailing p t ++ tail = t ∧ ∀ c ∈ tail, p c = true := by
  refine ⟨(t.reverse.takeWhile p).reverse, ?_, fun c mem => ?_⟩
  · rw [dropTrailing, ← List.reverse_append, List.takeWhile_append_dropWhile, List.reverse_reverse]
  · exact List.mem_takeWhile_imp (List.mem_reverse.mp mem)

theorem dropTrailing_append_of_neg {p : Char → Bool} {c : Char} (ends : p c = false) (a : Text) :
    dropTrailing p (a ++ [c]) = a ++ [c] := by
  simp [dropTrailing, ends]

theorem dropTrailing_cons_of_neg {p : Char → Bool} {c : Char} (stays : p c = false) (t : Text) :
    dropTrailing p (c :: t) = c :: dropTrailing p t := by
  rw [dropTrailing, List.reverse_cons, dropWhile_append_of_neg stays, List.reverse_append]
  rfl

/-- The end of a text is that of its second part, unless this is dropped as a whole. -/
theorem dropTrailing_append_eq_ite (p : Char → Bool) (a b : Text) :
    dropTrailing p (a ++ b) =
      if dropTrailing p b = [] then dropTrailing p a else a ++ dropTrailing p b := by
  simp only [dropTrailing, List.reverse_append, List.dropWhile_append, List.isEmpty_iff,
    List.reverse_eq_nil_iff]
  split
  · rfl
  · rw [List.reverse_append, List.reverse_reverse]

theorem dropTrailing_eq_self {p : Char → Bool} {t : Text} (none : ∀ c ∈ t, p c = false) :
    dropTrailing p t = t := by
  rcases List.eq_nil_or_concat' t with rfl | ⟨a, c, rfl⟩
  · rfl
  · exact dropTrailing_append_of_neg (none c (by simp)) a

theorem not_of_mem_getLast?_dropTrailing {p : Char → Bool} {t : Text} {c : Char}
    (last : c ∈ (dropTrailing p t).getLast?) : p c = false := by
  have head := List.head?_dropWhile_not p t.reverse
  rw [dropTrailing, List.getLast?_reverse] at last
  rw [last] at head
  exact head

theorem dropTrailing_append_of_pos {p : Char → Bool} {tail : Text} (all : ∀ c ∈ tail, p c = true)
    (t : Text) : dropTrailing p (t ++ tail) = dropTrailing p t := by
  have dropped : ∀ c ∈ tail.reverse, p c = true := fun c mem => all c (List.mem_reverse.mp mem)
  rw [dropTrailing, List.reverse_append, List.dropWhile_append_of_pos dropped, dropTrailing]

/-- Blanks around a text are dropped with its own. -/
theorem trim_append {before after : Text} (front : ∀ c ∈ before, isBlank c = true)
    (back : ∀ c ∈ after, isBlank c = true) (t : Text) : trim (before ++ t ++ after) = trim t := by
  rw [trim, List.append_assoc, List.dropWhile_append_of_pos front, List.dropWhile_append, trim]
  split
  · rename_i blank
    rw [List.isEmpty_iff.mp blank, List.dropWhile_eq_nil_iff.mpr back]
  · exact dropTrailing_append_of_pos back _

theorem trim_eq_nil_iff {t : Text} : trim t = [] ↔ ∀ c ∈ t, isBlank c = true := by
  constructor
  · intro trimmed c mem
    rcases dropTrailing_append isBlank (t.dropWhile isBlank) with ⟨tail, whole, blank⟩
    rw [← trim, trimmed, List.nil_append] at whole
    rw [← List.takeWhile_append_dropWhile (p := isBlank) (l := t), ← whole] at mem
    rcases List.mem_append.mp mem with front | back
    · exact List.mem_takeWhile_imp front
    · exact blank c back
  · intro blank
    rw [trim, List.dropWhile_eq_nil_iff.mpr blank, dropTrailing_nil]

theorem trim_enclosed {first last : Char} (front : isBlank first = false)
    (back : isBlank last = false) (inside : Text) :
    trim (first :: inside ++ [last]) = first :: inside ++ [last] := by
  rw [trim, List.cons_append, List.dropWhile_cons_of_neg (by simp [front]), ← List.cons_append,
    dropTrailing_append_of_neg (by simp [back])]

theorem words_dropWhile (t : Text) : words (t.dropWhile isBlank) = words t := by
  induction t with
  | nil => rfl
  | cons c rest ih =>
      by_cases blank : isBlank c = true
      · rw [List.dropWhile_cons_of_pos blank, ih, words_cons_of_blank rest blank]
      · rw [List.dropWhile_cons_of_neg blank]

theorem words_dropTrailing (t : Text) : words (dropTrailing isBlank t) = words t := by
  rcases dropTrailing_append isBlank t with ⟨tail, whole, blank⟩
  have kept : words (dropTrailing isBlank t ++ tail) = words (dropTrailing isBlank t) := by
    cases tail with
    | nil => rw [List.append_nil]
    | cons s tail =>
        have ⟨head, others⟩ := List.forall_mem_cons.mp blank
        rw [words_append_blank head, words_of_blank others, List.append_nil]
  rw [← kept, whole]

@[simp]
theorem words_trim (t : Text) : words (trim t) = words t := by
  rw [trim, words_dropTrailing, words_dropWhile]

/-- Blanks around a text belong to no word. -/
theorem words_enclosed {before after : Text} (front : ∀ c ∈ before, isBlank c = true)
    (back : ∀ c ∈ after, isBlank c = true) (t : Text) : words (before ++ t ++ after) = words t := by
  rw [← words_trim, trim_append front back, words_trim]

/-- Blanks between two texts keep their words apart. -/
theorem words_append_blanks {gap : Text} (nonempty : gap ≠ []) (blank : ∀ c ∈ gap, isBlank c = true)
    (a b : Text) : words (a ++ gap ++ b) = words a ++ words b := by
  obtain ⟨s, gap, rfl⟩ := List.exists_cons_of_ne_nil nonempty
  have ⟨head, tail⟩ := List.forall_mem_cons.mp blank
  have behind := words_enclosed tail (List.forall_mem_nil _) b
  rw [List.append_nil] at behind
  rw [List.append_assoc, List.cons_append, words_append_blank head, behind]

theorem dropWhile_unwords {ws : List Text}
    (visible : ∀ w ∈ ws, w ≠ [] ∧ ∀ c ∈ w, isBlank c = false) :
    (unwords ws).dropWhile isBlank = unwords ws := by
  cases ws with
  | nil => rfl
  | cons w ws =>
      have ⟨nonempty, head⟩ := visible w List.mem_cons_self
      obtain ⟨c, w, rfl⟩ := List.exists_cons_of_ne_nil nonempty
      have first : ¬ isBlank c = true := Bool.eq_false_iff.mp (head c List.mem_cons_self)
      rcases unwords_cons_eq_append (c :: w) ws with ⟨tail, joined⟩
      rw [joined, List.cons_append, List.dropWhile_cons_of_neg first]

theorem dropTrailing_unwords {ws : List Text}
    (visible : ∀ w ∈ ws, w ≠ [] ∧ ∀ c ∈ w, isBlank c = false) :
    dropTrailing isBlank (unwords ws) = unwords ws := by
  rcases List.eq_nil_or_concat' ws with rfl | ⟨ws, w, rfl⟩
  · rfl
  · have ⟨nonempty, last⟩ := visible w (by simp)
    obtain ⟨w, c, rfl⟩ := (List.eq_nil_or_concat' w).resolve_left nonempty
    rcases unwords_concat_eq_append ws (w ++ [c]) with ⟨front, joined⟩
    rw [joined, ← List.append_assoc]
    exact dropTrailing_append_of_neg (last c (by simp)) _

/-- Joined words have no blank at either end. -/
theorem trim_collapse (t : Text) : trim (collapse t) = collapse t := by
  have visible : ∀ w ∈ words t, w ≠ [] ∧ ∀ c ∈ w, isBlank c = false :=
    fun _ mem => visible_of_mem_words mem
  rw [trim, collapse, dropWhile_unwords visible, dropTrailing_unwords visible]

/-! ## What depends on the words alone -/

section Layout

variable {α : Type} (whole : Text → α) (joined : α → α → α)

/-- What is put together at blanks is put together from the words. -/
theorem foldr_words
    (parts : ∀ (s : Char) (a b : Text), isBlank s = true →
      whole (a ++ s :: b) = joined (whole a) (whole b))
    (left : ∀ t, joined (whole []) (whole t) = whole t)
    (right : ∀ t, joined (whole t) (whole []) = whole t) (t : Text) :
    ((words t).map whole).foldr joined (whole []) = whole t := by
  fun_induction words t with
  | case1 => rfl
  | case2 c rest blank ih => rw [ih, ← left rest, ← parts c [] rest blank, List.nil_append]
  | case3 c rest visible ih =>
      rw [List.map_cons, List.foldr_cons, ih]
      have cut := List.takeWhile_append_dropWhile (p := (!isBlank ·)) (l := rest)
      cases tail : rest.dropWhile (!isBlank ·) with
      | nil =>
          rw [tail, List.append_nil] at cut
          rw [right, cut]
      | cons s after =>
          have blank : isBlank s = true := by
            have head := List.head?_dropWhile_not (!isBlank ·) rest
            rw [tail] at head
            simpa using head
          rw [tail] at cut
          have first : whole (s :: after) = whole after := by
            rw [← left after, ← parts s [] after blank, List.nil_append]
          rw [first, ← parts s _ after blank, List.cons_append, cut]

theorem eq_of_words_eq
    (parts : ∀ (s : Char) (a b : Text), isBlank s = true →
      whole (a ++ s :: b) = joined (whole a) (whole b))
    (left : ∀ t, joined (whole []) (whole t) = whole t)
    (right : ∀ t, joined (whole t) (whole []) = whole t) {a b : Text}
    (same : words a = words b) : whole a = whole b := by
  rw [← foldr_words whole joined parts left right a, ← foldr_words whole joined parts left right b,
    same]

end Layout

/-- The layout of a text decides nothing about its visible characters. -/
theorem filter_visible_of_words_eq {a b : Text} (same : words a = words b) :
    a.filter (!isBlank ·) = b.filter (!isBlank ·) := by
  refine eq_of_words_eq (List.filter (!isBlank ·)) (· ++ ·) ?_ ?_ ?_ same
  · intro s a b blank
    simp [blank]
  · exact fun t => List.nil_append _
  · exact fun t => List.append_nil _

theorem mem_iff_of_words_eq {a b : Text} (same : words a = words b) {c : Char}
    (visible : isBlank c = false) : c ∈ a ↔ c ∈ b := by
  have filtered := congrArg (c ∈ ·) (filter_visible_of_words_eq same)
  simpa [visible] using filtered

end Reckoner.Text
