import Reckoner.Proofs.Text.Words

/-!
# Other blanks between the same words

Two texts that differ only in the blanks at their ends, and in how many and which blanks they have
between two words, hold the same words in the same places. A collapsed text is such a text.
-/

namespace Reckoner.Text

/-- The second text has blanks where the first one has, though other ones, and more or fewer. -/
inductive Respaced : Text → Text → Prop where
  | ends {a b : Text} (first : ∀ c ∈ a, isBlank c = true) (second : ∀ c ∈ b, isBlank c = true) :
      Respaced a b
  | visible {c : Char} {s t : Text} (visible : isBlank c = false) (rest : Respaced s t) :
      Respaced (c :: s) (c :: t)
  | gap {a b s t : Text} (before : a ≠ []) (after : b ≠ []) (first : ∀ c ∈ a, isBlank c = true)
      (second : ∀ c ∈ b, isBlank c = true) (rest : Respaced s t) : Respaced (a ++ s) (b ++ t)

namespace Respaced

variable {s t : Text}

theorem symm (respaced : Respaced s t) : Respaced t s := by
  induction respaced with
  | ends first second => exact .ends second first
  | visible visible _ ih => exact .visible visible ih
  | gap before after first second _ ih => exact .gap after before second first ih

theorem head?_dropWhile (respaced : Respaced s t) :
    (s.dropWhile isBlank).head? = (t.dropWhile isBlank).head? := by
  induction respaced with
  | ends first second =>
      rw [List.dropWhile_eq_nil_iff.mpr first, List.dropWhile_eq_nil_iff.mpr second]
  | visible visible _ _ =>
      rw [List.dropWhile_cons_of_neg (Bool.eq_false_iff.mp visible),
        List.dropWhile_cons_of_neg (Bool.eq_false_iff.mp visible)]
      rfl
  | gap _ _ first second _ ih =>
      rwa [List.dropWhile_append_of_pos first, List.dropWhile_append_of_pos second]

/-- A visible character in front stays there. -/
theorem exists_of_cons {c : Char} (visible : isBlank c = false) (respaced : Respaced (c :: s) t) :
    ∃ rest : Text, t = c :: rest ∧ Respaced s rest := by
  generalize whole : c :: s = u at respaced
  cases respaced with
  | ends first _ =>
      subst whole
      rw [first c List.mem_cons_self] at visible
      contradiction
  | visible _ rest =>
      cases whole
      exact ⟨_, rfl, rest⟩
  | gap before _ first _ _ =>
      obtain ⟨d, a, rfl⟩ := List.exists_cons_of_ne_nil before
      cases whole
      rw [first c List.mem_cons_self] at visible
      contradiction

/-- A visible front stays. -/
theorem exists_of_append {front : Text} (visible : ∀ c ∈ front, isBlank c = false)
    (respaced : Respaced (front ++ s) t) : ∃ rest : Text, t = front ++ rest ∧ Respaced s rest := by
  induction front generalizing t with
  | nil => exact ⟨t, rfl, respaced⟩
  | cons c front ih =>
      have ⟨head, tail⟩ := List.forall_mem_cons.mp visible
      rcases exists_of_cons head respaced with ⟨u, rfl, inner⟩
      rcases ih tail inner with ⟨rest, rfl, same⟩
      exact ⟨rest, rfl, same⟩

end Respaced

/-! ## Collapsed texts -/

theorem collapse_cons_of_blank {c : Char} (blank : isBlank c = true) (t : Text) :
    collapse (c :: t) = collapse t := by
  rw [collapse, words_cons_of_blank t blank, collapse]

theorem collapse_cons_cons {c d : Char} (first : isBlank c = false) (second : isBlank d = false)
    (t : Text) : collapse (c :: d :: t) = c :: collapse (d :: t) := by
  rcases exists_words_cons_cons first second t with ⟨w, ws, inner, outer⟩
  rw [collapse, collapse, outer, inner]
  cases ws with
  | nil => rw [unwords_singleton, unwords_singleton]
  | cons v ws =>
      rw [unwords_cons_of_ne_nil _ (List.cons_ne_nil v ws),
        unwords_cons_of_ne_nil _ (List.cons_ne_nil v ws), List.cons_append]

theorem collapse_cons_of_apart {c : Char} {t : Text} (visible : isBlank c = false)
    (apart : ∀ d ∈ t.head?, isBlank d = true) (more : words t ≠ []) :
    collapse (c :: t) = c :: ' ' :: collapse t := by
  rw [collapse, words_cons_of_apart visible apart, unwords_cons_of_ne_nil [c] more]
  rfl

/-- What stands behind a visible character keeps its place behind it. -/
theorem respaced_cons_collapse {c : Char} {t : Text} (visible : isBlank c = false)
    (behind : Respaced (t.dropWhile isBlank) (collapse t)) :
    Respaced (c :: t) (collapse (c :: t)) := by
  have cut := List.takeWhile_append_dropWhile (p := isBlank) (l := t)
  have blanks : ∀ d ∈ t.takeWhile isBlank, isBlank d = true := fun _ => List.mem_takeWhile_imp
  cases rest : t.dropWhile isBlank with
  | nil =>
      have blank := List.dropWhile_eq_nil_iff.mp rest
      have alone : collapse (c :: t) = [c] := by
        rw [collapse, words_cons_of_apart visible fun d head => blank d (List.mem_of_head? head),
          words_of_blank blank, unwords_singleton]
      rw [alone]
      exact .visible visible (.ends blank (List.forall_mem_nil _))
  | cons d u =>
      have next : isBlank d = false := by
        have head := List.head?_dropWhile_not isBlank t
        rwa [rest] at head
      rw [rest] at cut behind
      cases gap : t.takeWhile isBlank with
      | nil =>
          rw [gap, List.nil_append] at cut
          subst cut
          rw [collapse_cons_cons visible next]
          exact .visible visible behind
      | cons s g =>
          have more : words t ≠ [] := by
            rw [← words_dropWhile, rest, words_cons_of_not_blank u next]
            exact List.cons_ne_nil _ _
          rw [gap] at cut blanks
          have apart : ∀ d ∈ t.head?, isBlank d = true := by
            rw [← cut]
            rintro _ ⟨⟩
            exact blanks s List.mem_cons_self
          rw [collapse_cons_of_apart visible apart more]
          nth_rewrite 1 [← cut]
          have space : ∀ d ∈ [' '], isBlank d = true := by decide
          exact .visible visible
            (.gap (List.cons_ne_nil s g) (List.cons_ne_nil _ _) blanks space behind)

/-- A collapsed text differs from the text only in its blanks. -/
theorem respaced_collapse (t : Text) : Respaced (t.dropWhile isBlank) (collapse t) := by
  induction t with
  | nil =>
      rw [collapse, words_nil]
      exact .ends (List.forall_mem_nil _) (List.forall_mem_nil _)
  | cons c t ih =>
      cases head : isBlank c with
      | true => rwa [List.dropWhile_cons_of_pos head, collapse_cons_of_blank head]
      | false =>
          rw [List.dropWhile_cons_of_neg (Bool.eq_false_iff.mp head)]
          exact respaced_cons_collapse head ih

end Reckoner.Text
