import Reckoner.Text.Blank

/-!
# Pairs of parentheses

In a text where every parenthesis has its partner, the partner of each is found in one way only. So a
pair of parentheses in a longer text stands either inside a part of that kind or behind it.
-/

namespace Reckoner.Text

/-- Every parenthesis has its partner. -/
inductive Paired : Text → Prop where
  | nil : Paired []
  | cons {c : Char} {t : Text} (notOpen : c ≠ '(') (notClose : c ≠ ')') (rest : Paired t) :
      Paired (c :: t)
  | pair {inside t : Text} (inner : Paired inside) (rest : Paired t) :
      Paired ('(' :: (inside ++ ')' :: t))

namespace Paired

variable {a b c s t x y : Text}

theorem append (first : Paired a) (second : Paired b) : Paired (a ++ b) := by
  induction first with
  | nil => exact second
  | cons notOpen notClose _ ih => exact .cons notOpen notClose ih
  | pair inner _ _ ih =>
      rw [List.cons_append, List.append_assoc]
      exact .pair inner ih

theorem of_forall (none : ∀ c ∈ t, c ≠ '(' ∧ c ≠ ')') : Paired t := by
  induction t with
  | nil => exact .nil
  | cons c t ih =>
      have ⟨head, tail⟩ := List.forall_mem_cons.mp none
      exact .cons head.1 head.2 (ih tail)

theorem enclosed (inner : Paired t) : Paired ('(' :: t ++ [')']) :=
  .pair inner .nil

/-- A closing parenthesis behind two paired texts is the same one. -/
theorem eq_of_close (first : Paired a) (second : Paired b) (same : a ++ ')' :: s = b ++ ')' :: t) :
    a = b ∧ s = t := by
  induction first generalizing b s t with
  | nil =>
      cases second with
      | nil => exact ⟨rfl, (List.cons.inj same).2⟩
      | cons _ notClose => exact absurd (List.cons.inj same).1.symm notClose
      | pair => exact absurd (List.cons.inj same).1 (by decide)
  | cons notOpen notClose _ ih =>
      cases second with
      | nil => exact absurd (List.cons.inj same).1 notClose
      | cons _ _ rest =>
          rcases List.cons.inj same with ⟨rfl, tails⟩
          rcases ih rest tails with ⟨rfl, rfl⟩
          exact ⟨rfl, rfl⟩
      | pair => exact absurd (List.cons.inj same).1 notOpen
  | pair _ _ innerIh restIh =>
      cases second with
      | nil => exact absurd (List.cons.inj same).1 (by decide)
      | cons notOpen => exact absurd (List.cons.inj same).1.symm notOpen
      | pair inner rest =>
          simp only [List.cons_append, List.append_assoc, List.cons.injEq, true_and] at same
          rcases innerIh inner same with ⟨rfl, others⟩
          rcases restIh rest others with ⟨rfl, rfl⟩
          exact ⟨rfl, rfl⟩

/-- A pair of parentheses stands behind a paired text in front, or inside it. -/
theorem cut (front : Paired x) (inner : Paired b) (same : x ++ y = a ++ '(' :: (b ++ ')' :: c)) :
    (∃ gap, a = x ++ gap ∧ y = gap ++ '(' :: (b ++ ')' :: c)) ∨
      ∃ back, c = back ++ y ∧ x = a ++ '(' :: (b ++ ')' :: back) := by
  induction front generalizing a c y with
  | nil => exact .inl ⟨a, rfl, same⟩
  | @cons d t notOpen notClose _ ih =>
      cases a with
      | nil => exact absurd (List.cons.inj same).1 notOpen
      | cons e a =>
          rcases List.cons.inj same with ⟨rfl, tails⟩
          rcases ih tails with ⟨gap, rfl, rest⟩ | ⟨back, rfl, rest⟩
          · exact .inl ⟨gap, rfl, rest⟩
          · exact .inr ⟨back, rfl, congrArg (d :: ·) rest⟩
  | @pair inside t first _ innerIh restIh =>
      rw [List.cons_append, List.append_assoc, List.cons_append] at same
      cases a with
      | nil =>
          rcases first.eq_of_close inner (List.cons.inj same).2 with ⟨rfl, rfl⟩
          exact .inr ⟨t, rfl, rfl⟩
      | cons e a =>
          rcases List.cons.inj same with ⟨rfl, tails⟩
          rcases innerIh tails with ⟨gap, rfl, rest⟩ | ⟨back, rfl, rest⟩
          · cases gap with
            | nil => exact absurd (List.cons.inj rest).1 (by decide)
            | cons e gap =>
                rcases List.cons.inj rest with ⟨rfl, behind⟩
                rcases restIh behind with ⟨gap, rfl, found⟩ | ⟨back, rfl, found⟩
                · exact .inl ⟨gap, by simp, found⟩
                · exact .inr ⟨back, rfl, by simp [found]⟩
          · exact .inr ⟨back ++ ')' :: t, by simp, by simp [rest]⟩

/-- There is no pair of parentheses in a text without any. -/
theorem cut_plain (plain : ∀ c ∈ x, c ≠ '(' ∧ c ≠ ')') (inner : Paired b)
    (same : x ++ y = a ++ '(' :: (b ++ ')' :: c)) :
    ∃ gap, a = x ++ gap ∧ y = gap ++ '(' :: (b ++ ')' :: c) := by
  rcases (of_forall plain).cut inner same with behind | ⟨back, _, rfl⟩
  · exact behind
  · exact absurd rfl (plain '(' (by simp)).1

/-- Behind a paired text no pair can start where nothing opens. -/
theorem cut_front (front : Paired x) (none : '(' ∉ y) (inner : Paired b)
    (same : x ++ y = a ++ '(' :: (b ++ ')' :: c)) :
    ∃ back, c = back ++ y ∧ x = a ++ '(' :: (b ++ ')' :: back) := by
  rcases front.cut inner same with ⟨gap, _, rfl⟩ | inside
  · exact absurd (by simp) none
  · exact inside

theorem not_plain (plain : ∀ c ∈ t, c ≠ '(' ∧ c ≠ ')') : t ≠ a ++ '(' :: b := by
  rintro rfl
  exact absurd rfl (plain '(' (by simp)).1

end Paired

end Reckoner.Text
