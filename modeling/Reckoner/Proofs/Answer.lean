import Reckoner.Proofs.Expr.Literal
import Reckoner.Proofs.Number.Places

/-!
# Printed answers

The text of an answer is a text that has this very answer. A number is presented so that its text is
read back as a number which is presented in the same way: what has been rounded is not rounded again,
and rounding does not carry a number across the bound from which on numbers are presented with an
exponent.
-/

namespace Reckoner

open Binary64

namespace Evaluator

variable {evaluator : Evaluator} {x : Binary64} {answer : Answer}

theorem present_of_large (finite : x.isFinite = true) (large : exponentRank ≤ x.rank) :
    evaluator.present (.real x) = .ok (.formatted (Layout.scientific.write x)) := by
  simp [present, finite, large]

theorem present_of_small (finite : x.isFinite = true) (small : x.rank < exponentRank) :
    evaluator.present (.real x) =
      .ok (.numeric (if evaluator.rounds then x.roundTo roundingPlaces else x)) := by
  simp [present, finite, Nat.not_le.mpr small]

theorem coarseRank_lt_exponentRank : coarseRank < exponentRank := by
  have below : coarseRank < 4921056587992461136 := by decide
  have value : exponentRank = 4921056587992461136 := by decide +kernel
  exact Nat.lt_of_lt_of_eq below value.symm

/-- What is presented as a number stays a number when it is presented again. -/
theorem present_roundTo (rounds : evaluator.rounds = true) (finite : x.isFinite = true)
    (small : x.rank < exponentRank) :
    evaluator.present (.real (x.roundTo roundingPlaces)) =
      .ok (.numeric (x.roundTo roundingPlaces)) := by
  have inRange : x.rank < infinityRank := of_decide_eq_true finite
  have still : (x.roundTo roundingPlaces).rank < exponentRank := by
    rw [rank_roundTo finite]
    exact roundedRank_lt inRange small coarseRank_lt_exponentRank
  rw [present_of_small (isFinite_roundTo finite) still, if_pos rounds, roundTo_roundTo finite]

/-- An answer is the text of a finite number that has this answer. -/
theorem exists_write_of_present {value : Value} (done : evaluator.present value = .ok answer) :
    ∃ (layout : Layout) (x : Binary64), layout.ReadsBack ∧ x.isFinite = true ∧
      answer.text = layout.write x ∧ evaluator.present (.real x) = .ok answer := by
  cases value with
  | callable f => contradiction
  | real x =>
      cases finite : x.isFinite with
      | false => simp [present, finite] at done
      | true =>
          rcases Nat.lt_or_ge x.rank exponentRank with small | large
          · by_cases rounds : evaluator.rounds = true
            · rw [present_of_small finite small, if_pos rounds] at done
              cases done
              refine ⟨.plain, x.roundTo roundingPlaces, Layout.readsBack_plain,
                isFinite_roundTo finite, rfl, ?_⟩
              exact present_roundTo rounds finite small
            · have kept := done
              rw [present_of_small finite small, if_neg rounds] at done
              cases done
              exact ⟨.plain, x, Layout.readsBack_plain, finite, rfl, kept⟩
          · have kept := done
            rw [present_of_large finite large] at done
            cases done
            exact ⟨.scientific, x, Layout.readsBack_scientific, finite, rfl, kept⟩

/-- The answer of a text is that of the tree that the text is read as. -/
theorem map_answer_evaluate (mode : AngleMode) (t : Text) :
    (evaluator.evaluate mode t).map Evaluation.answer =
      (Expr.ofText mode t).bind fun tree =>
        (tree.value evaluator.library).bind evaluator.present := by
  rw [evaluate]
  cases Expr.ofText mode t with
  | error e => rfl
  | ok tree =>
      change Except.map _ (((tree.value evaluator.library).bind evaluator.present).bind _) =
        (tree.value evaluator.library).bind evaluator.present
      cases (tree.value evaluator.library).bind evaluator.present <;> rfl

/-- The text of a presented number has the answer that the number has. -/
theorem evaluate_write {layout : Layout} (reads : layout.ReadsBack) (finite : x.isFinite = true)
    (mode : AngleMode) :
    (evaluator.evaluate mode (layout.write x)).map Evaluation.answer =
      evaluator.present (.real x) := by
  rw [map_answer_evaluate, Expr.ofText_write reads finite mode, Except.bind, Expr.value_literal]
  rfl

/-- The text of an answer has that answer, in every angle mode. -/
theorem evaluate_text {mode : AngleMode} {t : Text}
    (done : (evaluator.evaluate mode t).map Evaluation.answer = .ok answer) (again : AngleMode) :
    (evaluator.evaluate again answer.text).map Evaluation.answer = .ok answer := by
  rw [map_answer_evaluate] at done
  rcases bind_eq_ok_iff.mp done with ⟨tree, _, evaluated⟩
  rcases bind_eq_ok_iff.mp evaluated with ⟨value, _, presented⟩
  rcases exists_write_of_present presented with ⟨layout, x, reads, finite, text, kept⟩
  rw [text, evaluate_write reads finite, kept]

/-- The theorem applies to a sum whose double differs from the one that is presented. -/
theorem evaluate_text_sum :
    (Evaluator.evaluate {} .deg "0.1 + 0.2".toList).map Evaluation.answer =
        .ok (.numeric ⟨0x3fd3333333333333⟩) ∧
      (Evaluator.evaluate {} .rad (Answer.numeric ⟨0x3fd3333333333333⟩).text).map
        Evaluation.answer = .ok (.numeric ⟨0x3fd3333333333333⟩) := by
  have done : (Evaluator.evaluate {} .deg "0.1 + 0.2".toList).map Evaluation.answer =
      .ok (.numeric ⟨0x3fd3333333333333⟩) := by decide +kernel
  exact ⟨done, evaluate_text done .rad⟩

end Evaluator

end Reckoner
