import Reckoner.Proofs.Pipeline.Local

/-!
# What answers consist of

However a question is answered, the answer is what some text evaluates to in the mode of the
question. In particular, an answer that is a number is a finite one.
-/

namespace Reckoner

namespace Answer

/-- A number in the answer is finite. -/
def IsFinite : Answer → Prop
  | numeric x => x.isFinite = true
  | formatted _ => True

end Answer

namespace Evaluator

variable {evaluator : Evaluator} {mode : AngleMode} {t : Text} {q : Question}
  {last : Option Failure} {success : Success}

/-! ## Finite numbers -/

theorem isFinite_of_present {value : Value} {answer : Answer}
    (presented : evaluator.present value = .ok answer) : answer.IsFinite := by
  cases value with
  | callable f => contradiction
  | real x =>
      cases finite : x.isFinite with
      | false => simp [present, finite] at presented
      | true =>
          rcases Nat.lt_or_ge x.rank exponentRank with small | large
          · rw [present_of_small finite small] at presented
            cases presented
            by_cases rounds : evaluator.rounds = true
            · rw [if_pos rounds]
              exact Binary64.isFinite_roundTo finite
            · rw [if_neg rounds]
              exact finite
          · rw [present_of_large finite large] at presented
            cases presented
            trivial

/-- Evaluation gives no number but a finite one. -/
theorem isFinite_of_evaluate {done : Evaluation}
    (evaluated : evaluator.evaluate mode t = .ok done) : done.answer.IsFinite := by
  have answered : (evaluator.evaluate mode t).map Evaluation.answer = .ok done.answer := by
    rw [evaluated]
    rfl
  rw [map_answer_evaluate] at answered
  rcases bind_eq_ok_iff.mp answered with ⟨tree, _, valued⟩
  rcases bind_eq_ok_iff.mp valued with ⟨value, _, presented⟩
  exact isFinite_of_present presented

/-! ## Answered questions -/

/-- The answer is what a text evaluates to in the mode of the question. -/
def Justifies (evaluator : Evaluator) (q : Question) (success : Success) : Prop :=
  ∃ t, evaluator.evaluate q.mode t = .ok success.evaluation

theorem Justifies.isFinite (justified : evaluator.Justifies q success) :
    success.answer.IsFinite := by
  rcases justified with ⟨t, evaluated⟩
  exact isFinite_of_evaluate evaluated

theorem justifies_of_attempt {stage : Stage} {normalized : Option Text}
    (answered : evaluator.attempt q.mode stage normalized t = .ok success) :
    evaluator.Justifies q success := by
  refine ⟨t, ?_⟩
  cases evaluated : evaluator.evaluate q.mode t with
  | error e =>
      rw [attempt_of_error evaluated] at answered
      contradiction
  | ok done =>
      rw [attempt_of_ok evaluated] at answered
      cases answered
      rfl

theorem justifies_of_attemptTyped (answered : evaluator.attemptTyped q = some (.ok success)) :
    evaluator.Justifies q success := by
  rw [attemptTyped] at answered
  split at answered
  · exact justifies_of_attempt (Option.some.inj answered)
  · contradiction

theorem justifies_of_attemptStripped (answered : evaluator.attemptStripped q = some (.ok success)) :
    evaluator.Justifies q success := by
  simp only [attemptStripped] at answered
  split at answered
  · exact justifies_of_attempt (Option.some.inj answered)
  · contradiction

theorem justifies_of_afterTyped (answered : evaluator.afterTyped q last = .ok success) :
    evaluator.Justifies q success := by
  rw [afterTyped] at answered
  split at answered
  · rename_i tried
    cases answered
    exact justifies_of_attemptStripped tried
  · contradiction
  · contradiction

theorem justifies_of_attemptLocally (answered : evaluator.attemptLocally q = .ok success) :
    evaluator.Justifies q success := by
  rw [attemptLocally] at answered
  split at answered
  · rename_i tried
    cases answered
    exact justifies_of_attemptTyped tried
  · exact justifies_of_afterTyped answered
  · exact justifies_of_afterTyped answered

theorem justifies_of_withoutNormalizer
    (answered : evaluator.withoutNormalizer q last = .ok success) :
    evaluator.Justifies q success := by
  cases last with
  | none => exact justifies_of_attempt answered
  | some failure => contradiction

theorem justifies_of_settle {reply : Reply}
    (answered : evaluator.settle q last reply = .ok success) : evaluator.Justifies q success := by
  rw [settle] at answered
  split at answered
  · exact justifies_of_attempt answered
  · contradiction

end Evaluator

end Reckoner
