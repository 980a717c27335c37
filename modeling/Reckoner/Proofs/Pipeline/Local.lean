import Reckoner.Pipeline
import Reckoner.Proofs.Answer
import Reckoner.Proofs.Expr.Layout

/-!
# Answers without a normalizer

Without a normalizer, a question is answered from the text as typed, from the text without filler
phrases, or past the gate. Whichever it is, the answer is the one that plain evaluation gives: a
text that can be evaluated, and a text that passes the gate, lose nothing but layout with their
filler phrases.
-/

namespace Reckoner

namespace Success

/-- What was evaluated, without the way it took. -/
def evaluation (success : Success) : Evaluation :=
  ⟨success.canonical, success.answer⟩

end Success

namespace Evaluator

variable {evaluator : Evaluator} {mode : AngleMode} {t : Text} {q : Question}

/-! ## Attempts -/

theorem attempt_of_ok {done : Evaluation} (evaluated : evaluator.evaluate mode t = .ok done)
    (stage : Stage) (normalized : Option Text) :
    evaluator.attempt mode stage normalized t =
      .ok ⟨done.answer, done.canonical, stage, normalized⟩ := by
  rw [attempt, evaluated]

theorem attempt_of_error {e : CalcError} (failed : evaluator.evaluate mode t = .error e)
    (stage : Stage) (normalized : Option Text) :
    evaluator.attempt mode stage normalized t = .error ⟨e, normalized⟩ := by
  rw [attempt, failed]

theorem ofText_of_evaluate {done : Evaluation} (evaluated : evaluator.evaluate mode t = .ok done) :
    ∃ tree, Expr.ofText mode t = .ok tree := by
  rw [evaluate] at evaluated
  rcases bind_eq_ok_iff.mp evaluated with ⟨tree, read, _⟩
  exact ⟨tree, read⟩

/-- Taking filler phrases out of a clean text leaves its evaluation. -/
theorem evaluate_stripped (clean : Gate.IsClean t) :
    evaluator.evaluate mode (Filler.stripped t) = evaluator.evaluate mode t :=
  evaluate_eq_of_ofText_eq (Expr.ofText_stripped clean mode)

/-! ## Questions that can be evaluated -/

/-- A text that can be evaluated is a question, and its evaluation that of the question. -/
theorem question_of_evaluate {done : Evaluation}
    (evaluated : evaluator.evaluate mode t = .ok done) :
    ∃ q, Question.ofText mode t = .ok q ∧ q.mode = mode ∧ q.text = Text.trim t ∧
      evaluator.evaluate q.mode q.text = .ok done := by
  rcases ofText_of_evaluate evaluated with ⟨tree, read⟩
  have clean := Expr.isClean_of_ofText read
  have kept : evaluator.evaluate mode (Text.trim t) = .ok done :=
    (evaluate_eq_of_ofText_eq (Expr.ofText_trim clean mode)).trans evaluated
  have nonempty : Text.trim t ≠ [] := by
    intro empty
    rw [← Expr.ofText_trim clean, empty] at read
    exact (Expr.ofText_eq_ok_iff.mp read).1 Text.tidy_nil
  refine ⟨⟨Text.trim t, mode, Text.trim_trim t, nonempty⟩, ?_, rfl, rfl, kept⟩
  rw [Question.ofText, dif_neg nonempty]

/-- Behind a byte order mark, or without one, the text of a question that can be evaluated is
clean. -/
theorem isNearlyClean_of_evaluate {done : Evaluation}
    (evaluated : evaluator.evaluate mode t = .ok done) : Filler.IsNearlyClean t := by
  rcases ofText_of_evaluate evaluated with ⟨tree, read⟩
  exact Filler.isNearlyClean_of_withoutMark (Expr.isClean_of_ofText read)

/-! ## The local attempts

What they come to is decided by the first row of this table that applies. -/

/-- The text as typed passes the gate and evaluates. -/
def AnswersTyped (evaluator : Evaluator) (q : Question) (done : Evaluation) : Prop :=
  Gate.passes q.text = true ∧ evaluator.evaluate q.mode q.text = .ok done

/-- The text without filler phrases is another text, and passes the gate. -/
def TriesStripped (q : Question) : Prop :=
  Filler.stripped q.text ≠ q.text ∧ Gate.passes (Filler.stripped q.text) = true

/-- The text without filler phrases is tried and evaluates. -/
def AnswersStripped (evaluator : Evaluator) (q : Question) (done : Evaluation) : Prop :=
  TriesStripped q ∧ evaluator.evaluate q.mode (Filler.stripped q.text) = .ok done

/-- No local attempt answers, and `last` is the failure of the last one that was made. -/
inductive LastFailure (evaluator : Evaluator) (q : Question) : Option Failure → Prop where
  | stripped {e : CalcError} (tried : TriesStripped q)
      (failed : evaluator.evaluate q.mode (Filler.stripped q.text) = .error e) :
      LastFailure evaluator q (some ⟨e, some (Filler.stripped q.text)⟩)
  | typed {e : CalcError} (passes : Gate.passes q.text = true)
      (failed : evaluator.evaluate q.mode q.text = .error e) (untried : ¬ TriesStripped q) :
      LastFailure evaluator q (some ⟨e, none⟩)
  | none (refused : Gate.passes q.text = false) (untried : ¬ TriesStripped q) :
      LastFailure evaluator q none

theorem attemptTyped_of_passes (passes : Gate.passes q.text = true) :
    evaluator.attemptTyped q = some (evaluator.attempt q.mode .typed none q.text) := by
  rw [attemptTyped, if_pos passes]

theorem attemptTyped_of_refused (refused : Gate.passes q.text = false) :
    evaluator.attemptTyped q = none := by
  rw [attemptTyped, if_neg (Bool.eq_false_iff.mp refused)]

theorem attemptStripped_of_tried (tried : TriesStripped q) :
    evaluator.attemptStripped q =
      some (evaluator.attempt q.mode .stripped (some (Filler.stripped q.text))
        (Filler.stripped q.text)) :=
  if_pos tried

theorem attemptStripped_of_untried (untried : ¬ TriesStripped q) :
    evaluator.attemptStripped q = none :=
  if_neg untried

theorem attemptLocally_of_answersTyped {done : Evaluation}
    (answers : evaluator.AnswersTyped q done) :
    evaluator.attemptLocally q = .ok ⟨done.answer, done.canonical, .typed, none⟩ := by
  rw [attemptLocally, attemptTyped_of_passes answers.1, attempt_of_ok answers.2]

/-- Without an answer to the text as typed, everything hangs on the text without filler phrases. -/
theorem attemptLocally_eq_afterTyped (untyped : ∀ done, ¬ evaluator.AnswersTyped q done) :
    Gate.passes q.text = false ∧ evaluator.attemptLocally q = evaluator.afterTyped q none ∨
      Gate.passes q.text = true ∧ ∃ e, evaluator.evaluate q.mode q.text = .error e ∧
        evaluator.attemptLocally q = evaluator.afterTyped q (some ⟨e, none⟩) := by
  cases passes : Gate.passes q.text with
  | false => exact .inl ⟨rfl, by rw [attemptLocally, attemptTyped_of_refused passes]⟩
  | true =>
      cases evaluated : evaluator.evaluate q.mode q.text with
      | ok done => exact absurd ⟨passes, evaluated⟩ (untyped done)
      | error e =>
          refine .inr ⟨rfl, e, rfl, ?_⟩
          rw [attemptLocally, attemptTyped_of_passes passes, attempt_of_error evaluated]

theorem attemptLocally_of_answersStripped {done : Evaluation}
    (untyped : ∀ done, ¬ evaluator.AnswersTyped q done)
    (answers : evaluator.AnswersStripped q done) :
    evaluator.attemptLocally q =
      .ok ⟨done.answer, done.canonical, .stripped, some (Filler.stripped q.text)⟩ := by
  have after : ∀ last, evaluator.afterTyped q last =
      .ok ⟨done.answer, done.canonical, .stripped, some (Filler.stripped q.text)⟩ := by
    intro last
    rw [afterTyped, attemptStripped_of_tried answers.1, attempt_of_ok answers.2]
  rcases attemptLocally_eq_afterTyped untyped with ⟨_, same⟩ | ⟨_, e, _, same⟩
  · rw [same, after]
  · rw [same, after]

theorem attemptLocally_of_unanswered (untyped : ∀ done, ¬ evaluator.AnswersTyped q done)
    (unstripped : ∀ done, ¬ evaluator.AnswersStripped q done) :
    ∃ last, evaluator.LastFailure q last ∧ evaluator.attemptLocally q = .error last := by
  by_cases tried : TriesStripped q
  · cases evaluated : evaluator.evaluate q.mode (Filler.stripped q.text) with
    | ok done => exact absurd ⟨tried, evaluated⟩ (unstripped done)
    | error e =>
        refine ⟨_, .stripped tried evaluated, ?_⟩
        rcases attemptLocally_eq_afterTyped untyped with ⟨_, same⟩ | ⟨_, _, _, same⟩ <;>
          rw [same, afterTyped, attemptStripped_of_tried tried, attempt_of_error evaluated]
  · rcases attemptLocally_eq_afterTyped untyped with ⟨refused, same⟩ | ⟨passes, e, failed, same⟩
    · exact ⟨_, .none refused tried, by rw [same, afterTyped, attemptStripped_of_untried tried]⟩
    · exact ⟨_, .typed passes failed tried,
        by rw [same, afterTyped, attemptStripped_of_untried tried]⟩

/-! ## The run -/

end Evaluator

namespace Pipeline

open Evaluator

variable {evaluator : Evaluator} {mode : AngleMode} {t : Text} {q : Question}

/-- The pipeline that has no normalizer. -/
def localOnly (evaluator : Evaluator) : Pipeline Id where
  evaluator := evaluator

theorem run_localOnly_of_answered {success : Success}
    (answered : evaluator.attemptLocally q = .ok success) :
    Id.run ((localOnly evaluator).run q) = .ok success := by
  rw [run, localOnly, answered]
  rfl

theorem run_localOnly_of_unanswered {last : Option Failure}
    (unanswered : evaluator.attemptLocally q = .error last) :
    Id.run ((localOnly evaluator).run q) = evaluator.withoutNormalizer q last := by
  rw [run, localOnly, unanswered]
  rfl

/-- A question that can be evaluated is answered so, whatever stage answers. -/
theorem run_localOnly_of_evaluate {done : Evaluation}
    (evaluated : evaluator.evaluate q.mode q.text = .ok done) :
    ∃ success, Id.run ((localOnly evaluator).run q) = .ok success ∧
      success.evaluation = done := by
  by_cases typed : ∃ d, evaluator.AnswersTyped q d
  · rcases typed with ⟨d, answers⟩
    obtain rfl : done = d := Except.ok.inj (evaluated.symm.trans answers.2)
    exact ⟨_, run_localOnly_of_answered (attemptLocally_of_answersTyped answers), rfl⟩
  · have untyped := not_exists.mp typed
    by_cases tried : TriesStripped q
    · -- The gate lets no byte order mark through, so that the text is clean.
      have nearly := isNearlyClean_of_evaluate evaluated
      have collapsed := Gate.isClean_of_passes tried.2
      rw [Filler.stripped_eq_collapse nearly] at collapsed
      have clean := (Gate.isClean_iff_of_words_eq (Text.words_collapse q.text)).mp collapsed
      have answers : evaluator.AnswersStripped q done :=
        ⟨tried, (evaluate_stripped clean).trans evaluated⟩
      exact ⟨_, run_localOnly_of_answered (attemptLocally_of_answersStripped untyped answers), rfl⟩
    · have unstripped : ∀ d, ¬ evaluator.AnswersStripped q d := fun d answers => tried answers.1
      rcases attemptLocally_of_unanswered untyped unstripped with ⟨last, kind, unanswered⟩
      refine ⟨⟨done.answer, done.canonical, .ungated, none⟩, ?_, rfl⟩
      rw [run_localOnly_of_unanswered unanswered]
      cases kind with
      | stripped tries => exact absurd tries tried
      | typed passes => exact absurd ⟨passes, evaluated⟩ (untyped done)
      | none => rw [withoutNormalizer, attempt_of_ok evaluated]

/-- A question that passes the gate and is not answered fails as its evaluation does. -/
theorem evaluate_of_run_localOnly {failure : Failure} (passes : Gate.passes q.text = true)
    (failed : Id.run ((localOnly evaluator).run q) = .error failure) :
    evaluator.evaluate q.mode q.text = .error failure.error := by
  cases evaluated : evaluator.evaluate q.mode q.text with
  | ok done =>
      rcases run_localOnly_of_evaluate evaluated with ⟨success, answered, _⟩
      rw [answered] at failed
      contradiction
  | error e =>
      have clean := Gate.isClean_of_passes passes
      have same : evaluator.evaluate q.mode (Filler.stripped q.text) = .error e :=
        (evaluate_stripped clean).trans evaluated
      have untyped : ∀ done, ¬ evaluator.AnswersTyped q done := by
        rintro done ⟨_, other⟩
        rw [evaluated] at other
        contradiction
      have unstripped : ∀ done, ¬ evaluator.AnswersStripped q done := by
        rintro done ⟨_, other⟩
        rw [same] at other
        contradiction
      rcases attemptLocally_of_unanswered untyped unstripped with ⟨last, kind, unanswered⟩
      rw [run_localOnly_of_unanswered unanswered] at failed
      cases kind with
      | stripped _ other =>
          rw [same] at other
          cases other
          cases failed
          rfl
      | typed _ other =>
          rw [evaluated] at other
          cases other
          cases failed
          rfl
      | none refused =>
          rw [passes] at refused
          contradiction

/-- Without a normalizer, the pipeline agrees with plain evaluation: what can be evaluated is
answered so, and what passes the gate and is not answered fails as its evaluation does. -/
theorem run_localOnly_agrees (evaluator : Evaluator) (mode : AngleMode) (t : Text) :
    (∀ done, evaluator.evaluate mode t = .ok done →
      ∃ q success, Question.ofText mode t = .ok q ∧
        Id.run ((localOnly evaluator).run q) = .ok success ∧
        success.answer = done.answer ∧ success.canonical = done.canonical) ∧
    (Gate.passes (Text.trim t) = true →
      ∃ q, Question.ofText mode t = .ok q ∧
        ∀ failure, Id.run ((localOnly evaluator).run q) = .error failure →
          evaluator.evaluate mode (Text.trim t) = .error failure.error) := by
  constructor
  · intro done evaluated
    rcases question_of_evaluate evaluated with ⟨q, asked, _, _, kept⟩
    rcases run_localOnly_of_evaluate kept with ⟨success, answered, same⟩
    subst same
    exact ⟨q, success, asked, answered, rfl, rfl⟩
  · intro passes
    have nonempty : Text.trim t ≠ [] := Gate.ne_nil_of_passes passes
    refine ⟨⟨Text.trim t, mode, Text.trim_trim t, nonempty⟩, ?_, fun failure failed => ?_⟩
    · rw [Question.ofText, dif_neg nonempty]
    · exact evaluate_of_run_localOnly passes failed

/-- A sum in a loose layout is answered. A quotient is tried twice, and fails as it would at once. -/
theorem run_localOnly_agrees_quotient :
    (∃ q success, Question.ofText .rad " 1  +  2 ".toList = .ok q ∧
      Id.run ((localOnly {}).run q) = .ok success ∧
      success.answer = .numeric ⟨0x4008000000000000⟩ ∧ success.canonical = "1 + 2".toList) ∧
    ({} : Evaluator).evaluate .rad (Text.trim " 1  /  0 ".toList) = .error .nonFiniteResult := by
  have sum : ({} : Evaluator).evaluate .rad " 1  +  2 ".toList =
      .ok ⟨"1 + 2".toList, .numeric ⟨0x4008000000000000⟩⟩ := by decide +kernel
  refine ⟨(run_localOnly_agrees {} .rad " 1  +  2 ".toList).1 _ sum, ?_⟩
  rcases (run_localOnly_agrees {} .rad " 1  /  0 ".toList).2 (by decide +kernel)
    with ⟨q, asked, fails⟩
  rw [Question.ofText, dif_neg (by decide)] at asked
  cases asked
  exact fails ⟨.nonFiniteResult, some "1 / 0".toList⟩ (by decide +kernel)

end Pipeline

end Reckoner
