import Reckoner.Proofs.Pipeline.Local

/-!
# Asking a normalizer

The run of a pipeline that has a normalizer, with a record of what the normalizer is asked. It is
asked nothing if a local attempt answers. Otherwise it is asked the question once, and the outcome
hangs on its reply and on the failure of the last local attempt.
-/

namespace Reckoner

/-! ## Replies -/

/-- The expression can be read, and leaves nothing to compute. -/
def IsBareValue (mode : AngleMode) (expression : Text) : Prop :=
  ∃ tree, Expr.ofText mode expression = .ok tree ∧ tree.isComputation = false

/-- The reply gives no expression to evaluate, for the given cause. -/
inductive Declines (mode : AngleMode) : Reply → CalcError → Prop where
  | failed (e : CalcError) : Declines mode (.error e) e
  | blank {expression : Text} (blank : Text.trim expression = []) :
      Declines mode (.ok expression) (.normalizationFailed .blankExpression)
  | bareValue {expression : Text} (nonempty : Text.trim expression ≠ [])
      (bare : IsBareValue mode expression) :
      Declines mode (.ok expression) (.normalizationFailed (.bareValue expression))

theorem vetted_of_blank {mode : AngleMode} {expression : Text} (blank : Text.trim expression = []) :
    vetted mode expression = .error (.normalizationFailed .blankExpression) := by
  rw [vetted, if_pos (List.isEmpty_iff.mpr blank)]

theorem vetted_of_bareValue {mode : AngleMode} {expression : Text}
    (nonempty : Text.trim expression ≠ []) (bare : IsBareValue mode expression) :
    vetted mode expression = .error (.normalizationFailed (.bareValue expression)) := by
  rcases bare with ⟨tree, read, value⟩
  rw [vetted, if_neg (mt List.isEmpty_iff.mp nonempty), read]
  exact if_neg (Bool.eq_false_iff.mp value)

theorem vetted_of_not_bareValue {mode : AngleMode} {expression : Text}
    (nonempty : Text.trim expression ≠ []) (other : ¬ IsBareValue mode expression) :
    vetted mode expression = .ok expression := by
  rw [vetted, if_neg (mt List.isEmpty_iff.mp nonempty)]
  cases read : Expr.ofText mode expression with
  | error e => rfl
  | ok tree =>
      refine if_pos (Bool.eq_true_of_not_eq_false fun value => ?_)
      exact other ⟨tree, read, value⟩

/-- An expression is refused, or it is let through. -/
theorem vetted_cases (mode : AngleMode) (expression : Text) :
    (∃ e, Declines mode (.ok expression) e) ∨
      Text.trim expression ≠ [] ∧ ¬ IsBareValue mode expression := by
  by_cases blank : Text.trim expression = []
  · exact .inl ⟨_, .blank blank⟩
  · by_cases bare : IsBareValue mode expression
    · exact .inl ⟨_, .bareValue blank bare⟩
    · exact .inr ⟨blank, bare⟩

namespace Evaluator

variable {evaluator : Evaluator} {q : Question} {last : Option Failure}

/-- A reply without an expression leaves the earlier failure, if there is one. -/
theorem settle_of_declines {reply : Reply} {e : CalcError} (declines : Declines q.mode reply e) :
    evaluator.settle q last reply = .error (last.getD ⟨e, none⟩) := by
  cases declines with
  | failed => rfl
  | blank blank => rw [settle, Except.bind, vetted_of_blank blank]
  | bareValue nonempty bare => rw [settle, Except.bind, vetted_of_bareValue nonempty bare]

theorem settle_of_expression {expression : Text} (nonempty : Text.trim expression ≠ [])
    (other : ¬ IsBareValue q.mode expression) :
    evaluator.settle q last (.ok expression) =
      evaluator.attempt q.mode .normalized (some expression) expression := by
  rw [settle, Except.bind, vetted_of_not_bareValue nonempty other]

/-- What becomes of the replies to a question whose last local attempt has left the failure
`last`. -/
structure Settles (evaluator : Evaluator) (q : Question) (last : Option Failure)
    (outcome : Reply → Except Failure Success) : Prop where
  /-- An answer is the evaluation of an expression that leaves something to compute. -/
  answers_iff : ∀ expression success, outcome (.ok expression) = .ok success ↔
    Text.trim expression ≠ [] ∧
      ∃ done tree, evaluator.evaluate q.mode expression = .ok done ∧
        Expr.ofText q.mode expression = .ok tree ∧ tree.isComputation = true ∧
        success = ⟨done.answer, done.canonical, .normalized, some expression⟩
  /-- An expression that cannot be evaluated fails with the cause of that. -/
  fails : ∀ expression e, Text.trim expression ≠ [] → ¬ IsBareValue q.mode expression →
    evaluator.evaluate q.mode expression = .error e →
      outcome (.ok expression) = .error ⟨e, some expression⟩
  /-- Without an expression the last local attempt has the word, if there was one. -/
  declines : ∀ reply e, Declines q.mode reply e →
    outcome reply = .error (last.getD ⟨e, none⟩)

theorem settles_settle (evaluator : Evaluator) (q : Question) (last : Option Failure) :
    evaluator.Settles q last (evaluator.settle q last) where
  answers_iff expression success := by
    constructor
    · intro answered
      rcases vetted_cases q.mode expression with ⟨e, declines⟩ | ⟨nonempty, other⟩
      · rw [settle_of_declines declines] at answered
        contradiction
      · rw [settle_of_expression nonempty other] at answered
        cases evaluated : evaluator.evaluate q.mode expression with
        | error e =>
            rw [attempt_of_error evaluated] at answered
            contradiction
        | ok done =>
            rw [attempt_of_ok evaluated] at answered
            cases answered
            rcases ofText_of_evaluate evaluated with ⟨tree, read⟩
            have computes : tree.isComputation = true :=
              Bool.eq_true_of_not_eq_false fun value => other ⟨tree, read, value⟩
            exact ⟨nonempty, done, tree, rfl, read, computes, rfl⟩
    · rintro ⟨nonempty, done, tree, evaluated, read, computes, rfl⟩
      have other : ¬ IsBareValue q.mode expression := by
        rintro ⟨bare, again, value⟩
        rw [read] at again
        cases again
        rw [computes] at value
        contradiction
      rw [settle_of_expression nonempty other, attempt_of_ok evaluated]
  fails expression e nonempty other failed := by
    rw [settle_of_expression nonempty other, attempt_of_error failed]
  declines _ _ declines := settle_of_declines declines

end Evaluator

/-! ## Runs -/

namespace Pipeline

open Evaluator

variable {m : Type → Type} [Monad m] {evaluator : Evaluator} {ask : Question → m Reply}
  {q : Question}

/-- Asks a normalizer and puts the question on record. -/
def recorded (ask : Question → m Reply) (q : Question) : StateT (List Question) m Reply := do
  modify (· ++ [q])
  ask q

/-- The pipeline with a normalizer whose questions are recorded. -/
def full (evaluator : Evaluator) (ask : Question → m Reply) :
    Pipeline (StateT (List Question) m) where
  evaluator := evaluator
  normalizer := some (recorded ask)

theorem run_full_of_answered {success : Success}
    (answered : evaluator.attemptLocally q = .ok success) (record : List Question) :
    ((full evaluator ask).run q).run record = pure (.ok success, record) := by
  rw [run, full, answered]
  rfl

theorem run_full_of_unanswered [LawfulMonad m] {last : Option Failure}
    (unanswered : evaluator.attemptLocally q = .error last) (record : List Question) :
    ((full evaluator ask).run q).run record =
      ask q >>= fun reply => pure (evaluator.settle q last reply, record ++ [q]) := by
  rw [run, full, unanswered]
  simp [recorded]

/-- The normalizer is asked nothing when a local attempt answers, and once otherwise. -/
theorem run_full [LawfulMonad m] (evaluator : Evaluator) (ask : Question → m Reply) (q : Question)
    (record : List Question) :
    (∀ done, evaluator.AnswersTyped q done →
      ((full evaluator ask).run q).run record =
        pure (.ok ⟨done.answer, done.canonical, .typed, none⟩, record)) ∧
    ((∀ done, ¬ evaluator.AnswersTyped q done) →
      ∀ done, evaluator.AnswersStripped q done →
        ((full evaluator ask).run q).run record =
          pure (.ok ⟨done.answer, done.canonical, .stripped, some (Filler.stripped q.text)⟩,
            record)) ∧
    ((∀ done, ¬ evaluator.AnswersTyped q done) → (∀ done, ¬ evaluator.AnswersStripped q done) →
      ∃ last outcome, evaluator.LastFailure q last ∧ evaluator.Settles q last outcome ∧
        ((full evaluator ask).run q).run record =
          ask q >>= fun reply => pure (outcome reply, record ++ [q])) := by
  refine ⟨?_, ?_, ?_⟩
  · intro done answers
    exact run_full_of_answered (attemptLocally_of_answersTyped answers) record
  · intro untyped done answers
    exact run_full_of_answered (attemptLocally_of_answersStripped untyped answers) record
  · intro untyped unstripped
    rcases attemptLocally_of_unanswered untyped unstripped with ⟨last, kind, unanswered⟩
    exact ⟨last, evaluator.settle q last, kind, settles_settle evaluator q last,
      run_full_of_unanswered unanswered record⟩

/-- A normalizer that makes the same expression of every question. -/
def scripted (expression : Text) : Question → Id Reply :=
  fun _ => pure (.ok expression)

/-- A sum as typed, a sum among filler phrases, and a sum in words: only the last one is asked, and
answered from the reply. -/
theorem run_full_sums :
    ((full {} (scripted "5 + 5".toList)).run
        ⟨"2 + 2".toList, .rad, by decide, by decide⟩).run [] =
      pure (.ok ⟨.numeric ⟨0x4010000000000000⟩, "2 + 2".toList, .typed, none⟩, []) ∧
    ((full {} (scripted "5 + 5".toList)).run
        ⟨"what is 2 + 2?".toList, .rad, by decide, by decide⟩).run [] =
      pure (.ok ⟨.numeric ⟨0x4010000000000000⟩, "2 + 2".toList, .stripped,
        some "2 + 2".toList⟩, []) ∧
    ((full {} (scripted "5 + 5".toList)).run
        ⟨"five plus five".toList, .rad, by decide, by decide⟩).run [] =
      pure (.ok ⟨.numeric ⟨0x4024000000000000⟩, "5 + 5".toList, .normalized,
        some "5 + 5".toList⟩,
        [⟨"five plus five".toList, .rad, by decide, by decide⟩]) := by
  refine ⟨?_, ?_, ?_⟩
  · exact (run_full {} (scripted "5 + 5".toList) _ []).1
      ⟨"2 + 2".toList, .numeric ⟨0x4010000000000000⟩⟩ ⟨by decide +kernel, by decide +kernel⟩
  · have shorter : Filler.stripped "what is 2 + 2?".toList = "2 + 2".toList := by decide +kernel
    have answered := (run_full {} (scripted "5 + 5".toList)
      ⟨"what is 2 + 2?".toList, .rad, by decide, by decide⟩ []).2.1
      (fun done answers => absurd answers.1 (by decide +kernel))
      ⟨"2 + 2".toList, .numeric ⟨0x4010000000000000⟩⟩
      ⟨⟨by decide +kernel, by decide +kernel⟩, by decide +kernel⟩
    rwa [shorter] at answered
  · rcases (run_full {} (scripted "5 + 5".toList)
      ⟨"five plus five".toList, .rad, by decide, by decide⟩ []).2.2
      (fun done answers => absurd answers.1 (by decide +kernel))
      (fun done answers => absurd answers.1.2 (by decide +kernel))
      with ⟨last, outcome, _, settles, asked⟩
    have evaluated : ({} : Evaluator).evaluate .rad "5 + 5".toList =
        .ok ⟨"5 + 5".toList, .numeric ⟨0x4024000000000000⟩⟩ := by decide +kernel
    have computes : (Expr.ofText .rad "5 + 5".toList).map Expr.isComputation = .ok true := by
      decide +kernel
    rcases ofText_of_evaluate evaluated with ⟨tree, read⟩
    rw [read] at computes
    have answer := (settles.answers_iff "5 + 5".toList _).mpr
      ⟨by decide, _, tree, evaluated, read, Except.ok.inj computes, rfl⟩
    rw [asked]
    exact congrArg (·, [_]) answer

end Pipeline

end Reckoner
