import Reckoner.Proofs.Gate.Call
import Reckoner.Proofs.Pipeline.Asking

/-!
# Strict questions stay local

A text that can be evaluated holds nothing but what the gate allows, and a digit or a constant. So
the gate can only miss an operator and a call in it, as where a multiplication sign is left out, or
find a byte order mark in front of it. If an operator or a call is written and there is no such
mark, the question is answered as typed and the normalizer is not asked. Otherwise it is asked.
-/

namespace Reckoner

namespace Evaluator

variable {evaluator : Evaluator} {mode : AngleMode} {t : Text}

/-- A text that can be evaluated has a number or a constant among its tokens. -/
theorem exists_operand_of_evaluate {done : Evaluation}
    (evaluated : evaluator.evaluate mode t = .ok done) :
    ∃ tokens, tokenize (Text.tidy t) = .ok tokens ∧
      ∃ token ∈ tokens, token.isOperand = true := by
  rw [evaluate] at evaluated
  rcases bind_eq_ok_iff.mp evaluated with ⟨tree, read, rest⟩
  rcases bind_eq_ok_iff.mp rest with ⟨answer, answered, _⟩
  rcases bind_eq_ok_iff.mp answered with ⟨value, denoted, presented⟩
  have denotes : tree.Denotes evaluator.library := by
    cases value with
    | real x => exact ⟨x, denoted⟩
    | callable f => cases presented
  rcases Expr.exists_parse_of_ofText read with ⟨tokens, strict, spelled, parsed, rfl⟩
  rcases Grammar.derives_of_parse parsed with ⟨p, derived, _, rfl, rfl⟩
  exact ⟨_, spelled, derived.exists_operand denotes⟩

/-- A text that can be evaluated passes the gate if an operator or a call is written in it. -/
theorem passes_of_evaluate {done : Evaluation} (evaluated : evaluator.evaluate mode t = .ok done)
    (noMark : t.head? ≠ some Text.byteOrderMark) (written : Gate.hasOperatorOrCall t = true) :
    Gate.passes t = true := by
  have bare := Text.withoutMark_of_head? noMark
  rcases ofText_of_evaluate evaluated with ⟨tree, read⟩
  have clean := Expr.isClean_of_ofText read
  rcases Expr.renders_of_ofText read with ⟨tokens, spelled, renders⟩
  rcases exists_operand_of_evaluate evaluated with ⟨others, same, operand⟩
  obtain rfl : tokens = others := Except.ok.inj (spelled.symm.trans same)
  rw [bare] at clean renders
  have digit := Gate.hasDigitOrConstant_of_renders renders operand
  rw [Gate.hasDigitOrConstant_map_lowerChar (clean.isPlain renders.isPlain)] at digit
  rw [Gate.passes, Gate.isLikelyMath_of_isClean clean written, written, digit]
  rfl

/-- Of the texts that can be evaluated, the gate lets those pass in which an operator or a call is
written, and no byte order mark in front of it. -/
theorem passes_iff_of_evaluate {done : Evaluation}
    (evaluated : evaluator.evaluate mode t = .ok done) :
    Gate.passes t = true ↔
      t.head? ≠ some Text.byteOrderMark ∧ Gate.hasOperatorOrCall t = true := by
  refine ⟨fun passes => ⟨fun marked => ?_, Gate.hasOperatorOrCall_of_passes passes⟩,
    fun both => passes_of_evaluate evaluated both.1 both.2⟩
  exact (Gate.isClean_of_passes passes).byteOrderMark_notMem (List.mem_of_mem_head? marked)

/-- Stripping helps no text that can be evaluated past the gate. -/
theorem passes_of_passes_stripped {done : Evaluation}
    (evaluated : evaluator.evaluate mode t = .ok done)
    (passes : Gate.passes (Filler.stripped t) = true) : Gate.passes t = true := by
  rw [Filler.stripped_eq_collapse (isNearlyClean_of_evaluate evaluated)] at passes
  have clean := (Gate.isClean_iff_of_words_eq (Text.words_collapse t)).mp
    (Gate.isClean_of_passes passes)
  have written := Gate.hasOperatorOrCall_of_passes passes
  rw [Gate.hasOperatorOrCall_collapse] at written
  refine passes_of_evaluate evaluated (fun marked => ?_) written
  exact clean.byteOrderMark_notMem (List.mem_of_mem_head? marked)

end Evaluator

namespace Pipeline

open Evaluator

variable {m : Type → Type} [Monad m] {evaluator : Evaluator}

/-- A question that can be evaluated, and in which an operator or a call is written, is answered as
typed, and the normalizer is asked nothing. -/
theorem run_full_of_evaluate (ask : Question → m Reply) (q : Question) (record : List Question)
    {done : Evaluation} (evaluated : evaluator.evaluate q.mode q.text = .ok done)
    (noMark : q.text.head? ≠ some Text.byteOrderMark)
    (written : Gate.hasOperatorOrCall q.text = true) :
    ((full evaluator ask).run q).run record =
      pure (.ok ⟨done.answer, done.canonical, .typed, none⟩, record) :=
  run_full_of_answered
    (attemptLocally_of_answersTyped ⟨passes_of_evaluate evaluated noMark written, evaluated⟩) record

/-- A product goes to no normalizer if its sign is written. -/
theorem run_full_of_evaluate_product :
    ((full {} (scripted "999 + 1".toList)).run
        ⟨"2 * pi".toList, .rad, by decide, by decide⟩).run [] =
      pure (.ok ⟨.numeric ⟨0x401921fb54442d1c⟩, "2 * pi".toList, .typed, none⟩, []) := by
  have evaluated : ({} : Evaluator).evaluate .rad "2 * pi".toList =
      .ok ⟨"2 * pi".toList, .numeric ⟨0x401921fb54442d1c⟩⟩ := by decide +kernel
  exact run_full_of_evaluate (scripted "999 + 1".toList)
    ⟨"2 * pi".toList, .rad, by decide, by decide⟩ [] evaluated
    (by decide) (by decide)

/-- A question that can be evaluated is put to the normalizer all the same if the gate sees no
operator and no call in it, or if there is a byte order mark in front of it. No local attempt is
made then. The gate sees no call in `2sin(3)`, since no word starts behind the digit. -/
theorem run_full_of_refused_evaluate [LawfulMonad m] (ask : Question → m Reply) (q : Question)
    (record : List Question) {done : Evaluation}
    (evaluated : evaluator.evaluate q.mode q.text = .ok done)
    (refused : q.text.head? = some Text.byteOrderMark ∨ Gate.hasOperatorOrCall q.text = false) :
    ((full evaluator ask).run q).run record =
      ask q >>= fun reply => pure (evaluator.settle q none reply, record ++ [q]) := by
  have stopped : ¬ Gate.passes q.text = true := by
    rw [passes_iff_of_evaluate evaluated]
    rintro ⟨noMark, written⟩
    rcases refused with marked | unwritten
    · exact noMark marked
    · rw [unwritten] at written
      contradiction
  have untried : ¬ TriesStripped q :=
    fun tried => stopped (passes_of_passes_stripped evaluated tried.2)
  have untyped : ∀ done, ¬ evaluator.AnswersTyped q done := fun _ answers => stopped answers.1
  have unstripped : ∀ done, ¬ evaluator.AnswersStripped q done :=
    fun _ answers => untried answers.1
  rcases attemptLocally_of_unanswered untyped unstripped with ⟨last, kind, unanswered⟩
  cases kind with
  | stripped tried => exact absurd tried untried
  | typed passes => exact absurd passes stopped
  | none => exact run_full_of_unanswered unanswered record

example : (Id.run (((full {} (scripted "999 + 1".toList)).run
    ⟨"\ufeff2 * pi".toList, .rad, by decide, by decide⟩).run [])).2.map Question.text =
      ["\ufeff2 * pi".toList] := by
  decide +kernel

/-- A product without a sign is a computation that can be evaluated, and it is asked all the same:
the gate sees no operator in it. -/
theorem run_full_two_pi :
    ({} : Evaluator).evaluate .rad "2pi".toList =
        .ok ⟨"2 * pi".toList, .numeric ⟨0x401921fb54442d1c⟩⟩ ∧
      (Expr.ofText .rad "2pi".toList).map Expr.isComputation = .ok true ∧
      (Id.run (((full {} (scripted "999 + 1".toList)).run
        ⟨"2pi".toList, .rad, by decide, by decide⟩).run [])).1 =
          .ok ⟨.numeric ⟨0x408f400000000000⟩, "999 + 1".toList, .normalized,
            some "999 + 1".toList⟩ ∧
      (Id.run (((full {} (scripted "999 + 1".toList)).run
        ⟨"2pi".toList, .rad, by decide, by decide⟩).run [])).2.map Question.text =
          ["2pi".toList] := by
  exact ⟨by decide +kernel, by decide +kernel, by decide +kernel, by decide +kernel⟩

end Pipeline

end Reckoner
