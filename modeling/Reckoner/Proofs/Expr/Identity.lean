import Reckoner.Proofs.Expr.Recursion
import Reckoner.Proofs.Grammar.Unique

/-!
# Canonical texts identify computations

Two trees with the same text are the same tree, of whatever height they are and however deeply their
texts are nested: the tokens of the text are derived in one way only. So the canonical text of an
expression settles the evaluation of everything that has this canonical text, also where the text
itself is nested too deeply to be read.
-/

namespace Reckoner

namespace Expr

/-- Different trees are printed differently. -/
theorem print_injective {a b : Expr} (wellA : a.WellFormed) (singleA : ¬ a.StacksUnits)
    (wellB : b.WellFormed) (singleB : ¬ b.StacksUnits) (same : a.print = b.print) : a = b := by
  have tokens : a.phrase.tokens = b.phrase.tokens := by
    have read := tokenize_print wellA
    rw [same, tokenize_print wellB] at read
    exact (Except.ok.inj read).symm
  have first := (derives_phrase wellA singleA).loosen (level_sum_le _)
  have second := (derives_phrase wellB singleB).loosen (level_sum_le _)
  calc
    a = a.phrase.tree := (tree_phrase a).symm
    _ = b.phrase.tree := congrArg Grammar.Phrase.tree (first.unique second tokens)
    _ = b := tree_phrase b

/-- Texts with the same canonical text are read as the same canonical tree. -/
theorem ofText_eq_of_canonicalText_eq {mode other : AngleMode} {s t c : Text}
    (first : canonicalText mode s = .ok c) (second : canonicalText other t = .ok c) :
    ofText mode s = ofText other t := by
  rcases canonicalText_eq_ok_iff.mp first with ⟨a, readA, rfl⟩
  rcases canonicalText_eq_ok_iff.mp second with ⟨b, readB, same⟩
  rcases wellFormed_of_ofText readA with ⟨wellA, reducedA⟩
  rcases wellFormed_of_ofText readB with ⟨wellB, reducedB⟩
  rw [readA, readB,
    print_injective wellB reducedB.not_stacksUnits wellA reducedA.not_stacksUnits same]

end Expr

/-- Texts with the same canonical text, each in its own angle mode, have the same evaluation: the same
answer, or the same failure. -/
theorem Evaluator.evaluate_eq_of_canonicalText_eq (evaluator : Evaluator) {mode other : AngleMode}
    {s t c : Text} (first : canonicalText mode s = .ok c) (second : canonicalText other t = .ok c) :
    evaluator.evaluate mode s = evaluator.evaluate other t := by
  rw [evaluate, evaluate, Expr.ofText_eq_of_canonicalText_eq first second]

namespace Expr

/-- Sines that are nested to the given depth, each of an angle in degrees. -/
def sinesOfDegrees : Nat → Expr
  | 0 => constant .e
  | n + 1 => call .sin [withUnit (sinesOfDegrees n) .deg]

theorem canonical_sinesOfDegrees (n : Nat) :
    canonical .rad (sinesOfDegrees n) = canonical .deg (sines n) := by
  induction n with
  | zero => rfl
  | succ n ih =>
      rw [sines, canonical_deg_call rfl, hasUnit_sines, if_neg Bool.false_ne_true, ← ih]
      rfl

theorem height_sinesOfDegrees (n : Nat) : (sinesOfDegrees n).height = 2 * n + 1 := by
  induction n with
  | zero => rfl
  | succ n ih =>
      rw [sinesOfDegrees, height_call_singleton, height, ih]
      omega

theorem precedence_sinesOfDegrees (n : Nat) : (sinesOfDegrees n).precedence = 5 := by
  cases n <;> rfl

theorem nesting_phrase_sinesOfDegrees (n : Nat) : (sinesOfDegrees n).phrase.nesting = n := by
  induction n with
  | zero => rfl
  | succ n ih =>
      have operand : (withUnit (sinesOfDegrees n) .deg).phrase.nesting = n := by
        rw [phrase, precedence_sinesOfDegrees]
        exact ih
      calc
        (sinesOfDegrees (n + 1)).phrase.nesting =
            max (withUnit (sinesOfDegrees n) .deg).phrase.nesting 0 + 1 := rfl
        _ = n + 1 := by rw [operand, Nat.max_zero]

theorem wellFormed_sinesOfDegrees (n : Nat) : (sinesOfDegrees n).WellFormed := by
  induction n with
  | zero => exact every_constant.mpr trivial
  | succ n ih =>
      exact every_call.mpr ⟨rfl, List.forall_mem_singleton.mpr (every_withUnit.mpr ⟨trivial, ih⟩)⟩

theorem not_stacksUnits_sinesOfDegrees (n : Nat) : ¬ (sinesOfDegrees n).StacksUnits := by
  induction n with
  | zero => simp [sinesOfDegrees, StacksUnits, nodes]
  | succ n ih =>
      have bare : ∀ operand u, sinesOfDegrees n ≠ withUnit operand u := by
        cases n <;> simp [sinesOfDegrees]
      rintro ⟨operand, u, v, mem⟩
      simp only [sinesOfDegrees, nodes, nodesOf, List.append_nil, List.mem_cons, reduceCtorEq,
        withUnit.injEq, false_or] at mem
      rcases mem with ⟨same, _⟩ | inside
      · exact bare operand u same.symm
      · exact ih ⟨operand, u, v, inside⟩

end Expr

/-- The theorem applies to 100 sines in degree mode and to the same sines with their degrees written
out in radian mode. Their canonical tree is taller than any tree that is read. -/
theorem Evaluator.evaluate_eq_of_canonicalText_eq_sines :
    canonicalText .deg (Expr.sines 100).print =
        .ok (Expr.canonical .deg (Expr.sines 100)).print ∧
      canonicalText .rad (Expr.sinesOfDegrees 100).print =
        .ok (Expr.canonical .deg (Expr.sines 100)).print ∧
      maxDepth < (Expr.canonical .deg (Expr.sines 100)).height ∧
      ∀ evaluator : Evaluator, evaluator.evaluate .deg (Expr.sines 100).print =
        evaluator.evaluate .rad (Expr.sinesOfDegrees 100).print := by
  have first := canonicalText_of_fits .deg (Expr.wellFormed_sines 100)
    (Expr.isCanonical_sines 100).not_stacksUnits (by
      rw [Expr.nesting_phrase_sines, Expr.height_sines]
      decide)
  have second := canonicalText_of_fits .rad (Expr.wellFormed_sinesOfDegrees 100)
    (Expr.not_stacksUnits_sinesOfDegrees 100) (by
      rw [Expr.nesting_phrase_sinesOfDegrees, Expr.height_sinesOfDegrees]
      decide)
  rw [Expr.canonical_sinesOfDegrees] at second
  refine ⟨first, second, ?_, fun evaluator => ?_⟩
  · rw [Expr.height_canonical_sines]
    decide
  · exact evaluator.evaluate_eq_of_canonicalText_eq first second

end Reckoner
