import Reckoner.Proofs.Expr.CanonicalText
import Reckoner.Proofs.Expr.Height
import Reckoner.Proofs.Grammar.Length

/-!
# Recursion over expressions

Evaluation and printing go down a tree from each root to its operands, and make the result at a root
from the results at the operands in one step. Such a recursion needs as many levels as the tree is
high. Evaluation needs no step for a unit, nor for a call that has not the number of arguments which
canonical trees have, because no text is read as a tree with such a node.
-/

namespace Reckoner

namespace Expr

/-- The trees directly below a root. -/
def operands : Expr → List Expr
  | number _ | constant _ | reference _ => []
  | call _ args => args
  | neg operand | withUnit operand _ => [operand]
  | binary left _ right => [left, right]

theorem nodes_eq (e : Expr) : e.nodes = e :: nodesOf e.operands := by
  cases e <;> simp [nodes, nodesOf, operands]

theorem height_eq (e : Expr) : e.height = maxHeight e.operands + 1 := by
  cases e <;> simp [height, maxHeight, operands, Nat.add_comm]

/-- The result at a tree of the recursion that makes the result at a root from those at its operands by
`step`. There is none if the levels run out or if a step has none. -/
def recursion {α : Type} (step : Expr → List α → Option α) : Nat → Expr → Option α
  | 0, _ => none
  | levels + 1, e => (e.operands.mapM (recursion step levels)).bind (step e)

variable {α : Type} {step : Expr → List α → Option α} {f : Expr → α}

theorem mapM_eq_ite {g : Expr → Option α} {levels : Nat} {es : List Expr}
    (each : ∀ e ∈ es, g e = if e.height ≤ levels then some (f e) else none) :
    es.mapM g = if maxHeight es ≤ levels then some (es.map f) else none := by
  induction es with
  | nil => rfl
  | cons e es ih =>
      have ⟨first, others⟩ := List.forall_mem_cons.mp each
      rw [List.mapM_cons, first, ih others, maxHeight]
      by_cases low : e.height ≤ levels
      · by_cases rest : maxHeight es ≤ levels
        · rw [if_pos low, if_pos rest, if_pos (Nat.max_le.mpr ⟨low, rest⟩)]
          rfl
        · rw [if_pos low, if_neg rest, if_neg fun all => rest (Nat.max_le.mp all).2]
          rfl
      · rw [if_neg low, if_neg fun all => low (Nat.max_le.mp all).1]
        rfl

/-- A function that is computed by steps needs a level of recursion for each level of the tree, and no
more. -/
theorem recursion_eq {e : Expr}
    (steps : ∀ n ∈ e.nodes, step n (n.operands.map f) = some (f n)) (levels : Nat) :
    recursion step levels e = if e.height ≤ levels then some (f e) else none := by
  induction levels generalizing e with
  | zero => exact (if_neg (Nat.not_le.mpr e.height_pos)).symm
  | succ levels ih =>
      have below : ∀ a ∈ e.operands,
          recursion step levels a = if a.height ≤ levels then some (f a) else none := by
        intro a mem
        apply ih
        intro n inside
        apply steps n
        rw [nodes_eq]
        exact List.mem_cons_of_mem _ (mem_nodesOf.mpr ⟨a, mem, inside⟩)
      rw [recursion, mapM_eq_ite below, height_eq]
      by_cases low : maxHeight e.operands ≤ levels
      · rw [if_pos low, if_pos (Nat.succ_le_succ low)]
        exact steps e (mem_nodes_self e)
      · rw [if_neg low, if_neg fun all => low (Nat.le_of_succ_le_succ all)]
        rfl

/-! ## Printing -/

/-- The text of a tree, from the texts of its operands. -/
def printingStep : Expr → List Text → Option Text
  | number x, [] => some (numberText x)
  | constant c, [] => some c.name
  | reference f, [] => some f.name
  | call f _, texts => some (f.name ++ '(' :: ", ".toList.intercalate texts ++ [')'])
  | neg operand, [text] => some ('-' :: grouped (operand.precedence < 3) text)
  | binary left op right, [first, second] =>
    some (grouped (wrapsLeft op left) first ++ op.symbol ++ grouped (wrapsRight op right) second)
  | withUnit operand u, [text] =>
    some (grouped (operand.precedence < 5) text ++ ' ' :: u.name)
  | _, _ => none

theorem printArguments_eq (args : List Expr) :
    printArguments args = ", ".toList.intercalate (args.map print) := by
  induction args with
  | nil => rfl
  | cons e es ih =>
      cases es with
      | nil => simp [printArguments]
      | cons other es =>
          rw [printArguments_cons (List.cons_ne_nil other es), ih]
          simp

theorem printingStep_eq (e : Expr) : printingStep e (e.operands.map print) = some e.print := by
  cases e with
  | call f args => rw [print, printArguments_eq]; rfl
  | _ => rfl

/-- Printing takes a level for each level of the tree. -/
theorem recursion_printingStep (levels : Nat) (e : Expr) :
    recursion printingStep levels e = if e.height ≤ levels then some e.print else none :=
  recursion_eq (fun n _ => printingStep_eq n) levels

/-! ## Evaluation -/

/-- The numbers among the results of some operands. The first refusal counts. -/
def realsOf : List (Except CalcError Value) → Except CalcError (List Binary64)
  | [] => return []
  | result :: results => do
    let x ← (← result).toReal
    let xs ← realsOf results
    return x :: xs

theorem reals_eq (library : Elementary) (args : List Expr) :
    reals library args = realsOf (args.map (value library)) := by
  induction args with
  | nil => rfl
  | cons e es ih =>
      rw [reals, ih]
      rfl

theorem length_of_realsOf {results : List (Except CalcError Value)} {xs : List Binary64}
    (reals : realsOf results = .ok xs) : xs.length = results.length := by
  induction results generalizing xs with
  | nil =>
      cases reals
      rfl
  | cons result results ih =>
      rcases bind_eq_ok_iff.mp reals with ⟨v, _, first⟩
      rcases bind_eq_ok_iff.mp first with ⟨x, _, rest⟩
      rcases bind_eq_ok_iff.mp rest with ⟨others, later, done⟩
      cases done
      rw [List.length_cons, List.length_cons, ih later]

end Expr

/-- The number of arguments in calls of canonical trees: a logarithm has a base. -/
def Func.arity (f : Func) : Nat :=
  if f = .log then 2 else 1

namespace Expr

/-- The value of a tree, from the values of its operands. There is none for a unit, and none where a
function would be applied to another number of arguments than in canonical trees. -/
def evaluationStep (library : Elementary) :
    Expr → List (Except CalcError Value) → Option (Except CalcError Value)
  | number x, [] => some (.ok (.real x))
  | constant c, [] => some (.ok (.real c.value))
  | reference f, [] => some (.ok (.callable f))
  | call f _, results =>
    match realsOf results with
    | .error cause => some (.error cause)
    | .ok xs => if xs.length = f.arity then some ((f.apply library xs).map .real) else none
  | neg _, [result] =>
    some do
      let x ← (← result).toReal
      return .real (-x)
  | binary _ op _, [first, second] =>
    some do
      let a ← (← first).toReal
      let b ← (← second).toReal
      return .real (← op.apply library a b)
  | _, _ => none

/-- A root that evaluation has a step for: no unit, and a call with the number of arguments that
canonical trees have. -/
def RootEvaluable : Expr → Prop
  | withUnit .. => False
  | call f args => args.length = f.arity
  | _ => True

theorem evaluationStep_eq (library : Elementary) {e : Expr} (root : e.RootEvaluable) :
    evaluationStep library e (e.operands.map (value library)) = some (e.value library) := by
  cases e with
  | call f args =>
      rw [value, reals_eq]
      simp only [evaluationStep, operands]
      cases reals : realsOf (args.map (value library)) with
      | error cause => rfl
      | ok xs =>
          have count : xs.length = f.arity := by
            rw [length_of_realsOf reals, List.length_map]
            exact root
          simp only [if_pos count]
          change _ = some ((f.apply library xs).bind fun x => .ok (Value.real x))
          cases f.apply library xs <;> rfl
  | withUnit operand u => exact absurd root id
  | number | constant | reference | neg | binary => rfl

theorem every_rootEvaluable {e : Expr} (well : e.WellFormed) (reduced : e.IsCanonical) :
    e.Every RootEvaluable := by
  intro n mem
  cases n with
  | call f args =>
      have accepted : f.accepts args.length = true := well _ mem
      have based : ¬ (f = .log ∧ args.length = 1) := reduced _ mem
      change args.length = if f = .log then 2 else 1
      cases f <;> simp_all [Func.accepts]
  | withUnit operand u => exact reduced _ mem
  | number | constant | reference | neg | binary => trivial

/-- Evaluation takes a level for each level of the tree, if the tree has no root without a step. -/
theorem recursion_evaluationStep {e : Expr} (evaluable : e.Every RootEvaluable) (levels : Nat)
    (library : Elementary) :
    recursion (evaluationStep library) levels e =
      if e.height ≤ levels then some (e.value library) else none :=
  recursion_eq (fun n mem => evaluationStep_eq library (evaluable n mem)) levels

/-- In canonical form, the tree of a text holds no unit, its calls have one argument, or two in the case
of logarithms, and its numbers are finite and without a sign. So it is evaluated by steps that never
come to a unit, to a logarithm without a base or to a call without arguments. -/
theorem ofText_evaluable {mode : AngleMode} {t : Text} {e : Expr} (read : ofText mode t = .ok e) :
    (∀ operand u, withUnit operand u ∉ e.nodes) ∧
      (∀ f args, call f args ∈ e.nodes → args.length = if f = .log then 2 else 1) ∧
      (∀ x, number x ∈ e.nodes → x.isFinite = true ∧ x.isNegative = false) ∧
      ∀ library, recursion (evaluationStep library) e.height e = some (e.value library) := by
  rcases wellFormed_of_ofText read with ⟨well, reduced⟩
  have evaluable := every_rootEvaluable well reduced
  refine ⟨?_, ?_, ?_, ?_⟩
  · intro operand u mem
    exact evaluable _ mem
  · intro f args mem
    exact evaluable _ mem
  · intro x mem
    exact well _ mem
  · intro library
    rw [recursion_evaluationStep evaluable, if_pos (Nat.le_refl e.height)]

/-- The theorem applies to an angle with a unit below a logarithm without a base. -/
theorem ofText_evaluable_log :
    ∃ e, ofText .deg "sin(log(e deg))".toList = .ok e ∧
      (∀ operand u, withUnit operand u ∉ e.nodes) ∧
      (∀ f args, call f args ∈ e.nodes → args.length = if f = .log then 2 else 1) ∧
      (∀ x, number x ∈ e.nodes → x.isFinite = true ∧ x.isNegative = false) ∧
      ∀ library, recursion (evaluationStep library) e.height e = some (e.value library) := by
  have well : (call .sin [call .log [withUnit (constant .e) .deg]]).WellFormed := by
    simp [WellFormed, RootWellFormed, Func.accepts]
  have single : ¬ (call .sin [call .log [withUnit (constant .e) .deg]]).StacksUnits := by
    simp [StacksUnits, nodes, nodesOf]
  have read : ofText .deg "sin(log(e deg))".toList = .ok _ :=
    ofText_print_of_fits .deg well single (by decide)
  exact ⟨_, read, ofText_evaluable read⟩

/-! ## Levels -/

theorem height_le_of_parse {tokens : List Token} {e : Expr} (parsed : parse tokens = .ok e) :
    e.height ≤ maxDepth := by
  rcases Grammar.parse_eq_ok_iff.mp parsed with ⟨_, _, _, low⟩
  exact low

/-- In canonical form, the tree of a text is at most three times as high as the parser's cap, less
two. -/
theorem height_le_of_ofText {mode : AngleMode} {t : Text} {e : Expr} (read : ofText mode t = .ok e) :
    e.height + 2 ≤ 3 * maxDepth := by
  rcases ofText_eq_ok_iff.mp read with ⟨_, tree, strict, rfl⟩
  rcases ofStrict_eq_ok_iff.mp strict with ⟨tokens, _, parsed⟩
  have low := height_le_of_parse parsed
  have grown := height_canonical_le mode tree
  omega

/-- The parser returns no tree that is higher than its cap, and it refuses none that is short as
nested too deeply. Evaluation and printing of canonical trees of texts take 766 levels of recursion at
most. -/
theorem recursion_bounded :
    (∀ tokens e, parse tokens = .ok e → e.height ≤ 256) ∧
      (∀ tokens cause, parse tokens = .error cause →
        cause.message = "expression nested too deeply".toList → 256 < tokens.length) ∧
      ∀ mode t e, ofText mode t = .ok e →
        e.height ≤ 766 ∧ recursion printingStep 766 e = some e.print ∧
          ∀ library, recursion (evaluationStep library) 766 e = some (e.value library) := by
  refine ⟨?_, ?_, ?_⟩
  · intro tokens e parsed
    exact height_le_of_parse parsed
  · intro tokens cause refused said
    obtain rfl := SyntaxError.eq_tooDeep_of_message said
    exact Grammar.maxDepth_lt_length_of_parse refused
  · intro mode t e read
    have low : e.height ≤ 766 := Nat.le_of_add_le_add_right (height_le_of_ofText read)
    rcases wellFormed_of_ofText read with ⟨well, reduced⟩
    have evaluable := every_rootEvaluable well reduced
    refine ⟨low, ?_, ?_⟩
    · rw [recursion_printingStep, if_pos low]
    · intro library
      rw [recursion_evaluationStep evaluable, if_pos low]

/-! ### Sines of sines -/

/-- Sines that are nested to the given depth. -/
def sines : Nat → Expr
  | 0 => constant .e
  | n + 1 => call .sin [sines n]

theorem height_sines (n : Nat) : (sines n).height = n + 1 := by
  induction n with
  | zero => rfl
  | succ n ih => rw [sines, height_call_singleton, ih]

theorem nesting_phrase_sines (n : Nat) : (sines n).phrase.nesting = n := by
  induction n with
  | zero => rfl
  | succ n ih =>
      calc
        (sines (n + 1)).phrase.nesting = max (sines n).phrase.nesting 0 + 1 := rfl
        _ = n + 1 := by rw [ih, Nat.max_zero]

theorem wellFormed_sines (n : Nat) : (sines n).WellFormed := by
  induction n with
  | zero => exact every_constant.mpr trivial
  | succ n ih => exact every_call.mpr ⟨rfl, List.forall_mem_singleton.mpr ih⟩

theorem isCanonical_sines (n : Nat) : (sines n).IsCanonical := by
  induction n with
  | zero => exact every_constant.mpr trivial
  | succ n ih => exact every_call.mpr ⟨by simp [RootCanonical], List.forall_mem_singleton.mpr ih⟩

theorem hasUnit_sines (n : Nat) : (sines n).hasUnit = false := by
  induction n with
  | zero => rfl
  | succ n ih => rw [sines, hasUnit, anyHasUnit, anyHasUnit, ih, Bool.or_false]

/-- Each sine takes an angle in degrees, so that its canonical form is three levels higher than that
of its argument. -/
theorem height_canonical_sines (n : Nat) : (canonical .deg (sines n)).height = 3 * n + 1 := by
  induction n with
  | zero => rfl
  | succ n ih =>
      rw [sines, canonical_deg_call rfl, hasUnit_sines, if_neg Bool.false_ne_true,
        height_call_singleton, height_degreesToRadians, ih]
      omega

/-- The theorem applies to 255 sines and to 257 signs, and none of its bounds is too large. -/
theorem recursion_bounded_sines :
    (parse (sines 255).phrase.tokens = .ok (sines 255) ∧ (sines 255).height ≤ 256) ∧
      (parse (List.replicate 257 .minus) = .error .tooDeep ∧
        256 < (List.replicate 257 Token.minus).length) ∧
      ∃ e, ofText .deg (sines 255).print = .ok e ∧ e.height = 766 ∧
        recursion printingStep 765 e = none ∧ recursion printingStep 766 e = some e.print ∧
          ∀ library, recursion (evaluationStep library) 766 e = some (e.value library) := by
  have well := wellFormed_sines 255
  have single := (isCanonical_sines 255).not_stacksUnits
  have nested := nesting_phrase_sines 255
  have height := height_sines 255
  have fits : (sines 255).phrase.Fits (maxDepth + 1) := by
    rw [Grammar.Phrase.Fits, tree_phrase, nested, height]
    decide
  have parsed := parse_phrase_of_fits well single fits
  have refused : parse (List.replicate 257 .minus) = .error .tooDeep := by
    rw [← List.append_nil (List.replicate 257 Token.minus)]
    exact Grammar.parse_minus []
  have read := ofText_print_of_fits .deg well single
    ⟨Nat.le_of_lt_succ fits.1, Nat.le_of_eq height⟩
  have tall : (canonical .deg (sines 255)).height = 766 := height_canonical_sines 255
  rcases recursion_bounded.2.2 _ _ _ read with ⟨_, printed, evaluated⟩
  refine ⟨⟨parsed, recursion_bounded.1 _ _ parsed⟩,
    ⟨refused, recursion_bounded.2.1 _ _ refused rfl⟩, _, read, tall, ?_, printed, evaluated⟩
  rw [recursion_printingStep, tall]
  exact if_neg (by decide)

end Expr

end Reckoner
