import Reckoner.Expr.OfText
import Reckoner.Proofs.Expr.Units
import Reckoner.Proofs.Grammar.Exact

/-!
# Printed trees are read back

The grammar derives the phrase that a tree is printed as exactly when no unit of the tree follows a
unit directly. The parentheses that printing adds cost at most two levels of nesting for a node, so
that a tree of half the allowed height is read back from its text.
-/

namespace Reckoner

open Grammar

namespace Operator

/-- The category of an operator's text. -/
def category : Operator → Category
  | add | sub => .sum
  | mul | div => .product
  | pow => .power

/-- The category of an operator's left operand. -/
def leftCategory : Operator → Category
  | add | sub => .sum
  | mul | div => .product
  | pow => .measure

/-- The category of an operator's right operand. -/
def rightCategory : Operator → Category
  | add | sub => .product
  | mul | div | pow => .signed

end Operator

namespace Expr

/-- The category of the text that a tree is printed as. -/
def category : Expr → Category
  | binary _ op _ => op.category
  | neg _ => .signed
  | withUnit .. => .measure
  | number _ | constant _ | reference _ | call .. => .primary

theorem precedence_le_level (e : Expr) : e.precedence ≤ e.category.level := by
  cases e with
  | binary left op right => cases op <;> exact Nat.le_refl _
  | neg | withUnit => exact Nat.le_refl _
  | number | constant | reference | call => exact Nat.le_succ 5

theorem level_sum_le (c : Category) : Category.sum.level ≤ c.level := by
  cases c <;> decide

theorem level_le_primary (c : Category) : c.level ≤ Category.primary.level := by
  cases c <;> decide

/-! ## Operands in their places -/

/-- An operand that is put into parentheses where it binds too loosely fits its place. -/
theorem derives_wrapped {p : Phrase} {wrap : Bool} {c own : Category} (derived : Derives own p)
    (fits : wrap = false → c.level ≤ own.level) : Derives c (wrapped wrap p) := by
  cases wrap with
  | false => exact derived.loosen (fits rfl)
  | true => exact (Derives.group (derived.loosen (level_sum_le _))).loosen (level_le_primary c)

theorem level_left_le {op : Operator} {left : Expr} (unwrapped : wrapsLeft op left = false) :
    op.leftCategory.level ≤ left.category.level := by
  have tight := precedence_le_level left
  have least := level_sum_le left.category
  cases op with
  | add | sub => exact least
  | mul | div =>
      have bound : 2 ≤ left.precedence := Nat.not_lt.mp (of_decide_eq_false unwrapped)
      exact Nat.le_trans bound tight
  | pow =>
      have bound : 4 < left.precedence := Nat.not_le.mp (of_decide_eq_false unwrapped)
      exact Nat.le_trans bound tight

theorem level_right_le {op : Operator} {right : Expr} (unwrapped : wrapsRight op right = false) :
    op.rightCategory.level ≤ right.category.level := by
  have tight := precedence_le_level right
  cases op with
  | add | sub =>
      have bound : 1 < right.precedence := Nat.not_le.mp (of_decide_eq_false unwrapped)
      exact Nat.le_trans bound tight
  | mul | div =>
      have bound : 2 < right.precedence := Nat.not_le.mp (of_decide_eq_false unwrapped)
      exact Nat.le_trans bound tight
  | pow =>
      have bound : 4 ≤ right.precedence := Nat.not_lt.mp (of_decide_eq_false unwrapped)
      exact Nat.le_trans (Nat.le_of_succ_le bound) tight

theorem derives_operation {op : Operator} {left right : Phrase}
    (first : Derives op.leftCategory left) (second : Derives op.rightCategory right) :
    Derives op.category (operation op left right) := by
  cases op with
  | add => exact .plus first second
  | sub => exact .minus first second
  | mul => exact .times first second
  | div => exact .divided first second
  | pow => exact .raised first second

/-- Only what binds tightly and does not end in a unit may have a unit after it. -/
theorem level_measured_le {e : Expr} (bare : ∀ operand u, e ≠ withUnit operand u)
    (tight : decide (e.precedence < 5) = false) : Category.primary.level ≤ e.category.level := by
  cases e with
  | binary left op right => cases op <;> contradiction
  | neg => contradiction
  | withUnit operand u => exact absurd rfl (bare operand u)
  | number | constant | reference | call => exact Nat.le_refl _

theorem bare_of_not_stacksUnits {operand : Expr} {u : AngleUnit}
    (single : ¬ (withUnit operand u).StacksUnits) : ∀ inside v, operand ≠ withUnit inside v := by
  rintro inside v rfl
  exact single ⟨inside, v, u, mem_nodes_self _⟩

/-- The grammar derives the phrase of a tree in which no unit follows a unit. -/
theorem derives_phrase {e : Expr} (well : e.WellFormed) (single : ¬ e.StacksUnits) :
    Derives e.category e.phrase := by
  induction e with
  | number x => exact .number x
  | constant c => exact .constant c
  | reference f => exact .reference f
  | call f args ih =>
      rcases every_call.mp well with ⟨accepted, each⟩
      rw [phrase, phrases_eq_map]
      apply Derives.call (by rwa [List.length_map])
      intro p mem
      rcases List.mem_map.mp mem with ⟨a, arg, rfl⟩
      have inner := ih a arg (each a arg) (not_stacksUnits_of_mem single (arg_mem_nodes arg))
      exact inner.loosen (level_sum_le _)
  | neg operand ih =>
      have inner := ih (every_neg.mp well).2
        (not_stacksUnits_of_mem single (operand_mem_nodes_neg operand))
      apply Derives.negated
      apply derives_wrapped inner
      intro unwrapped
      have bound : 3 ≤ operand.precedence := Nat.not_lt.mp (of_decide_eq_false unwrapped)
      exact Nat.le_trans bound (precedence_le_level operand)
  | binary left op right leftIh rightIh =>
      rcases every_binary.mp well with ⟨_, leftWell, rightWell⟩
      have first := leftIh leftWell (not_stacksUnits_of_mem single (left_mem_nodes left right op))
      have second := rightIh rightWell (not_stacksUnits_of_mem single (right_mem_nodes left right op))
      exact derives_operation (derives_wrapped first level_left_le)
        (derives_wrapped second level_right_le)
  | withUnit operand u ih =>
      have inner := ih (every_withUnit.mp well).2
        (not_stacksUnits_of_mem single (operand_mem_nodes_withUnit operand u))
      have bare := bare_of_not_stacksUnits single
      exact Derives.measured u (derives_wrapped inner (level_measured_le bare))

/-! ## The cost of parentheses -/

theorem nesting_wrapped_le (wrap : Bool) (p : Phrase) :
    (wrapped wrap p).nesting ≤ p.nesting + 1 := by
  cases wrap with
  | false => exact Nat.le_succ _
  | true => exact Nat.le_refl _

theorem nesting_operation_le (op : Operator) (left right : Phrase) :
    (operation op left right).nesting ≤ max left.nesting (right.nesting + 1) := by
  cases op with
  | pow => exact Nat.le_refl _
  | add | sub | mul | div =>
      exact Nat.max_le.mpr ⟨Nat.le_max_left _ _, Nat.le_trans (Nat.le_succ _) (Nat.le_max_right _ _)⟩

/-- Two levels of nesting for a node that is not a leaf are enough. -/
theorem nesting_phrase_lt {e : Expr} (well : e.WellFormed) :
    e.phrase.nesting + 1 < 2 * e.height := by
  induction e with
  | number | constant | reference => exact Nat.lt_add_one 1
  | call f args ih =>
      rcases every_call.mp well with ⟨accepted, each⟩
      have nonempty : phrases args ≠ [] := by
        rintro none
        rw [phrases_eq_map, List.map_eq_nil_iff] at none
        subst none
        cases f <;> contradiction
      have deepest : Phrase.maxNesting (phrases args) < 2 * maxHeight args := by
        rw [Phrase.maxNesting_lt_iff nonempty, phrases_eq_map]
        intro p mem
        rcases List.mem_map.mp mem with ⟨a, arg, rfl⟩
        have shallow := ih a arg (each a arg)
        have low := height_le_maxHeight arg
        omega
      rw [phrase, Phrase.call, height]
      dsimp only
      omega
  | neg operand ih =>
      have inner := ih (every_neg.mp well).2
      have cost := nesting_wrapped_le (operand.precedence < 3) operand.phrase
      rw [phrase, Phrase.negated, height]
      dsimp only
      omega
  | binary left op right leftIh rightIh =>
      rcases every_binary.mp well with ⟨_, leftWell, rightWell⟩
      have first := leftIh leftWell
      have second := rightIh rightWell
      have leftCost := nesting_wrapped_le (wrapsLeft op left) left.phrase
      have rightCost := nesting_wrapped_le (wrapsRight op right) right.phrase
      have whole := nesting_operation_le op (wrapped (wrapsLeft op left) left.phrase)
        (wrapped (wrapsRight op right) right.phrase)
      rw [phrase, height]
      omega
  | withUnit operand u ih =>
      have inner := ih (every_withUnit.mp well).2
      have cost := nesting_wrapped_le (operand.precedence < 5) operand.phrase
      rw [phrase, Phrase.measured, height]
      dsimp only
      omega

/-! ## Reading the text back -/

theorem parse_phrase {e : Expr} (well : e.WellFormed) (single : ¬ e.StacksUnits) :
    parse e.phrase.tokens = e.phrase.within (maxDepth + 1) (.ok e) := by
  have derived := (derives_phrase well single).loosen (level_sum_le _)
  rw [parse_of_derives derived, tree_phrase]

theorem parse_phrase_of_fits {e : Expr} (well : e.WellFormed) (single : ¬ e.StacksUnits)
    (fits : e.phrase.Fits (maxDepth + 1)) : parse e.phrase.tokens = .ok e := by
  rw [parse_phrase well single, Phrase.within_of_fits fits]

theorem exists_parse_phrase_eq_error {e : Expr} (stacked : e.StacksUnits) :
    ∃ cause, parse e.phrase.tokens = .error cause := by
  cases done : parse e.phrase.tokens with
  | error cause => exact ⟨cause, rfl⟩
  | ok tree =>
      rcases derives_of_parse done with ⟨p, derived, _, _, tokens⟩
      have single := derived.singleUnits
      rw [tokens] at single
      exact absurd single stacked.not_singleUnits

/-- A tree of half the allowed height is read back from its text when no unit of the tree follows a
unit directly. Otherwise its text is a failure to parse. -/
theorem parse_print_iff {e : Expr} (low : e.height ≤ 128) (well : e.WellFormed) :
    ∃ tokens, tokenize e.print = .ok tokens ∧
      (parse tokens = .ok e ↔ ¬ e.StacksUnits) ∧
        (e.StacksUnits →
          ∃ cause, (parse tokens).mapError CalcError.parseFailure = .error (.parseFailure cause)) := by
  refine ⟨e.phrase.tokens, tokenize_print well, ⟨?_, ?_⟩, ?_⟩
  · intro done stacked
    rcases exists_parse_phrase_eq_error stacked with ⟨cause, failed⟩
    rw [failed] at done
    contradiction
  · intro single
    have shallow := nesting_phrase_lt well
    rw [parse_phrase well single]
    apply Phrase.within_of_fits
    constructor
    · rw [maxDepth]
      omega
    · rw [tree_phrase, maxDepth]
      omega
  · intro stacked
    rcases exists_parse_phrase_eq_error stacked with ⟨cause, failed⟩
    rw [failed]
    exact ⟨cause, rfl⟩

/-- The theorem applies to an angle in degrees with a negative exponent. -/
theorem parse_print_angle_pow_neg :
    let angle := withUnit (number ⟨0x4000000000000000⟩) .deg
    let tree := binary angle .pow (neg (call .log [constant .pi, reference .exp]))
    tree.height ≤ 128 ∧ tree.WellFormed ∧
      ∃ tokens, tokenize tree.print = .ok tokens ∧
        (parse tokens = .ok tree ↔ ¬ tree.StacksUnits) ∧
          (tree.StacksUnits →
            ∃ cause, (parse tokens).mapError CalcError.parseFailure = .error (.parseFailure cause)) := by
  intro angle tree
  have low : tree.height ≤ 128 := by decide
  have well : tree.WellFormed := by
    have range : Binary64.isFinite ⟨0x4000000000000000⟩ = true ∧
        Binary64.isNegative ⟨0x4000000000000000⟩ = false := by decide
    have accepted : Func.accepts .log 2 = true := rfl
    simpa [tree, angle, WellFormed, RootWellFormed, accepted] using range
  exact ⟨low, well, parse_print_iff low well⟩

end Expr

end Reckoner
