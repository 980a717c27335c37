import Reckoner.Proofs.Grammar.Sound

/-!
# The caps and the number of tokens

The tree of a phrase is never taller than the phrase is long: a node has a token of its own or, where
an operator is left out, two operands with a token each. Each sign, exponent, group and argument list
takes a token, too. So a list of tokens is only refused as nested too deeply if it has more tokens than
the caps allow levels.
-/

namespace Reckoner.Grammar

open Reckoner.Expr

/-! ## Heights of phrases -/

theorem height_binary_le (left right : Expr) (op : Operator) :
    (binary left op right).height ≤ left.height + right.height := by
  have := left.height_pos
  have := right.height_pos
  rw [height]
  omega

theorem Phrase.height_joined_le {left right : Phrase} (mark : List Token) (op : Operator)
    (first : left.tree.height ≤ left.tokens.length)
    (second : right.tree.height ≤ right.tokens.length) :
    (left.joined mark op right).tree.height ≤ (left.joined mark op right).tokens.length := by
  have node := height_binary_le left.tree right.tree op
  simp only [Phrase.joined, List.length_append]
  omega

theorem Phrase.maxHeight_le_argumentTokens {args : List Phrase}
    (each : ∀ a ∈ args, a.tree.height ≤ a.tokens.length) :
    maxHeight (args.map tree) ≤ (argumentTokens args).length := by
  apply maxHeight_le
  rw [List.forall_mem_map]
  intro a mem
  exact Nat.le_trans (each a mem) (infix_argumentTokens mem).length_le

/-- The tree of a derived phrase is no taller than the phrase is long. -/
theorem Derives.height_le {c : Category} {p : Phrase} (derived : Derives c p) :
    p.tree.height ≤ p.tokens.length := by
  induction derived with
  | number | constant | reference => exact Nat.le_refl 1
  | @call f args accepted each ih =>
      have inner := Phrase.maxHeight_le_argumentTokens ih
      simp only [Phrase.call, height, List.length_cons, List.length_append]
      omega
  | @group inner _ ih =>
      simp only [Phrase.grouped, List.length_cons, List.length_append]
      omega
  | bare _ ih | base _ ih | unsigned _ ih | factor _ ih | term _ ih => exact ih
  | @measured p u _ ih =>
      simp only [Phrase.measured, height, List.length_append, List.length_singleton]
      omega
  | raised _ _ first second => exact Phrase.height_joined_le [.caret] .pow first second
  | @negated p _ ih =>
      simp only [Phrase.negated, height, List.length_cons]
      omega
  | affirmed _ ih => exact Nat.le_succ_of_le ih
  | times _ _ first second | divided _ _ first second | juxtaposed _ _ _ _ first second
  | plus _ _ first second | minus _ _ first second =>
      exact Phrase.height_joined_le _ _ first second

variable {c d : Category} {joint : Token → Joint} {operand : ExprReader} {limit : Nat}

theorem Takes.height_le {tokens rest : List Token} {tree : Expr}
    (taken : Takes c limit tokens tree rest) : tree.height + rest.length ≤ tokens.length := by
  rcases taken with ⟨p, derived, _, _, rfl, rfl⟩
  rw [List.length_append]
  exact Nat.add_le_add_right derived.height_le _

/-! ## Refusals

Readers refuse tokens as nested too deeply where their levels run out and where a tree is too tall. The
phrase of a tree that is too tall has more than `maxDepth` tokens, which is late enough for every limit
up to `maxDepth + 1`. -/

/-- The reader refuses no list of fewer than `limit` tokens as nested too deeply. -/
def Lenient (limit : Nat) (reader : ExprReader) : Prop :=
  ∀ ⦃tokens : List Token⦄, reader.read tokens = .error .tooDeep → limit ≤ tokens.length

theorem maxDepth_lt_of_built {tree : Expr} {rest : List Token} {cause : SyntaxError}
    (refused : built tree rest = .error cause) : maxDepth < tree.height := by
  unfold built at refused
  split at refused
  · contradiction
  · rename_i tall
    exact Nat.lt_of_not_le tall

/-! ### Chains -/

/-- Along a chain, the height of what is read and the number of tokens that are left do not add up to
more than at its start. -/
theorem chainFrom_lenient (sound : Sound d limit operand) (lenient : Lenient limit operand)
    (low : limit ≤ maxDepth + 1) {left : Expr} {tokens : List Token} {count : Nat}
    (start : left.height + tokens.length ≤ count)
    (refused : chainFrom joint operand left tokens = .error .tooDeep) : limit ≤ count := by
  fun_induction chainFrom joint operand left tokens with
  | case1 => contradiction
  | case2 left tokens op after next cause step =>
      cases refused
      have := lenient step
      have := nextOperand_length next
      omega
  | case3 left tokens op after next right rest step cause node =>
      have := maxDepth_lt_of_built node
      have := height_binary_le left right op
      have := (sound step).height_le
      have := nextOperand_length next
      omega
  | case4 left tokens op after next right middle step node last finished ih =>
      rcases built_eq_ok_iff.mp finished with ⟨_, rfl, rfl⟩
      have := height_binary_le left right op
      have := (sound step).height_le
      have := nextOperand_length next
      exact ih (by omega) refused

theorem Lenient.chain (lenient : Lenient limit operand) (sound : Sound d limit operand)
    (low : limit ≤ maxDepth + 1) : Lenient limit (Expr.chain joint operand) := by
  intro tokens refused
  rw [chain_read] at refused
  cases step : operand.read tokens with
  | error cause =>
      rw [step] at refused
      cases refused
      exact lenient step
  | ok taken =>
      rw [step] at refused
      exact chainFrom_lenient sound lenient low (sound step).height_le refused

theorem Lenient.sum (lenient : Lenient limit operand) (sound : Sound .signed limit operand)
    (low : limit ≤ maxDepth + 1) : Lenient limit (Expr.sum operand) :=
  (lenient.chain sound low).chain sound.product low

/-! ### Primaries -/

theorem argumentsFrom_lenient (lenient : Lenient limit operand) {tokens : List Token}
    (refused : argumentsFrom operand tokens = .error .tooDeep) : limit ≤ tokens.length := by
  fun_induction argumentsFrom operand tokens with
  | case1 tokens cause step =>
      cases refused
      exact lenient step
  | case2 tokens first rest step cause inner ih =>
      cases refused
      have := ih inner
      have := operand.shortens step
      rw [List.length_cons] at this
      omega
  | case3 => contradiction
  | case4 => contradiction
  | case5 => cases refused
  | case6 => cases refused

theorem arguments_lenient (lenient : Lenient limit operand) {tokens : List Token}
    (refused : (arguments operand).read tokens = .error .tooDeep) : limit ≤ tokens.length := by
  simp only [arguments] at refused
  split at refused
  · contradiction
  · exact argumentsFrom_lenient lenient refused

theorem arguments_height_lt (sound : Sound .sum limit operand) {tokens rest : List Token}
    {args : List Expr} (done : (arguments operand).read tokens = .ok (args, rest)) :
    maxHeight args < tokens.length := by
  simp only [arguments] at done
  split at done
  · cases done
    exact Nat.succ_pos _
  · rcases argumentsFrom_takes sound done with ⟨ps, _, each, rfl, rfl⟩
    have inner := Phrase.maxHeight_le_argumentTokens fun p mem => (each p mem).1.height_le
    rw [List.length_append, List.length_cons]
    omega

theorem call_lenient (sound : Sound .sum limit operand) (lenient : Lenient limit operand)
    (low : limit ≤ maxDepth) {f : Func} {tokens : List Token}
    (refused : (callOf f operand).read tokens = .error .tooDeep) : limit ≤ tokens.length := by
  simp only [callOf] at refused
  split at refused
  · rename_i step
    cases refused
    exact arguments_lenient lenient step
  · rename_i args rest step
    split at refused
    · have tall := maxDepth_lt_of_built refused
      have inner := arguments_height_lt sound step
      rw [height] at tall
      omega
    · cases refused

theorem group_lenient (lenient : Lenient limit operand) {tokens : List Token}
    (refused : (groupOf operand).read tokens = .error .tooDeep) : limit ≤ tokens.length := by
  simp only [groupOf] at refused
  split at refused
  · rename_i step
    cases refused
    exact lenient step
  · contradiction
  · cases refused
  · cases refused

theorem Lenient.primary (lenient : Lenient limit operand) (sound : Sound .sum limit operand)
    (low : limit ≤ maxDepth) : Lenient (limit + 1) (Expr.primary operand) := by
  intro tokens refused
  simp only [Expr.primary] at refused
  split at refused
  · contradiction
  · contradiction
  · have := call_lenient sound lenient low refused
    simp only [List.length_cons]
    omega
  · contradiction
  · exact Nat.succ_le_succ (group_lenient lenient refused)
  · cases refused
  · cases refused

/-! ### Units, powers and signs -/

theorem Lenient.measure (lenient : Lenient limit operand) (sound : Sound .sum limit operand)
    (low : limit ≤ maxDepth) : Lenient (limit + 1) (Expr.measure operand) := by
  intro tokens refused
  simp only [Expr.measure] at refused
  split at refused
  · rename_i step
    cases refused
    exact lenient.primary sound low step
  · rename_i step
    have tall := maxDepth_lt_of_built refused
    have taken := (sound.primary step).height_le
    rw [height] at tall
    rw [List.length_cons] at taken
    omega
  · contradiction

theorem Lenient.power {exponent : ExprReader} (lenient : Lenient limit operand)
    (sound : Sound .sum limit operand) (lenientExponent : Lenient limit exponent)
    (soundExponent : Sound .signed limit exponent) (low : limit ≤ maxDepth) :
    Lenient (limit + 1) (Expr.power operand exponent) := by
  intro tokens refused
  simp only [Expr.power] at refused
  split at refused
  · rename_i step
    cases refused
    exact lenient.measure sound low step
  · rename_i base rest step
    have taken := (sound.measure step).height_le
    have positive := base.height_pos
    rw [List.length_cons] at taken
    split at refused
    · rename_i raising
      cases refused
      have := lenientExponent raising
      omega
    · rename_i raised last raising
      have tall := maxDepth_lt_of_built refused
      have node := height_binary_le base raised .pow
      have := (soundExponent raising).height_le
      omega
  · contradiction

/-- Each way round the grammar takes a token and a level of the budget. -/
theorem lenient_signed {budget : Nat} (low : budget ≤ maxDepth + 1) :
    Lenient budget (signed budget) := by
  induction budget with
  | zero =>
      intro tokens _
      exact Nat.zero_le _
  | succ budget ih =>
      have lenient := ih (Nat.le_of_succ_le low)
      have sound := sound_signed budget
      intro tokens refused
      simp only [signed] at refused
      split at refused
      · split at refused
        · rename_i step
          cases refused
          exact Nat.succ_le_succ (lenient step)
        · rename_i step
          have tall := maxDepth_lt_of_built refused
          have taken := (sound step).height_le
          rw [height] at tall
          rw [List.length_cons]
          omega
      · exact Nat.succ_le_succ (lenient refused)
      · have inner := lenient.sum sound (Nat.le_of_succ_le low)
        exact inner.power sound.sum lenient sound (Nat.le_of_succ_le_succ low) refused

/-- The parser refuses nothing as nested too deeply that has no more than `maxDepth` tokens. -/
theorem maxDepth_lt_length_of_parse {tokens : List Token}
    (refused : parse tokens = .error .tooDeep) : maxDepth < tokens.length := by
  have lenient := lenient_signed (Nat.le_refl (maxDepth + 1))
  rw [Expr.parse.eq_def] at refused
  split at refused
  · cases refused
  · split at refused
    · rename_i step
      cases refused
      exact lenient.sum (sound_signed _) (Nat.le_refl _) step
    · contradiction
    · cases refused

theorem signed_minus (budget : Nat) (rest : List Token) :
    (signed budget).read (List.replicate budget .minus ++ rest) = .error .tooDeep := by
  induction budget with
  | zero => rfl
  | succ budget ih => simp only [List.replicate_succ, List.cons_append, signed, ih]

/-- With one token more, nothing but signs are nested too deeply. -/
theorem parse_minus (rest : List Token) :
    parse (List.replicate (maxDepth + 1) .minus ++ rest) = .error .tooDeep := by
  have refused : (sum (signed (maxDepth + 1))).read
      (List.replicate (maxDepth + 1) .minus ++ rest) = .error .tooDeep := by
    rw [sum, chain_read, chain_read, signed_minus]
    rfl
  rw [parse]
  · rw [refused]
  · simp [List.replicate_succ]

end Reckoner.Grammar
