import Reckoner.Proofs.Grammar.Caps

/-!
# Readers follow the grammar

What the grammar derives, the readers read, as far as the two caps let them: on the tokens of a
derived phrase, with any tokens behind that do not go on with it, a reader returns the tree of the
phrase if the phrase fits the caps, and refuses it as too deep otherwise. No other failure can come
from a derived phrase.
-/

namespace Reckoner.Grammar

open Reckoner.Expr

/-! ## Chains of operands -/

theorem chainFrom_of_ends {joint : Token → Joint} {rest : List Token}
    (ends : nextOperand joint rest = none) (operand : ExprReader) (left : Expr) :
    chainFrom joint operand left rest = .ok (left, rest) := by
  rw [chainFrom]
  split
  · rfl
  · rename_i next
    rw [ends] at next
    contradiction

theorem chainFrom_of_next {joint : Token → Joint} {tokens start : List Token} {op : Operator}
    (next : nextOperand joint tokens = some (op, start)) (operand : ExprReader) (left : Expr) :
    chainFrom joint operand left tokens =
      (operand.read start).bind fun step =>
        (built (binary left op step.1) step.2).bind fun node =>
          chainFrom joint operand node.1 node.2 := by
  rw [chainFrom]
  split
  · rename_i none
    rw [next] at none
    contradiction
  · rename_i some
    cases next.symm.trans some
    split
    · rename_i step
      rw [step]
      rfl
    · rename_i step
      rw [step]
      split
      · rename_i node
        simp only [Except.bind, node]
      · rename_i node
        simp only [Except.bind, node]

theorem chain_read (joint : Token → Joint) (operand : ExprReader) (tokens : List Token) :
    (chain joint operand).read tokens =
      (operand.read tokens).bind fun step => chainFrom joint operand step.1 step.2 := by
  simp only [chain]
  cases operand.read tokens <;> rfl

theorem argumentsFrom_eq (argument : ExprReader) (tokens : List Token) :
    Expr.argumentsFrom argument tokens =
      match argument.read tokens with
      | .error e => .error e
      | .ok (first, .comma :: rest) =>
          match Expr.argumentsFrom argument rest with
          | .error e => .error e
          | .ok (others, last) => .ok (first :: others, last)
      | .ok (first, .closeParen :: rest) => .ok ([first], rest)
      | .ok (_, token :: _) => .error (.unfinishedArgument token)
      | .ok (_, []) => .error .unclosedArguments := by
  rw [argumentsFrom]
  split <;> rename_i step <;> rw [step]
  all_goals first | rfl | simp_all

/-- A chain that starts with its left part goes on with the next operand. -/
theorem chain_read_joined {joint : Token → Joint} {operand : ExprReader} {left right : Phrase}
    {mark more rest : List Token} {op : Operator} {limit : Nat}
    (next : nextOperand joint more = some (op, right.tokens ++ rest))
    (first : (chain joint operand).read (left.tokens ++ more) =
      left.within limit (chainFrom joint operand left.tree more))
    (second : operand.read (right.tokens ++ rest) = right.within limit (.ok (right.tree, rest))) :
    (chain joint operand).read (left.tokens ++ more) =
      (left.joined mark op right).within limit
        (chainFrom joint operand (left.joined mark op right).tree rest) := by
  have same : (left.joined mark op right).Fits limit ↔
      (left.Fits limit ∧ right.Fits limit) ∧
        (left.joined mark op right).tree.height ≤ maxDepth := by
    rw [Phrase.fits_joined_iff, and_assoc]
  rw [first, chainFrom_of_next next, second, Phrase.within_bind, Phrase.within_within]
  exact Phrase.ite_built (fun node => chainFrom joint operand node.1 node.2) same

/-! ## What may follow a phrase -/

/-- The tokens that lead from a phrase of the category on to a longer one. -/
def Category.goesOn : Category → Token → Bool
  | .primary, _ => false
  | _, .unit _ => true
  | .measure, _ => false
  | _, .caret => true
  | .power, _ | .signed, _ => false
  | _, .star | _, .slash | _, .constant _ | _, .func _ | _, .openParen => true
  | .product, _ => false
  | .sum, .plus | .sum, .minus => true
  | .sum, _ => false

/-- A phrase of the category that is followed by these tokens ends before them. -/
def Category.Ends (c : Category) (rest : List Token) : Prop :=
  ∀ token ∈ rest.head?, c.goesOn token = false

namespace Category.Ends

variable {c : Category} {token : Token} {rest : List Token}

theorem nil (c : Category) : c.Ends [] := by
  intro token mem
  contradiction

theorem cons (stops : c.goesOn token = false) : c.Ends (token :: rest) := by
  intro next mem
  obtain rfl := Option.some.inj mem
  exact stops

theorem head (ends : c.Ends (token :: rest)) : c.goesOn token = false :=
  ends token rfl

theorem product_of_sum (ends : Category.sum.Ends rest) : Category.product.Ends rest := by
  cases rest with
  | nil => exact nil _
  | cons token rest =>
      have stops := ends.head
      cases token <;> first | exact cons rfl | contradiction

theorem signed_of_product (ends : Category.product.Ends rest) : Category.signed.Ends rest := by
  cases rest with
  | nil => exact nil _
  | cons token rest =>
      have stops := ends.head
      cases token <;> first | exact cons rfl | contradiction

theorem measure_of_signed (ends : Category.signed.Ends rest) : Category.measure.Ends rest := by
  cases rest with
  | nil => exact nil _
  | cons token rest =>
      have stops := ends.head
      cases token <;> first | exact cons rfl | contradiction

theorem nextOperand_product (ends : Category.product.Ends rest) :
    nextOperand productJoint rest = none := by
  cases rest with
  | nil => rfl
  | cons token rest =>
      have stops := ends.head
      cases token <;> first | rfl | contradiction

theorem nextOperand_sum (ends : Category.sum.Ends rest) : nextOperand sumJoint rest = none := by
  cases rest with
  | nil => rfl
  | cons token rest =>
      have stops := ends.head
      cases token <;> first | rfl | contradiction

end Category.Ends

/-! ## One rule of the grammar after the other -/

/-- What the readers make of a phrase of the category, with any tokens behind it that do not go on
with it. A sum and a product are read as the beginning of a chain. -/
def Reads : Category → Phrase → Prop
  | .primary, p => ∀ (budget : Nat) (rest : List Token), ¬ p.Calls rest →
      (primary (sum (signed budget))).read (p.tokens ++ rest) =
        p.within (budget + 1) (.ok (p.tree, rest))
  | .measure, p => ∀ (budget : Nat) (rest : List Token), ¬ p.Calls rest →
      Category.measure.Ends rest →
      (Expr.measure (sum (signed budget))).read (p.tokens ++ rest) =
        p.within (budget + 1) (.ok (p.tree, rest))
  | .power, p => ∀ (budget : Nat) (rest : List Token), ¬ p.Calls rest →
      Category.signed.Ends rest →
      (power (sum (signed budget)) (signed budget)).read (p.tokens ++ rest) =
        p.within (budget + 1) (.ok (p.tree, rest))
  | .signed, p => ∀ (budget : Nat) (rest : List Token), ¬ p.Calls rest →
      Category.signed.Ends rest →
      (signed budget).read (p.tokens ++ rest) = p.within budget (.ok (p.tree, rest))
  | .product, p => ∀ (budget : Nat) (rest : List Token), ¬ p.Calls rest →
      Category.signed.Ends rest →
      (chain productJoint (signed budget)).read (p.tokens ++ rest) =
        p.within budget (chainFrom productJoint (signed budget) p.tree rest)
  | .sum, p => ∀ (budget : Nat) (rest : List Token), ¬ p.Calls rest →
      Category.product.Ends rest →
      (sum (signed budget)).read (p.tokens ++ rest) =
        p.within budget (chainFrom sumJoint (chain productJoint (signed budget)) p.tree rest)

namespace Reads

variable {p left right : Phrase}

/-- A product that nothing continues is read as a whole. -/
theorem whole_product (reads : Reads .product p) {rest : List Token} (budget : Nat)
    (noCall : ¬ p.Calls rest) (ends : Category.product.Ends rest) :
    (chain productJoint (signed budget)).read (p.tokens ++ rest) =
      p.within budget (.ok (p.tree, rest)) := by
  rw [reads budget rest noCall ends.signed_of_product, chainFrom_of_ends ends.nextOperand_product]

/-- A sum that nothing continues is read as a whole. -/
theorem whole_sum (reads : Reads .sum p) {rest : List Token} (budget : Nat)
    (noCall : ¬ p.Calls rest) (ends : Category.sum.Ends rest) :
    (sum (signed budget)).read (p.tokens ++ rest) = p.within budget (.ok (p.tree, rest)) := by
  rw [reads budget rest noCall ends.product_of_sum, chainFrom_of_ends ends.nextOperand_sum]

theorem number (x : Binary64) : Reads .primary (.atom (.number x) (.number x)) := by
  intro budget rest _
  rfl

theorem constant (c : Constant) : Reads .primary (.atom (.constant c) (.constant c)) := by
  intro budget rest _
  rfl

theorem reference (f : Func) : Reads .primary (.atom (.func f) (.reference f)) := by
  intro budget rest noCall
  cases rest with
  | nil => rfl
  | cons token rest =>
      cases token <;> try rfl
      exact absurd ⟨⟨f, rfl⟩, rfl⟩ noCall

theorem group (reads : Reads .sum p) : Reads .primary p.grouped := by
  intro budget rest _
  have noCall : ¬ p.Calls (.closeParen :: rest) := Phrase.not_calls_of_head? (by simp)
  have inner := reads.whole_sum budget noCall (.cons rfl)
  have tokens : p.grouped.tokens ++ rest = .openParen :: (p.tokens ++ .closeParen :: rest) := by
    simp [Phrase.grouped]
  simp only [tokens, primary, groupOf, inner]
  by_cases fits : p.Fits budget
  · rw [Phrase.within_of_fits fits, Phrase.within_of_fits (Phrase.fits_grouped_iff.mpr fits)]
    rfl
  · rw [Phrase.within_of_not_fits fits,
      Phrase.within_of_not_fits (mt Phrase.fits_grouped_iff.mp fits)]

/-- The readers of an argument list read the arguments that fit. -/
theorem argumentsFrom {args : List Phrase} {budget : Nat} (nonempty : args ≠ [])
    (reads : ∀ a ∈ args, Reads .sum a) (rest : List Token) :
    Expr.argumentsFrom (sum (signed budget)) (Phrase.argumentTokens args ++ .closeParen :: rest) =
      if ∀ a ∈ args, a.Fits budget then .ok (args.map Phrase.tree, rest) else .error .tooDeep := by
  fun_induction Phrase.argumentTokens args with
  | case1 => contradiction
  | case2 p =>
      have noCall : ¬ p.Calls (.closeParen :: rest) := Phrase.not_calls_of_head? (by simp)
      have inner := (reads p List.mem_cons_self).whole_sum budget noCall
        (.cons rfl)
      rw [argumentsFrom_eq, inner]
      by_cases fits : p.Fits budget
      · simp [Phrase.within_of_fits fits, fits]
      · simp [Phrase.within_of_not_fits fits, fits]
  | case3 p q ps ih =>
      have others := ih (List.cons_ne_nil q ps) fun a mem => reads a (List.mem_cons_of_mem p mem)
      have noCall : ∀ more, ¬ p.Calls (.comma :: more) :=
        fun more => Phrase.not_calls_of_head? (by simp)
      have inner := (reads p List.mem_cons_self).whole_sum budget
        (noCall (Phrase.argumentTokens (q :: ps) ++ .closeParen :: rest))
        (.cons rfl)
      rw [List.append_assoc, List.cons_append, argumentsFrom_eq, inner]
      by_cases fits : p.Fits budget
      · rw [Phrase.within_of_fits fits]
        simp only [others]
        by_cases rest_fit : ∀ a ∈ q :: ps, a.Fits budget
        · have all : ∀ a ∈ p :: q :: ps, a.Fits budget :=
            List.forall_mem_cons.mpr ⟨fits, rest_fit⟩
          rw [if_pos rest_fit, if_pos all]
          rfl
        · rw [if_neg rest_fit, if_neg fun all => rest_fit (List.forall_mem_cons.mp all).2]
      · rw [Phrase.within_of_not_fits fits, if_neg fun all => fits (all p List.mem_cons_self)]

theorem starts_argumentTokens {args : List Phrase} (nonempty : args ≠ [])
    (starts : ∀ a ∈ args, Category.sum.Starts a.tokens) :
    Category.sum.Starts (Phrase.argumentTokens args) := by
  fun_cases Phrase.argumentTokens args with
  | case1 => contradiction
  | case2 p => exact starts p List.mem_cons_self
  | case3 p q ps => exact (starts p List.mem_cons_self).append _

/-- An argument list that starts like a sum is not empty. -/
theorem arguments_read {argument : ExprReader} {tokens : List Token}
    (starts : Category.sum.Starts tokens) :
    (arguments argument).read tokens = Expr.argumentsFrom argument tokens := by
  rcases starts with ⟨token, rest, rfl, start⟩
  cases token <;> first | rfl | simp [startsOperand] at start

theorem call {f : Func} {args : List Phrase} (accepted : f.accepts args.length = true)
    (starts : ∀ a ∈ args, Category.sum.Starts a.tokens) (reads : ∀ a ∈ args, Reads .sum a) :
    Reads .primary (.call f args) := by
  intro budget rest _
  have nonempty : args ≠ [] := by
    rintro rfl
    simp [Func.accepts] at accepted
  have tokens : (Phrase.call f args).tokens ++ rest =
      .func f :: .openParen :: (Phrase.argumentTokens args ++ .closeParen :: rest) := by
    simp [Phrase.call]
  have inner : (arguments (sum (signed budget))).read
      (Phrase.argumentTokens args ++ .closeParen :: rest) =
        if ∀ a ∈ args, a.Fits budget then .ok (args.map Phrase.tree, rest)
        else .error .tooDeep := by
    rw [arguments_read ((starts_argumentTokens nonempty starts).append _),
      argumentsFrom nonempty reads]
  rw [← Phrase.ite_built_ok (Phrase.fits_call_iff nonempty)]
  simp only [tokens, primary, callOf, inner]
  by_cases fits : ∀ a ∈ args, a.Fits budget
  · simp only [if_pos fits, List.length_map, accepted, if_true]
    rfl
  · simp only [if_neg fits]

theorem bare (reads : Reads .primary p) : Reads .measure p := by
  intro budget rest noCall ends
  have first := reads budget rest noCall
  simp only [Expr.measure, first]
  by_cases fits : p.Fits (budget + 1)
  · rw [Phrase.within_of_fits fits]
    cases rest with
    | nil => rfl
    | cons token rest =>
        have stops := ends.head
        cases token <;> first | rfl | contradiction
  · rw [Phrase.within_of_not_fits fits]

theorem measured (u : AngleUnit) (reads : Reads .primary p) : Reads .measure (p.measured u) := by
  intro budget rest noCall ends
  have first := reads budget (.unit u :: rest) (Phrase.not_calls_of_head? (by simp))
  have tokens : (p.measured u).tokens ++ rest = p.tokens ++ .unit u :: rest := by
    simp [Phrase.measured]
  rw [← Phrase.ite_built_ok Phrase.fits_measured_iff]
  simp only [tokens, Expr.measure, first]
  by_cases fits : p.Fits (budget + 1)
  · rw [Phrase.within_of_fits fits, if_pos fits]
    rfl
  · rw [Phrase.within_of_not_fits fits, if_neg fits]

theorem base (reads : Reads .measure p) : Reads .power p := by
  intro budget rest noCall ends
  have first := reads budget rest noCall ends.measure_of_signed
  simp only [power, first]
  by_cases fits : p.Fits (budget + 1)
  · rw [Phrase.within_of_fits fits]
    cases rest with
    | nil => rfl
    | cons token rest =>
        have stops := ends.head
        cases token <;> first | rfl | contradiction
  · rw [Phrase.within_of_not_fits fits]

theorem raised (base : Reads .measure left) (exponent : Reads .signed right)
    (nonempty : right.tokens ≠ []) : Reads .power (left.raised right) := by
  intro budget rest noCall ends
  have suffix : (left.raised right).tokens = (left.tokens ++ [.caret]) ++ right.tokens := by
    simp [Phrase.raised]
  have first := base budget (.caret :: (right.tokens ++ rest))
    (Phrase.not_calls_of_head? (by simp)) (.cons rfl)
  have second := exponent budget rest
    (mt (Phrase.calls_of_suffix suffix nonempty).mpr noCall) ends
  have tokens : (left.raised right).tokens ++ rest =
      left.tokens ++ .caret :: (right.tokens ++ rest) := by
    simp [Phrase.raised]
  rw [← Phrase.ite_built_ok (Phrase.fits_raised_iff.trans and_assoc.symm)]
  simp only [tokens, power, first]
  by_cases baseFits : left.Fits (budget + 1)
  · simp only [Phrase.within_of_fits baseFits, second]
    by_cases exponentFits : right.Fits budget
    · rw [Phrase.within_of_fits exponentFits, if_pos ⟨baseFits, exponentFits⟩]
      rfl
    · rw [Phrase.within_of_not_fits exponentFits, if_neg fun both => exponentFits both.2]
  · rw [Phrase.within_of_not_fits baseFits, if_neg fun both => baseFits both.1]

theorem unsigned (starts : Category.power.Starts p.tokens) (reads : Reads .power p) :
    Reads .signed p := by
  intro budget rest noCall ends
  cases budget with
  | zero => rfl
  | succ budget =>
      rw [← reads budget rest noCall ends]
      rcases starts with ⟨token, more, tokens, start | ⟨sign, _⟩⟩
      · rw [tokens]
        cases token <;> first | rfl | simp [startsOperand] at start
      · contradiction

theorem negated (nonempty : p.tokens ≠ []) (reads : Reads .signed p) :
    Reads .signed p.negated := by
  intro budget rest noCall ends
  cases budget with
  | zero => rfl
  | succ budget =>
      have suffix : p.negated.tokens = [.minus] ++ p.tokens := rfl
      have operand := reads budget rest
        (mt (Phrase.calls_of_suffix suffix nonempty).mpr noCall) ends
      have tokens : p.negated.tokens ++ rest = .minus :: (p.tokens ++ rest) := rfl
      rw [← Phrase.ite_built_ok Phrase.fits_negated_iff]
      simp only [tokens, signed, operand]
      by_cases fits : p.Fits budget
      · rw [Phrase.within_of_fits fits, if_pos fits]
        rfl
      · rw [Phrase.within_of_not_fits fits, if_neg fits]

theorem affirmed (nonempty : p.tokens ≠ []) (reads : Reads .signed p) :
    Reads .signed p.affirmed := by
  intro budget rest noCall ends
  cases budget with
  | zero => rfl
  | succ budget =>
      have suffix : p.affirmed.tokens = [.plus] ++ p.tokens := rfl
      have operand := reads budget rest
        (mt (Phrase.calls_of_suffix suffix nonempty).mpr noCall) ends
      have tokens : p.affirmed.tokens ++ rest = .plus :: (p.tokens ++ rest) := rfl
      simp only [tokens, signed, operand]
      by_cases fits : p.Fits budget
      · rw [Phrase.within_of_fits fits, Phrase.within_of_fits (Phrase.fits_affirmed_iff.mpr fits)]
        rfl
      · rw [Phrase.within_of_not_fits fits,
          Phrase.within_of_not_fits (mt Phrase.fits_affirmed_iff.mp fits)]

theorem factor (reads : Reads .signed p) : Reads .product p := by
  intro budget rest noCall ends
  rw [chain_read, reads budget rest noCall ends, Phrase.within_bind]
  rfl

theorem term (reads : Reads .product p) : Reads .sum p := by
  intro budget rest noCall ends
  rw [sum, chain_read, reads.whole_product budget noCall ends, Phrase.within_bind]
  rfl

/-- A product goes on with a factor, the operator being written or left out. -/
theorem joined_product {mark : List Token} {op : Operator} (nonempty : right.tokens ≠ [])
    (next : ∀ more, nextOperand productJoint (mark ++ (right.tokens ++ more)) =
      some (op, right.tokens ++ more))
    (ends : ∀ more, Category.signed.Ends (mark ++ (right.tokens ++ more)))
    (noCall : ∀ more, ¬ left.Calls (mark ++ (right.tokens ++ more)))
    (first : Reads .product left) (second : Reads .signed right) :
    Reads .product (left.joined mark op right) := by
  intro budget rest wholeNoCall wholeEnds
  have suffix : (left.joined mark op right).tokens = (left.tokens ++ mark) ++ right.tokens := by
    simp [Phrase.joined]
  have tokens : (left.joined mark op right).tokens ++ rest =
      left.tokens ++ (mark ++ (right.tokens ++ rest)) := by
    simp [Phrase.joined]
  have rightNoCall := mt (Phrase.calls_of_suffix suffix nonempty).mpr wholeNoCall
  rw [tokens]
  exact chain_read_joined (next rest) (first budget _ (noCall rest) (ends rest))
    (second budget rest rightNoCall wholeEnds)

/-- A product goes on with a factor that may stand without a multiplication sign. -/
theorem juxtaposed (first : Reads .product left) (second : Reads .signed right)
    (opens : right.tokens.head?.any opensFactor = true) (noCall : ¬ left.Calls right.tokens) :
    Reads .product (left.joined [] .mul right) := by
  obtain ⟨token, rest, tokens⟩ : ∃ token rest, right.tokens = token :: rest :=
    List.exists_cons_of_ne_nil (by rintro empty; simp [empty] at opens)
  rw [tokens] at opens
  refine joined_product (by simp [tokens]) ?_ ?_ ?_ first second
  · intro more
    rw [tokens]
    cases token <;> first | rfl | contradiction
  · intro more
    rw [tokens]
    cases token <;> first | exact .cons rfl | contradiction
  · intro more calls
    refine noCall ⟨calls.1, ?_⟩
    simpa [tokens] using calls.2

/-- A sum goes on with a product. -/
theorem joined_sum {mark : Token} {op : Operator} (nonempty : right.tokens ≠ [])
    (written : sumJoint mark = .written op) (first : Reads .sum left)
    (second : Reads .product right) : Reads .sum (left.joined [mark] op right) := by
  intro budget rest wholeNoCall wholeEnds
  have suffix : (left.joined [mark] op right).tokens = (left.tokens ++ [mark]) ++ right.tokens := by
    simp [Phrase.joined]
  have tokens : (left.joined [mark] op right).tokens ++ rest =
      left.tokens ++ mark :: (right.tokens ++ rest) := by
    simp [Phrase.joined]
  have rightNoCall := mt (Phrase.calls_of_suffix suffix nonempty).mpr wholeNoCall
  have leftEnds : Category.product.Ends (mark :: (right.tokens ++ rest)) := by
    cases mark <;> first | exact .cons rfl | contradiction
  have leftNoCall : ¬ left.Calls (mark :: (right.tokens ++ rest)) :=
    Phrase.not_calls_of_head? (by cases mark <;> simp_all [sumJoint])
  have next : nextOperand sumJoint (mark :: (right.tokens ++ rest)) =
      some (op, right.tokens ++ rest) := by
    simp [nextOperand, written]
  rw [tokens]
  exact chain_read_joined next (first budget _ leftNoCall leftEnds)
    (second.whole_product budget rightNoCall wholeEnds)

end Reads

/-- What the grammar derives is read, as far as the caps let it. -/
theorem Derives.reads {c : Category} {p : Phrase} (derived : Derives c p) : Reads c p := by
  induction derived with
  | number x => exact .number x
  | constant c => exact .constant c
  | reference f => exact .reference f
  | call accepted each reads => exact .call accepted (fun a mem => (each a mem).starts) reads
  | group _ reads => exact reads.group
  | bare _ reads => exact reads.bare
  | measured u _ reads => exact reads.measured u
  | base _ reads => exact reads.base
  | raised _ exponent base reads => exact base.raised reads exponent.starts.ne_nil
  | unsigned power reads => exact reads.unsigned power.starts
  | negated operand reads => exact reads.negated operand.starts.ne_nil
  | affirmed operand reads => exact reads.affirmed operand.starts.ne_nil
  | factor _ reads => exact reads.factor
  | times _ right first second =>
      refine .joined_product right.starts.ne_nil ?_ ?_ ?_ first second
      · exact fun _ => rfl
      · exact fun _ => .cons rfl
      · exact fun _ => Phrase.not_calls_of_head? (by simp)
  | divided _ right first second =>
      refine .joined_product right.starts.ne_nil ?_ ?_ ?_ first second
      · exact fun _ => rfl
      · exact fun _ => .cons rfl
      · exact fun _ => Phrase.not_calls_of_head? (by simp)
  | juxtaposed opens noCall _ _ first second => exact first.juxtaposed second opens noCall
  | term _ reads => exact reads.term
  | plus _ right first second => exact .joined_sum right.starts.ne_nil rfl first second
  | minus _ right first second => exact .joined_sum right.starts.ne_nil rfl first second

/-- The expression of a derived phrase, or the refusal of one that is beyond the caps. -/
theorem parse_of_derives {p : Phrase} (derived : Derives .sum p) :
    parse p.tokens = p.within (maxDepth + 1) (.ok p.tree) := by
  have noCall : ¬ p.Calls [] := Phrase.not_calls_of_head? (by simp)
  have whole := derived.reads.whole_sum (maxDepth + 1) noCall (.nil _)
  rw [List.append_nil] at whole
  rw [parse]
  · rw [whole]
    by_cases fits : p.Fits (maxDepth + 1)
    · rw [Phrase.within_of_fits fits, Phrase.within_of_fits fits]
    · rw [Phrase.within_of_not_fits fits, Phrase.within_of_not_fits fits]
  · exact derived.starts.ne_nil

end Reckoner.Grammar
