import Reckoner.Expr.Printer
import Reckoner.Proofs.Grammar.Complete

/-!
# Multiplication signs that are left out

Between an operand and a constant, a function or a group, a multiplication sign may be written or
left out. The readers make the same of both: they run alike on the two lists of tokens as long as
they are in front of that place, and behind an operand no reader but that of products looks at what
follows. So they go on alike with the factor behind the place, or fail alike before it.
-/

namespace Reckoner.Grammar

open Reckoner.Expr

/-- The tokens that an operand may end in. -/
def closesOperand : Token → Bool
  | .number _ | .constant _ | .func _ | .unit _ | .closeParen => true
  | _ => false

/-- An operand ends in `last`, and `next` does not make a call of it. -/
def ClosesBefore (next last : Token) : Prop :=
  closesOperand last = true ∧ ∀ f, last = .func f → next ≠ .openParen

/-- An operand ends before `next`, unless there is nothing before it. -/
def ClosedBefore (next : Token) (tokens : List Token) : Prop :=
  ∀ last ∈ tokens.getLast?, ClosesBefore next last

namespace ClosedBefore

variable {next first : Token} {others : List Token}

theorem nil : ClosedBefore next [] :=
  nofun

theorem tail (closed : ClosedBefore next (first :: others)) : ClosedBefore next others := by
  intro last mem
  refine closed last ?_
  rw [List.getLast?_cons, Option.mem_def.mp mem]
  rfl

theorem closes (closed : ClosedBefore next [first]) : ClosesBefore next first :=
  closed first rfl

/-- Behind a token that ends no operand, there is another token. -/
theorem exists_cons (closed : ClosedBefore next (first :: others))
    (opens : closesOperand first = false) : ∃ second more, others = second :: more := by
  cases others with
  | nil =>
      have closes := closed.closes.1
      rw [opens] at closes
      contradiction
  | cons second more => exact ⟨second, more, rfl⟩

end ClosedBefore

section

variable (token : Token) (rest : List Token)

/-- Two readers come to the same: either wholly, or they stop before `token`, with a multiplication
sign before it on the right only. They stop directly before it if `reaches` holds. -/
inductive Agree (reaches : Prop) {α : Type} :
    Except SyntaxError (α × List Token) → Except SyntaxError (α × List Token) → Prop where
  | same (outcome : Except SyntaxError (α × List Token)) : Agree reaches outcome outcome
  | before {value : α} {tokens : List Token} (closed : ClosedBefore token tokens)
      (stops : tokens = [] → reaches) :
      Agree reaches (.ok (value, tokens ++ token :: rest))
        (.ok (value, tokens ++ .star :: token :: rest))

/-- The reader makes the same of some tokens with and without a multiplication sign behind them. -/
def Blind (reaches : Prop) {α : Type} (reader : Reader Token SyntaxError α) : Prop :=
  ∀ ⦃first : Token⦄ ⦃others : List Token⦄, ClosedBefore token (first :: others) →
    Agree token rest reaches (reader.read (first :: (others ++ token :: rest)))
      (reader.read (first :: (others ++ .star :: token :: rest)))

end

variable {token first : Token} {rest others : List Token} {reaches : Prop} {α : Type}
  {inner exponent operand : ExprReader} {joint : Token → Joint}

/-- What a blind reader comes to on both sides. It takes a token at least. -/
theorem Blind.cases {reader : Reader Token SyntaxError α} (blind : Blind token rest reaches reader)
    (closed : ClosedBefore token (first :: others)) :
    reader.read (first :: (others ++ token :: rest)) =
        reader.read (first :: (others ++ .star :: token :: rest)) ∨
      ∃ value tokens, ClosedBefore token tokens ∧ (tokens = [] → reaches) ∧
        tokens.length ≤ others.length ∧
        reader.read (first :: (others ++ token :: rest)) = .ok (value, tokens ++ token :: rest) ∧
        reader.read (first :: (others ++ .star :: token :: rest)) =
          .ok (value, tokens ++ .star :: token :: rest) := by
  have agree := blind closed
  generalize plain : reader.read (first :: (others ++ token :: rest)) = left at agree
  generalize starred : reader.read (first :: (others ++ .star :: token :: rest)) = right at agree
  cases agree with
  | same => exact .inl rfl
  | @before value tokens closed stops =>
      have taken := reader.shortens plain
      simp only [List.length_cons, List.length_append] at taken
      exact .inr ⟨value, tokens, closed, stops, by omega, rfl, rfl⟩

theorem agree_built {tree : Expr} {tokens : List Token} (closed : ClosedBefore token tokens) :
    Agree token rest True (built tree (tokens ++ token :: rest))
      (built tree (tokens ++ .star :: token :: rest)) := by
  unfold built
  split
  · exact .before closed fun _ => trivial
  · exact .same _

/-! ## Chains -/

/-- The chain crosses the place, if its operands come to it. -/
structure Bridges (token : Token) (rest : List Token) (reaches : Prop) (joint : Token → Joint) :
    Prop where
  crosses : reaches → ∀ operand left, chainFrom joint operand left (token :: rest) =
    chainFrom joint operand left (.star :: token :: rest)
  /-- No operator is a token that an operand ends in. -/
  opens : ∀ last op, joint last = .written op → closesOperand last = false

/-- Behind an operator a chain runs alike on both sides, if it does so behind the operand. -/
theorem operand_agree (blind : Blind token rest reaches operand) (left : Expr) (op : Operator)
    (closed : ClosedBefore token (first :: others))
    (behind : ∀ left tokens, tokens.length ≤ others.length → ClosedBefore token tokens →
      (tokens = [] → reaches) →
      Agree token rest False (chainFrom joint operand left (tokens ++ token :: rest))
        (chainFrom joint operand left (tokens ++ .star :: token :: rest))) :
    Agree token rest False
      ((operand.read (first :: (others ++ token :: rest))).bind fun step =>
        (built (binary left op step.1) step.2).bind fun node =>
          chainFrom joint operand node.1 node.2)
      ((operand.read (first :: (others ++ .star :: token :: rest))).bind fun step =>
        (built (binary left op step.1) step.2).bind fun node =>
          chainFrom joint operand node.1 node.2) := by
  rcases blind.cases closed with same | ⟨right, tokens, closed, stops, taken, plain, starred⟩
  · rw [same]
    exact .same _
  · rw [plain, starred]
    by_cases low : (binary left op right).height ≤ maxDepth
    · simp only [Except.bind, built, if_pos low]
      exact behind _ tokens taken closed stops
    · simp only [Except.bind, built, if_neg low]
      exact .same _

/-- From one operand to the next, a chain runs alike on both sides. -/
theorem chainFrom_agree (bridges : Bridges token rest reaches joint)
    (blind : Blind token rest reaches operand) (left : Expr) (tokens : List Token)
    (closed : ClosedBefore token tokens) (stops : tokens = [] → reaches) :
    Agree token rest False (chainFrom joint operand left (tokens ++ token :: rest))
      (chainFrom joint operand left (tokens ++ .star :: token :: rest)) := by
  induction count : tokens.length using Nat.strongRecOn generalizing tokens left with
  | ind count ih => ?_
  subst count
  cases tokens with
  | nil =>
      rw [List.nil_append, List.nil_append, bridges.crosses (stops rfl)]
      exact .same _
  | cons first others =>
      -- A written operator is taken off before the operand, and an implied one stands for no token.
      cases kind : joint first with
      | ends =>
          have ends : ∀ more, nextOperand joint (first :: more) = none := by
            simp [nextOperand, kind]
          rw [List.cons_append, List.cons_append, chainFrom_of_ends (ends _),
            chainFrom_of_ends (ends _)]
          exact .before closed (List.cons_ne_nil _ _)
      | written op =>
          rcases closed.exists_cons (bridges.opens first op kind) with ⟨second, more, rfl⟩
          have next : ∀ more, nextOperand joint (first :: more) = some (op, more) := by
            simp [nextOperand, kind]
          simp only [List.cons_append]
          rw [chainFrom_of_next (next (second :: (more ++ token :: rest))),
            chainFrom_of_next (next (second :: (more ++ .star :: token :: rest)))]
          refine operand_agree blind left op closed.tail fun left tokens shorter closed stops => ?_
          exact ih tokens.length (by simp only [List.length_cons]; omega) left tokens closed stops
            rfl
      | implied op =>
          have next : ∀ more, nextOperand joint (first :: more) = some (op, first :: more) := by
            simp [nextOperand, kind]
          rw [List.cons_append, List.cons_append, chainFrom_of_next (next _),
            chainFrom_of_next (next _)]
          refine operand_agree blind left op closed fun left tokens shorter closed stops => ?_
          exact ih tokens.length (Nat.lt_succ_of_le shorter) left tokens closed stops rfl

theorem Blind.chain (bridges : Bridges token rest reaches joint)
    (blind : Blind token rest reaches operand) :
    Blind token rest False (Expr.chain joint operand) := by
  intro first others closed
  rw [chain_read, chain_read]
  rcases blind.cases closed with same | ⟨left, tokens, closed, stops, _, plain, starred⟩
  · rw [same]
    exact .same _
  · rw [plain, starred]
    exact chainFrom_agree bridges blind left tokens closed stops

/-- A factor that may follow directly also follows a multiplication sign. -/
theorem bridges_product (opens : opensFactor token = true) :
    Bridges token rest reaches productJoint where
  crosses _ operand left := by
    have implied : nextOperand productJoint (token :: rest) = some (.mul, token :: rest) := by
      cases token <;> first | rfl | contradiction
    rw [chainFrom_of_next implied,
      chainFrom_of_next (rfl : nextOperand productJoint (.star :: token :: rest) = _)]
  opens last op written := by
    cases last <;> first | rfl | contradiction

/-- Products take all that follows, so that a sum never comes to the place. -/
theorem bridges_sum : Bridges token rest False sumJoint where
  crosses := nofun
  opens last op written := by
    cases last <;> first | rfl | contradiction

theorem Blind.sum (opens : opensFactor token = true) (blind : Blind token rest reaches operand) :
    Blind token rest False (Expr.sum operand) :=
  (blind.chain (bridges_product opens)).chain bridges_sum

/-! ## Primaries -/

/-- Every argument ends in front of the place, and the list at its parenthesis. -/
theorem argumentsFrom_agree (blind : Blind token rest False operand) (first : Token)
    (others : List Token) (closed : ClosedBefore token (first :: others)) :
    Agree token rest True (argumentsFrom operand (first :: (others ++ token :: rest)))
      (argumentsFrom operand (first :: (others ++ .star :: token :: rest))) := by
  induction count : others.length using Nat.strongRecOn generalizing first others with
  | ind count ih => ?_
  subst count
  rw [argumentsFrom_eq, argumentsFrom_eq operand (first :: (others ++ .star :: token :: rest))]
  rcases blind.cases closed with same | ⟨argument, tokens, closed, stops, taken, plain, starred⟩
  · rw [same]
    exact .same _
  · rw [plain, starred]
    cases tokens with
    | nil => exact (stops rfl).elim
    | cons mark after =>
        cases mark with
        | comma =>
            rcases closed.exists_cons rfl with ⟨second, more, rfl⟩
            simp only [List.length_cons] at taken
            have agree := ih more.length (by omega) second more closed.tail rfl
            simp only [List.cons_append]
            generalize argumentsFrom operand (second :: (more ++ token :: rest)) = left at agree ⊢
            generalize argumentsFrom operand (second :: (more ++ .star :: token :: rest)) = right
              at agree ⊢
            cases agree with
            | same => exact .same _
            | before closed stops => exact .before closed stops
        | closeParen => exact .before closed.tail fun _ => trivial
        | _ => exact .same _

theorem Blind.arguments (blind : Blind token rest False operand) :
    Blind token rest True (arguments operand) := by
  intro first others closed
  have agree := argumentsFrom_agree blind first others closed
  cases first with
  | closeParen => exact .before closed.tail fun _ => trivial
  | _ => exact agree

theorem Blind.call (blind : Blind token rest False operand) (f : Func) :
    Blind token rest True (callOf f operand) := by
  intro first others closed
  simp only [callOf]
  rcases blind.arguments.cases closed with same | ⟨args, tokens, closed, _, _, plain, starred⟩
  · rw [same]
    exact .same _
  · simp only [plain, starred]
    split
    · exact agree_built closed
    · exact .same _

theorem Blind.group (blind : Blind token rest False operand) :
    Blind token rest True (groupOf operand) := by
  intro first others closed
  simp only [groupOf]
  rcases blind.cases closed with same | ⟨tree, tokens, closed, stops, _, plain, starred⟩
  · rw [same]
    exact .same _
  · simp only [plain, starred]
    cases tokens with
    | nil => exact (stops rfl).elim
    | cons mark after =>
        cases mark with
        | closeParen => exact .before closed.tail fun _ => trivial
        | _ => exact .same _

/-- A function is a reference in front of the place, unless an argument list of its own follows. -/
theorem Blind.primary (blind : Blind token rest False operand) :
    Blind token rest True (Expr.primary operand) := by
  intro first others closed
  cases first with
  | number | constant => exact .before closed.tail fun _ => trivial
  | openParen =>
      rcases closed.exists_cons rfl with ⟨second, more, rfl⟩
      exact blind.group closed.tail
  | func f =>
      cases others with
      | nil =>
          have notParen := closed.closes.2 f rfl
          have plain : (Expr.primary operand).read (.func f :: token :: rest) =
              .ok (.reference f, token :: rest) := by
            cases token <;> first | rfl | contradiction
          change Agree token rest True ((Expr.primary operand).read (.func f :: token :: rest)) _
          rw [plain]
          exact .before .nil fun _ => trivial
      | cons second more =>
          cases second with
          | openParen =>
              rcases closed.tail.exists_cons rfl with ⟨third, after, rfl⟩
              exact blind.call f closed.tail.tail
          | _ => exact .before closed.tail fun _ => trivial
  | _ => exact .same _

/-! ## Units, powers and signs -/

theorem Blind.measure (opens : opensFactor token = true) (blind : Blind token rest False operand) :
    Blind token rest True (Expr.measure operand) := by
  intro first others closed
  simp only [Expr.measure]
  rcases blind.primary.cases closed with same | ⟨tree, tokens, closed, _, _, plain, starred⟩
  · rw [same]
    exact .same _
  · simp only [plain, starred]
    cases tokens with
    | nil => cases token <;> first | exact .before .nil fun _ => trivial | contradiction
    | cons mark after =>
        cases mark with
        | unit u => exact agree_built closed.tail
        | _ => exact .before closed fun _ => trivial

theorem Blind.power (opens : opensFactor token = true) (blind : Blind token rest False operand)
    (blindExponent : Blind token rest True exponent) :
    Blind token rest True (Expr.power operand exponent) := by
  intro first others closed
  simp only [Expr.power]
  rcases (blind.measure opens).cases closed with same | ⟨base, tokens, closed, _, _, plain, starred⟩
  · rw [same]
    exact .same _
  · simp only [plain, starred]
    cases tokens with
    | nil => cases token <;> first | exact .before .nil fun _ => trivial | contradiction
    | cons mark after =>
        cases mark with
        | caret =>
            rcases closed.exists_cons rfl with ⟨second, more, rfl⟩
            rcases blindExponent.cases closed.tail
              with same | ⟨raised, tokens, closed, _, _, plain, starred⟩
            · simp only [List.cons_append, same]
              exact .same _
            · simp only [List.cons_append, plain, starred]
              exact agree_built closed
        | _ => exact .before closed fun _ => trivial

theorem blind_signed (opens : opensFactor token = true) (rest : List Token) (budget : Nat) :
    Blind token rest True (signed budget) := by
  induction budget with
  | zero =>
      intro first others _
      exact .same _
  | succ budget ih =>
      have power := (ih.sum opens).power opens ih
      intro first others closed
      have agree := power closed
      cases first with
      | minus =>
          rcases closed.exists_cons rfl with ⟨second, more, rfl⟩
          simp only [signed, List.cons_append]
          rcases ih.cases closed.tail with same | ⟨tree, tokens, closed, _, _, plain, starred⟩
          · rw [same]
            exact .same _
          · simp only [plain, starred]
            exact agree_built closed
      | plus =>
          rcases closed.exists_cons rfl with ⟨second, more, rfl⟩
          exact ih closed.tail
      | _ => exact agree

/-- Before a constant, a function or a group, a multiplication sign behind an operand may be left
out. -/
theorem parse_implied {front back : List Token} {last next : Token}
    (opens : opensFactor next = true) (ends : front.getLast? = some last)
    (closes : closesOperand last = true) (noCall : ∀ f, last = .func f → next ≠ .openParen) :
    parse (front ++ next :: back) = parse (front ++ .star :: next :: back) := by
  have closed : ClosedBefore next front := by
    intro token mem
    cases ends.symm.trans mem
    exact ⟨closes, noCall⟩
  cases front with
  | nil => contradiction
  | cons first others =>
      have blind := (blind_signed opens back (maxDepth + 1)).sum opens
      rw [List.cons_append, List.cons_append, parse, parse]
      · rcases blind.cases closed with same | ⟨tree, tokens, _, stops, _, plain, starred⟩
        · rw [same]
        · rw [plain, starred]
          cases tokens with
          | nil => exact (stops rfl).elim
          | cons token more => rfl
      · exact List.cons_ne_nil _ _
      · exact List.cons_ne_nil _ _

/-- The theorem applies behind an exponent, where a call follows, and where a group is not closed. -/
theorem parse_implied_exponent :
    opensFactor (.func .sin) = true ∧
      [Token.openParen, .minus, .constant .e, .caret, .constant .pi].getLast? =
        some (.constant .pi) ∧
      closesOperand (.constant .pi) = true ∧
      (∀ f, Token.constant .pi = .func f → Token.func .sin ≠ .openParen) ∧
      parse [.openParen, .minus, .constant .e, .caret, .constant .pi, .func .sin, .comma] =
        parse [.openParen, .minus, .constant .e, .caret, .constant .pi, .star, .func .sin, .comma] ∧
      (parse [.minus, .constant .e, .caret, .constant .pi, .func .sin, .openParen, .constant .e,
        .closeParen]).toOption.map print = some "-e^pi * sin(e)".toList ∧
      (parse [.minus, .constant .e, .caret, .constant .pi, .star, .func .sin, .openParen,
        .constant .e, .closeParen]).toOption.map print = some "-e^pi * sin(e)".toList := by
  have noCall : ∀ f, Token.constant .pi = .func f → Token.func .sin ≠ .openParen := by
    intro f same
    contradiction
  have product : (parse [.minus, .constant .e, .caret, .constant .pi, .func .sin, .openParen,
      .constant .e, .closeParen]).toOption.map print = some "-e^pi * sin(e)".toList := by
    decide +kernel
  have starred := @parse_implied [.minus, .constant .e, .caret, .constant .pi]
    [.openParen, .constant .e, .closeParen] _ _ rfl rfl rfl noCall
  refine ⟨rfl, rfl, rfl, noCall, ?_, product, ?_⟩
  · exact @parse_implied [.openParen, .minus, .constant .e, .caret, .constant .pi] [.comma] _ _
      rfl rfl rfl noCall
  · exact (congrArg (Option.map print ∘ Except.toOption) starred).symm.trans product

end Reckoner.Grammar
