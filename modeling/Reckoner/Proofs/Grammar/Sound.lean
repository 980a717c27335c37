import Reckoner.Proofs.Grammar.Complete

/-!
# Readers accept only what the grammar derives

Whatever a reader returns is the tree of a phrase that its category derives and that fits the caps,
and the tokens that it took are those of the phrase. A reader of primaries never leaves a function's
name before a parenthesis, and no other reader does so either.
-/

namespace Reckoner.Grammar

open Reckoner.Expr

/-- From `tokens` a phrase of the category is taken whose tree is `tree`, and `rest` is left. -/
def Takes (c : Category) (limit : Nat) (tokens : List Token) (tree : Expr) (rest : List Token) :
    Prop :=
  ∃ p, Derives c p ∧ p.Fits limit ∧ ¬ p.Calls rest ∧ p.tree = tree ∧ tokens = p.tokens ++ rest

/-- All that the reader returns are phrases of the category. -/
def Sound (c : Category) (limit : Nat) (reader : ExprReader) : Prop :=
  ∀ ⦃tokens rest : List Token⦄ ⦃tree : Expr⦄,
    reader.read tokens = .ok (tree, rest) → Takes c limit tokens tree rest

/-! ## Chains -/

/-- Each operand at a joint makes a longer phrase of the category. -/
def Joins (c d : Category) (joint : Token → Joint) : Prop :=
  ∀ ⦃left right : Phrase⦄ ⦃tokens rest : List Token⦄ ⦃op : Operator⦄,
    nextOperand joint tokens = some (op, right.tokens ++ rest) → ¬ left.Calls tokens →
    Derives c left → Derives d right →
    ∃ mark, tokens = mark ++ (right.tokens ++ rest) ∧ Derives c (left.joined mark op right)

theorem joins_sum : Joins .sum .product sumJoint := by
  intro left right tokens rest op next _ first second
  cases tokens with
  | nil => contradiction
  | cons token more =>
      cases token with
      | plus =>
          cases next
          exact ⟨[.plus], rfl, .plus first second⟩
      | minus =>
          cases next
          exact ⟨[.minus], rfl, .minus first second⟩
      | _ => contradiction

/-- A factor that follows directly. -/
theorem joins_implied {left right : Phrase} {token : Token} {more rest : List Token}
    (opens : opensFactor token = true) (tokens : token :: more = right.tokens ++ rest)
    (noCall : ¬ left.Calls (token :: more)) (first : Derives .product left)
    (second : Derives .signed right) : Derives .product (left.joined [] .mul right) := by
  rcases List.exists_cons_of_ne_nil second.starts.ne_nil with ⟨start, others, rightTokens⟩
  rw [rightTokens] at tokens
  cases tokens
  refine .juxtaposed (by simp [rightTokens, opens]) ?_ first second
  intro calls
  refine noCall ⟨calls.1, ?_⟩
  simpa [rightTokens] using calls.2

theorem joins_product : Joins .product .signed productJoint := by
  intro left right tokens rest op next noCall first second
  cases tokens with
  | nil => contradiction
  | cons token more =>
      cases token with
      | star =>
          cases next
          exact ⟨[.star], rfl, .times first second⟩
      | slash =>
          cases next
          exact ⟨[.slash], rfl, .divided first second⟩
      | constant | func | openParen =>
          simp only [nextOperand, productJoint, Option.some.injEq, Prod.mk.injEq] at next
          rcases next with ⟨rfl, tokens⟩
          exact ⟨[], tokens, joins_implied rfl tokens noCall first second⟩
      | _ => contradiction

variable {c d : Category} {joint : Token → Joint} {operand : ExprReader} {limit : Nat}

/-- A chain lengthens the phrase that it starts from. -/
theorem chainFrom_takes (joins : Joins c d joint) (sound : Sound d limit operand) {left : Phrase}
    {tree : Expr} {tokens rest : List Token} (derived : Derives c left) (fits : left.Fits limit)
    (noCall : ¬ left.Calls tokens)
    (done : chainFrom joint operand left.tree tokens = .ok (tree, rest)) :
    Takes c limit (left.tokens ++ tokens) tree rest := by
  generalize start : left.tree = leftTree at done
  fun_induction chainFrom joint operand leftTree tokens generalizing left with
  | case1 =>
      cases done
      exact ⟨left, derived, fits, noCall, start, rfl⟩
  | case2 => contradiction
  | case3 => contradiction
  | case4 leftTree tokens op after next right middle step node last finished ih =>
      rcases built_eq_ok_iff.mp finished with ⟨low, rfl, rfl⟩
      rcases sound step with ⟨r, rightDerived, rightFits, rightNoCall, rfl, rfl⟩
      subst start
      rcases joins next noCall derived rightDerived with ⟨mark, rfl, whole⟩
      have suffix : (left.joined mark op r).tokens = (left.tokens ++ mark) ++ r.tokens := by
        simp [Phrase.joined]
      have more := ih whole (Phrase.fits_joined_iff.mpr ⟨fits, rightFits, low⟩)
        (mt (Phrase.calls_of_suffix suffix rightDerived.starts.ne_nil).mp rightNoCall) rfl done
      simpa [Phrase.joined] using more

theorem Sound.chain (embed : ∀ {p}, Derives d p → Derives c p) (joins : Joins c d joint)
    (sound : Sound d limit operand) : Sound c limit (chain joint operand) := by
  intro tokens rest tree done
  rw [chain_read] at done
  cases step : operand.read tokens with
  | error e =>
      rw [step] at done
      contradiction
  | ok taken =>
      rw [step] at done
      rcases taken with ⟨first, middle⟩
      rcases sound step with ⟨p, derived, fits, noCall, rfl, rfl⟩
      exact chainFrom_takes joins sound (embed derived) fits noCall done

theorem Sound.product (sound : Sound .signed limit operand) :
    Sound .product limit (Expr.chain productJoint operand) :=
  Sound.chain .factor joins_product sound

theorem Sound.sum (sound : Sound .signed limit operand) : Sound .sum limit (Expr.sum operand) :=
  Sound.chain .term joins_sum sound.product

/-! ## Primaries -/

/-- An argument list is one of sums. -/
theorem argumentsFrom_takes (sound : Sound .sum limit operand) {tokens rest : List Token}
    {args : List Expr} (done : argumentsFrom operand tokens = .ok (args, rest)) :
    ∃ ps : List Phrase, ps ≠ [] ∧ (∀ p ∈ ps, Derives .sum p ∧ p.Fits limit) ∧
      ps.map Phrase.tree = args ∧ tokens = Phrase.argumentTokens ps ++ .closeParen :: rest := by
  fun_induction argumentsFrom operand tokens generalizing args rest with
  | case1 => contradiction
  | case2 => contradiction
  | case3 tokens first middle step others last inner ih =>
      cases done
      rcases sound step with ⟨p, derived, fits, _, rfl, rfl⟩
      rcases ih inner with ⟨ps, nonempty, each, rfl, rfl⟩
      rcases List.exists_cons_of_ne_nil nonempty with ⟨q, qs, rfl⟩
      refine ⟨p :: q :: qs, List.cons_ne_nil _ _, ?_, rfl, ?_⟩
      · exact List.forall_mem_cons.mpr ⟨⟨derived, fits⟩, each⟩
      · simp [Phrase.argumentTokens]
  | case4 tokens first middle step =>
      cases done
      rcases sound step with ⟨p, derived, fits, _, rfl, rfl⟩
      exact ⟨[p], List.cons_ne_nil _ _, by simpa using ⟨derived, fits⟩, rfl, rfl⟩
  | case5 => contradiction
  | case6 => contradiction

theorem call_takes (sound : Sound .sum limit operand) {f : Func} {tokens rest : List Token}
    {tree : Expr} (done : (callOf f operand).read tokens = .ok (tree, rest)) :
    Takes .primary (limit + 1) (.func f :: .openParen :: tokens) tree rest := by
  simp only [callOf] at done
  split at done
  · contradiction
  · rename_i args after step
    split at done
    · rename_i accepted
      rcases built_eq_ok_iff.mp done with ⟨low, rfl, rfl⟩
      simp only [arguments] at step
      split at step
      · cases step
        simp [Func.accepts] at accepted
      · rcases argumentsFrom_takes sound step with ⟨ps, nonempty, each, rfl, rfl⟩
        rw [List.length_map] at accepted
        refine ⟨.call f ps, .call accepted fun p mem => (each p mem).1, ?_, ?_, rfl, ?_⟩
        · exact (Phrase.fits_call_iff nonempty).mpr ⟨fun p mem => (each p mem).2, low⟩
        · rintro ⟨⟨g, last⟩, _⟩
          simp [Phrase.call, List.getLast?_cons] at last
        · simp [Phrase.call]
    · contradiction

theorem group_takes (sound : Sound .sum limit operand) {tokens rest : List Token} {tree : Expr}
    (done : (groupOf operand).read tokens = .ok (tree, rest)) :
    Takes .primary (limit + 1) (.openParen :: tokens) tree rest := by
  simp only [groupOf] at done
  split at done
  · contradiction
  · rename_i step
    cases done
    rcases sound step with ⟨p, derived, fits, _, rfl, rfl⟩
    refine ⟨p.grouped, .group derived, Phrase.fits_grouped_iff.mpr fits, ?_, rfl, ?_⟩
    · rintro ⟨⟨f, last⟩, _⟩
      simp [Phrase.grouped, List.getLast?_cons] at last
    · simp [Phrase.grouped]
  · contradiction
  · contradiction

/-- A phrase of one token is a primary by itself. -/
theorem atom_takes {token : Token} {tree : Expr} {rest : List Token}
    (derived : Derives .primary (.atom token tree)) (leaf : tree.height = 1)
    (noCall : ¬ (Phrase.atom token tree).Calls rest) :
    Takes .primary (limit + 1) (token :: rest) tree rest := by
  have low : tree.height ≤ maxDepth := by
    rw [leaf]
    decide
  exact ⟨.atom token tree, derived, ⟨Nat.succ_pos limit, low⟩, noCall, rfl, rfl⟩

theorem Sound.primary (sound : Sound .sum limit operand) :
    Sound .primary (limit + 1) (primary operand) := by
  intro tokens rest tree done
  simp only [Expr.primary] at done
  split at done
  · cases done
    exact atom_takes (.number _) rfl (by simp [Phrase.Calls, Phrase.atom])
  · cases done
    exact atom_takes (.constant _) rfl (by simp [Phrase.Calls, Phrase.atom])
  · exact call_takes sound done
  · rename_i f after noParen
    cases done
    apply atom_takes (.reference f) rfl
    rintro ⟨_, head⟩
    rcases List.head?_eq_some_iff.mp head with ⟨more, rfl⟩
    exact noParen more rfl
  · exact group_takes sound done
  · contradiction
  · contradiction

/-! ## Units, powers and signs -/

theorem Sound.measure (sound : Sound .sum limit operand) :
    Sound .measure (limit + 1) (Expr.measure operand) := by
  intro tokens rest tree done
  simp only [Expr.measure] at done
  split at done
  · contradiction
  · rename_i u after step
    rcases built_eq_ok_iff.mp done with ⟨low, rfl, rfl⟩
    rcases sound.primary step with ⟨p, derived, fits, _, rfl, rfl⟩
    refine ⟨p.measured u, .measured u derived, Phrase.fits_measured_iff.mpr ⟨fits, low⟩, ?_, rfl, ?_⟩
    · rintro ⟨⟨f, last⟩, _⟩
      simp [Phrase.measured] at last
    · simp [Phrase.measured]
  · rename_i step
    cases done
    rcases sound.primary step with ⟨p, derived, fits, noCall, first, taken⟩
    exact ⟨p, .bare derived, fits, noCall, first, taken⟩

theorem Sound.power {exponent : ExprReader} (sound : Sound .sum limit operand)
    (soundExponent : Sound .signed limit exponent) :
    Sound .power (limit + 1) (Expr.power operand exponent) := by
  intro tokens rest tree done
  simp only [Expr.power] at done
  split at done
  · contradiction
  · rename_i base after step
    split at done
    · contradiction
    · rename_i raised last raising
      rcases built_eq_ok_iff.mp done with ⟨low, rfl, rfl⟩
      rcases sound.measure step with ⟨p, derived, fits, _, rfl, rfl⟩
      rcases soundExponent raising with ⟨q, exponentDerived, exponentFits, noCall, rfl, rfl⟩
      have suffix : (p.raised q).tokens = (p.tokens ++ [.caret]) ++ q.tokens := by
        simp [Phrase.raised]
      refine ⟨p.raised q, .raised derived exponentDerived, ?_, ?_, rfl, ?_⟩
      · exact Phrase.fits_raised_iff.mpr ⟨fits, exponentFits, low⟩
      · exact mt (Phrase.calls_of_suffix suffix exponentDerived.starts.ne_nil).mp noCall
      · simp [Phrase.raised]
  · rename_i step
    cases done
    rcases sound.measure step with ⟨p, derived, fits, noCall, first, taken⟩
    exact ⟨p, .base derived, fits, noCall, first, taken⟩

/-- Signs only count down the budget, and behind them the readers go round the grammar. -/
theorem sound_signed (budget : Nat) : Sound .signed budget (signed budget) := by
  induction budget with
  | zero =>
      intro tokens rest tree done
      contradiction
  | succ budget ih =>
      intro tokens rest tree done
      simp only [signed] at done
      split at done
      · split at done
        · contradiction
        · rename_i step
          rcases built_eq_ok_iff.mp done with ⟨low, rfl, rfl⟩
          rcases ih step with ⟨p, derived, fits, noCall, rfl, rfl⟩
          have suffix : p.negated.tokens = [.minus] ++ p.tokens := rfl
          refine ⟨p.negated, .negated derived, ?_, ?_, rfl, rfl⟩
          · exact Phrase.fits_negated_iff.mpr ⟨fits, low⟩
          · exact mt (Phrase.calls_of_suffix suffix derived.starts.ne_nil).mp noCall
      · rcases ih done with ⟨p, derived, fits, noCall, rfl, rfl⟩
        have suffix : p.affirmed.tokens = [.plus] ++ p.tokens := rfl
        refine ⟨p.affirmed, .affirmed derived, Phrase.fits_affirmed_iff.mpr fits, ?_, rfl, rfl⟩
        exact mt (Phrase.calls_of_suffix suffix derived.starts.ne_nil).mp noCall
      · rcases ih.sum.power ih done with ⟨p, derived, fits, noCall, first, taken⟩
        exact ⟨p, .unsigned derived, fits, noCall, first, taken⟩

/-- An expression that is read is derived by the grammar and keeps to the caps. -/
theorem derives_of_parse {tokens : List Token} {tree : Expr} (done : parse tokens = .ok tree) :
    ∃ p, Derives .sum p ∧ p.Fits (maxDepth + 1) ∧ p.tree = tree ∧ p.tokens = tokens := by
  rw [Expr.parse.eq_def] at done
  split at done
  · contradiction
  · split at done
    · contradiction
    · rename_i step
      cases done
      rcases (sound_signed (maxDepth + 1)).sum step with ⟨p, derived, fits, _, rfl, rfl⟩
      exact ⟨p, derived, fits, rfl, (List.append_nil _).symm⟩
    · contradiction

end Reckoner.Grammar
