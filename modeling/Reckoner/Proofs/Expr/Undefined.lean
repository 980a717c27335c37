import Reckoner.Proofs.Expr.Offence
import Reckoner.Proofs.Expr.Operation

/-!
# Undefined operations

Only the value of the whole tree is checked, so that an operation without a value has to be carried
to the root by the operations around it. This fails at a power that overrides its undefined operand,
at an operation that makes a finite number of an infinite one, and for logarithms to the base zero,
which are zero.
-/

namespace Reckoner

variable {library : Elementary}

namespace Expr

variable {e n m : Expr} {w v : Binary64}

/-- The tree denotes no number. -/
def IsUndefined (library : Elementary) (e : Expr) : Prop :=
  ∃ x, e.real library = .ok x ∧ x.isUndefined = true

/-- The tree denotes plus or minus infinity. -/
def IsInfinite (library : Elementary) (e : Expr) : Prop :=
  ∃ x, e.real library = .ok x ∧ x.rank = Binary64.infinityRank

/-- The tree denotes a finite number. -/
def IsFinite (library : Elementary) (e : Expr) : Prop :=
  ∃ x, e.real library = .ok x ∧ x.isFinite = true

/-- The node is a power that is one because its exponent is zero or its base is one, whatever its
other operand `m` is. -/
inductive Overrides (library : Elementary) : Expr → Expr → Prop where
  | exponent {left right : Expr} {b : Binary64} (number : right.real library = .ok b)
      (zero : b.rank = 0) (value : (binary left .pow right).real library = .ok .one) :
      Overrides library (binary left .pow right) left
  | base {left right : Expr} (number : left.real library = .ok .one)
      (value : (binary left .pow right).real library = .ok .one) :
      Overrides library (binary left .pow right) right

/-- The node is an operation that may be finite where its operand `m` is infinite. -/
inductive Limits : Expr → Expr → Prop where
  | denominator (left right : Expr) : Limits (binary left .div right) right
  | powerBase (left right : Expr) : Limits (binary left .pow right) left
  | exponent (left right : Expr) : Limits (binary left .pow right) right
  | exponential (operand : Expr) : Limits (call .exp [operand]) operand
  | logarithmBase (argument base : Expr) : Limits (call .log [argument, base]) base

/-- The node makes a finite number of its infinite operand `m`. -/
def Bounds (library : Elementary) (n m : Expr) : Prop :=
  n.Limits m ∧ m.IsInfinite library ∧ n.IsFinite library

theorem real_unique (first : e.real library = .ok v) (second : e.real library = .ok w) : v = w :=
  Except.ok.inj (first.symm.trans second)

/-- The arguments of a call have the numbers that the call is made with. -/
theorem exists_real_of_reals {args : List Expr} {xs : List Binary64}
    (numbers : reals library args = .ok xs) {a : Expr} (mem : a ∈ args) :
    ∃ x ∈ xs, a.real library = .ok x := by
  have each := forall₂_of_reals numbers
  clear numbers
  induction each with
  | nil => contradiction
  | @cons b x args xs first _ ih =>
      rcases List.mem_cons.mp mem with rfl | behind
      · exact ⟨x, List.mem_cons_self, real_eq_ok_iff.mpr first⟩
      · rcases ih behind with ⟨y, inside, value⟩
        exact ⟨y, List.mem_cons_of_mem _ inside, value⟩

theorem binary_eq_ok {left right : Expr} {op : Operator}
    (value : (binary left op right).real library = .ok v) :
    ∃ a b, left.real library = .ok a ∧ right.real library = .ok b ∧
      op.apply library a b = .ok v := by
  rw [real_binary, bind_eq_ok_iff] at value
  rcases value with ⟨a, first, rest⟩
  rcases bind_eq_ok_iff.mp rest with ⟨b, second, applied⟩
  exact ⟨a, b, first, second, applied⟩

theorem call_eq_ok {f : Func} {args : List Expr} (value : (call f args).real library = .ok v) :
    ∃ xs, reals library args = .ok xs ∧ xs.length = args.length ∧ f.apply library xs = .ok v := by
  rw [real_call, bind_eq_ok_iff] at value
  rcases value with ⟨xs, numbers, applied⟩
  exact ⟨xs, numbers, (forall₂_of_reals numbers).length_eq.symm, applied⟩

/-- Two arguments have the two numbers that the call is made with. -/
theorem reals_pair_eq_ok {a b : Expr} {xs : List Binary64}
    (numbers : reals library [a, b] = .ok xs) :
    ∃ x y, a.real library = .ok x ∧ b.real library = .ok y ∧ xs = [x, y] := by
  cases forall₂_of_reals numbers with
  | @cons _ x _ _ first rest =>
      cases rest with
      | @cons _ y _ _ second none =>
          cases none
          exact ⟨x, y, real_eq_ok_iff.mpr first, real_eq_ok_iff.mpr second, rfl⟩

theorem neg_eq_ok {operand : Expr} (value : (neg operand).real library = .ok v) :
    ∃ x, operand.real library = .ok x ∧ v = -x := by
  rw [real_neg, bind_eq_ok_iff] at value
  rcases value with ⟨x, operand, done⟩
  cases done
  exact ⟨x, operand, rfl⟩

/-- The operands of a tree that denotes a number denote numbers. -/
theorem exists_real_of_operand (evaluable : e.RootEvaluable) (value : e.real library = .ok v)
    (mem : m ∈ e.operands) : ∃ x, m.real library = .ok x := by
  cases e with
  | number | constant | reference => contradiction
  | call f args =>
      rcases call_eq_ok value with ⟨xs, numbers, _⟩
      rcases exists_real_of_reals numbers mem with ⟨x, _, argument⟩
      exact ⟨x, argument⟩
  | neg operand =>
      obtain rfl := List.mem_singleton.mp mem
      rcases neg_eq_ok value with ⟨x, operand, _⟩
      exact ⟨x, operand⟩
  | binary left op right =>
      rcases binary_eq_ok value with ⟨a, b, first, second, _⟩
      rcases List.mem_pair.mp mem with rfl | rfl
      · exact ⟨a, first⟩
      · exact ⟨b, second⟩
  | withUnit operand u => exact absurd evaluable id

/-- A node carries an undefined operand, unless it overrides it. -/
theorem isUndefined_step (standard : library.IsStandard) (evaluable : n.RootEvaluable)
    (mem : m ∈ n.operands) (operand : m.real library = .ok w) (undefined : w.isUndefined = true)
    (value : n.real library = .ok v) : v.isUndefined = true ∨ n.Overrides library m := by
  cases n with
  | number | constant | reference => contradiction
  | call f args =>
      rcases call_eq_ok value with ⟨xs, numbers, length, applied⟩
      rcases exists_real_of_reals numbers mem with ⟨x, inside, argument⟩
      obtain rfl := real_unique operand argument
      exact .inl (Func.isUndefined_apply standard (length.trans evaluable) inside undefined applied)
  | neg _ =>
      obtain rfl := List.mem_singleton.mp mem
      rcases neg_eq_ok value with ⟨x, inner, rfl⟩
      obtain rfl := real_unique operand inner
      exact .inl ((Binary64.isUndefined_neg w).trans undefined)
  | binary left op right =>
      rcases binary_eq_ok value with ⟨a, b, first, second, applied⟩
      rcases List.mem_pair.mp mem with rfl | rfl
      · obtain rfl := real_unique operand first
        refine (Operator.isUndefined_apply standard (.inl undefined) applied).imp_right ?_
        rintro ⟨rfl, one | zero⟩
        · exact absurd one (Binary64.ne_one_of_isUndefined undefined)
        · rw [Operator.pow_apply_eq_ok applied, standard.pow_zero w b zero] at value
          exact .exponent second zero value
      · obtain rfl := real_unique operand second
        refine (Operator.isUndefined_apply standard (.inr undefined) applied).imp_right ?_
        rintro ⟨rfl, rfl | zero⟩
        · rw [Operator.pow_apply_eq_ok applied, standard.one_pow w] at value
          exact .base first value
        · exact absurd zero (Binary64.rank_ne_zero_of_isUndefined undefined)
  | withUnit operand u => exact absurd evaluable id

/-- A node carries an operand that is not finite, unless it may limit it. -/
theorem isFinite_or_limits (standard : library.IsStandard) (evaluable : n.RootEvaluable)
    (mem : m ∈ n.operands) (operand : m.real library = .ok w) (nonfinite : w.isFinite = false)
    (value : n.real library = .ok v) : v.isFinite = false ∨ n.Limits m := by
  -- An operand with a finite number is another one than `m`.
  have other {a : Binary64} (number : m.real library = .ok a) : a.isFinite ≠ true :=
    real_unique operand number ▸ ne_true_of_eq_false nonfinite
  cases n with
  | number | constant | reference => contradiction
  | call f args =>
      rcases call_eq_ok value with ⟨xs, numbers, length, applied⟩
      rcases exists_real_of_reals numbers mem with ⟨x, inside, argument⟩
      obtain rfl := real_unique operand argument
      refine (Func.isFinite_apply standard (length.trans evaluable) inside nonfinite
        applied).imp_right ?_
      rintro (rfl | ⟨rfl, a, finite, rfl⟩)
      · obtain ⟨o, rfl⟩ := List.length_eq_one_iff.mp evaluable
        obtain rfl := List.mem_singleton.mp mem
        exact .exponential m
      · obtain ⟨o, base, rfl⟩ := List.length_eq_two.mp evaluable
        rcases reals_pair_eq_ok numbers with ⟨x, y, first, _, pair⟩
        rcases List.mem_pair.mp mem with rfl | rfl
        · obtain rfl := (List.cons.inj pair).1
          exact absurd finite (other first)
        · exact .logarithmBase o m
  | neg _ =>
      obtain rfl := List.mem_singleton.mp mem
      rcases neg_eq_ok value with ⟨x, inner, rfl⟩
      obtain rfl := real_unique operand inner
      exact .inl ((Binary64.isFinite_neg w).trans nonfinite)
  | binary left op right =>
      rcases binary_eq_ok value with ⟨a, b, first, second, applied⟩
      by_cases power : op = .pow
      · rcases List.mem_pair.mp mem with rfl | rfl
        · exact .inr (power ▸ .powerBase m right)
        · exact .inr (power ▸ .exponent left m)
      · rcases List.mem_pair.mp mem with rfl | rfl
        · obtain rfl := real_unique operand first
          refine (Operator.isFinite_apply power (.inl nonfinite) applied).imp_right ?_
          rintro ⟨_, finite⟩
          exact absurd finite (other first)
        · obtain rfl := real_unique operand second
          refine (Operator.isFinite_apply power (.inr nonfinite) applied).imp_right ?_
          rintro ⟨rfl, _⟩
          exact .denominator left m
  | withUnit operand u => exact absurd evaluable id

/-- A node carries an infinite operand, unless it overrides or limits it. -/
theorem isFinite_step (standard : library.IsStandard) (evaluable : n.RootEvaluable)
    (mem : m ∈ n.operands) (operand : m.real library = .ok w) (nonfinite : w.isFinite = false)
    (value : n.real library = .ok v) :
    v.isFinite = false ∨ n.Overrides library m ∨ n.Bounds library m := by
  rcases Binary64.isFinite_eq_false_iff.mp nonfinite with undefined | infinite
  · exact (isUndefined_step standard evaluable mem operand undefined value).imp
      Binary64.isFinite_of_isUndefined .inl
  have carried_or_limited := isFinite_or_limits standard evaluable mem operand nonfinite value
  cases finite : v.isFinite with
  | false => exact .inl rfl
  | true =>
      rw [finite] at carried_or_limited
      have limits := carried_or_limited.resolve_left (by simp)
      exact .inr (.inr ⟨limits, ⟨w, operand, infinite⟩, ⟨v, value, finite⟩⟩)

/-! ## Trees -/

/-- Induction over expressions by the operands of a root. -/
theorem induct_operands {motive : Expr → Prop}
    (step : ∀ e, (∀ m ∈ e.operands, motive m) → motive e) (e : Expr) : motive e := by
  induction e with
  | number | constant | reference => exact step _ (List.forall_mem_nil _)
  | call f args ih => exact step _ ih
  | neg operand ih | withUnit operand u ih => exact step _ (List.forall_mem_singleton.mpr ih)
  | binary left op right leftIh rightIh =>
      exact step _ (List.forall_mem_cons.mpr ⟨leftIh, List.forall_mem_singleton.mpr rightIh⟩)

theorem mem_nodes_iff_operands {m e : Expr} :
    m ∈ e.nodes ↔ m = e ∨ ∃ o ∈ e.operands, m ∈ o.nodes := by
  rw [nodes_eq, List.mem_cons, mem_nodesOf]

/-- All nodes of a tree that denotes a number denote numbers. -/
theorem exists_real_of_mem (evaluable : e.Every RootEvaluable) {o : Expr} (mem : o ∈ e.nodes)
    (value : e.real library = .ok v) : ∃ w, o.real library = .ok w := by
  induction e using induct_operands generalizing v with
  | step e ih =>
  rcases mem_nodes_iff_operands.mp mem with rfl | ⟨m, operand, inside⟩
  · exact ⟨v, value⟩
  · rcases exists_real_of_operand (evaluable e (mem_nodes_self e)) value operand with ⟨x, number⟩
    have below : m.Every RootEvaluable :=
      fun n mem => evaluable n (mem_nodes_iff_operands.mpr (.inr ⟨m, operand, mem⟩))
    exact ih m operand below inside number

/-- What every node carries, unless it loses an operand, comes to the root or is lost on the way. -/
theorem carried_or_lost (bad : Binary64 → Prop) {lost : Expr → Expr → Prop}
    (evaluable : e.Every RootEvaluable)
    (step : ∀ n ∈ e.nodes, ∀ m ∈ n.operands, ∀ w v, m.real library = .ok w → bad w →
      n.real library = .ok v → bad v ∨ lost n m)
    {o : Expr} (mem : o ∈ e.nodes) (inner : o.real library = .ok w) (isBad : bad w)
    (value : e.real library = .ok v) :
    bad v ∨ ∃ n ∈ e.nodes, ∃ m ∈ n.operands, o ∈ m.nodes ∧ lost n m := by
  induction e using induct_operands generalizing v with
  | step e ih =>
  rcases mem_nodes_iff_operands.mp mem with rfl | ⟨m, operand, inside⟩
  · exact .inl (real_unique inner value ▸ isBad)
  · have below : ∀ n ∈ m.nodes, n ∈ e.nodes :=
      fun n mem => mem_nodes_iff_operands.mpr (.inr ⟨m, operand, mem⟩)
    rcases exists_real_of_operand (evaluable e (mem_nodes_self e)) value operand with ⟨x, number⟩
    rcases ih m operand (fun n mem => evaluable n (below n mem)) (fun n mem => step n (below n mem))
      inside number with carried | ⟨n, memNode, k, memOperand, inOperand, isLost⟩
    · rcases step e (mem_nodes_self e) m operand x v number carried value with carried | isLost
      · exact .inl carried
      · exact .inr ⟨e, mem_nodes_self e, m, operand, inside, isLost⟩
    · exact .inr ⟨n, below n memNode, k, memOperand, inOperand, isLost⟩

/-- A logarithm whose argument is not positive, or whose base is not positive or is one. -/
def IsUndefinedLog (library : Elementary) (argument base : Expr) : Prop :=
  (∃ x, argument.real library = .ok x ∧ ¬ x.Positive) ∨
    ∃ b, base.real library = .ok b ∧ (¬ b.Positive ∨ b = .one)

/-- A logarithm of a positive number to the base zero, which comes out as zero. -/
def IsLogToZero (library : Elementary) (argument base : Expr) : Prop :=
  ∃ x b v, argument.real library = .ok x ∧ base.real library = .ok b ∧ x.isFinite = true ∧
    x.Positive ∧ b.rank = 0 ∧ (call .log [argument, base]).real library = .ok v ∧ v.rank = 0

theorem isFinite_of_isUndefinedLog (standard : library.IsStandard) {argument base : Expr}
    (outside : IsUndefinedLog library argument base)
    (value : (call .log [argument, base]).real library = .ok v) :
    v.isFinite = false ∨ IsLogToZero library argument base := by
  rcases call_eq_ok value with ⟨xs, numbers, _, applied⟩
  rcases reals_pair_eq_ok numbers with ⟨x, b, first, second, rfl⟩
  have undefined : ¬ x.Positive ∨ ¬ b.Positive ∨ b = .one := by
    rcases outside with ⟨y, number, outside⟩ | ⟨y, number, outside⟩
    · obtain rfl := real_unique number first
      exact .inl outside
    · obtain rfl := real_unique number second
      exact .inr outside
  refine (Func.isFinite_log standard undefined applied).imp_right ?_
  rintro ⟨finite, positive, zero⟩
  have quotient := (Func.log_apply_eq_ok applied).2.2
  refine ⟨x, b, v, first, second, finite, positive, zero, value, ?_⟩
  rw [quotient]
  exact Binary64.rank_div_infinite (standard.ln_finite x finite positive) (standard.ln_zero b zero)

end Expr

namespace Evaluator

variable {evaluator : Evaluator} {mode : AngleMode} {t : Text} {e : Expr}

/-- A text is not evaluated if its value is not finite. -/
theorem exists_error_of_real (read : Expr.ofText mode t = .ok e)
    (nonfinite : ∀ v, e.real evaluator.library = .ok v → v.isFinite = false) :
    ∃ refusal, evaluator.evaluate mode t = .error refusal := by
  have evaluated : evaluator.evaluate mode t =
      (evaluator.answer e).bind fun answer => .ok ⟨e.print, answer⟩ := by
    rw [evaluate, read]
    rfl
  rw [evaluated, answer_eq]
  cases value : e.real evaluator.library with
  | error refusal => exact ⟨refusal, rfl⟩
  | ok v =>
      have refused : evaluator.present (.real v) = .error .nonFiniteResult := by
        rw [present, nonfinite v value]
        rfl
      change ∃ refusal, Except.bind (evaluator.present (.real v)) _ = .error refusal
      rw [refused]
      exact ⟨_, rfl⟩

/-- An undefined operation yields no number, unless an operation around it does away with it. An
undefined operand is overridden by powers with an exponent of zero or a base of one, and by nothing
else. A logarithm outside of its domain makes a text fail, too, unless its base is zero below a
positive argument, or an operation around it makes a finite number of an infinite operand. -/
theorem evaluate_undefined (standard : evaluator.library.IsStandard)
    (read : Expr.ofText mode t = .ok e) :
    (∀ n ∈ e.nodes, ∀ o ∈ n.operands, o.IsUndefined evaluator.library →
      (∃ refusal, evaluator.evaluate mode t = .error refusal) ∨
        ∃ p ∈ e.nodes, ∃ m ∈ p.operands, o ∈ m.nodes ∧ p.Overrides evaluator.library m) ∧
      ∀ argument base, .call .log [argument, base] ∈ e.nodes →
        Expr.IsUndefinedLog evaluator.library argument base →
        (∃ refusal, evaluator.evaluate mode t = .error refusal) ∨
          Expr.IsLogToZero evaluator.library argument base ∨
          ∃ p ∈ e.nodes, ∃ m ∈ p.operands, .call .log [argument, base] ∈ m.nodes ∧
            (p.Overrides evaluator.library m ∨ p.Bounds evaluator.library m) := by
  rcases Expr.wellFormed_of_ofText read with ⟨well, reduced⟩
  have evaluable := Expr.every_rootEvaluable well reduced
  constructor
  · intro n memNode o memOperand undefined
    rcases undefined with ⟨x, operand, undefined⟩
    have mem : o ∈ e.nodes := Expr.mem_nodes_trans
      (Expr.mem_nodes_iff_operands.mpr (.inr ⟨o, memOperand, Expr.mem_nodes_self o⟩)) memNode
    rw [or_iff_not_imp_right]
    intro kept
    apply exists_error_of_real read
    intro v value
    apply Binary64.isFinite_of_isUndefined
    refine (Expr.carried_or_lost (fun x => x.isUndefined = true) evaluable ?_ mem operand undefined
      value).resolve_right kept
    intro n memNode m memOperand w v operand undefined value
    exact Expr.isUndefined_step standard (evaluable n memNode) memOperand operand undefined value
  · intro argument base mem outside
    rw [or_iff_not_imp_right, not_or]
    rintro ⟨based, kept⟩
    apply exists_error_of_real read
    intro v value
    rcases Expr.exists_real_of_mem evaluable mem value with ⟨w, logarithm⟩
    have nonfinite : w.isFinite = false :=
      (Expr.isFinite_of_isUndefinedLog standard outside logarithm).resolve_right based
    refine (Expr.carried_or_lost (fun x => x.isFinite = false) evaluable ?_ mem logarithm nonfinite
      value).resolve_right kept
    intro n memNode m memOperand w v operand nonfinite value
    exact Expr.isFinite_step standard (evaluable n memNode) memOperand operand nonfinite value

/-- The theorem applies to an undefined base with an exponent of zero, which is overridden by the
power around it. -/
theorem evaluate_undefined_overridden :
    let quotient := Expr.binary (.number ⟨0⟩) .div (.number ⟨0⟩)
    let power := Expr.binary quotient .pow (.number ⟨0⟩)
    Elementary.coarse.IsStandard ∧ Expr.ofText .rad "(0 / 0)^0".toList = .ok power ∧
      (quotient ∈ power.operands ∧ quotient.IsUndefined .coarse) ∧
      ∃ p ∈ power.nodes, ∃ m ∈ p.operands, quotient ∈ m.nodes ∧ p.Overrides .coarse m := by
  intro quotient power
  have well : power.WellFormed := by
    have zero : Binary64.isFinite ⟨0⟩ = true ∧ Binary64.isNegative ⟨0⟩ = false := by decide
    simp [power, quotient, Expr.WellFormed, Expr.RootWellFormed, zero]
  have single : ¬ power.StacksUnits := by
    simp [power, quotient, Expr.StacksUnits, Expr.nodes]
  have printed : power.print = "(0 / 0)^0".toList := by decide +kernel
  have read : Expr.ofText .rad "(0 / 0)^0".toList = .ok power := by
    rw [← printed]
    exact Expr.ofText_print_of_fits .rad well single (by decide)
  have operand : quotient ∈ power.operands := List.mem_cons_self
  have undefined : quotient.IsUndefined .coarse := by
    have value : quotient.real .coarse = .ok (⟨0⟩ / ⟨0⟩) := Expr.real_binary _ _ _
    exact ⟨_, value, by decide +kernel⟩
  have one : evaluate ⟨.coarse, true⟩ .rad "(0 / 0)^0".toList =
      .ok ⟨"(0 / 0)^0".toList, .numeric .one⟩ := by
    decide +kernel
  have applied := @evaluate_undefined ⟨.coarse, true⟩ .rad _ _ Elementary.isStandard_coarse read
  have kept := (applied.1 power (Expr.mem_nodes_self power) quotient operand undefined).resolve_left
  have succeeds : ¬ ∃ refusal, evaluate ⟨.coarse, true⟩ .rad "(0 / 0)^0".toList =
      .error refusal := by
    rintro ⟨refusal, failed⟩
    rw [one] at failed
    contradiction
  constructor
  · exact Elementary.isStandard_coarse
  constructor
  · exact read
  constructor
  · exact ⟨operand, undefined⟩
  · exact kept succeeds

/-- A logarithm to the base zero is a number, and so are two texts whose undefined operations are
done away with. -/
theorem evaluate_log_to_zero :
    let argument := Expr.number ⟨0x4014000000000000⟩
    let base := Expr.number ⟨0⟩
    Elementary.coarse.IsStandard ∧
      Expr.ofText .rad "log(5, 0)".toList = .ok (.call .log [argument, base]) ∧
      Expr.IsUndefinedLog .coarse argument base ∧
      evaluate ⟨.coarse, true⟩ .rad "log(5, 0)".toList =
        .ok ⟨"log(5, 0)".toList, .numeric ⟨0⟩⟩ ∧
      evaluate ⟨.coarse, true⟩ .rad "1 / log(5, 1)".toList =
        .ok ⟨"1 / log(5, 1)".toList, .numeric ⟨0⟩⟩ ∧
      evaluate ⟨.coarse, true⟩ .rad "(0 / 0)^0".toList =
        .ok ⟨"(0 / 0)^0".toList, .numeric .one⟩ := by
  intro argument base
  have notPositive : ¬ (⟨0⟩ : Binary64).Positive := fun positive => positive.rank_ne_zero rfl
  have well : (Expr.call .log [argument, base]).WellFormed := by
    have five : Binary64.isFinite ⟨0x4014000000000000⟩ = true ∧
        Binary64.isNegative ⟨0x4014000000000000⟩ = false := by decide
    have zero : Binary64.isFinite ⟨0⟩ = true ∧ Binary64.isNegative ⟨0⟩ = false := by decide
    simp [argument, base, Expr.WellFormed, Expr.RootWellFormed, Func.accepts, five, zero]
  have single : ¬ (Expr.call .log [argument, base]).StacksUnits := by
    simp [argument, base, Expr.StacksUnits, Expr.nodes, Expr.nodesOf]
  have printed : (Expr.call .log [argument, base]).print = "log(5, 0)".toList := by decide +kernel
  constructor
  · exact Elementary.isStandard_coarse
  constructor
  · rw [← printed]
    exact Expr.ofText_print_of_fits .rad well single (by decide)
  constructor
  · exact .inr ⟨_, rfl, .inl notPositive⟩
  · decide +kernel

end Evaluator

end Reckoner
