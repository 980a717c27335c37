import Reckoner.Evaluation
import Reckoner.Proofs.Expr.CanonicalText
import Reckoner.Proofs.Number.Value

/-!
# Offences

A node offends if it names a function without calling it, or if its operands denote numbers for which
its operation has no real value. Evaluation comes to the nodes of a tree in a fixed order, operands
before their operator and from left to right, and it fails with the first offence in that order,
whatever is done with the value of the offending node.
-/

namespace Reckoner

/-- The function has no real value for these numbers. -/
inductive Func.LeavesReals : Func → List Binary64 → ComplexValue → Prop where
  | sqrt {x : Binary64} (negative : x.Negative) : LeavesReals .sqrt [x] (.sqrt x)
  | ln {x : Binary64} (negative : x.Negative) : LeavesReals .ln [x] (.ln x)
  | log10 {x : Binary64} (negative : x.Negative) : LeavesReals .log10 [x] (.log10 x)
  | log {x : Binary64} (negative : x.Negative) : LeavesReals .log [x] (.log x)
  | logBase {x base : Binary64} (negative : x.Negative ∨ base.Negative) :
      LeavesReals .log [x, base] (.logBase x base)

theorem Func.LeavesReals.unique {f : Func} {xs : List Binary64} {what other : ComplexValue}
    (first : f.LeavesReals xs what) (second : f.LeavesReals xs other) : what = other := by
  cases first <;> cases second <;> rfl

namespace Expr

/-- The node is an offence, to be reported as the given refusal. -/
inductive Offends (library : Elementary) : Expr → CalcError → Prop where
  | reference (f : Func) : Offends library (reference f) (.incompleteCall f)
  | call {f : Func} {args : List Expr} {xs : List Binary64} {what : ComplexValue}
      (operands : List.Forall₂ (fun a x => a.value library = .ok (.real x)) args xs)
      (complex : f.LeavesReals xs what) :
      Offends library (call f args) (.unsupportedResult what)
  | pow {left right : Expr} {a b : Binary64} (base : left.value library = .ok (.real a))
      (exponent : right.value library = .ok (.real b)) (negative : a.Negative)
      (fractional : b.Fractional) :
      Offends library (binary left .pow right) (.unsupportedResult (.pow a b))

mutual

/-- The nodes of a tree, operands before their operator and from left to right. -/
def postorder : Expr → List Expr
  | number x => [number x]
  | constant c => [constant c]
  | reference f => [reference f]
  | call f args => postorderOf args ++ [call f args]
  | neg operand => postorder operand ++ [neg operand]
  | binary left op right => postorder left ++ (postorder right ++ [binary left op right])
  | withUnit operand u => postorder operand ++ [withUnit operand u]

/-- The nodes of some trees, one tree after the other. -/
def postorderOf : List Expr → List Expr
  | [] => []
  | e :: es => postorder e ++ postorderOf es

end

theorem mem_postorderOf {n : Expr} {es : List Expr} :
    n ∈ postorderOf es ↔ ∃ e ∈ es, n ∈ e.postorder := by
  induction es with
  | nil => simp [postorderOf]
  | cons e es ih => simp [postorderOf, ih]

/-- The order leaves no node out. -/
theorem mem_postorder_iff {n e : Expr} : n ∈ e.postorder ↔ n ∈ e.nodes := by
  induction e with
  | number | constant | reference => exact Iff.rfl
  | call f args ih =>
      rw [postorder, List.mem_append, List.mem_singleton, mem_postorderOf, nodes, List.mem_cons,
        mem_nodesOf, or_comm]
      exact or_congr_right (exists_congr fun a => and_congr_right fun mem => ih a mem)
  | neg operand ih | withUnit operand u ih =>
      rw [postorder, List.mem_append, List.mem_singleton, ih, nodes, List.mem_cons, or_comm]
  | binary left op right leftIh rightIh =>
      simp only [postorder, nodes, List.mem_append, List.mem_cons, List.not_mem_nil, leftIh, rightIh]
      tauto

/-! ## The first offence -/

/-- The refusal is that of the first offence among the nodes. -/
def FirstOffence (library : Elementary) (nodes : List Expr) (refusal : CalcError) : Prop :=
  ∃ before first after, nodes = before ++ first :: after ∧ first.Offends library refusal ∧
    ∀ n ∈ before, ∀ cause, ¬ n.Offends library cause

section Outcomes

variable {library : Elementary} {α β : Type}

/-- A computation that comes to these nodes fails with their first offence, and fails for no other
reason. -/
def Reports (library : Elementary) (nodes : List Expr) (outcome : Except CalcError α) : Prop :=
  match outcome with
  | .ok _ => ∀ n ∈ nodes, ∀ cause, ¬ n.Offends library cause
  | .error refusal => FirstOffence library nodes refusal

theorem reports_nil (a : α) : Reports library [] (.ok a) :=
  fun _ mem => absurd mem List.not_mem_nil

theorem reports_singleton {n : Expr} (harmless : ∀ cause, ¬ n.Offends library cause) (a : α) :
    Reports library [n] (.ok a) :=
  List.forall_mem_singleton.mpr harmless

theorem reports_error {n : Expr} {refusal : CalcError} (offends : n.Offends library refusal) :
    Reports library [n] (.error refusal : Except CalcError α) :=
  ⟨[], n, [], rfl, offends, fun _ mem => absurd mem List.not_mem_nil⟩

/-- What is computed first is reported first. -/
theorem Reports.bind {first second : List Expr} {outcome : Except CalcError α}
    {next : α → Except CalcError β} (reports : Reports library first outcome)
    (others : ∀ a, outcome = .ok a → Reports library second (next a)) :
    Reports library (first ++ second) (outcome.bind next) := by
  cases outcome with
  | error refusal =>
      rcases reports with ⟨before, node, after, rfl, offends, none⟩
      exact ⟨before, node, after ++ second, by simp, offends, none⟩
  | ok a =>
      have rest := others a rfl
      change Reports library (first ++ second) (next a)
      cases done : next a with
      | ok b =>
          rw [done] at rest
          exact List.forall_mem_append.mpr ⟨reports, rest⟩
      | error refusal =>
          rw [done] at rest
          rcases rest with ⟨before, node, after, rfl, offends, none⟩
          exact ⟨first ++ before, node, after, by simp, offends,
            List.forall_mem_append.mpr ⟨reports, none⟩⟩

/-! ## Operations -/

/-- The number that a tree contributes to arithmetic. -/
def real (library : Elementary) (e : Expr) : Except CalcError Binary64 :=
  (e.value library).bind Value.toReal

theorem real_eq_ok_iff {e : Expr} {x : Binary64} :
    e.real library = .ok x ↔ e.value library = .ok (.real x) := by
  rw [real, bind_eq_ok_iff]
  constructor
  · rintro ⟨v, value, number⟩
    cases v with
    | real y =>
        cases number
        exact value
    | callable f => contradiction
  · intro value
    exact ⟨_, value, rfl⟩

theorem real_neg (operand : Expr) :
    (neg operand).real library = (operand.real library).bind fun x => .ok (-x) := by
  rw [real, real, value]
  cases operand.value library with
  | error refusal => rfl
  | ok v => cases v <;> rfl

theorem real_withUnit (operand : Expr) (u : AngleUnit) :
    (withUnit operand u).real library =
      (operand.real library).bind fun x => .ok (u.toRadians x) := by
  rw [real, real, value]
  cases operand.value library with
  | error refusal => rfl
  | ok v => cases v <;> rfl

theorem real_binary (left right : Expr) (op : Operator) :
    (binary left op right).real library =
      (left.real library).bind fun a => (right.real library).bind fun b =>
        op.apply library a b := by
  rw [real, real, real, value]
  cases left.value library with
  | error refusal => rfl
  | ok v =>
      cases v with
      | callable f => rfl
      | real a =>
          cases right.value library with
          | error refusal => rfl
          | ok w =>
              cases w with
              | callable f => rfl
              | real b =>
                  change (Except.bind (op.apply library a b) _).bind _ = op.apply library a b
                  cases op.apply library a b <;> rfl

theorem real_call (f : Func) (args : List Expr) :
    (call f args).real library = (reals library args).bind (f.apply library) := by
  rw [real, value]
  cases reals library args with
  | error refusal => rfl
  | ok xs =>
      change (Except.bind (f.apply library xs) _).bind _ = f.apply library xs
      cases f.apply library xs <;> rfl

theorem reals_cons (e : Expr) (es : List Expr) :
    reals library (e :: es) =
      (e.real library).bind fun x => (reals library es).bind fun xs => .ok (x :: xs) := by
  rw [reals, real]
  cases e.value library with
  | error refusal => rfl
  | ok v => cases v <;> rfl

/-- Arguments are numbers one by one. -/
theorem forall₂_of_reals {args : List Expr} {xs : List Binary64}
    (numbers : reals library args = .ok xs) :
    List.Forall₂ (fun a x => a.value library = .ok (.real x)) args xs := by
  induction args generalizing xs with
  | nil =>
      cases numbers
      exact .nil
  | cons a args ih =>
      rw [reals_cons] at numbers
      rcases bind_eq_ok_iff.mp numbers with ⟨x, first, rest⟩
      rcases bind_eq_ok_iff.mp rest with ⟨others, later, done⟩
      cases done
      exact .cons (real_eq_ok_iff.mp first) (ih later)

theorem eq_of_forall₂ {args : List Expr} {xs ys : List Binary64}
    (numbers : List.Forall₂ (fun a x => a.value library = .ok (.real x)) args xs)
    (others : List.Forall₂ (fun a x => a.value library = .ok (.real x)) args ys) : xs = ys := by
  induction numbers generalizing ys with
  | nil =>
      cases others
      rfl
  | cons first _ ih =>
      cases others with
      | cons second others =>
          rw [first] at second
          cases second
          rw [ih others]

/-- Whether a call of numbers offends depends on the numbers. -/
theorem offends_call_iff {f : Func} {args : List Expr} {xs : List Binary64} {cause : CalcError}
    (numbers : List.Forall₂ (fun a x => a.value library = .ok (.real x)) args xs) :
    (call f args).Offends library cause ↔
      ∃ what, f.LeavesReals xs what ∧ cause = .unsupportedResult what := by
  constructor
  · rintro (_ | ⟨operands, complex⟩)
    obtain rfl := eq_of_forall₂ numbers operands
    exact ⟨_, complex, rfl⟩
  · rintro ⟨what, complex, rfl⟩
    exact .call numbers complex

theorem offends_pow_iff {left right : Expr} {a b : Binary64} {cause : CalcError}
    (base : left.value library = .ok (.real a)) (exponent : right.value library = .ok (.real b)) :
    (binary left .pow right).Offends library cause ↔
      (a.Negative ∧ b.Fractional) ∧ cause = .unsupportedResult (.pow a b) := by
  constructor
  · rintro (_ | _ | ⟨first, second, negative, fractional⟩)
    cases base.symm.trans first
    cases exponent.symm.trans second
    exact ⟨⟨negative, fractional⟩, rfl⟩
  · rintro ⟨⟨negative, fractional⟩, rfl⟩
    exact .pow base exponent negative fractional

theorem Offends.unique {n : Expr} {cause other : CalcError} (first : n.Offends library cause)
    (second : n.Offends library other) : cause = other := by
  cases first with
  | reference f =>
      cases second
      rfl
  | call numbers complex =>
      rcases (offends_call_iff numbers).mp second with ⟨what, leaves, rfl⟩
      rw [complex.unique leaves]
  | pow base exponent negative fractional =>
      exact ((offends_pow_iff base exponent).mp second).2.symm

theorem reports_operator {left right : Expr} {op : Operator} {a b : Binary64}
    (base : left.value library = .ok (.real a)) (exponent : right.value library = .ok (.real b)) :
    Reports library [binary left op right] (op.apply library a b) := by
  cases op with
  | pow =>
      rw [Operator.apply]
      split
      · rename_i complex
        rw [Bool.and_eq_true, Binary64.isBelowZero_iff, Binary64.hasFraction_iff] at complex
        exact reports_error ((offends_pow_iff base exponent).mpr ⟨complex, rfl⟩)
      · rename_i actual
        rw [Bool.and_eq_true, Binary64.isBelowZero_iff, Binary64.hasFraction_iff] at actual
        apply reports_singleton
        intro cause offends
        exact actual ((offends_pow_iff base exponent).mp offends).1
  | add | sub | mul | div =>
      apply reports_singleton
      intro cause offends
      cases offends

/-- A function of one argument that has a value for all numbers but those below zero. -/
theorem reports_partial {f : Func} {args : List Expr} {x : Binary64} {what : ComplexValue}
    (result : Binary64)
    (numbers : List.Forall₂ (fun a x => a.value library = .ok (.real x)) args [x])
    (complex : ∀ other, f.LeavesReals [x] other ↔ x.Negative ∧ other = what) :
    Reports library [call f args] (unlessNegative x what result) := by
  unfold unlessNegative
  split
  · rename_i below
    have negative := Binary64.isBelowZero_iff.mp below
    exact reports_error (.call numbers ((complex what).mpr ⟨negative, rfl⟩))
  · rename_i actual
    apply reports_singleton
    intro cause offends
    rcases (offends_call_iff numbers).mp offends with ⟨other, leaves, _⟩
    exact actual (Binary64.isBelowZero_iff.mpr ((complex other).mp leaves).1)

theorem reports_logBase {args : List Expr} {x base : Binary64}
    (numbers : List.Forall₂ (fun a x => a.value library = .ok (.real x)) args [x, base]) :
    Reports library [call .log args] (Func.log.apply library [x, base]) := by
  change Reports library _ (if x.isBelowZero || base.isBelowZero then _ else _)
  split
  · rename_i below
    rw [Bool.or_eq_true, Binary64.isBelowZero_iff, Binary64.isBelowZero_iff] at below
    exact reports_error (.call numbers (.logBase below))
  · rename_i actual
    rw [Bool.or_eq_true, Binary64.isBelowZero_iff, Binary64.isBelowZero_iff] at actual
    apply reports_singleton
    intro cause offends
    rcases (offends_call_iff numbers).mp offends with ⟨other, leaves, _⟩
    cases leaves with
    | logBase negative => exact actual negative

theorem reports_function {f : Func} {args : List Expr} {xs : List Binary64}
    (accepted : f.accepts args.length = true)
    (numbers : List.Forall₂ (fun a x => a.value library = .ok (.real x)) args xs) :
    Reports library [call f args] (f.apply library xs) := by
  rw [numbers.length_eq, Func.accepts, Bool.or_eq_true, beq_iff_eq, Bool.and_eq_true, beq_iff_eq,
    beq_iff_eq, List.length_eq_one_iff, List.length_eq_two] at accepted
  rcases accepted with ⟨x, rfl⟩ | ⟨rfl, x, base, rfl⟩
  · cases f with
    | sin | cos | tan | exp =>
        apply reports_singleton
        intro cause offends
        rcases (offends_call_iff numbers).mp offends with ⟨_, leaves, _⟩
        cases leaves
    | sqrt | ln | log10 | log =>
        refine reports_partial _ numbers fun other => ⟨?_, ?_⟩
        · intro leaves
          cases leaves
          exact ⟨‹x.Negative›, rfl⟩
        · rintro ⟨negative, rfl⟩
          constructor
          exact negative
  · exact reports_logBase numbers

/-! ## Trees -/

theorem reports_reals {args : List Expr}
    (each : ∀ a ∈ args, Reports library a.postorder (a.real library)) :
    Reports library (postorderOf args) (reals library args) := by
  induction args with
  | nil => exact reports_nil []
  | cons a args ih =>
      have ⟨first, others⟩ := List.forall_mem_cons.mp each
      rw [reals_cons, postorderOf]
      apply first.bind
      intro x _
      rw [← List.append_nil (postorderOf args)]
      exact (ih others).bind fun xs _ => reports_nil _

/-- Evaluation of an operand reports the first offence in it. -/
theorem reports_real {e : Expr} (well : e.WellFormed) :
    Reports library e.postorder (e.real library) := by
  induction e with
  | number | constant =>
      apply reports_singleton
      intro cause offends
      cases offends
  | reference f => exact reports_error (.reference f)
  | call f args ih =>
      rcases every_call.mp well with ⟨accepted, each⟩
      rw [real_call, postorder]
      apply (reports_reals fun a mem => ih a mem (each a mem)).bind
      intro xs numbers
      exact reports_function accepted (forall₂_of_reals numbers)
  | neg operand ih =>
      rw [real_neg, postorder]
      apply (ih (every_neg.mp well).2).bind
      intro x _
      apply reports_singleton
      intro cause offends
      cases offends
  | binary left op right leftIh rightIh =>
      rcases every_binary.mp well with ⟨_, leftWell, rightWell⟩
      rw [real_binary, postorder]
      apply (leftIh leftWell).bind
      intro a first
      apply (rightIh rightWell).bind
      intro b second
      exact reports_operator (real_eq_ok_iff.mp first) (real_eq_ok_iff.mp second)
  | withUnit operand u ih =>
      rw [real_withUnit, postorder]
      apply (ih (every_withUnit.mp well).2).bind
      intro x _
      apply reports_singleton
      intro cause offends
      cases offends

end Outcomes

theorem Offends.kind {library : Elementary} {n : Expr} {cause : CalcError}
    (offends : n.Offends library cause) :
    (∃ f, cause = .incompleteCall f) ∨ ∃ what, cause = .unsupportedResult what := by
  cases offends with
  | reference f => exact .inl ⟨f, rfl⟩
  | call | pow => exact .inr ⟨_, rfl⟩

theorem FirstOffence.kind {library : Elementary} {nodes : List Expr} {refusal : CalcError}
    (first : FirstOffence library nodes refusal) :
    (∃ f, refusal = .incompleteCall f) ∨ ∃ what, refusal = .unsupportedResult what := by
  rcases first with ⟨_, _, _, _, offends, _⟩
  exact offends.kind

/-- No other node can be the first. -/
theorem FirstOffence.unique {library : Elementary} {nodes : List Expr} {refusal other : CalcError}
    (first : FirstOffence library nodes refusal) (second : FirstOffence library nodes other) :
    refusal = other := by
  rcases first with ⟨before, n, after, rfl, offends, none⟩
  rcases second with ⟨front, m, back, same, offence, harmless⟩
  rcases List.append_eq_append_iff.mp same with ⟨gap, rfl, rest⟩ | ⟨gap, rfl, rest⟩
  · cases gap with
    | nil =>
        cases rest
        exact offends.unique offence
    | cons k gap =>
        cases rest
        exact absurd offends (harmless n (by simp) refusal)
  · cases gap with
    | nil =>
        cases rest
        exact offends.unique offence
    | cons k gap =>
        cases rest
        exact absurd offence (none m (by simp) other)

/-- Where there is an offence, there is a first one. -/
theorem exists_firstOffence {library : Elementary} {nodes : List Expr} {n : Expr} {cause : CalcError}
    (mem : n ∈ nodes) (offends : n.Offends library cause) :
    ∃ refusal, FirstOffence library nodes refusal := by
  induction nodes with
  | nil => contradiction
  | cons m nodes ih =>
      by_cases harmless : ∀ other, ¬ m.Offends library other
      · rcases List.mem_cons.mp mem with rfl | later
        · exact absurd offends (harmless cause)
        · rcases ih later with ⟨refusal, before, first, after, rfl, offence, none⟩
          exact ⟨refusal, m :: before, first, after, rfl, offence,
            List.forall_mem_cons.mpr ⟨harmless, none⟩⟩
      · simp only [not_forall, not_not] at harmless
        rcases harmless with ⟨refusal, offence⟩
        exact ⟨refusal, [], m, nodes, rfl, offence, List.forall_mem_nil _⟩

end Expr

namespace Evaluator

variable {evaluator : Evaluator} {mode : AngleMode} {t : Text} {e : Expr}

/-- A callable that is the whole result fails as it does among operands. -/
theorem answer_eq (evaluator : Evaluator) (e : Expr) :
    evaluator.answer e = (e.real evaluator.library).bind fun x => evaluator.present (.real x) := by
  rw [answer, Expr.real]
  cases e.value evaluator.library with
  | error refusal => rfl
  | ok v => cases v <;> rfl

theorem eq_nonFiniteResult_of_present {x : Binary64} {refusal : CalcError}
    (failed : evaluator.present (.real x) = .error refusal) : refusal = .nonFiniteResult := by
  unfold present at failed
  dsimp only at failed
  split at failed
  · cases failed
    rfl
  · split at failed <;> cases failed

theorem evaluate_eq_error_iff (read : Expr.ofText mode t = .ok e) {refusal : CalcError} :
    evaluator.evaluate mode t = .error refusal ∧ refusal ≠ .nonFiniteResult ↔
      Expr.FirstOffence evaluator.library e.postorder refusal := by
  have reports : Expr.Reports evaluator.library e.postorder (e.real evaluator.library) :=
    Expr.reports_real (Expr.wellFormed_of_ofText read).1
  have evaluated : evaluator.evaluate mode t =
      (evaluator.answer e).bind fun answer => .ok ⟨e.print, answer⟩ := by
    rw [evaluate, read]
    rfl
  rw [evaluated, answer_eq]
  constructor
  · rintro ⟨failed, notRange⟩
    cases number : e.real evaluator.library with
    | error cause =>
        rw [number] at reports failed
        cases failed
        exact reports
    | ok x =>
        rw [number] at failed
        change (evaluator.present (.real x)).bind _ = _ at failed
        cases presented : evaluator.present (.real x) with
        | error cause =>
            rw [presented] at failed
            cases failed
            exact absurd (eq_nonFiniteResult_of_present presented) notRange
        | ok answer =>
            rw [presented] at failed
            cases failed
  · intro first
    constructor
    · cases number : e.real evaluator.library with
      | error cause =>
          rw [number] at reports
          rw [first.unique reports]
          rfl
      | ok x =>
          rw [number] at reports
          rcases first with ⟨before, n, after, order, offends, _⟩
          exact absurd offends (reports n (by simp [order]) refusal)
    · rintro rfl
      rcases first.kind with ⟨f, same⟩ | ⟨what, same⟩ <;> cases same

/-- A text whose canonical tree holds an offence fails to be evaluated. The failure is that of the
first offence, operands before their operator and from left to right, and evaluation fails in no
other way but for a result that is not finite. -/
theorem evaluate_offence (read : Expr.ofText mode t = .ok e) :
    (∀ refusal, evaluator.evaluate mode t = .error refusal ∧ refusal ≠ .nonFiniteResult ↔
      Expr.FirstOffence evaluator.library e.postorder refusal) ∧
    ∀ n ∈ e.nodes, ∀ cause, n.Offends evaluator.library cause →
      ∃ refusal, evaluator.evaluate mode t = .error refusal ∧
        Expr.FirstOffence evaluator.library e.postorder refusal ∧
        ((∃ f, refusal = .incompleteCall f) ∨ ∃ what, refusal = .unsupportedResult what) := by
  constructor
  · exact fun refusal => evaluate_eq_error_iff read
  · intro n mem cause offends
    rcases Expr.exists_firstOffence (Expr.mem_postorder_iff.mpr mem) offends with ⟨refusal, first⟩
    exact ⟨refusal, ((evaluate_eq_error_iff read).mpr first).1, first, first.kind⟩

/-- The theorem applies where an offence is multiplied by zero and another one stands behind it. -/
theorem evaluate_offence_zero :
    let root := Expr.call .sqrt [.neg (.number ⟨0x4010000000000000⟩)]
    let e := Expr.binary (.binary (.number ⟨0⟩) .mul root) .add (.call .sin [.reference .log])
    Expr.ofText .rad "0 * sqrt(-4) + sin(log)".toList = .ok e ∧
      (Expr.reference .log ∈ e.nodes ∧
        (Expr.reference .log).Offends Elementary.native (.incompleteCall .log)) ∧
      evaluate {} .rad "0 * sqrt(-4) + sin(log)".toList =
        .error (.unsupportedResult (.sqrt ⟨0xc010000000000000⟩)) := by
  intro root e
  have well : e.WellFormed := by
    have zero : Binary64.isFinite ⟨0⟩ = true ∧ Binary64.isNegative ⟨0⟩ = false := by decide
    have four : Binary64.isFinite ⟨0x4010000000000000⟩ = true ∧
        Binary64.isNegative ⟨0x4010000000000000⟩ = false := by decide
    simp [e, root, Expr.WellFormed, Expr.RootWellFormed, Func.accepts, zero, four]
  have single : ¬ e.StacksUnits := by
    simp [e, root, Expr.StacksUnits, Expr.nodes, Expr.nodesOf]
  have printed : e.print = "0 * sqrt(-4) + sin(log)".toList := by decide +kernel
  have read : Expr.ofText .rad "0 * sqrt(-4) + sin(log)".toList = .ok e := by
    rw [← printed]
    exact Expr.ofText_print_of_fits .rad well single (by decide)
  have mem : Expr.reference .log ∈ e.nodes := by simp [e, Expr.nodes, Expr.nodesOf]
  have negative : Binary64.Negative ⟨0xc010000000000000⟩ :=
    Binary64.isBelowZero_iff.mp (by decide)
  have first : Expr.FirstOffence Elementary.native e.postorder
      (.unsupportedResult (.sqrt ⟨0xc010000000000000⟩)) := by
    refine ⟨[.number ⟨0⟩, .number ⟨0x4010000000000000⟩, .neg (.number ⟨0x4010000000000000⟩)], root,
      _, rfl, .call (.cons rfl .nil) (.sqrt negative), ?_⟩
    intro n before cause offends
    cases offends <;> simp at before
  exact ⟨read, ⟨mem, .reference .log⟩, (((evaluate_offence read).1 _).mpr first).1⟩

end Evaluator

end Reckoner
