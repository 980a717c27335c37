import Reckoner.Expr

/-!
# Nodes of expressions

Induction over expressions, with the arguments of a call at hand, and the nodes of a tree, by which
conditions on every part of a tree are stated.
-/

namespace Reckoner.Expr

/-- Induction over expressions. A call comes with the hypotheses for its arguments. -/
@[induction_eliminator]
theorem induct {motive : Expr → Prop} (number : ∀ x, motive (number x))
    (constant : ∀ c, motive (constant c)) (reference : ∀ f, motive (reference f))
    (call : ∀ f args, (∀ a ∈ args, motive a) → motive (call f args))
    (neg : ∀ operand, motive operand → motive (neg operand))
    (binary : ∀ left op right, motive left → motive right → motive (binary left op right))
    (withUnit : ∀ operand u, motive operand → motive (withUnit operand u)) (e : Expr) :
    motive e := by
  refine @Expr.rec motive (fun args => ∀ a ∈ args, motive a) number constant reference call neg
    (fun left op right => binary left op right) withUnit ?_ ?_ e
  · intro a mem
    contradiction
  · intro first rest head tail a mem
    rcases List.mem_cons.mp mem with rfl | later
    · exact head
    · exact tail a later

mutual

/-- The subtrees of a tree, itself among them. -/
def nodes : Expr → List Expr
  | number x => [number x]
  | constant c => [constant c]
  | reference f => [reference f]
  | call f args => call f args :: nodesOf args
  | neg operand => neg operand :: nodes operand
  | binary left op right => binary left op right :: (nodes left ++ nodes right)
  | withUnit operand u => withUnit operand u :: nodes operand

/-- The subtrees of some trees. -/
def nodesOf : List Expr → List Expr
  | [] => []
  | e :: es => nodes e ++ nodesOf es

end

theorem nodesOf_cons (e : Expr) (es : List Expr) : nodesOf (e :: es) = e.nodes ++ nodesOf es :=
  rfl

theorem mem_nodesOf {n : Expr} {es : List Expr} : n ∈ nodesOf es ↔ ∃ e ∈ es, n ∈ e.nodes := by
  induction es with
  | nil =>
      constructor
      · intro mem
        contradiction
      · rintro ⟨e, mem, _⟩
        contradiction
  | cons e es ih =>
      rw [nodesOf_cons, List.mem_append, ih]
      simp only [List.mem_cons, exists_eq_or_imp]

@[simp]
theorem mem_nodes_self (e : Expr) : e ∈ e.nodes := by
  cases e <;> exact List.mem_cons_self

theorem arg_mem_nodes {f : Func} {args : List Expr} {a : Expr} (mem : a ∈ args) :
    a ∈ (call f args).nodes :=
  List.mem_cons_of_mem _ (mem_nodesOf.mpr ⟨a, mem, mem_nodes_self a⟩)

theorem operand_mem_nodes_neg (operand : Expr) : operand ∈ (neg operand).nodes :=
  List.mem_cons_of_mem _ (mem_nodes_self operand)

theorem left_mem_nodes (left right : Expr) (op : Operator) :
    left ∈ (binary left op right).nodes :=
  List.mem_cons_of_mem _ (List.mem_append_left _ (mem_nodes_self left))

theorem right_mem_nodes (left right : Expr) (op : Operator) :
    right ∈ (binary left op right).nodes :=
  List.mem_cons_of_mem _ (List.mem_append_right _ (mem_nodes_self right))

theorem operand_mem_nodes_withUnit (operand : Expr) (u : AngleUnit) :
    operand ∈ (withUnit operand u).nodes :=
  List.mem_cons_of_mem _ (mem_nodes_self operand)

/-- The subtrees of a subtree are subtrees. -/
theorem mem_nodes_trans {n m e : Expr} (inner : n ∈ m.nodes) (outer : m ∈ e.nodes) :
    n ∈ e.nodes := by
  induction e with
  | number | constant | reference =>
      obtain rfl := List.mem_singleton.mp outer
      exact inner
  | call f args ih =>
      rcases List.mem_cons.mp outer with rfl | below
      · exact inner
      · rcases mem_nodesOf.mp below with ⟨a, mem, inside⟩
        exact List.mem_cons_of_mem _ (mem_nodesOf.mpr ⟨a, mem, ih a mem inside⟩)
  | neg operand ih | withUnit operand u ih =>
      rcases List.mem_cons.mp outer with rfl | below
      · exact inner
      · exact List.mem_cons_of_mem _ (ih below)
  | binary left op right leftIh rightIh =>
      rcases List.mem_cons.mp outer with rfl | below
      · exact inner
      · rcases List.mem_append.mp below with before | after
        · exact List.mem_cons_of_mem _ (List.mem_append_left _ (leftIh before))
        · exact List.mem_cons_of_mem _ (List.mem_append_right _ (rightIh after))

/-! ## Conditions on every node -/

/-- The condition holds for every subtree. -/
def Every (P : Expr → Prop) (e : Expr) : Prop :=
  ∀ n ∈ e.nodes, P n

section

variable {P : Expr → Prop}

@[simp]
theorem every_number {x : Binary64} : (number x).Every P ↔ P (number x) :=
  List.forall_mem_singleton

@[simp]
theorem every_constant {c : Constant} : (constant c).Every P ↔ P (constant c) :=
  List.forall_mem_singleton

@[simp]
theorem every_reference {f : Func} : (reference f).Every P ↔ P (reference f) :=
  List.forall_mem_singleton

@[simp]
theorem every_call {f : Func} {args : List Expr} :
    (call f args).Every P ↔ P (call f args) ∧ ∀ a ∈ args, a.Every P := by
  apply List.forall_mem_cons.trans
  apply and_congr_right
  intro _
  constructor
  · intro each a mem n inside
    exact each n (mem_nodesOf.mpr ⟨a, mem, inside⟩)
  · intro each n below
    rcases mem_nodesOf.mp below with ⟨a, mem, inside⟩
    exact each a mem n inside

@[simp]
theorem every_neg {operand : Expr} : (neg operand).Every P ↔ P (neg operand) ∧ operand.Every P :=
  List.forall_mem_cons

@[simp]
theorem every_binary {left right : Expr} {op : Operator} :
    (binary left op right).Every P ↔
      P (binary left op right) ∧ left.Every P ∧ right.Every P :=
  List.forall_mem_cons.trans (and_congr_right fun _ => List.forall_mem_append)

@[simp]
theorem every_withUnit {operand : Expr} {u : AngleUnit} :
    (withUnit operand u).Every P ↔ P (withUnit operand u) ∧ operand.Every P :=
  List.forall_mem_cons

end

/-- A call has as many arguments as its function takes. -/
def RootAccepted : Expr → Prop
  | call f args => f.accepts args.length = true
  | _ => True

/-- A number is finite and without a sign, and a call has as many arguments as its function takes. -/
def RootWellFormed : Expr → Prop
  | number x => x.isFinite = true ∧ x.isNegative = false
  | call f args => f.accepts args.length = true
  | _ => True

/-- Every number is finite and without a sign, and every call has as many arguments as its function
takes. -/
def WellFormed (e : Expr) : Prop :=
  e.Every RootWellFormed

/-- Somewhere in the tree a unit is written after an operand that ends in a unit itself. -/
def StacksUnits (e : Expr) : Prop :=
  ∃ operand u v, withUnit (withUnit operand u) v ∈ e.nodes

theorem not_stacksUnits_of_mem {n e : Expr} (single : ¬ e.StacksUnits) (mem : n ∈ e.nodes) :
    ¬ n.StacksUnits := by
  rintro ⟨operand, u, v, inside⟩
  exact single ⟨operand, u, v, mem_nodes_trans inside mem⟩

end Reckoner.Expr
