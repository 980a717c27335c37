import Reckoner.Expr.Parser

/-!
# The grammar of expressions

The grammar stands here as a relation of its own, apart from the readers. A phrase is a stretch of
tokens together with the tree that it spells and with its nesting depth, and `Derives c p` says that
the category `c` derives the phrase `p`. The rules are those of the grammar

    Sum     = Product { ("+" | "-") Product }
    Product = Signed { ("*" | "/") Signed | Signed that starts with a constant, function or "(" }
    Signed  = ("-" | "+") Signed | Power
    Power   = Measure [ "^" Signed ]
    Measure = Primary [ unit ]
    Primary = number | constant | function "(" Sum { "," Sum } ")" | function | "(" Sum ")"

with repetition written as left recursion, so that chains of operands lean to the left.

A name of a function directly before a parenthesis always starts a call. The grammar says so at the
one place where a phrase could end in such a name and be followed by a group: the operator between
two factors may not be left out there.
-/

namespace Reckoner.Grammar

open Reckoner.Expr

/-- The categories of phrases, from the loosest to the tightest. -/
inductive Category where
  | sum
  | product
  | signed
  | power
  | measure
  | primary
  deriving DecidableEq

/-- Tokens that a category derives, with the tree that they spell. -/
structure Phrase where
  tokens : List Token
  tree : Expr
  /-- The number of signs, exponents, groups and argument lists around the deepest operand. -/
  nesting : Nat

namespace Phrase

/-- A phrase of one token. -/
def atom (token : Token) (tree : Expr) : Phrase :=
  ⟨[token], tree, 0⟩

/-- The tokens of an argument list, without its parentheses. -/
def argumentTokens : List Phrase → List Token
  | [] => []
  | [p] => p.tokens
  | p :: q :: ps => p.tokens ++ .comma :: argumentTokens (q :: ps)

/-- The nesting of the deepest of some phrases. -/
def maxNesting : List Phrase → Nat
  | [] => 0
  | p :: ps => max p.nesting (maxNesting ps)

/-- A function with its argument list. -/
def call (f : Func) (args : List Phrase) : Phrase :=
  ⟨.func f :: .openParen :: argumentTokens args ++ [.closeParen], .call f (args.map tree),
    maxNesting args + 1⟩

/-- A phrase in parentheses. They leave no node in the tree. -/
def grouped (inner : Phrase) : Phrase :=
  ⟨.openParen :: inner.tokens ++ [.closeParen], inner.tree, inner.nesting + 1⟩

/-- A phrase with an angle unit after it. -/
def measured (operand : Phrase) (u : AngleUnit) : Phrase :=
  ⟨operand.tokens ++ [.unit u], .withUnit operand.tree u, operand.nesting⟩

/-- A phrase with an exponent after it. -/
def raised (base exponent : Phrase) : Phrase :=
  ⟨base.tokens ++ .caret :: exponent.tokens, .binary base.tree .pow exponent.tree,
    max base.nesting (exponent.nesting + 1)⟩

/-- A phrase with a minus sign in front of it. -/
def negated (operand : Phrase) : Phrase :=
  ⟨.minus :: operand.tokens, .neg operand.tree, operand.nesting + 1⟩

/-- A phrase with a plus sign in front of it, which leaves no node in the tree. -/
def affirmed (operand : Phrase) : Phrase :=
  ⟨.plus :: operand.tokens, operand.tree, operand.nesting + 1⟩

/-- Two phrases with the mark of an operator between them. -/
def joined (left : Phrase) (mark : List Token) (op : Operator) (right : Phrase) : Phrase :=
  ⟨left.tokens ++ (mark ++ right.tokens), .binary left.tree op right.tree,
    max left.nesting right.nesting⟩

/-- The phrase ends in the name of a function and a parenthesis follows, so that the name would be
read as the start of a call. -/
def Calls (p : Phrase) (rest : List Token) : Prop :=
  (∃ f, p.tokens.getLast? = some (.func f)) ∧ rest.head? = some .openParen

end Phrase

/-- A constant, a function or a group, before which a multiplication sign may be left out. -/
def opensFactor : Token → Bool
  | .constant _ | .func _ | .openParen => true
  | _ => false

/-- The category derives the phrase. -/
inductive Derives : Category → Phrase → Prop where
  | number (x : Binary64) : Derives .primary (.atom (.number x) (.number x))
  | constant (c : Constant) : Derives .primary (.atom (.constant c) (.constant c))
  | reference (f : Func) : Derives .primary (.atom (.func f) (.reference f))
  | call {f : Func} {args : List Phrase} (accepted : f.accepts args.length = true)
      (each : ∀ a ∈ args, Derives .sum a) : Derives .primary (.call f args)
  | group {inner : Phrase} : Derives .sum inner → Derives .primary inner.grouped
  | bare {p : Phrase} : Derives .primary p → Derives .measure p
  | measured {p : Phrase} (u : AngleUnit) : Derives .primary p → Derives .measure (p.measured u)
  | base {p : Phrase} : Derives .measure p → Derives .power p
  | raised {base exponent : Phrase} :
      Derives .measure base → Derives .signed exponent → Derives .power (base.raised exponent)
  | unsigned {p : Phrase} : Derives .power p → Derives .signed p
  | negated {p : Phrase} : Derives .signed p → Derives .signed p.negated
  | affirmed {p : Phrase} : Derives .signed p → Derives .signed p.affirmed
  | factor {p : Phrase} : Derives .signed p → Derives .product p
  | times {left right : Phrase} : Derives .product left → Derives .signed right →
      Derives .product (left.joined [.star] .mul right)
  | divided {left right : Phrase} : Derives .product left → Derives .signed right →
      Derives .product (left.joined [.slash] .div right)
  | juxtaposed {left right : Phrase} (opens : right.tokens.head?.any opensFactor = true)
      (noCall : ¬ left.Calls right.tokens) :
      Derives .product left → Derives .signed right →
      Derives .product (left.joined [] .mul right)
  | term {p : Phrase} : Derives .product p → Derives .sum p
  | plus {left right : Phrase} : Derives .sum left → Derives .product right →
      Derives .sum (left.joined [.plus] .add right)
  | minus {left right : Phrase} : Derives .sum left → Derives .product right →
      Derives .sum (left.joined [.minus] .sub right)

/-! ## Loosening the category -/

namespace Category

/-- How tightly the phrases of a category bind. -/
def level : Category → Nat
  | sum => 1
  | product => 2
  | signed => 3
  | power => 4
  | measure => 5
  | primary => 6

theorem level_injective {c d : Category} (same : c.level = d.level) : c = d := by
  cases c <;> cases d <;> first | rfl | contradiction

/-- The next looser category. -/
def looser : Category → Category
  | sum => sum
  | product => sum
  | signed => product
  | power => signed
  | measure => power
  | primary => measure

theorem level_le_looser {c d : Category} (below : d.level < c.level) :
    d.level ≤ c.looser.level ∧ c.looser.level < c.level := by
  cases c <;> cases d <;> first | decide | contradiction

end Category

theorem Derives.looser {c : Category} {p : Phrase} (derived : Derives c p) :
    Derives c.looser p := by
  cases c with
  | sum => exact derived
  | product => exact .term derived
  | signed => exact .factor derived
  | power => exact .unsigned derived
  | measure => exact .base derived
  | primary => exact .bare derived

/-- A phrase of a category belongs to all looser categories. -/
theorem Derives.loosen {c d : Category} {p : Phrase} (derived : Derives c p)
    (loose : d.level ≤ c.level) : Derives d p := by
  rcases Nat.eq_or_lt_of_le loose with same | below
  · rw [Category.level_injective same]
    exact derived
  · have ⟨reached, _⟩ := Category.level_le_looser below
    exact derived.looser.loosen reached
termination_by c.level

/-! ## First and last tokens -/

/-- The tokens that every phrase may start with. -/
def startsOperand : Token → Bool
  | .number _ | .constant _ | .func _ | .openParen => true
  | _ => false

/-- The categories whose phrases may start with a sign. -/
def Category.maySign : Category → Bool
  | .sum | .product | .signed => true
  | .power | .measure | .primary => false

/-- The tokens start as a phrase of the category does. -/
def Category.Starts (c : Category) (tokens : List Token) : Prop :=
  ∃ token rest, tokens = token :: rest ∧
    (startsOperand token = true ∨ c.maySign = true ∧ (token = .plus ∨ token = .minus))

namespace Category.Starts

variable {c : Category} {tokens : List Token}

theorem append (starts : c.Starts tokens) (more : List Token) : c.Starts (tokens ++ more) := by
  rcases starts with ⟨token, rest, rfl, start⟩
  exact ⟨token, rest ++ more, rfl, start⟩

/-- A category that derives unsigned phrases starts like every other. -/
theorem loosen (starts : c.Starts tokens) (unsigned : c.maySign = false) (d : Category) :
    d.Starts tokens := by
  rcases starts with ⟨token, rest, rfl, start | ⟨sign, _⟩⟩
  · exact ⟨token, rest, rfl, Or.inl start⟩
  · rw [unsigned] at sign
    contradiction

theorem ne_nil (starts : c.Starts tokens) : tokens ≠ [] := by
  rcases starts with ⟨token, rest, rfl, _⟩
  exact List.cons_ne_nil token rest

end Category.Starts

/-- A derived phrase starts as its category says. -/
theorem Derives.starts {c : Category} {p : Phrase} (derived : Derives c p) : c.Starts p.tokens := by
  induction derived with
  | number | constant | reference | call | group => exact ⟨_, _, rfl, Or.inl rfl⟩
  | bare _ ih | base _ ih | unsigned _ ih => exact ih.loosen rfl _
  | measured _ _ ih | raised _ _ ih => exact (ih.loosen rfl _).append _
  | negated => exact ⟨_, _, rfl, Or.inr ⟨rfl, Or.inr rfl⟩⟩
  | affirmed => exact ⟨_, _, rfl, Or.inr ⟨rfl, Or.inl rfl⟩⟩
  | factor _ ih | term _ ih => exact ih
  | times _ _ ih | divided _ _ ih | juxtaposed _ _ _ _ ih | plus _ _ ih | minus _ _ ih =>
      exact ih.append _

/-- Only the last part of a phrase can end it in a function's name. -/
theorem Phrase.calls_of_suffix {p q : Phrase} {front rest : List Token}
    (suffix : p.tokens = front ++ q.tokens) (nonempty : q.tokens ≠ []) :
    p.Calls rest ↔ q.Calls rest := by
  have last : p.tokens.getLast? = q.tokens.getLast? := by
    rw [suffix, List.getLast?_append, List.getLast?_eq_some_getLast nonempty, Option.some_or]
  rw [Phrase.Calls, Phrase.Calls, last]

theorem Phrase.not_calls_of_head? {p : Phrase} {rest : List Token}
    (head : rest.head? ≠ some .openParen) : ¬ p.Calls rest :=
  fun calls => head calls.2

/-- The tokens of an argument stand together in the argument list. -/
theorem Phrase.infix_argumentTokens {args : List Phrase} {p : Phrase} (mem : p ∈ args) :
    p.tokens <:+: argumentTokens args := by
  induction args with
  | nil => contradiction
  | cons q args ih =>
      cases args with
      | nil =>
          obtain rfl := List.mem_singleton.mp mem
          exact List.infix_rfl
      | cons r args =>
          rcases List.mem_cons.mp mem with rfl | later
          · exact (List.prefix_append _ _).isInfix
          · exact ((ih later).trans (List.suffix_cons _ _).isInfix).trans
              (List.suffix_append _ _).isInfix

end Reckoner.Grammar
