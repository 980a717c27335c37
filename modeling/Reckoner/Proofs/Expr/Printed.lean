import Reckoner.Expr.Printer
import Reckoner.Proofs.Expr.Nodes
import Reckoner.Proofs.Grammar
import Reckoner.Proofs.Number.Text
import Reckoner.Proofs.Token.Separator

/-!
# The phrase that a tree is printed as

Printing follows the grammar: the text of a tree has the tokens of a phrase that spells the tree, the
parentheses of the text being groups of the phrase. The grammar derives the phrase from the category
that the root of the tree belongs to, as long as no unit follows a unit.
-/

namespace Reckoner

open Grammar

/-- The mark of an operator. -/
def Operator.token : Operator → Token
  | add => .plus
  | sub => .minus
  | mul => .star
  | div => .slash
  | pow => .caret

namespace Expr

/-- Puts a phrase into parentheses if `wrap` says so. -/
def wrapped (wrap : Bool) (p : Phrase) : Phrase :=
  if wrap then p.grouped else p

/-- An operator between two phrases. -/
def operation (op : Operator) (left right : Phrase) : Phrase :=
  if op = .pow then left.raised right else left.joined [op.token] op right

mutual

/-- The phrase that a tree is printed as. -/
def phrase : Expr → Phrase
  | number x => .atom (.number x) (number x)
  | constant c => .atom (.constant c) (constant c)
  | reference f => .atom (.func f) (reference f)
  | call f args => .call f (phrases args)
  | neg operand => (wrapped (operand.precedence < 3) (phrase operand)).negated
  | binary left op right =>
    operation op (wrapped (wrapsLeft op left) (phrase left))
      (wrapped (wrapsRight op right) (phrase right))
  | withUnit operand u => (wrapped (operand.precedence < 5) (phrase operand)).measured u

/-- The phrases that some trees are printed as. -/
def phrases : List Expr → List Phrase
  | [] => []
  | e :: es => phrase e :: phrases es

end

theorem phrases_eq_map (es : List Expr) : phrases es = es.map phrase := by
  induction es with
  | nil => rfl
  | cons e es ih => rw [phrases, ih, List.map_cons]

@[simp]
theorem tree_wrapped (wrap : Bool) (p : Phrase) : (wrapped wrap p).tree = p.tree := by
  cases wrap <;> rfl

@[simp]
theorem tree_operation (op : Operator) (left right : Phrase) :
    (operation op left right).tree = binary left.tree op right.tree := by
  cases op <;> rfl

@[simp]
theorem tokens_operation (op : Operator) (left right : Phrase) :
    (operation op left right).tokens = left.tokens ++ op.token :: right.tokens := by
  cases op <;> rfl

/-- The phrase of a tree spells the tree. -/
@[simp]
theorem tree_phrase (e : Expr) : e.phrase.tree = e := by
  induction e with
  | number | constant | reference => rfl
  | call f args ih =>
      have trees : (phrases args).map Phrase.tree = args := by
        rw [phrases_eq_map, List.map_map]
        exact (List.map_congr_left ih).trans (List.map_id args)
      rw [phrase, Phrase.call, trees]
  | neg operand ih => rw [phrase, Phrase.negated, tree_wrapped, ih]
  | binary left op right leftIh rightIh =>
      rw [phrase, tree_operation, tree_wrapped, tree_wrapped, leftIh, rightIh]
  | withUnit operand u ih => rw [phrase, Phrase.measured, tree_wrapped, ih]

/-! ## The tokens of the printed text -/

theorem parts_space : Parts ' ' := by
  constructor <;> decide

theorem parts_comma : Parts ',' := by
  constructor <;> decide

theorem parts_caret : Parts '^' := by
  constructor <;> decide

theorem parts_openParen : Parts '(' := by
  constructor <;> decide

theorem parts_closeParen : Parts ')' := by
  constructor <;> decide

variable {t a b : Text} {tokens before after : List Token}

/-- A text with a closing parenthesis behind. -/
theorem tokenize_closed (read : tokenize t = .ok tokens) :
    tokenize (t ++ [')']) = .ok (tokens ++ [.closeParen]) :=
  tokenize_append parts_closeParen read (tokenize_cons_mark rfl tokenize_nil)

theorem tokenize_grouped (wrap : Bool) {p : Phrase} (read : tokenize t = .ok p.tokens) :
    tokenize (grouped wrap t) = .ok (wrapped wrap p).tokens := by
  cases wrap with
  | false => exact read
  | true => exact tokenize_cons_mark rfl (tokenize_closed read)

/-- Signs of operators stand between spaces, powers excepted. -/
theorem exists_mark_symbol {op : Operator} (spaced : op ≠ .pow) :
    ∃ mark, op.symbol = [' ', mark, ' '] ∧ Token.ofMark? mark = some op.token := by
  cases op with
  | add => exact ⟨'+', rfl, rfl⟩
  | sub => exact ⟨'-', rfl, rfl⟩
  | mul => exact ⟨'*', rfl, rfl⟩
  | div => exact ⟨'/', rfl, rfl⟩
  | pow => contradiction

theorem tokenize_symbol (op : Operator) (first : tokenize a = .ok before)
    (second : tokenize b = .ok after) :
    tokenize (a ++ op.symbol ++ b) = .ok (before ++ op.token :: after) := by
  rw [List.append_assoc]
  by_cases power : op = .pow
  · subst power
    exact tokenize_append parts_caret first (tokenize_cons_mark rfl second)
  · rcases exists_mark_symbol power with ⟨mark, symbol, meaning⟩
    rw [symbol]
    refine tokenize_append parts_space first ((tokenize_cons_space _).trans ?_)
    exact tokenize_cons_mark meaning ((tokenize_cons_space b).trans second)

theorem printArguments_cons {es : List Expr} (nonempty : es ≠ []) (e : Expr) :
    printArguments (e :: es) = e.print ++ ", ".toList ++ printArguments es := by
  rw [printArguments]
  exact nonempty

theorem tokenize_printArguments {args : List Expr}
    (each : ∀ a ∈ args, tokenize a.print = .ok a.phrase.tokens) :
    tokenize (printArguments args) = .ok (Phrase.argumentTokens (phrases args)) := by
  induction args with
  | nil => exact tokenize_nil
  | cons a args ih =>
      have ⟨first, others⟩ := List.forall_mem_cons.mp each
      cases args with
      | nil => exact first
      | cons b args =>
          rw [printArguments_cons (List.cons_ne_nil b args), List.append_assoc, phrases, phrases,
            Phrase.argumentTokens]
          refine tokenize_append parts_comma first (tokenize_cons_mark rfl ?_)
          exact (tokenize_cons_space _).trans (ih others)

/-- The text of a tree has the tokens of its phrase. -/
theorem tokenize_print {e : Expr} (well : e.WellFormed) : tokenize e.print = .ok e.phrase.tokens := by
  induction e with
  | number x =>
      rcases every_number.mp well with ⟨finite, positive⟩
      exact tokenize_numberText finite positive
  | constant c => exact tokenize_constant c
  | reference f => exact tokenize_func f
  | call f args ih =>
      have ⟨_, each⟩ := every_call.mp well
      have inner := tokenize_printArguments fun a mem => ih a mem (each a mem)
      rw [print, List.append_assoc]
      have opened : tokenize ('(' :: (printArguments args ++ [')'])) = _ :=
        tokenize_cons_mark rfl (tokenize_closed inner)
      have read := tokenize_append parts_openParen (tokenize_func f) opened
      exact read
  | neg operand ih =>
      exact tokenize_cons_mark rfl (tokenize_grouped _ (ih (every_neg.mp well).2))
  | binary left op right leftIh rightIh =>
      rcases every_binary.mp well with ⟨_, leftWell, rightWell⟩
      rw [print, phrase, tokens_operation]
      exact tokenize_symbol op (tokenize_grouped _ (leftIh leftWell))
        (tokenize_grouped _ (rightIh rightWell))
  | withUnit operand u ih =>
      have inner := tokenize_grouped (operand.precedence < 5) (ih (every_withUnit.mp well).2)
      exact tokenize_append parts_space inner ((tokenize_cons_space _).trans (tokenize_unit u))

end Expr

end Reckoner
