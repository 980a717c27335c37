import Mathlib.Data.List.Chain
import Reckoner.Proofs.Expr.Printed

/-!
# Units in phrases

No phrase of the grammar has two units side by side, since a unit stands behind a primary and no
primary ends in a unit. A tree that stacks units is printed with two units side by side, so that no
phrase has the tokens of its text.
-/

namespace Reckoner

/-- The token is an angle unit. -/
def Token.isUnit : Token → Bool
  | unit _ => true
  | _ => false

namespace Grammar

/-- No two units stand side by side. -/
def SingleUnits (tokens : List Token) : Prop :=
  tokens.IsChain fun a b => a.isUnit = true → b.isUnit = false

namespace SingleUnits

variable {a b : List Token} {token : Token}

theorem singleton (token : Token) : SingleUnits [token] :=
  List.isChain_singleton token

/-- A token that is no unit may stand before everything. -/
theorem cons (notUnit : token.isUnit = false) (single : SingleUnits a) :
    SingleUnits (token :: a) := by
  apply List.IsChain.cons single
  intro next _ isUnit
  rw [notUnit] at isUnit
  contradiction

/-- What does not start with a unit may stand behind everything. -/
theorem append (first : SingleUnits a) (second : SingleUnits b)
    (head : ∀ token ∈ b.head?, token.isUnit = false) : SingleUnits (a ++ b) :=
  List.IsChain.append first second fun _ _ token mem _ => head token mem

/-- A token that is no unit parts two lists. -/
theorem append_cons (notUnit : token.isUnit = false) (first : SingleUnits a)
    (second : SingleUnits b) : SingleUnits (a ++ token :: b) := by
  apply first.append (second.cons notUnit)
  intro next mem
  obtain rfl := Option.some.inj mem
  exact notUnit

theorem argumentTokens {args : List Phrase} (each : ∀ p ∈ args, SingleUnits p.tokens) :
    SingleUnits (Phrase.argumentTokens args) := by
  induction args with
  | nil => exact List.isChain_nil
  | cons p args ih =>
      have ⟨first, others⟩ := List.forall_mem_cons.mp each
      cases args with
      | nil => exact first
      | cons q args => exact first.append_cons rfl (ih others)

end SingleUnits

theorem Category.Starts.head_not_unit {c : Category} {tokens : List Token}
    (starts : c.Starts tokens) : ∀ token ∈ tokens.head?, token.isUnit = false := by
  rcases starts with ⟨token, rest, rfl, start⟩
  intro next mem
  obtain rfl := Option.some.inj mem
  rcases start with operand | ⟨_, rfl | rfl⟩
  · cases token <;> first | rfl | contradiction
  · rfl
  · rfl

/-- A primary does not end in a unit. -/
theorem Derives.last_not_unit {p : Phrase} (derived : Derives .primary p) :
    ∀ token ∈ p.tokens.getLast?, token.isUnit = false := by
  intro token mem
  cases derived with
  | number | constant | reference =>
      obtain rfl := Option.some.inj mem
      rfl
  | call =>
      rw [Phrase.call, List.getLast?_concat] at mem
      obtain rfl := Option.some.inj mem
      rfl
  | group =>
      rw [Phrase.grouped, List.getLast?_concat] at mem
      obtain rfl := Option.some.inj mem
      rfl

/-- No derived phrase has two units side by side. -/
theorem Derives.singleUnits {c : Category} {p : Phrase} (derived : Derives c p) :
    SingleUnits p.tokens := by
  induction derived with
  | number | constant | reference => exact .singleton _
  | call _ _ ih =>
      exact ((SingleUnits.argumentTokens ih).append_cons rfl List.isChain_nil).cons rfl |>.cons rfl
  | group _ ih => exact (ih.append_cons rfl List.isChain_nil).cons rfl
  | bare _ ih | base _ ih | unsigned _ ih | factor _ ih | term _ ih => exact ih
  | measured u derived ih =>
      apply List.IsChain.append ih (.singleton _)
      intro last mem _ _ isUnit
      rw [derived.last_not_unit last mem] at isUnit
      contradiction
  | negated _ ih | affirmed _ ih => exact ih.cons rfl
  | raised _ _ first second | times _ _ first second | divided _ _ first second
  | plus _ _ first second | minus _ _ first second => exact first.append_cons rfl second
  | juxtaposed _ _ _ right first second => exact first.append second right.starts.head_not_unit

end Grammar

namespace Expr

open Grammar

theorem infix_wrapped (wrap : Bool) (p : Phrase) : p.tokens <:+: (wrapped wrap p).tokens := by
  cases wrap with
  | false => exact List.infix_rfl
  | true => exact ⟨[.openParen], [.closeParen], rfl⟩

/-- The tokens of a subtree are found among those of the tree. -/
theorem infix_phrase {n e : Expr} (mem : n ∈ e.nodes) : n.phrase.tokens <:+: e.phrase.tokens := by
  induction e with
  | number | constant | reference =>
      obtain rfl := List.mem_singleton.mp mem
      exact List.infix_rfl
  | call f args ih =>
      rcases List.mem_cons.mp mem with rfl | below
      · exact List.infix_rfl
      · rcases mem_nodesOf.mp below with ⟨a, arg, inside⟩
        have listed : a.phrase ∈ phrases args := by
          rw [phrases_eq_map]
          exact List.mem_map_of_mem arg
        have enclosed : Phrase.argumentTokens (phrases args) <:+: (call f args).phrase.tokens :=
          ⟨[.func f, .openParen], [.closeParen], rfl⟩
        exact ((ih a arg inside).trans (Phrase.infix_argumentTokens listed)).trans enclosed
  | neg operand ih =>
      rcases List.mem_cons.mp mem with rfl | below
      · exact List.infix_rfl
      · exact ((ih below).trans (infix_wrapped _ _)).trans (List.suffix_cons _ _).isInfix
  | binary left op right leftIh rightIh =>
      rcases List.mem_cons.mp mem with rfl | below
      · exact List.infix_rfl
      · rw [phrase, tokens_operation]
        rcases List.mem_append.mp below with before | after
        · exact ((leftIh before).trans (infix_wrapped _ _)).trans (List.prefix_append _ _).isInfix
        · exact (((rightIh after).trans (infix_wrapped _ _)).trans
            (List.suffix_cons _ _).isInfix).trans (List.suffix_append _ _).isInfix
  | withUnit operand u ih =>
      rcases List.mem_cons.mp mem with rfl | below
      · exact List.infix_rfl
      · exact ((ih below).trans (infix_wrapped _ _)).trans (List.prefix_append _ _).isInfix

/-- A tree that stacks units is printed with two units side by side. -/
theorem StacksUnits.not_singleUnits {e : Expr} (stacked : e.StacksUnits) :
    ¬ SingleUnits e.phrase.tokens := by
  rcases stacked with ⟨operand, u, v, mem⟩
  intro single
  have pair : [Token.unit u, Token.unit v] <:+: (withUnit (withUnit operand u) v).phrase.tokens :=
    ⟨(wrapped (operand.precedence < 5) operand.phrase).tokens, [], by
      simp [phrase, precedence, wrapped, Phrase.measured]⟩
  have chain := List.IsChain.infix single (pair.trans (infix_phrase mem))
  rw [List.isChain_pair] at chain
  have clash : true = false := chain rfl
  contradiction

end Expr

end Reckoner
