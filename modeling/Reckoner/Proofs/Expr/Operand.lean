import Reckoner.Expr.Canonical
import Reckoner.Expr.Value
import Reckoner.Proofs.Grammar

/-!
# Operands

Operands are evaluated before their operator and from left to right, and functions that are only
named are no numbers. A tree that denotes a number therefore has a number or a constant as its
leftmost leaf, and the phrase that spells it has one among its tokens.
-/

namespace Reckoner

/-- A number or a constant. -/
def Token.isOperand : Token → Bool
  | number _ | constant _ => true
  | _ => false

namespace Expr

variable {library : Elementary} {e other : Expr} {mode : AngleMode}

/-- The tree denotes a number. -/
def Denotes (library : Elementary) (e : Expr) : Prop :=
  ∃ x, e.value library = .ok (.real x)

theorem not_denotes_reference (f : Func) : ¬ (reference f).Denotes library := by
  rintro ⟨x, value⟩
  cases value

/-- An operand that takes part in arithmetic denotes a number. -/
theorem denotes_of_bind {α : Type} {next : Binary64 → Except CalcError α} {a : α}
    (value : ((e.value library).bind fun v => v.toReal.bind next) = .ok a) :
    e.Denotes library := by
  rcases bind_eq_ok_iff.mp value with ⟨v, denoted, rest⟩
  rcases bind_eq_ok_iff.mp rest with ⟨x, real, _⟩
  cases v with
  | real x => exact ⟨x, denoted⟩
  | callable f => cases real

theorem Denotes.left {op : Operator} (denotes : (binary e op other).Denotes library) :
    e.Denotes library := by
  rcases denotes with ⟨x, value⟩
  exact denotes_of_bind value

theorem Denotes.negated (denotes : (neg e).Denotes library) : e.Denotes library := by
  rcases denotes with ⟨x, value⟩
  exact denotes_of_bind value

theorem Denotes.angle (denotes : e.degreesToRadians.Denotes library) : e.Denotes library :=
  denotes.left.left

theorem Denotes.argument {f : Func} {args : List Expr}
    (denotes : (call f (e :: args)).Denotes library) : e.Denotes library := by
  rcases denotes with ⟨x, value⟩
  rcases bind_eq_ok_iff.mp value with ⟨xs, reals, _⟩
  exact denotes_of_bind reals

theorem Denotes.of_canonicalCall {f : Func} {args : List Expr}
    (denotes : (canonicalCall f (e :: args)).Denotes library) : e.Denotes library := by
  unfold canonicalCall at denotes
  split at denotes
  · exact denotes.argument
  · exact denotes.argument

/-- The first argument of a call that denotes a number does so itself. -/
theorem Denotes.firstArgument {f : Func} {args : List Expr}
    (denotes : (canonical mode (call f (e :: args))).Denotes library) :
    (canonical mode e).Denotes library := by
  rw [canonical, canonicalArguments_eq_map, List.map_cons] at denotes
  split at denotes
  · rw [List.map_cons] at denotes
    exact denotes.of_canonicalCall.angle
  · exact denotes.of_canonicalCall

theorem Denotes.measured {u : AngleUnit}
    (denotes : (canonical mode (withUnit e u)).Denotes library) :
    (canonical mode e).Denotes library := by
  cases u with
  | deg => exact denotes.angle
  | rad => exact denotes

end Expr

namespace Grammar

open Reckoner.Expr

/-- A phrase that denotes a number has a number or a constant among its tokens. -/
theorem Derives.exists_operand {c : Category} {p : Phrase} {mode : AngleMode}
    {library : Elementary} (derived : Derives c p)
    (denotes : (canonical mode p.tree).Denotes library) :
    ∃ token ∈ p.tokens, token.isOperand = true := by
  induction derived with
  | number | constant => exact ⟨_, List.mem_cons_self, rfl⟩
  | reference f => exact absurd denotes (not_denotes_reference f)
  | @call f args accepted each ih =>
      cases args with
      | nil => cases f <;> contradiction
      | cons a args =>
          have first : a ∈ a :: args := List.mem_cons_self
          rcases ih a first denotes.firstArgument with ⟨token, mem, operand⟩
          have inside := (Phrase.infix_argumentTokens first).subset mem
          exact ⟨token, by simp [Phrase.call, inside], operand⟩
  | group _ ih =>
      rcases ih denotes with ⟨token, mem, operand⟩
      exact ⟨token, by simp [Phrase.grouped, mem], operand⟩
  | bare _ ih | base _ ih | unsigned _ ih | factor _ ih | term _ ih => exact ih denotes
  | measured u _ ih =>
      rcases ih denotes.measured with ⟨token, mem, operand⟩
      exact ⟨token, List.mem_append_left _ mem, operand⟩
  | negated _ ih =>
      rcases ih denotes.negated with ⟨token, mem, operand⟩
      exact ⟨token, List.mem_cons_of_mem _ mem, operand⟩
  | affirmed _ ih =>
      rcases ih denotes with ⟨token, mem, operand⟩
      exact ⟨token, List.mem_cons_of_mem _ mem, operand⟩
  | raised _ _ ih | times _ _ ih | divided _ _ ih | juxtaposed _ _ _ _ ih | plus _ _ ih
  | minus _ _ ih =>
      rcases ih denotes.left with ⟨token, mem, operand⟩
      exact ⟨token, List.mem_append_left _ mem, operand⟩

end Grammar

end Reckoner
