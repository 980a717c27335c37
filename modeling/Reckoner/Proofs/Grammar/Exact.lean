import Reckoner.Proofs.Grammar.Sound

/-!
# The parser and the grammar agree

The parser returns exactly the trees that the grammar derives within the two caps, and everything
else is a failure to parse. Derived phrases are only ever refused as too deep.
-/

namespace Reckoner.Grammar

open Reckoner.Expr

/-- The grammar derives the tree from the tokens, no operand being enclosed by more than `maxDepth`
signs, exponents, groups and argument lists, and the tree being no taller than `maxDepth`. -/
def Spells (tokens : List Token) (tree : Expr) : Prop :=
  ∃ nesting, Derives .sum ⟨tokens, tree, nesting⟩ ∧ nesting ≤ maxDepth ∧ tree.height ≤ maxDepth

theorem parse_eq_ok_iff {tokens : List Token} {tree : Expr} :
    parse tokens = .ok tree ↔ Spells tokens tree := by
  constructor
  · intro done
    rcases derives_of_parse done with ⟨p, derived, fits, rfl, rfl⟩
    exact ⟨p.nesting, derived, Nat.le_of_lt_succ fits.1, fits.2⟩
  · rintro ⟨nesting, derived, shallow, low⟩
    rw [parse_of_derives derived]
    exact Phrase.within_of_fits ⟨Nat.lt_succ_of_le shallow, low⟩

/-- The parser accepts what the grammar derives within the caps, and fails to parse all else. -/
theorem parse_exact (tokens : List Token) :
    (∀ tree, parse tokens = .ok tree ↔ Spells tokens tree) ∧
      ((¬ ∃ tree, Spells tokens tree) ↔
        ∃ cause, (parse tokens).mapError CalcError.parseFailure = .error (.parseFailure cause)) := by
  constructor
  · intro tree
    exact parse_eq_ok_iff
  · cases done : parse tokens with
    | error cause =>
        constructor
        · intro _
          exact ⟨cause, rfl⟩
        · rintro _ ⟨tree, spelled⟩
          rw [parse_eq_ok_iff.mpr spelled] at done
          contradiction
    | ok tree =>
        constructor
        · intro underivable
          exact absurd ⟨tree, parse_eq_ok_iff.mp done⟩ underivable
        · rintro ⟨cause, failed⟩
          contradiction

end Reckoner.Grammar
