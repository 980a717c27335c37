import Reckoner.Proofs.Expr.Canonical
import Reckoner.Proofs.Grammar.Caps

/-!
# Heights of canonical forms

A tree grows when it is brought into canonical form, because an angle in degrees takes two more nodes
above it. At most every call of a function of an angle is such a place, so that the height is at most
tripled.
-/

namespace Reckoner.Expr

theorem maxHeight_append (before after : List Expr) :
    maxHeight (before ++ after) = max (maxHeight before) (maxHeight after) := by
  induction before with
  | nil => exact (Nat.zero_max _).symm
  | cons e es ih => rw [List.cons_append, maxHeight, maxHeight, ih, Nat.max_assoc]

theorem height_call_singleton (f : Func) (e : Expr) : (call f [e]).height = e.height + 1 := by
  rw [height, maxHeight, maxHeight, Nat.max_zero, Nat.add_comm]

theorem height_degreesToRadians (e : Expr) : e.degreesToRadians.height = e.height + 2 := by
  have := e.height_pos
  have angle : e.degreesToRadians.height = 1 + max (1 + max e.height 1) 1 := rfl
  omega

theorem height_canonicalCall (f : Func) (args : List Expr) :
    (canonicalCall f args).height = 1 + maxHeight args := by
  unfold canonicalCall
  split <;> rfl

/-- Bringing a tree into canonical form makes it at most three times as high, less two. A leaf stays
a leaf, and what is added to a node's height is at most two above the canonical forms below it. -/
theorem height_canonical_le (mode : AngleMode) (e : Expr) :
    (canonical mode e).height + 2 ≤ 3 * e.height := by
  induction e with
  | number | constant | reference => exact Nat.le_refl 3
  | call f args ih =>
      have angle : ∀ a ∈ args, (canonical mode a).height + 2 ≤ 3 * maxHeight args := by
        intro a mem
        have inner := ih a mem
        have low := Grammar.height_le_maxHeight mem
        omega
      have arguments : maxHeight (if readsDegrees mode f args then
          (args.map (canonical mode)).map degreesToRadians else args.map (canonical mode)) ≤
            3 * maxHeight args := by
        apply Grammar.maxHeight_le
        split
        · simp only [List.forall_mem_map, height_degreesToRadians]
          exact angle
        · simp only [List.forall_mem_map]
          exact fun a mem => Nat.le_trans (Nat.le_add_right _ 2) (angle a mem)
      rw [canonical, canonicalArguments_eq_map, height_canonicalCall, height]
      omega
  | neg operand ih =>
      rw [canonical, height, height]
      omega
  | binary left op right leftIh rightIh =>
      have whole : (canonical mode (binary left op right)).height =
          1 + max (canonical mode left).height (canonical mode right).height := rfl
      rw [whole, height]
      omega
  | withUnit operand u ih =>
      rw [height]
      cases u with
      | deg =>
          have whole := height_degreesToRadians (canonical mode operand)
          rw [canonical, whole]
          omega
      | rad =>
          rw [canonical]
          omega

end Reckoner.Expr
