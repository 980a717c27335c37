import Reckoner.Proofs.Expr.CanonicalText
import Reckoner.Proofs.Expr.Height

/-!
# Places in expressions

A place in a tree is a context, that is, the tree with a hole there. Whether an angle is read as
degrees depends on the units in it, so that a unit which is written at a place changes the canonical
form of the tree around it exactly when an angle around the place held no unit before.
-/

namespace Reckoner

/-- A tree with a hole in place of one subtree. -/
inductive Context where
  | hole
  /-- The hole is in an argument, between those that stand before and after it. -/
  | argument (f : Func) (before : List Expr) (inner : Context) (after : List Expr)
  | neg (inner : Context)
  | leftOperand (inner : Context) (op : Operator) (right : Expr)
  | rightOperand (left : Expr) (op : Operator) (inner : Context)
  | withUnit (inner : Context) (u : AngleUnit)

namespace Context

open Reckoner.Expr

/-- The tree with `e` in the hole. -/
def fill : Context → Expr → Expr
  | hole, e => e
  | argument f before inner after, e => .call f (before ++ inner.fill e :: after)
  | neg inner, e => .neg (inner.fill e)
  | leftOperand inner op right, e => .binary (inner.fill e) op right
  | rightOperand left op inner, e => .binary left op (inner.fill e)
  | withUnit inner u, e => .withUnit (inner.fill e) u

/-! ## Units around a place -/

/-- A unit is written outside the hole. -/
def hasUnit : Context → Bool
  | hole => false
  | argument _ before inner after => anyHasUnit before || inner.hasUnit || anyHasUnit after
  | neg inner => inner.hasUnit
  | leftOperand inner _ right => inner.hasUnit || right.hasUnit
  | rightOperand left _ inner => left.hasUnit || inner.hasUnit
  | withUnit _ _ => true

/-- Every angle that the hole is in holds a unit outside the hole. -/
def Measured : Context → Prop
  | hole => True
  | argument f _ inner _ => (f.isTrig = true → inner.hasUnit = true) ∧ inner.Measured
  | neg inner | leftOperand inner _ _ | rightOperand _ _ inner | withUnit inner _ => inner.Measured

theorem anyHasUnit_append (before after : List Expr) :
    anyHasUnit (before ++ after) = (anyHasUnit before || anyHasUnit after) := by
  induction before with
  | nil => rfl
  | cons e es ih => rw [List.cons_append, anyHasUnit, anyHasUnit, ih, Bool.or_assoc]

@[simp]
theorem hasUnit_fill (place : Context) (e : Expr) :
    (place.fill e).hasUnit = (place.hasUnit || e.hasUnit) := by
  induction place with
  | hole => rfl
  | argument f before inner after ih =>
      rw [fill, Expr.hasUnit, anyHasUnit_append, anyHasUnit, ih, hasUnit]
      ac_rfl
  | neg inner ih => exact ih
  | leftOperand inner op right ih =>
      rw [fill, Expr.hasUnit, ih, hasUnit]
      ac_rfl
  | rightOperand left op inner ih =>
      rw [fill, Expr.hasUnit, ih, hasUnit]
      ac_rfl
  | withUnit inner u => rfl

/-! ## Canonical forms around a place -/

/-- A function of an angle has no other argument beside the one with the hole. -/
theorem argument_alone {f : Func} {before after : List Expr} {e : Expr} (trig : f.isTrig = true)
    (accepted : f.accepts (before ++ e :: after).length = true) : before = [] ∧ after = [] := by
  rcases exists_angle trig accepted with ⟨angle, alone⟩
  have count := congrArg List.length alone
  simp only [List.length_append, List.length_cons, List.length_nil] at count
  exact ⟨List.eq_nil_of_length_eq_zero (by omega), List.eq_nil_of_length_eq_zero (by omega)⟩

section

variable {bare measured : Expr}

/-- A unit at a place can only take degrees away from the angles around it. -/
theorem height_canonical_fill_le (noUnit : bare.hasUnit = false) (unit : measured.hasUnit = true)
    (same : canonical .deg measured = canonical .deg bare) {place : Context}
    (accepted : (place.fill bare).Every RootAccepted) :
    (canonical .deg (place.fill measured)).height ≤ (canonical .deg (place.fill bare)).height := by
  induction place with
  | hole => exact Nat.le_of_eq (congrArg height same)
  | argument f before inner after ih =>
      rcases every_call.mp accepted with ⟨count, each⟩
      have lower := ih (each _ (by simp))
      cases trig : f.isTrig with
      | true =>
          rcases argument_alone trig count with ⟨rfl, rfl⟩
          simp only [fill, List.nil_append, canonical_deg_call trig, height_call_singleton,
            hasUnit_fill, noUnit, unit, Bool.or_true, Bool.or_false, if_true]
          split
          · omega
          · rw [height_degreesToRadians]
            omega
      | false =>
          simp only [fill, canonical_call (Or.inr trig), height_canonicalCall, List.map_append,
            List.map_cons, maxHeight_append, maxHeight]
          omega
  | neg inner ih =>
      have lower := ih (every_neg.mp accepted).2
      simp only [fill, canonical, height]
      omega
  | leftOperand inner op right ih =>
      have lower := ih (every_binary.mp accepted).2.1
      simp only [fill, canonical, height]
      omega
  | rightOperand left op inner ih =>
      have lower := ih (every_binary.mp accepted).2.2
      simp only [fill, canonical, height]
      omega
  | withUnit inner u ih =>
      have lower := ih (every_withUnit.mp accepted).2
      cases u with
      | deg =>
          simp only [fill, canonical, height_degreesToRadians]
          omega
      | rad => exact lower

/-- A unit at a place leaves the canonical form of the tree as it is exactly when every angle around
the place holds a unit elsewhere. The angle next to the place that does not do so would lose its own
degrees, and nothing further inside can make up for them. -/
theorem canonical_fill_eq_iff (noUnit : bare.hasUnit = false) (unit : measured.hasUnit = true)
    (same : canonical .deg measured = canonical .deg bare) {place : Context}
    (accepted : (place.fill bare).Every RootAccepted) :
    canonical .deg (place.fill measured) = canonical .deg (place.fill bare) ↔ place.Measured := by
  induction place with
  | hole => exact iff_of_true same trivial
  | argument f before inner after ih =>
      rcases every_call.mp accepted with ⟨count, each⟩
      have around := each (inner.fill bare) (by simp)
      cases trig : f.isTrig with
      | true =>
          rcases argument_alone trig count with ⟨rfl, rfl⟩
          simp only [fill, List.nil_append, canonical_deg_call trig, hasUnit_fill, noUnit, unit,
            Bool.or_true, Bool.or_false, if_true, call.injEq, List.cons.injEq, true_and, and_true]
          cases elsewhere : inner.hasUnit with
          | true => simp [Measured, elsewhere, ih around]
          | false =>
              have lower := height_canonical_fill_le noUnit unit same around
              have higher := height_degreesToRadians (canonical .deg (inner.fill bare))
              refine iff_of_false ?_ ?_
              · intro lost
                rw [lost] at lower
                simp only [Bool.false_eq_true, if_false] at lower
                omega
              · rintro ⟨holds, _⟩
                rw [holds trig] at elsewhere
                contradiction
      | false =>
          simp only [fill, canonical_call (Or.inr trig), canonicalCall_eq_iff, List.map_append,
            List.map_cons, List.append_cancel_left_eq, List.cons.injEq, and_true, ih around]
          simp [Measured, trig]
  | neg inner ih =>
      simp only [fill, canonical, Expr.neg.injEq]
      exact ih (every_neg.mp accepted).2
  | leftOperand inner op right ih =>
      simp only [fill, canonical, binary.injEq, and_true]
      exact ih (every_binary.mp accepted).2.1
  | rightOperand left op inner ih =>
      simp only [fill, canonical, binary.injEq, true_and]
      exact ih (every_binary.mp accepted).2.2
  | withUnit inner u ih =>
      have inner := ih (every_withUnit.mp accepted).2
      cases u with
      | deg =>
          simp only [fill, canonical, degreesToRadians, binary.injEq, and_true]
          exact inner
      | rad => exact inner

end

/-- In every tree that is read, degrees may be written out after an angle that holds no unit without
changing the canonical form in degree mode exactly when the angles around it hold units already. -/
theorem canonical_fill_degrees_iff {tokens : List Token} {place : Context} {f : Func} {angle : Expr}
    (parsed : parse tokens = .ok (place.fill (.call f [angle]))) (trig : f.isTrig = true)
    (noUnit : angle.hasUnit = false) :
    canonical .deg (place.fill (.call f [.withUnit angle .deg])) =
        canonical .deg (place.fill (.call f [angle])) ↔
      place.Measured := by
  have bare : (call f [angle]).hasUnit = false := by
    rw [Expr.hasUnit, anyHasUnit, noUnit]
    rfl
  have same : canonical .deg (call f [.withUnit angle .deg]) = canonical .deg (call f [angle]) := by
    rw [canonical_deg_call trig, canonical_deg_call trig, noUnit]
    rfl
  exact canonical_fill_eq_iff bare rfl same (Grammar.accepted_of_parse parsed)

/-- The theorem applies to an angle inside another one, which holds a unit elsewhere. -/
theorem canonical_fill_degrees_sum :
    let place := argument .sin [] (leftOperand hole .add (.withUnit (.constant .e) .deg)) []
    let angle := Expr.constant .pi
    parse (place.fill (.call .cos [angle])).phrase.tokens = .ok (place.fill (.call .cos [angle])) ∧
      canonical .deg (place.fill (.call .cos [.withUnit angle .deg])) =
        canonical .deg (place.fill (.call .cos [angle])) := by
  intro place angle
  have well : (place.fill (.call .cos [angle])).WellFormed := by
    have accepted : Func.accepts .sin 1 = true ∧ Func.accepts .cos 1 = true := ⟨rfl, rfl⟩
    simp [place, angle, fill, WellFormed, RootWellFormed, accepted]
  have single : ¬ (place.fill (.call .cos [angle])).StacksUnits := by
    simp [place, angle, fill, StacksUnits, nodes, nodesOf]
  have parsed := parse_phrase_of_fits well single (by decide)
  exact ⟨parsed, (canonical_fill_degrees_iff parsed rfl rfl).mpr ⟨fun _ => rfl, trivial⟩⟩

/-- An inner angle alone may not have its degrees written out: the angle around it holds a unit then,
and is no longer read as degrees. -/
theorem canonical_fill_degrees_ne :
    let place := argument .sin [] hole []
    let angle := Expr.number ⟨0x404e000000000000⟩
    parse [.func .sin, .openParen, .func .cos, .openParen, .number ⟨0x404e000000000000⟩,
        .closeParen, .closeParen] = .ok (place.fill (.call .cos [angle])) ∧
      Func.isTrig .cos = true ∧ angle.hasUnit = false ∧
        canonical .deg (place.fill (.call .cos [.withUnit angle .deg])) ≠
          canonical .deg (place.fill (.call .cos [angle])) := by
  intro place angle
  have well : (place.fill (.call .cos [angle])).WellFormed := by
    have accepted : Func.accepts .sin 1 = true ∧ Func.accepts .cos 1 = true := ⟨rfl, rfl⟩
    have range : Binary64.isFinite ⟨0x404e000000000000⟩ = true ∧
        Binary64.isNegative ⟨0x404e000000000000⟩ = false := by decide
    simpa [place, angle, fill, WellFormed, RootWellFormed, accepted] using range
  have single : ¬ (place.fill (.call .cos [angle])).StacksUnits := by
    simp [place, angle, fill, StacksUnits, nodes, nodesOf]
  refine ⟨parse_phrase_of_fits well single (by decide), rfl, rfl, ?_⟩
  intro same
  exact absurd (congrArg height same) (by decide)

end Context

end Reckoner
