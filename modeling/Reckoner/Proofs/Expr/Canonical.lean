import Reckoner.Expr.Canonical
import Reckoner.Proofs.Expr.Nodes

/-!
# Canonical trees

The canonical form of a tree has no unit and no logarithm without a base, whatever the tree. Bringing
a tree of that kind into canonical form again does not change it, unless its angles are read as
degrees a second time.
-/

namespace Reckoner.Expr

/-! ## Conditions on canonical trees -/

/-- At the canonical form of a root that satisfies `P`, and at the nodes that canonical forms are
built with, `Q` holds. -/
structure Carries (P Q : Expr → Prop) : Prop where
  number : ∀ x, P (number x) → Q (number x)
  constant : ∀ c, Q (constant c)
  reference : ∀ f, Q (reference f)
  call : ∀ f args (arguments : List Expr), P (call f args) → arguments.length = args.length →
    Q (canonicalCall f arguments)
  neg : ∀ operand, Q (neg operand)
  binary : ∀ left op right, Q (binary left op right)
  halfTurn : Q (Expr.number halfTurn)

namespace Carries

variable {P Q : Expr → Prop}

theorem degreesToRadians (carries : Carries P Q) {e : Expr} (every : e.Every Q) :
    (degreesToRadians e).Every Q := by
  refine every_binary.mpr ⟨carries.binary _ _ _, every_binary.mpr ⟨carries.binary _ _ _, every, ?_⟩, ?_⟩
  · exact every_constant.mpr (carries.constant _)
  · exact every_number.mpr carries.halfTurn

theorem every_canonicalCall {f : Func} {arguments : List Expr}
    (root : Q (canonicalCall f arguments)) (each : ∀ a ∈ arguments, a.Every Q) :
    (canonicalCall f arguments).Every Q := by
  unfold canonicalCall at root ⊢
  split
  · rename_i decimal
    rw [if_pos decimal] at root
    exact every_call.mpr ⟨root, each⟩
  · rename_i other
    rw [if_neg other] at root
    exact every_call.mpr ⟨root, each⟩

/-- What holds of the nodes of a tree is carried to the nodes of its canonical form. -/
theorem canonical (carries : Carries P Q) (mode : AngleMode) {e : Expr} (every : e.Every P) :
    (canonical mode e).Every Q := by
  induction e with
  | number x => exact every_number.mpr (carries.number x (every_number.mp every))
  | constant c => exact every_constant.mpr (carries.constant c)
  | reference f => exact every_reference.mpr (carries.reference f)
  | call f args ih =>
      rcases every_call.mp every with ⟨root, each⟩
      have arguments : ∀ a ∈ args.map (Expr.canonical mode), a.Every Q := by
        intro a mem
        rcases List.mem_map.mp mem with ⟨arg, inside, rfl⟩
        exact ih arg inside (each arg inside)
      simp only [Expr.canonical, canonicalArguments_eq_map]
      split
      · apply every_canonicalCall (carries.call f args _ root (by simp))
        intro a mem
        rcases List.mem_map.mp mem with ⟨angle, inside, rfl⟩
        exact carries.degreesToRadians (arguments angle inside)
      · exact every_canonicalCall (carries.call f args _ root (by simp)) arguments
  | neg operand ih => exact every_neg.mpr ⟨carries.neg _, ih (every_neg.mp every).2⟩
  | binary left op right leftIh rightIh =>
      rcases every_binary.mp every with ⟨_, before, after⟩
      exact every_binary.mpr ⟨carries.binary _ _ _, leftIh before, rightIh after⟩
  | withUnit operand u ih =>
      have inner := ih (every_withUnit.mp every).2
      cases u with
      | deg => exact carries.degreesToRadians inner
      | rad => exact inner

end Carries

/-! ## Well-formed trees -/

theorem carries_wellFormed : Carries RootWellFormed RootWellFormed where
  number _ range := range
  constant _ := trivial
  reference _ := trivial
  call f args arguments accepted same := by
    unfold canonicalCall
    split
    · rename_i decimal
      rw [RootWellFormed, decimal.2]
      rfl
    · rwa [RootWellFormed, same]
  neg _ := trivial
  binary _ _ _ := trivial
  halfTurn := ⟨by decide, by decide⟩

theorem WellFormed.canonical (mode : AngleMode) {e : Expr} (well : e.WellFormed) :
    (canonical mode e).WellFormed :=
  carries_wellFormed.canonical mode well

/-! ## Canonical trees -/

/-- A root that canonical trees may have: no unit, and no logarithm without a base. -/
def RootCanonical : Expr → Prop
  | withUnit .. => False
  | call f args => ¬ (f = .log ∧ args.length = 1)
  | _ => True

/-- There is no unit and no logarithm without a base. -/
def IsCanonical (e : Expr) : Prop :=
  e.Every RootCanonical

theorem carries_canonical : Carries (fun _ => True) RootCanonical where
  number _ _ := trivial
  constant _ := trivial
  reference _ := trivial
  call f args arguments _ _ := by
    unfold canonicalCall
    split
    · rintro ⟨clash, _⟩
      contradiction
    · rename_i other
      exact other
  neg _ := trivial
  binary _ _ _ := trivial
  halfTurn := trivial

/-- Canonical forms are canonical, whatever the tree. -/
theorem isCanonical_canonical (mode : AngleMode) (e : Expr) : (canonical mode e).IsCanonical :=
  carries_canonical.canonical mode fun _ _ => trivial

theorem IsCanonical.not_stacksUnits {e : Expr} (canonical : e.IsCanonical) : ¬ e.StacksUnits := by
  rintro ⟨operand, u, v, mem⟩
  exact canonical _ mem

/-- The root is no call of a function of an angle. -/
def RootNotTrig : Expr → Prop
  | call f _ => f.isTrig = false
  | _ => True

/-- No function of an angle is called. -/
def NotTrig (e : Expr) : Prop :=
  e.Every RootNotTrig

theorem carries_notTrig : Carries RootNotTrig RootNotTrig where
  number _ _ := trivial
  constant _ := trivial
  reference _ := trivial
  call f args arguments root _ := by
    unfold canonicalCall
    split
    · rfl
    · exact root
  neg _ := trivial
  binary _ _ _ := trivial
  halfTurn := trivial

theorem NotTrig.canonical (mode : AngleMode) {e : Expr} (plain : e.NotTrig) :
    (canonical mode e).NotTrig :=
  carries_notTrig.canonical mode plain

/-! ## Calls -/

theorem readsDegrees_eq_false {mode : AngleMode} {f : Func} {args : List Expr}
    (radians : mode = .rad ∨ f.isTrig = false) : readsDegrees mode f args = false := by
  rcases radians with rfl | plain
  · rfl
  · rw [readsDegrees, plain, Bool.and_false, Bool.false_and]

/-- In radian mode, and where no argument is an angle, only the arguments change. -/
theorem canonical_call {mode : AngleMode} {f : Func} {args : List Expr}
    (radians : mode = .rad ∨ f.isTrig = false) :
    canonical mode (call f args) = canonicalCall f (args.map (canonical mode)) := by
  simp only [canonical, canonicalArguments_eq_map, readsDegrees_eq_false radians]
  rfl

/-- Only a logarithm changes its name. -/
theorem canonicalCall_of_trig {f : Func} (trig : f.isTrig = true) (arguments : List Expr) :
    canonicalCall f arguments = call f arguments := by
  apply if_neg
  rintro ⟨rfl, _⟩
  contradiction

theorem canonicalCall_eq_iff {f : Func} {xs ys : List Expr} :
    canonicalCall f xs = canonicalCall f ys ↔ xs = ys := by
  constructor
  · intro same
    unfold canonicalCall at same
    split at same <;> split at same <;> cases same <;> rfl
  · intro same
    rw [same]

/-- In degree mode an angle is read as degrees if it holds no unit. -/
theorem canonical_deg_call {f : Func} (trig : f.isTrig = true) (angle : Expr) :
    canonical .deg (call f [angle]) =
      call f [if angle.hasUnit then canonical .deg angle
        else (canonical .deg angle).degreesToRadians] := by
  have reads : readsDegrees .deg f [angle] = !angle.hasUnit := by
    simp [readsDegrees, trig]
  simp only [canonical, canonicalArguments_eq_map, reads, canonicalCall_of_trig trig]
  cases angle.hasUnit <;> rfl

/-- A function of an angle is called with one argument. -/
theorem exists_angle {f : Func} {args : List Expr} (trig : f.isTrig = true)
    (accepted : f.accepts args.length = true) : ∃ angle, args = [angle] := by
  apply List.length_eq_one_iff.mp
  cases f <;> simp_all [Func.isTrig, Func.accepts]

/-! ## Bringing a tree into canonical form again -/

/-- Canonical trees are their own canonical forms when no angle in them is read as degrees. -/
theorem IsCanonical.canonical_eq_self {mode : AngleMode} {e : Expr} (reduced : e.IsCanonical)
    (radians : mode = .rad ∨ e.NotTrig) : canonical mode e = e := by
  induction e with
  | number | constant | reference => rfl
  | call f args ih =>
      rcases every_call.mp reduced with ⟨based, each⟩
      have plain : mode = .rad ∨ f.isTrig = false := radians.imp_right fun all => (every_call.mp all).1
      have same : args.map (canonical mode) = args := by
        refine (List.map_congr_left fun a mem => ?_).trans (List.map_id args)
        exact ih a mem (each a mem) (radians.imp_right fun all => (every_call.mp all).2 a mem)
      rw [canonical_call plain, same]
      exact if_neg based
  | neg operand ih =>
      rw [canonical, ih (every_neg.mp reduced).2 (radians.imp_right fun all => (every_neg.mp all).2)]
  | binary left op right leftIh rightIh =>
      rcases every_binary.mp reduced with ⟨_, first, second⟩
      rw [canonical, leftIh first (radians.imp_right fun all => (every_binary.mp all).2.1),
        rightIh second (radians.imp_right fun all => (every_binary.mp all).2.2)]
  | withUnit operand u => exact absurd (every_withUnit.mp reduced).1 id

end Reckoner.Expr
