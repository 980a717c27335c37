import Reckoner.Proofs.Expr.Recursion
import Reckoner.Proofs.Number.NotFinite
import Reckoner.Proofs.Number.Value

/-!
# Operations beyond finite numbers

All operations carry an undefined operand but powers, which are one for an exponent of zero and for
a base of one, whatever the other operand is. An infinite operand is carried by all but quotients,
powers, the exponential function and logarithms to an infinite base.
-/

namespace Reckoner

/-- The number one. -/
def Binary64.one : Binary64 :=
  ⟨0x3ff0000000000000⟩

/-- The special values that the C standard gives the functions of its library. -/
structure Elementary.IsStandard (library : Elementary) : Prop where
  /-- A function of an undefined number is undefined. -/
  undefined : ∀ f ∈ [library.sin, library.cos, library.tan, library.exp, library.ln, library.log10],
    ∀ x : Binary64, x.isUndefined = true → (f x).isUndefined = true
  /-- An infinite angle has no sine, cosine or tangent. -/
  angle : ∀ f ∈ [library.sin, library.cos, library.tan],
    ∀ x : Binary64, x.rank = Binary64.infinityRank → (f x).isUndefined = true
  /-- The logarithm of plus infinity is infinite. -/
  infinite : ∀ f ∈ [library.ln, library.log10],
    ∀ x : Binary64, x.rank = Binary64.infinityRank → x.isNegative = false →
      (f x).rank = Binary64.infinityRank
  /-- The logarithm of zero is infinite. -/
  ln_zero : ∀ x : Binary64, x.rank = 0 → (library.ln x).rank = Binary64.infinityRank
  /-- The logarithm of one is zero. -/
  ln_one : (library.ln .one).rank = 0
  /-- The logarithm of a positive number is finite. -/
  ln_finite : ∀ x : Binary64, x.isFinite = true → x.Positive → (library.ln x).isFinite = true
  /-- Every number to the power of zero is one, an undefined number among them. -/
  pow_zero : ∀ x y : Binary64, y.rank = 0 → library.pow x y = .one
  /-- Every power of one is one, that to an undefined exponent among them. -/
  one_pow : ∀ y : Binary64, library.pow .one y = .one
  /-- Other powers of undefined numbers are undefined. -/
  pow_undefined : ∀ x y : Binary64, x.isUndefined = true ∨ y.isUndefined = true → x ≠ .one →
    y.rank ≠ 0 → (library.pow x y).isUndefined = true

namespace Binary64

variable {x : Binary64}

theorem ne_one_of_isUndefined (undefined : x.isUndefined = true) : x ≠ .one := by
  rintro rfl
  exact absurd undefined (by decide)

theorem rank_ne_zero_of_isUndefined (undefined : x.isUndefined = true) : x.rank ≠ 0 := by
  intro zero
  rw [isUndefined, zero] at undefined
  exact absurd undefined (by decide)

theorem Positive.rank_ne_zero (positive : x.Positive) : x.rank ≠ 0 := by
  intro zero
  rcases positive with ⟨_, above⟩ | rfl
  · have magnitude := abs_value x
    rw [zero, magnitude_eq_zero_iff.mpr rfl, abs_eq_zero] at magnitude
    exact above.ne' magnitude
  · exact absurd zero (by decide)

theorem isNegative_of_not_isBelowZero (infinite : x.rank = infinityRank)
    (above : x.isBelowZero = false) : x.isNegative = false := by
  have large : 0 < infinityRank := by decide
  have defined : x.isUndefined = false := by
    rw [isUndefined, infinite]
    exact decide_eq_false (Nat.lt_irrefl _)
  rw [isBelowZero, defined, infinite, decide_eq_true large] at above
  simpa using above

end Binary64

namespace Elementary

/-- The function with the given values at finite and at infinite numbers. -/
def extended (finite infinite : Binary64 → Binary64) (x : Binary64) : Binary64 :=
  if x.isUndefined then .undefined else if x.isFinite then finite x else infinite x

/-- A library that knows the special values, and the logarithm of five. -/
def coarse : Elementary where
  sin := extended (fun _ => ⟨0⟩) fun _ => .undefined
  cos := extended (fun _ => .one) fun _ => .undefined
  tan := extended (fun _ => ⟨0⟩) fun _ => .undefined
  exp := extended (fun _ => .one) fun x => if x.isNegative then ⟨0⟩ else x
  ln := extended
    (fun x =>
      if x.rank = 0 then .ofRank true Binary64.infinityRank
      else if x = ⟨0x4014000000000000⟩ then ⟨0x3ff9c041f7ed8d33⟩
      else ⟨0⟩)
    fun x => if x.isNegative then .undefined else x
  log10 := extended
    (fun x => if x.rank = 0 then .ofRank true Binary64.infinityRank else ⟨0⟩)
    fun x => if x.isNegative then .undefined else x
  pow x y :=
    if y.rank = 0 ∨ x = .one then .one
    else if x.isUndefined || y.isUndefined then .undefined
    else .one

section

variable {finite infinite : Binary64 → Binary64} {x : Binary64}

theorem extended_of_isUndefined (undefined : x.isUndefined = true) :
    (extended finite infinite x).isUndefined = true := by
  rw [extended, if_pos undefined]
  rfl

theorem extended_of_rank (infinity : x.rank = Binary64.infinityRank) :
    extended finite infinite x = infinite x := by
  have defined : ¬ x.isUndefined = true := by simp [Binary64.isUndefined, infinity]
  have nonfinite : ¬ x.isFinite = true := by simp [Binary64.isFinite, infinity]
  rw [extended, if_neg defined, if_neg nonfinite]

theorem extended_of_isFinite (number : x.isFinite = true) :
    extended finite infinite x = finite x := by
  have defined : ¬ x.isUndefined = true := by
    intro undefined
    rw [Binary64.isFinite_of_isUndefined undefined] at number
    contradiction
  rw [extended, if_neg defined, if_pos number]

end

theorem isStandard_coarse : coarse.IsStandard where
  undefined := by
    intro f mem x undefined
    simp only [coarse, List.mem_cons, List.not_mem_nil, or_false] at mem
    rcases mem with rfl | rfl | rfl | rfl | rfl | rfl <;> exact extended_of_isUndefined undefined
  angle := by
    intro f mem x infinity
    simp only [coarse, List.mem_cons, List.not_mem_nil, or_false] at mem
    rcases mem with rfl | rfl | rfl <;> rw [extended_of_rank infinity] <;> rfl
  infinite := by
    intro f mem x infinity positive
    simp only [coarse, List.mem_cons, List.not_mem_nil, or_false] at mem
    rcases mem with rfl | rfl <;>
      rw [extended_of_rank infinity, positive, if_neg Bool.false_ne_true, infinity]
  ln_zero x zero := by
    have finite : x.isFinite = true := by
      rw [Binary64.isFinite, zero]
      decide
    change (extended _ _ x).rank = _
    rw [extended_of_isFinite finite, if_pos zero]
    rfl
  ln_one := by decide
  ln_finite x finite positive := by
    change (extended _ _ x).isFinite = true
    rw [extended_of_isFinite finite, if_neg positive.rank_ne_zero]
    split <;> rfl
  pow_zero x y zero := if_pos (.inl zero)
  one_pow y := if_pos (.inr rfl)
  pow_undefined x y undefined base exponent := by
    have other : ¬ (y.rank = 0 ∨ x = .one) := not_or.mpr ⟨exponent, base⟩
    have either : (x.isUndefined || y.isUndefined) = true := Bool.or_eq_true_iff.mpr undefined
    change (if y.rank = 0 ∨ x = .one then Binary64.one else _).isUndefined = true
    rw [if_neg other, if_pos either]
    rfl

end Elementary

variable {library : Elementary}

/-! ## Operations on numbers -/

/-- The logarithm of a number that is not finite is not finite. -/
theorem Elementary.IsStandard.isFinite_logarithm (standard : library.IsStandard)
    {f : Binary64 → Binary64} (logarithm : f ∈ [library.ln, library.log10]) {x : Binary64}
    (nonfinite : x.isFinite = false) (above : x.isBelowZero = false) : (f x).isFinite = false := by
  rcases Binary64.isFinite_eq_false_iff.mp nonfinite with undefined | infinite
  · have listed : f ∈ [library.sin, library.cos, library.tan, library.exp, library.ln,
        library.log10] := by
      simp only [List.mem_cons, List.not_mem_nil, or_false] at logarithm ⊢
      tauto
    exact Binary64.isFinite_of_isUndefined (standard.undefined f listed x undefined)
  · have sign := Binary64.isNegative_of_not_isBelowZero infinite above
    exact Binary64.isFinite_of_rank (standard.infinite f logarithm x infinite sign)

theorem eq_ok_of_unlessNegative {x v result : Binary64} {what : ComplexValue}
    (applied : unlessNegative x what result = .ok v) : x.isBelowZero = false ∧ v = result := by
  unfold unlessNegative at applied
  split at applied
  · contradiction
  · rename_i above
    cases applied
    exact ⟨Bool.eq_false_iff.mpr above, rfl⟩

theorem Func.log_apply_eq_ok {x base v : Binary64}
    (applied : Func.log.apply library [x, base] = .ok v) :
    x.isBelowZero = false ∧ base.isBelowZero = false ∧ v = library.ln x / library.ln base := by
  change (if x.isBelowZero || base.isBelowZero then _ else _) = _ at applied
  split at applied
  · contradiction
  · rename_i above
    rw [Bool.or_eq_true, not_or, Bool.not_eq_true, Bool.not_eq_true] at above
    cases applied
    exact ⟨above.1, above.2, rfl⟩

namespace Func

variable {f : Func} {xs : List Binary64} {x v : Binary64}

/-- A function with all its arguments is a logarithm to a base, or a function of one number. -/
theorem arity_cases (count : xs.length = f.arity) :
    (f = .log ∧ ∃ a base, xs = [a, base]) ∨ f ≠ .log ∧ ∃ a, xs = [a] := by
  by_cases log : f = .log
  · rw [arity, if_pos log, List.length_eq_two] at count
    exact .inl ⟨log, count⟩
  · rw [arity, if_neg log, List.length_eq_one_iff] at count
    exact .inr ⟨log, count⟩

/-- Functions carry undefined arguments. -/
theorem isUndefined_apply (standard : library.IsStandard) (count : xs.length = f.arity)
    (mem : x ∈ xs) (undefined : x.isUndefined = true) (applied : f.apply library xs = .ok v) :
    v.isUndefined = true := by
  rcases arity_cases count with ⟨rfl, a, base, rfl⟩ | ⟨single, a, rfl⟩
  · rcases log_apply_eq_ok applied with ⟨_, _, rfl⟩
    have ln := standard.undefined library.ln (by simp)
    apply Binary64.isUndefined_div
    rcases List.mem_pair.mp mem with rfl | rfl
    · exact .inl (ln _ undefined)
    · exact .inr (ln _ undefined)
  · obtain rfl := List.mem_singleton.mp mem
    cases f with
    | sin | cos | tan | exp =>
        cases applied
        exact standard.undefined _ (by simp) _ undefined
    | sqrt =>
        rw [(eq_ok_of_unlessNegative applied).2]
        exact Binary64.isUndefined_sqrt undefined
    | ln | log10 =>
        rw [(eq_ok_of_unlessNegative applied).2]
        exact standard.undefined _ (by simp) _ undefined
    | log => contradiction

/-- Functions carry infinite arguments, but for the exponential function and for bases of logarithms
of finite numbers. -/
theorem isFinite_apply (standard : library.IsStandard) (count : xs.length = f.arity)
    (mem : x ∈ xs) (nonfinite : x.isFinite = false) (applied : f.apply library xs = .ok v) :
    v.isFinite = false ∨
      f = .exp ∨ f = .log ∧ ∃ a, a.isFinite = true ∧ xs = [a, x] := by
  rcases Binary64.isFinite_eq_false_iff.mp nonfinite with undefined | infinite
  · exact .inl (Binary64.isFinite_of_isUndefined
      (isUndefined_apply standard count mem undefined applied))
  rcases arity_cases count with ⟨rfl, a, base, rfl⟩ | ⟨single, a, rfl⟩
  · cases argument : a.isFinite with
    | true =>
        rcases List.mem_pair.mp mem with rfl | rfl
        · rw [argument] at nonfinite
          contradiction
        · exact .inr (.inr ⟨rfl, a, argument, rfl⟩)
    | false =>
        rcases log_apply_eq_ok applied with ⟨above, _, rfl⟩
        exact .inl (Binary64.isFinite_div (standard.isFinite_logarithm (by simp) argument above))
  · obtain rfl := List.mem_singleton.mp mem
    cases f with
    | sin | cos | tan =>
        cases applied
        exact .inl (Binary64.isFinite_of_isUndefined (standard.angle _ (by simp) _ infinite))
    | exp => exact .inr (.inl rfl)
    | sqrt =>
        rw [(eq_ok_of_unlessNegative applied).2]
        exact .inl (Binary64.isFinite_sqrt nonfinite)
    | ln | log10 =>
        rcases eq_ok_of_unlessNegative applied with ⟨above, rfl⟩
        exact .inl (standard.isFinite_logarithm (by simp) nonfinite above)
    | log => contradiction

/-- A logarithm whose argument is not positive, or whose base is not positive or is one, has no
finite value, unless the base is zero below a positive argument. -/
theorem isFinite_log {base : Binary64} (standard : library.IsStandard)
    (undefined : ¬ x.Positive ∨ ¬ base.Positive ∨ base = .one)
    (applied : Func.log.apply library [x, base] = .ok v) :
    v.isFinite = false ∨ x.isFinite = true ∧ x.Positive ∧ base.rank = 0 := by
  rcases log_apply_eq_ok applied with ⟨above, baseAbove, rfl⟩
  have ln := standard.undefined library.ln (by simp)
  have notNegative : ∀ {y : Binary64}, y.isBelowZero = false → ¬ y.Negative := by
    intro y above negative
    rw [Binary64.isBelowZero_iff.mpr negative] at above
    contradiction
  by_cases positive : x.Positive
  · rcases undefined.resolve_left (not_not.mpr positive) with notPositive | rfl
    · rcases Binary64.not_positive_cases notPositive with noNumber | zero | negative
      · exact .inl (Binary64.isFinite_of_isUndefined
          (Binary64.isUndefined_div (.inr (ln _ noNumber))))
      · rcases positive with ⟨finite, more⟩ | rfl
        · exact .inr ⟨finite, .inl ⟨finite, more⟩, zero⟩
        · exact .inl (Binary64.isFinite_div
            (standard.isFinite_logarithm (by simp) (by decide) above))
      · exact absurd negative (notNegative baseAbove)
    · exact .inl (Binary64.isFinite_div_zero standard.ln_one)
  · left
    rcases Binary64.not_positive_cases positive with noNumber | zero | negative
    · exact Binary64.isFinite_of_isUndefined (Binary64.isUndefined_div (.inl (ln _ noNumber)))
    · exact Binary64.isFinite_div (Binary64.isFinite_of_rank (standard.ln_zero x zero))
    · exact absurd negative (notNegative above)

end Func

namespace Operator

variable {op : Operator} {a b v : Binary64}

theorem pow_apply_eq_ok (applied : Operator.pow.apply library a b = .ok v) :
    v = library.pow a b := by
  change (if a.isBelowZero && b.hasFraction then _ else _) = _ at applied
  split at applied
  · contradiction
  · cases applied
    rfl

/-- Operators carry undefined operands, but for powers with an exponent of zero or a base of one. -/
theorem isUndefined_apply (standard : library.IsStandard)
    (undefined : a.isUndefined = true ∨ b.isUndefined = true)
    (applied : op.apply library a b = .ok v) :
    v.isUndefined = true ∨ op = .pow ∧ (a = .one ∨ b.rank = 0) := by
  cases op with
  | add =>
      cases applied
      exact .inl (Binary64.isUndefined_add undefined)
  | sub =>
      cases applied
      exact .inl (Binary64.isUndefined_sub undefined)
  | mul =>
      cases applied
      exact .inl (Binary64.isUndefined_mul undefined)
  | div =>
      cases applied
      exact .inl (Binary64.isUndefined_div undefined)
  | pow =>
      rw [pow_apply_eq_ok applied, or_iff_not_imp_right, not_and, not_or]
      intro other
      exact standard.pow_undefined a b undefined (other rfl).1 (other rfl).2

/-- Operators other than powers carry infinite operands, but for denominators. -/
theorem isFinite_apply (notPower : op ≠ .pow) (nonfinite : a.isFinite = false ∨ b.isFinite = false)
    (applied : op.apply library a b = .ok v) :
    v.isFinite = false ∨ op = .div ∧ a.isFinite = true := by
  cases op with
  | add =>
      cases applied
      exact .inl (Binary64.isFinite_add nonfinite)
  | sub =>
      cases applied
      exact .inl (Binary64.isFinite_sub nonfinite)
  | mul =>
      cases applied
      exact .inl (Binary64.isFinite_mul nonfinite)
  | div =>
      cases applied
      cases numerator : a.isFinite with
      | false => exact .inl (Binary64.isFinite_div numerator)
      | true => exact .inr ⟨rfl, rfl⟩
  | pow => contradiction

end Operator

end Reckoner
