import Reckoner.Proofs.Number.Sign

/-!
# Arithmetic beyond finite numbers

An undefined operand leaves every result of the machine's arithmetic undefined. An infinite operand
leaves it infinite or undefined, but for a denominator: a finite number over an infinite one is
zero.
-/

namespace Reckoner.Binary64

open Float.Model

variable {x y : Binary64}

theorem isFinite_eq_false_iff :
    x.isFinite = false ↔ x.isUndefined = true ∨ x.rank = infinityRank := by
  rw [isFinite, isUndefined, decide_eq_false_iff_not, decide_eq_true_iff, Nat.not_lt,
    Nat.le_iff_lt_or_eq, eq_comm (a := infinityRank)]

theorem isFinite_of_isUndefined (undefined : x.isUndefined = true) : x.isFinite = false :=
  isFinite_eq_false_iff.mpr (.inl undefined)

theorem isFinite_of_rank (infinite : x.rank = infinityRank) : x.isFinite = false :=
  isFinite_eq_false_iff.mpr (.inr infinite)

/-! ## In and out of the machine -/

/-- A double with its parts apart, as the machine's arithmetic works on it. -/
def unpacked (x : Binary64) : UnpackedFloat :=
  x.toFloat.toModel.unpack

/-- The double that the machine's arithmetic hands out. -/
def packed (u : UnpackedFloat) : Binary64 :=
  ofFloat (.ofModel (.pack u))

theorem div_eq (x y : Binary64) : x / y = packed (.div .binary64 x.unpacked y.unpacked) :=
  rfl

theorem sqrt_eq (x : Binary64) : x.sqrt = packed (.sqrt .binary64 x.unpacked) :=
  rfl

/-- The exponent field of a double. -/
theorem toNat_unpackExponent (b : BitVec 64) :
    (@UnpackedFloat.unpackExponent .binary64 b).toNat = b.toNat / 2 ^ 52 % 2 ^ 11 := by
  simp [UnpackedFloat.unpackExponent, Nat.shiftRight_eq_div_pow]

/-- The mantissa field of a double. -/
theorem toNat_unpackMantissa (b : BitVec 64) :
    (@UnpackedFloat.unpackMantissa .binary64 b).toNat = b.toNat % 2 ^ 52 := by
  simp [UnpackedFloat.unpackMantissa]

/-- The rank is the exponent field with the mantissa field behind it. -/
theorem rank_eq (x : Binary64) :
    x.rank = x.bits.toNat / 2 ^ 52 % 2 ^ 11 * 2 ^ 52 + x.bits.toNat % 2 ^ 52 := by
  change x.bits.toNat % 2 ^ 63 = _
  omega

theorem unpackExponent_eq_iff {e : BitVec 11} (x : Binary64) :
    @UnpackedFloat.unpackExponent .binary64 x.bits.toBitVec = e ↔
      x.bits.toNat / 2 ^ 52 % 2 ^ 11 = e.toNat := by
  rw [← BitVec.toNat_inj, toNat_unpackExponent]
  rfl

theorem unpackMantissa_eq_iff (x : Binary64) :
    @UnpackedFloat.unpackMantissa .binary64 x.bits.toBitVec = 0#52 ↔
      x.bits.toNat % 2 ^ 52 = 0 := by
  rw [← BitVec.toNat_inj, toNat_unpackMantissa]
  rfl

theorem unpack_of_isUndefined (undefined : x.isUndefined = true) :
    UnpackedFloat.unpack .binary64 x.bits.toBitVec = .notANumber := by
  have above : 2047 * 2 ^ 52 < x.rank := of_decide_eq_true undefined
  rw [rank_eq] at above
  have top := (unpackExponent_eq_iff (e := -1) x).mpr (show _ = 2047 by omega)
  have nonzero : ¬ @UnpackedFloat.unpackMantissa .binary64 x.bits.toBitVec = 0#52 := by
    rw [unpackMantissa_eq_iff]
    omega
  rw [UnpackedFloat.unpack]
  exact (if_pos top).trans (if_neg nonzero)

theorem unpack_of_rank (infinite : x.rank = infinityRank) :
    ∃ s, UnpackedFloat.unpack .binary64 x.bits.toBitVec = .infinity s := by
  have rank : x.rank = 2047 * 2 ^ 52 := infinite
  rw [rank_eq] at rank
  have top := (unpackExponent_eq_iff (e := -1) x).mpr (show _ = 2047 by omega)
  have zero := (unpackMantissa_eq_iff x).mpr (by omega)
  rw [UnpackedFloat.unpack]
  exact ⟨_, (if_pos top).trans (if_pos zero)⟩

theorem unpack_of_zero (zero : x.rank = 0) :
    ∃ s, UnpackedFloat.unpack .binary64 x.bits.toBitVec = .zero s := by
  rw [rank_eq] at zero
  have bottom := (unpackExponent_eq_iff (e := 0) x).mpr (show _ = 0 by omega)
  have notTop : ¬ @UnpackedFloat.unpackExponent .binary64 x.bits.toBitVec = -1 := by
    rw [bottom]
    decide
  have none := (unpackMantissa_eq_iff x).mpr (by omega)
  rw [UnpackedFloat.unpack]
  exact ⟨_, (if_neg notTop).trans ((if_pos bottom).trans (dif_pos none))⟩

/-- The machine takes a double after writing it out once. -/
theorem unpacked_eq (x : Binary64) :
    x.unpacked = (pack (UnpackedFloat.unpack .binary64 x.bits.toBitVec)).unpack :=
  rfl

theorem unpacked_of_isUndefined (undefined : x.isUndefined = true) : x.unpacked = .notANumber := by
  rw [unpacked_eq, unpack_of_isUndefined undefined]
  rfl

theorem unpacked_of_rank (infinite : x.rank = infinityRank) : ∃ s, x.unpacked = .infinity s := by
  rcases unpack_of_rank infinite with ⟨s, unpacked⟩
  rw [unpacked_eq, unpacked]
  cases s <;> exact ⟨_, rfl⟩

theorem unpacked_of_zero (zero : x.rank = 0) : ∃ s, x.unpacked = .zero s := by
  rcases unpack_of_zero zero with ⟨s, unpacked⟩
  rw [unpacked_eq, unpacked]
  cases s <;> exact ⟨_, rfl⟩

theorem isFinite_unpacked (nonfinite : x.isFinite = false) : x.unpacked.isFinite = false := by
  rcases isFinite_eq_false_iff.mp nonfinite with undefined | infinite
  · rw [unpacked_of_isUndefined undefined]
    rfl
  · rcases unpacked_of_rank infinite with ⟨s, unpacked⟩
    rw [unpacked]
    rfl

theorem isUndefined_packed {u : UnpackedFloat} (undefined : u = .notANumber) :
    (packed u).isUndefined = true := by
  rw [undefined]
  rfl

theorem isFinite_packed {u : UnpackedFloat} (nonfinite : u.isFinite = false) :
    (packed u).isFinite = false := by
  cases u with
  | notANumber => rfl
  | infinity s => cases s <;> rfl
  | zero s => contradiction
  | finite => contradiction

/-! ## Undefined operands -/

/-- An operation that is undefined where one side is. -/
theorem isUndefined_packed_of_sides {op : UnpackedFloat → UnpackedFloat → UnpackedFloat}
    (left : ∀ v, op .notANumber v = .notANumber) (right : ∀ u, op u .notANumber = .notANumber)
    (undefined : x.isUndefined = true ∨ y.isUndefined = true) :
    (packed (op x.unpacked y.unpacked)).isUndefined = true := by
  apply isUndefined_packed
  rcases undefined with first | second
  · rw [unpacked_of_isUndefined first, left]
  · rw [unpacked_of_isUndefined second, right]

theorem isUndefined_add (undefined : x.isUndefined = true ∨ y.isUndefined = true) :
    (x + y).isUndefined = true :=
  isUndefined_packed_of_sides (fun _ => rfl) (fun u => by cases u <;> rfl) undefined

theorem isUndefined_sub (undefined : x.isUndefined = true ∨ y.isUndefined = true) :
    (x - y).isUndefined = true :=
  isUndefined_packed_of_sides (fun _ => rfl) (fun u => by cases u <;> rfl) undefined

theorem isUndefined_mul (undefined : x.isUndefined = true ∨ y.isUndefined = true) :
    (x * y).isUndefined = true :=
  isUndefined_packed_of_sides (fun _ => rfl) (fun u => by cases u <;> rfl) undefined

theorem isUndefined_div (undefined : x.isUndefined = true ∨ y.isUndefined = true) :
    (x / y).isUndefined = true :=
  isUndefined_packed_of_sides (fun _ => rfl) (fun u => by cases u <;> rfl) undefined

theorem isUndefined_sqrt (undefined : x.isUndefined = true) : x.sqrt.isUndefined = true := by
  rw [sqrt_eq]
  apply isUndefined_packed
  rw [unpacked_of_isUndefined undefined]
  rfl

/-! ## Infinite operands -/

/-- An operation that is not finite where one side is not. -/
theorem isFinite_packed_of_sides {op : UnpackedFloat → UnpackedFloat → UnpackedFloat}
    (left : ∀ u v, u.isFinite = false → (op u v).isFinite = false)
    (right : ∀ u v, v.isFinite = false → (op u v).isFinite = false)
    (nonfinite : x.isFinite = false ∨ y.isFinite = false) :
    (packed (op x.unpacked y.unpacked)).isFinite = false := by
  apply isFinite_packed
  rcases nonfinite with first | second
  · exact left _ _ (isFinite_unpacked first)
  · exact right _ _ (isFinite_unpacked second)

theorem isFinite_add (nonfinite : x.isFinite = false ∨ y.isFinite = false) :
    (x + y).isFinite = false := by
  refine isFinite_packed_of_sides (fun u v infinite => ?_) (fun u v infinite => ?_) nonfinite
  all_goals cases u <;> cases v <;> first | rfl | contradiction | skip
  all_goals
    rename_i s s'
    cases s <;> cases s' <;> rfl

theorem isFinite_sub (nonfinite : x.isFinite = false ∨ y.isFinite = false) :
    (x - y).isFinite = false := by
  refine isFinite_packed_of_sides (fun u v infinite => ?_) (fun u v infinite => ?_) nonfinite
  all_goals cases u <;> cases v <;> first | rfl | contradiction | skip
  all_goals
    rename_i s s'
    cases s <;> cases s' <;> rfl

theorem isFinite_mul (nonfinite : x.isFinite = false ∨ y.isFinite = false) :
    (x * y).isFinite = false := by
  refine isFinite_packed_of_sides (fun u v infinite => ?_) (fun u v infinite => ?_) nonfinite
  all_goals cases u <;> cases v <;> first | rfl | contradiction

/-- A quotient is not finite where its numerator is not. -/
theorem isFinite_div (nonfinite : x.isFinite = false) : (x / y).isFinite = false := by
  have left : ∀ u v : UnpackedFloat, u.isFinite = false →
      (UnpackedFloat.div .binary64 u v).isFinite = false := by
    intro u v infinite
    cases u <;> cases v <;> first | rfl | contradiction
  exact isFinite_packed (left _ _ (isFinite_unpacked nonfinite))

/-- A quotient is not finite where its denominator is zero. -/
theorem isFinite_div_zero (zero : y.rank = 0) : (x / y).isFinite = false := by
  rcases unpacked_of_zero zero with ⟨s, denominator⟩
  rw [div_eq, denominator]
  apply isFinite_packed
  cases x.unpacked <;> rfl

theorem isFinite_sqrt (nonfinite : x.isFinite = false) : x.sqrt.isFinite = false := by
  have root : ∀ u : UnpackedFloat, u.isFinite = false →
      (UnpackedFloat.sqrt .binary64 u).isFinite = false := by
    intro u infinite
    cases u with
    | infinity s => cases s <;> rfl
    | notANumber => rfl
    | zero | finite => contradiction
  exact isFinite_packed (root _ (isFinite_unpacked nonfinite))

/-! ## Infinite denominators -/

theorem isFinite_unpack {b : BitVec 64}
    (notTop : @UnpackedFloat.unpackExponent .binary64 b ≠ -1#11) :
    (UnpackedFloat.unpack .binary64 b).isFinite = true := by
  rw [UnpackedFloat.unpack]
  dsimp only
  rw [if_neg notTop]
  split
  · split <;> rfl
  · rfl

/-- A finite number that has a finite exponent is written out as one. -/
theorem isFinite_unpack_pack {s : UnpackedFloat.Sign} {m : Nat} {e : Int} {positive : 0 < m}
    (low : (e + 1023 + 52).toNat < 2047) :
    (pack (.finite s m e positive)).unpack.isFinite = true := by
  apply isFinite_unpack
  change @UnpackedFloat.unpackExponent .binary64
    (UnpackedFloat.pack .binary64 (.finite s m e positive)) ≠ -1#11
  have small : ¬ 2 ^ 11 ≤ (e + 1023 + 52).toNat + 1 := by omega
  rw [UnpackedFloat.pack]
  dsimp only
  split
  · rename_i large
    exact absurd large small
  · split
    · rw [UnpackedFloat.unpackExponent_packComponents, ne_eq, ← BitVec.toNat_inj,
        BitVec.toNat_ofNat]
      change ¬ (e + 1023 + 52).toNat % 2 ^ 11 = 2047
      omega
    · rw [UnpackedFloat.unpackExponent_packComponents]
      decide

theorem isFinite_unpacked_of_isFinite (finite : x.isFinite = true) :
    x.unpacked.isFinite = true := by
  have below : x.rank < 2047 * 2 ^ 52 := of_decide_eq_true finite
  rw [rank_eq] at below
  have field : (@UnpackedFloat.unpackExponent .binary64 x.bits.toBitVec).toNat =
      x.bits.toNat / 2 ^ 52 % 2 ^ 11 := toNat_unpackExponent _
  have notTop : ¬ @UnpackedFloat.unpackExponent .binary64 x.bits.toBitVec = -1#11 := by
    rw [unpackExponent_eq_iff]
    change ¬ _ = 2047
    omega
  rw [unpacked_eq, UnpackedFloat.unpack]
  dsimp only
  rw [if_neg notTop]
  split
  · rename_i bottom
    split
    · generalize UnpackedFloat.Sign.ofBitVec _ = s
      cases s <;> rfl
    · apply isFinite_unpack_pack
      rw [bottom]
      decide
  · apply isFinite_unpack_pack
    rw [field]
    change ((((_ : Nat) : Int) - (1023 + 52)) + 1023 + 52).toNat < 2047
    omega

/-- A finite number over an infinite one is zero. -/
theorem rank_div_infinite (finite : x.isFinite = true) (infinite : y.rank = infinityRank) :
    (x / y).rank = 0 := by
  have zero : ∀ s : UnpackedFloat.Sign, (packed (.zero s)).rank = 0 := by
    intro s
    cases s <;> rfl
  rcases unpacked_of_rank infinite with ⟨s, denominator⟩
  have numerator := isFinite_unpacked_of_isFinite finite
  rw [div_eq, denominator]
  cases parts : x.unpacked with
  | zero | finite => exact zero _
  | infinity | notANumber =>
      rw [parts] at numerator
      contradiction

end Reckoner.Binary64
