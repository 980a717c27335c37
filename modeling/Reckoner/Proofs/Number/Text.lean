import Mathlib.Data.List.TakeWhile
import Reckoner.Number.Layout
import Reckoner.Proofs.Number.Nearest
import Reckoner.Token.Lexeme

/-!
# Number texts read back

The text of a finite number without a sign is a single numeral, made of digits and at most one
point, and reading that numeral gives back the number, bit for bit.
-/

namespace Reckoner

namespace Numeral

/-- The numeral is made of digits and at most one point, with digits before the point. -/
structure Plain (n : Numeral) : Prop where
  whole_ne_nil : n.whole ≠ []
  whole_digits : ∀ c ∈ n.whole, c.isDigit = true
  fraction_digits : ∀ f ∈ n.fraction, ∀ c ∈ f, c.isDigit = true
  no_exponent : n.exponent = none

namespace Plain

theorem whole {digits : Text} (nonempty : digits ≠ []) (all : ∀ c ∈ digits, c.isDigit = true) :
    Plain ⟨digits, none, none⟩ := by
  constructor
  · exact nonempty
  · exact all
  · rintro f ⟨⟩
  · rfl

theorem pointed {digits fraction : Text} (nonempty : digits ≠ [])
    (all : ∀ c ∈ digits, c.isDigit = true) (rest : ∀ c ∈ fraction, c.isDigit = true) :
    Plain ⟨digits, some fraction, none⟩ := by
  constructor
  · exact nonempty
  · exact all
  · rintro f ⟨⟩
    exact rest
  · rfl

theorem isDigit_or_eq_point {n : Numeral} (plain : n.Plain) {c : Char} (mem : c ∈ n.text) :
    c.isDigit = true ∨ c = '.' := by
  rcases n with ⟨whole, fraction, exponent⟩
  rcases plain with ⟨_, whole_digits, fraction_digits, no_exponent⟩
  dsimp only at whole_digits fraction_digits no_exponent
  subst no_exponent
  cases fraction with
  | none =>
      simp only [text, Option.elim_none, List.append_nil] at mem
      exact .inl (whole_digits c mem)
  | some digits =>
      simp only [text, Option.elim_none, Option.elim_some, List.append_nil, List.mem_append,
        List.mem_cons] at mem
      rcases mem with whole | rfl | digit
      · exact .inl (whole_digits c whole)
      · exact .inr rfl
      · exact .inl (fraction_digits digits rfl c digit)

/-- A plain numeral is cut off whole. -/
theorem scan_text {n : Numeral} (plain : n.Plain) : scan n.text = (n, []) := by
  rcases n with ⟨whole, fraction, exponent⟩
  rcases plain with ⟨_, whole_digits, fraction_digits, no_exponent⟩
  dsimp only at whole_digits fraction_digits no_exponent
  subst no_exponent
  cases fraction with
  | none =>
      simp only [scan, text, Option.elim_none, List.append_nil, List.takeWhile_eq_self_iff.mpr whole_digits,
        List.dropWhile_eq_nil_iff.mpr whole_digits]
      rfl
  | some digits =>
      have all := fraction_digits digits rfl
      have point : ('.' :: digits).takeWhile Char.isDigit = [] := rfl
      have rest : ('.' :: digits).dropWhile Char.isDigit = '.' :: digits := rfl
      simp only [scan, text, Option.elim_none, Option.elim_some, List.append_nil,
        List.takeWhile_append_of_pos whole_digits, List.dropWhile_append_of_pos whole_digits,
        point, rest, scanFraction, List.takeWhile_eq_self_iff.mpr all, List.dropWhile_eq_nil_iff.mpr all]
      rfl

/-- A plain numeral stands as one lexeme. -/
theorem lexemes_text {n : Numeral} (plain : n.Plain) : lexemes n.text = [.numeral n] := by
  rcases List.exists_cons_of_ne_nil plain.whole_ne_nil with ⟨c, rest, whole⟩
  have starts : startsAt c = true := by
    have digit := plain.whole_digits c (by simp [whole])
    simp [startsAt, digit]
  have text : n.text = c :: (rest ++ n.fraction.elim [] ('.' :: ·) ++ n.exponent.elim [] ExponentPart.text) := by
    simp [Numeral.text, whole]
  have cut := plain.scan_text
  rw [text] at cut ⊢
  rw [lexemes_cons, Lexeme.scan, if_pos starts, cut, lexemes_nil]

end Plain

/-- No idle zero stands in front, and a point has digits behind it. -/
structure Neat (n : Numeral) : Prop where
  whole : n.whole.head? ≠ some '0' ∨ n.whole.length = 1
  fraction : ∀ f ∈ n.fraction, f ≠ []

/-- The numeral of a number in range is read as the double of its rank. -/
theorem read_of_rank {n : Numeral} {rank : Nat} (digits : n.digits ≠ []) (same : n.decimal.rank = rank)
    (finite : rank < Binary64.infinityRank) : n.read = .ok (Binary64.ofRank false rank) := by
  have nonempty : ¬ n.digits.isEmpty = true := by simpa using digits
  rw [read, if_neg nonempty, same, if_pos finite]

end Numeral

namespace Layout

open Numeral

theorem isDigit_decimalDigits {n : Nat} : ∀ c ∈ decimalDigits n, c.isDigit = true :=
  fun _ mem => Nat.isDigit_of_mem_toDigits (by decide) (by decide) mem

theorem isDigit_replicate_zero {k : Nat} : ∀ c ∈ List.replicate k '0', c.isDigit = true := by
  intro c mem
  rw [List.eq_of_mem_replicate mem]
  rfl

theorem ofDigitChars_decimalDigits (n : Nat) : Nat.ofDigitChars 10 (decimalDigits n) 0 = n :=
  Nat.ofDigitChars_ten_toDigits

theorem decimal_pointed (whole fraction : Text) :
    Numeral.decimal ⟨whole, some fraction, none⟩ =
      ⟨Nat.ofDigitChars 10 (whole ++ fraction) 0, -fraction.length⟩ := by
  simp [Numeral.decimal, digits]

/-- Zeros behind the digits of a whole number raise its rank as an exponent does. -/
theorem rank_decimal_zeros (s k : Nat) :
    (Numeral.decimal ⟨decimalDigits s ++ List.replicate k '0', none, none⟩).rank =
      Decimal.rank ⟨s, k⟩ := by
  have value : Numeral.decimal ⟨decimalDigits s ++ List.replicate k '0', none, none⟩ =
      ⟨s * 10 ^ k, 0⟩ := by
    simp [Numeral.decimal, digits, Nat.ofDigitChars_append, ofDigitChars_decimalDigits,
      Nat.mul_comm]
  rw [value, Decimal.rank_mul_pow, Int.zero_add]

/-- A point among the digits of a number counts those behind it. -/
theorem decimal_split (s t : Nat) :
    Numeral.decimal ⟨(decimalDigits s).take t, some ((decimalDigits s).drop t), none⟩ =
      ⟨s, -((decimalDigits s).length - t : Nat)⟩ := by
  rw [decimal_pointed, List.take_append_drop, ofDigitChars_decimalDigits, List.length_drop]

/-- Zeros behind the point count as well. -/
theorem decimal_zeros (s k : Nat) :
    Numeral.decimal ⟨['0'], some (List.replicate k '0' ++ decimalDigits s), none⟩ =
      ⟨s, -(k + (decimalDigits s).length : Nat)⟩ := by
  have value : Nat.ofDigitChars 10 (['0'] ++ (List.replicate k '0' ++ decimalDigits s)) 0 = s := by
    rw [← List.append_assoc, ← List.replicate_one, List.replicate_append_replicate,
      Nat.ofDigitChars_append, Nat.ofDigitChars_replicate_zero, Nat.mul_zero,
      ofDigitChars_decimalDigits]
  rw [decimal_pointed, value, List.length_append, List.length_replicate]

/-- A fraction of zero counts for nothing. -/
theorem rank_decimal_zeros_pointed (s k : Nat) :
    (Numeral.decimal ⟨decimalDigits s ++ List.replicate k '0', some ['0'], none⟩).rank =
      Decimal.rank ⟨s, k⟩ := by
  have value : Numeral.decimal ⟨decimalDigits s ++ List.replicate k '0', some ['0'], none⟩ =
      ⟨s * 10 ^ k * 10, -1⟩ := by
    have last : Nat.ofDigitChars 10 ['0'] (s * 10 ^ k) = s * 10 ^ k * 10 := by
      simp [Nat.ofDigitChars_cons, Nat.mul_comm]
    rw [decimal_pointed, Nat.ofDigitChars_append, Nat.ofDigitChars_append,
      ofDigitChars_decimalDigits, Nat.ofDigitChars_replicate_zero, Nat.mul_comm (10 ^ k), last]
    rfl
  rw [value, Decimal.rank_mul_ten, Decimal.rank_mul_pow]
  congr 2
  omega

/-- The digits of a number do not start with an idle zero. -/
theorem head?_decimalDigits {n : Nat} (pos : 0 < n) : (decimalDigits n).head? ≠ some '0' := by
  induction n using Nat.strongRecOn with
  | ind n ih =>
      by_cases small : n < 10
      · have single : ∀ n < 10, 0 < n → [Nat.digitChar n].head? ≠ some '0' := by decide
        rw [decimalDigits, Nat.toDigits_of_lt_base small]
        exact single n small pos
      · have least : 10 ≤ n := Nat.le_of_not_lt small
        have front := ih (n / 10) (Nat.div_lt_self pos (by decide)) (Nat.div_pos least (by decide))
        rw [decimalDigits, Nat.toDigits_of_base_le (by decide) least,
          List.head?_append_of_ne_nil _ Nat.toDigits_ne_nil]
        exact front

/-- What marks a whole number: a fraction of zero, or nothing. -/
def zeroFraction (pointed : Bool) : Option Text :=
  if pointed then some ['0'] else none

/-- The numeral has the text, and the rank of the decimal. Whole numbers have a fraction of zero if
`pointed`. -/
structure SetsDown (pointed : Bool) (d : Decimal) (t : Text) (n : Numeral) : Prop where
  plain : n.Plain
  text_eq : n.text = t
  rank_eq : n.decimal.rank = d.rank
  neat : (d.significand = 0 → d.exponent = 0) → n.Neat
  fraction_ne_none : pointed = true → n.fraction ≠ none

theorem setsDown_whole (pointed : Bool) (s k : Nat) :
    SetsDown pointed ⟨s, k⟩
      (decimalDigits s ++ List.replicate k '0' ++ (zeroFraction pointed).elim [] ('.' :: ·))
      ⟨decimalDigits s ++ List.replicate k '0', zeroFraction pointed, none⟩ := by
  have nonempty : decimalDigits s ≠ [] := Nat.toDigits_ne_nil
  have all : ∀ c ∈ decimalDigits s ++ List.replicate k '0', c.isDigit = true :=
    List.forall_mem_append.mpr ⟨isDigit_decimalDigits, isDigit_replicate_zero⟩
  have digits : decimalDigits s ++ List.replicate k '0' ≠ [] := by simp [nonempty]
  constructor
  · cases pointed with
    | false => exact Plain.whole digits all
    | true => exact Plain.pointed digits all (by simp)
  · simp [text]
  · cases pointed with
    | false => exact rank_decimal_zeros s k
    | true => exact rank_decimal_zeros_pointed s k
  · intro zero
    constructor
    · rcases Nat.eq_zero_or_pos s with rfl | pos
      · have none : k = 0 := by simpa using zero rfl
        subst none
        exact .inr rfl
      · apply Or.inl
        rw [List.head?_append_of_ne_nil _ nonempty]
        exact head?_decimalDigits pos
    · cases pointed <;> simp [zeroFraction]
  · rintro rfl
    simp [zeroFraction]

theorem setsDown_split (pointed : Bool) {s t : Nat} (least : t ≠ 0)
    (inside : t < (decimalDigits s).length) :
    SetsDown pointed ⟨s, -((decimalDigits s).length - t : Nat)⟩
      ((decimalDigits s).take t ++ '.' :: (decimalDigits s).drop t)
      ⟨(decimalDigits s).take t, some ((decimalDigits s).drop t), none⟩ := by
  have nonempty : decimalDigits s ≠ [] := Nat.toDigits_ne_nil
  constructor
  · apply Plain.pointed
    · simp [nonempty, least]
    · intro c mem
      exact isDigit_decimalDigits c (List.mem_of_mem_take mem)
    · intro c mem
      exact isDigit_decimalDigits c (List.mem_of_mem_drop mem)
  · simp [text]
  · rw [decimal_split]
  · intro zero
    have pos : 0 < s := by
      rcases Nat.eq_zero_or_pos s with none | pos
      · have := zero none
        dsimp only at this
        omega
      · exact pos
    constructor
    · apply Or.inl
      rw [List.head?_take, if_neg least]
      exact head?_decimalDigits pos
    · rintro f ⟨⟩
      apply List.ne_nil_of_length_pos
      rw [List.length_drop]
      omega
  · simp

theorem setsDown_small (pointed : Bool) (s k : Nat) :
    SetsDown pointed ⟨s, -(k + (decimalDigits s).length : Nat)⟩
      ('0' :: '.' :: List.replicate k '0' ++ decimalDigits s)
      ⟨['0'], some (List.replicate k '0' ++ decimalDigits s), none⟩ := by
  constructor
  · apply Plain.pointed
    · simp
    · simp
    · exact List.forall_mem_append.mpr ⟨isDigit_replicate_zero, isDigit_decimalDigits⟩
  · simp [text]
  · rw [decimal_zeros]
  · intro _
    constructor
    · exact .inr rfl
    · rintro f ⟨⟩
      simp [Nat.toDigits_ne_nil, decimalDigits]
  · simp

/-- A decimal set down positionally is a plain numeral of the same rank. -/
theorem exists_setsDown (pointed : Bool) (s : Nat) (e : Int) :
    ∃ n : Numeral, SetsDown pointed ⟨s, e⟩
      (positionalText ((zeroFraction pointed).elim [] ('.' :: ·)) (decimalDigits s)
        ((decimalDigits s).length + e)) n := by
  unfold positionalText
  split
  · obtain ⟨k, rfl⟩ : ∃ k : Nat, e = k := ⟨e.toNat, by omega⟩
    have zeros : ((decimalDigits s).length + k : Int).toNat - (decimalDigits s).length = k := by
      omega
    rw [zeros]
    exact ⟨_, setsDown_whole pointed s k⟩
  · split
    · obtain ⟨t, point⟩ : ∃ t : Nat, (decimalDigits s).length + e = t :=
        ⟨((decimalDigits s).length + e).toNat, by omega⟩
      have places : e = -((decimalDigits s).length - t : Nat) := by omega
      rw [point, places]
      exact ⟨_, setsDown_split pointed (by omega) (by omega)⟩
    · obtain ⟨k, point⟩ : ∃ k : Nat, -((decimalDigits s).length + e) = k :=
        ⟨(-((decimalDigits s).length + e)).toNat, by omega⟩
      have places : e = -(k + (decimalDigits s).length : Nat) := by omega
      rw [point, places]
      exact ⟨_, setsDown_small pointed s k⟩

end Layout

/-- A number without a sign is its rank. -/
theorem Binary64.ofRank_rank {x : Binary64} (positive : x.isNegative = false) :
    ofRank false x.rank = x := by
  have below : x.bits.toNat < Nat.pow 2 63 := Nat.lt_of_not_le (of_decide_eq_false positive)
  rw [ofRank, rank, Nat.mod_eq_of_lt below]
  exact congrArg Binary64.mk (UInt64.ofNat_toNat)

/-- The text of a finite number without a sign is a plain numeral that reads as the number. -/
theorem exists_numeral_numberText {x : Binary64} (finite : x.isFinite = true)
    (positive : x.isNegative = false) :
    ∃ n : Numeral, n.Plain ∧ numberText x = n.text ∧ n.read = .ok x := by
  have inRange : x.rank < Binary64.infinityRank := by simpa [Binary64.isFinite] using finite
  have defined : x.isUndefined = false := by
    simpa [Binary64.isUndefined] using Nat.le_of_lt inRange
  generalize shortest : Decimal.shortest .away x.rank = d
  rcases d with ⟨s, e⟩
  rcases Layout.exists_setsDown false s e with ⟨n, plain, text, rank, _⟩
  have digits : n.digits ≠ [] := by simp [Numeral.digits, plain.whole_ne_nil]
  have same : n.decimal.rank = x.rank := by
    rw [rank, ← shortest, Decimal.rank_shortest .away inRange]
  refine ⟨n, plain, ?_, ?_⟩
  · rw [text]
    simp [numberText, Layout.write, Layout.decimal, Layout.plain, Layout.zeroFraction, defined,
      finite, positive, shortest, Decimal.top]
  · rw [Numeral.read_of_rank digits same inRange, Binary64.ofRank_rank positive]

/-- The text of a finite number without a sign is the token of the number. -/
theorem tokenize_numberText {x : Binary64} (finite : x.isFinite = true)
    (positive : x.isNegative = false) : tokenize (numberText x) = .ok [.number x] := by
  rcases exists_numeral_numberText finite positive with ⟨n, plain, text, read⟩
  have meaning : (Lexeme.numeral n).read = .ok (some (.number x)) := by
    rw [Lexeme.read, read]
  rw [text]
  exact tokenize_of_lexeme plain.lexemes_text meaning

end Reckoner
