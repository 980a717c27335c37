import Reckoner.Proofs.Json.Spelling
import Reckoner.Proofs.Number.Exponent
import Reckoner.Proofs.Number.Sign

/-!
# Numbers in JSON

The text of a finite double is a number of JSON with a fraction or an exponent. To a reader that
takes such a number for the nearest double, it is the double that was written, bit for bit.
-/

namespace Reckoner.Json

/-! ## What numbers denote -/

/-- The number that a minus sign and a numeral denote: the whole number if there is neither a
fraction nor an exponent, and the nearest double otherwise. -/
def exactNumber? (negative : Bool) (n : Numeral) : Option Json :=
  if n.fraction = none ∧ n.exponent = none then
    let magnitude : Int := Nat.ofDigitChars 10 n.whole 0
    some (.integer (if negative then -magnitude else magnitude))
  else if n.decimal.rank < Binary64.infinityRank then
    some (.float (.ofRank negative n.decimal.rank))
  else none

/-- Every literal has to have a value, and has the value that it denotes. -/
def Literals.exact : Literals where
  refuses := true
  number? := exactNumber?

/-! ## Scanning -/

namespace IsNumber

variable {n : Numeral} {rest : Text}

/-- A numeral that is cut off its text whole is a number if its form is right. -/
theorem of_scan_text (whole : Numeral.scan n.text = (n, [])) (formed : isWellFormed n = true) :
    IsNumber n where
  scanned := by
    have scanned := Numeral.isScanned_scan n.text
    rwa [whole] at scanned
  wellFormed := formed

theorem scan_append (number : IsNumber n) (closes : Closes rest) :
    Numeral.scan (n.text ++ rest) = (n, rest) := by
  cases rest with
  | nil => rw [List.append_nil, number.scanned.scan_text]
  | cons s rest =>
      have parts : Parts s := by
        have closing := closes s rfl
        simp only [isGap, Bool.or_eq_true, decide_eq_true_eq] at closing
        rcases closing with ((((rfl | rfl) | rfl) | rfl) | rfl | rfl | rfl)
        all_goals exact ⟨by decide, by decide, by decide, by decide⟩
      rw [Numeral.scan_append_of_parts parts, number.scanned.scan_text, List.nil_append]

theorem scanNumber_append (number : IsNumber n) (closes : Closes rest) :
    scanNumber (n.text ++ rest) = some (n, rest) := by
  have complete : lacksExponent n rest = false := by
    cases rest with
    | nil => simp [lacksExponent]
    | cons s rest =>
        have other : s ≠ 'e' ∧ s ≠ 'E' := by
          constructor <;> rintro rfl <;> simpa [isGap] using closes _ rfl
        simp [lacksExponent, other]
  rw [scanNumber, number.scan_append closes, if_pos ⟨number.wellFormed, complete⟩]

theorem read_numberBody (number : IsNumber n) (closes : Closes rest) {literals : Literals}
    {negative : Bool} {j : Json} (known : literals.number? negative n = some j) :
    (numberBody literals negative).read (n.text ++ rest) = .ok (j, rest) := by
  simp only [numberBody, number.scanNumber_append closes, known]

theorem whole_ne_nil (number : IsNumber n) : n.whole ≠ [] := by
  have formed := number.wellFormed
  simp only [isWellFormed, Bool.and_eq_true, Bool.not_eq_true', List.isEmpty_eq_false_iff] at formed
  exact formed.1.1

theorem exists_cons (number : IsNumber n) : ∃ c t, n.text = c :: t ∧ c.isDigit = true := by
  rcases List.exists_cons_of_ne_nil number.whole_ne_nil with ⟨c, others, whole⟩
  refine ⟨c, others ++ n.fraction.elim [] ('.' :: ·) ++ n.exponent.elim [] ExponentPart.text,
    by simp [Numeral.text, whole], ?_⟩
  exact number.scanned.whole c (by simp [whole])

end IsNumber

/-! ## Floats -/

theorem isNumber_of_plain {n : Numeral} (plain : n.Plain) (neat : n.Neat) : IsNumber n := by
  refine .of_scan_text plain.scan_text ?_
  simp only [isWellFormed, Bool.and_eq_true, Bool.or_eq_true, Bool.not_eq_true',
    List.isEmpty_eq_false_iff, bne_iff_ne, beq_iff_eq]
  refine ⟨⟨plain.whole_ne_nil, neat.whole⟩, ?_⟩
  cases cut : n.fraction with
  | none => rfl
  | some f => simpa using neat.fraction f cut

theorem isNumber_decimalDigits (n : Nat) : IsNumber ⟨decimalDigits n, none, none⟩ := by
  rcases Layout.setsDown_whole false n 0 with ⟨plain, _, _, neat, _⟩
  have number := isNumber_of_plain plain (neat fun _ => rfl)
  rwa [List.replicate_zero, List.append_nil] at number

theorem isNumber_withExponent {digit : Char} {others : Text} (isDigit : digit.isDigit = true)
    (digits : ∀ c ∈ others, c.isDigit = true) (explicit : Bool) (exponent : Int) :
    IsNumber (.withExponent explicit digit others exponent) := by
  refine .of_scan_text (Numeral.scan_withExponent isDigit digits explicit exponent) ?_
  by_cases whole : others = []
  · simp [isWellFormed, Numeral.withExponent, whole]
  · simp [isWellFormed, Numeral.withExponent, whole]

/-- A decimal is set down as a number that is not whole and has the same rank. -/
theorem exists_isNumber_decimal {d : Decimal} (reduced : d.significand = 0 → d.exponent = 0) :
    ∃ n : Numeral, IsNumber n ∧ Layout.json.decimal d = n.text ∧ n.decimal.rank = d.rank ∧
      ¬ (n.fraction = none ∧ n.exponent = none) := by
  rcases d with ⟨s, e⟩
  unfold Layout.decimal
  split
  · rcases Layout.exists_setsDown true s e with ⟨n, plain, text, rank, neat, pointed⟩
    exact ⟨n, isNumber_of_plain plain (neat reduced), text.symm, rank,
      fun none => pointed rfl none.1⟩
  · have all : ∀ c ∈ decimalDigits s, c.isDigit = true := Layout.isDigit_decimalDigits
    have value := Layout.ofDigitChars_decimalDigits s
    have nonempty : decimalDigits s ≠ [] := Nat.toDigits_ne_nil
    rcases List.exists_cons_of_ne_nil nonempty with ⟨digit, others, cut⟩
    dsimp only
    rw [cut] at all value ⊢
    rcases List.forall_mem_cons.mp all with ⟨isDigit, digits⟩
    have exponent : (Decimal.top ⟨s, e⟩ - 1) - others.length = e := by
      simp only [Decimal.top, cut, List.length_cons]
      omega
    refine ⟨.withExponent true digit others (Decimal.top ⟨s, e⟩ - 1),
      isNumber_withExponent isDigit digits true _, ?_, ?_, by simp [Numeral.withExponent]⟩
    · rw [Numeral.text_withExponent]
      rfl
    · rw [Numeral.decimal_withExponent, value, exponent]

theorem exponent_shortest (tie : Tie) {n : Nat} (finite : n < Binary64.infinityRank)
    (zero : (Decimal.shortest tie n).significand = 0) :
    (Decimal.shortest tie n).exponent = 0 := by
  have rank := Decimal.rank_shortest tie finite
  rw [Decimal.rank, if_pos zero] at rank
  rw [← rank]
  rfl

/-- The text of a double without a sign is a number that denotes the double. -/
theorem exists_isNumber_write {x : Binary64} (finite : x.isFinite = true)
    (positive : x.isNegative = false) :
    ∃ n : Numeral, IsNumber n ∧ Layout.json.write x = n.text ∧
      ∀ negative,
        Literals.exact.number? negative n = some (.float (.ofRank negative x.rank)) := by
  have inRange : x.rank < Binary64.infinityRank := of_decide_eq_true finite
  have defined : x.isUndefined = false := decide_eq_false (Nat.not_lt.mpr (Nat.le_of_lt inRange))
  rcases exists_isNumber_decimal (exponent_shortest .even inRange)
    with ⟨n, number, text, rank, notWhole⟩
  have same : n.decimal.rank = x.rank := rank.trans (Decimal.rank_shortest .even inRange)
  refine ⟨n, number, ?_, fun negative => ?_⟩
  · rw [← text]
    simp [Layout.write, defined, finite, positive, Layout.json]
  · simp only [Literals.exact, exactNumber?, if_neg notWhole, same, if_pos inRange]

end Reckoner.Json
