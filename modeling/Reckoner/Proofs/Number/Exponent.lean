import Mathlib.Data.List.TakeWhile
import Reckoner.Proofs.Number.Text
import Reckoner.Proofs.Token.Separator

/-!
# Numbers with an exponent read back

A number that is set down with an exponent is a single numeral as well: digits, a point with more
digits where there are any, and an exponent with a sign if it is negative or the layout wants one.
It denotes the very decimal that is set down, so that reading it gives back the number.
-/

namespace Reckoner

namespace ExponentPart

/-- The sign of an exponent that is not negative, which may be left out. -/
def plusSign (explicit : Bool) : Option Char :=
  if explicit then some '+' else none

/-- An exponent of ten as the scientific layouts write it. -/
def ofInteger (explicit : Bool) (i : Int) : ExponentPart :=
  ⟨'e', if i < 0 then some '-' else plusSign explicit, decimalDigits i.natAbs⟩

theorem text_ofInteger (explicit : Bool) (i : Int) : (ofInteger explicit i).text =
    'e' :: ((if i < 0 then [] else (plusSign explicit).toList) ++ Layout.integer i) := by
  unfold ofInteger text Layout.integer
  split <;> simp

theorem value_ofInteger (explicit : Bool) (i : Int) : (ofInteger explicit i).value = i := by
  simp only [value, ofInteger, Layout.ofDigitChars_decimalDigits]
  split
  · rename_i minus
    rw [if_pos rfl]
    omega
  · rename_i plus
    have positive : plusSign explicit ≠ some '-' := by cases explicit <;> decide
    rw [if_neg positive]
    omega

end ExponentPart

namespace Numeral

theorem scanSign_of_digits {t : Text} (digits : ∀ c ∈ t, c.isDigit = true) :
    scanSign t = (none, t) := by
  unfold scanSign
  split
  · exact absurd (digits '+' List.mem_cons_self) (by decide)
  · exact absurd (digits '-' List.mem_cons_self) (by decide)
  · rfl

/-- The exponent is cut off whole. -/
theorem scanExponent_ofInteger (explicit : Bool) (i : Int) :
    scanExponent (ExponentPart.ofInteger explicit i).text =
      (some (.ofInteger explicit i), []) := by
  have digits : ∀ c ∈ decimalDigits i.natAbs, c.isDigit = true := Layout.isDigit_decimalDigits
  have nonempty : decimalDigits i.natAbs ≠ [] := Nat.toDigits_ne_nil
  have signed : scanSign ((if i < 0 then [] else (ExponentPart.plusSign explicit).toList) ++
      Layout.integer i) =
        ((ExponentPart.ofInteger explicit i).sign, decimalDigits i.natAbs) := by
    unfold Layout.integer ExponentPart.ofInteger
    split
    · rfl
    · cases explicit with
      | false => exact scanSign_of_digits digits
      | true => rfl
  rw [ExponentPart.text_ofInteger, scanExponent, signed]
  dsimp only
  rw [List.takeWhile_eq_self_iff.mpr digits, List.dropWhile_eq_nil_iff.mpr digits,
    if_pos ⟨Or.inl rfl, nonempty⟩]
  rfl

/-- The numeral of digits, the point standing behind the first of them, with an exponent. -/
def withExponent (explicit : Bool) (digit : Char) (others : Text) (exponent : Int) : Numeral :=
  ⟨[digit], if others = [] then none else some others, some (.ofInteger explicit exponent)⟩

variable {digit : Char} {others : Text}

/-- The numeral is cut off whole. -/
theorem scan_withExponent (isDigit : digit.isDigit = true)
    (digits : ∀ c ∈ others, c.isDigit = true) (explicit : Bool) (exponent : Int) :
    scan (withExponent explicit digit others exponent).text =
      (withExponent explicit digit others exponent, []) := by
  have last := scanExponent_ofInteger explicit exponent
  have mark := ExponentPart.text_ofInteger explicit exponent
  have first (rest : Text) (ends : rest.takeWhile Char.isDigit = []) :
      (digit :: rest).takeWhile Char.isDigit = [digit] ∧
        (digit :: rest).dropWhile Char.isDigit = rest := by
    have stays : rest.dropWhile Char.isDigit = rest := by
      have parts := List.takeWhile_append_dropWhile (p := Char.isDigit) (l := rest)
      rwa [ends] at parts
    rw [List.takeWhile_cons_of_pos isDigit, List.dropWhile_cons_of_pos isDigit, ends, stays]
    exact ⟨rfl, rfl⟩
  by_cases whole : others = []
  · have written : (withExponent explicit digit others exponent).text =
        digit :: (ExponentPart.ofInteger explicit exponent).text := by
      simp [withExponent, text, whole]
    obtain ⟨taken, left⟩ := first (ExponentPart.ofInteger explicit exponent).text
      (by rw [mark]; rfl)
    have noPoint : scanFraction (ExponentPart.ofInteger explicit exponent).text =
        (none, (ExponentPart.ofInteger explicit exponent).text) := by
      rw [mark]
      rfl
    rw [written, scan, taken, left, noPoint, last]
    simp [withExponent, whole]
  · have written : (withExponent explicit digit others exponent).text =
        digit :: '.' :: (others ++ (ExponentPart.ofInteger explicit exponent).text) := by
      simp [withExponent, text, whole]
    obtain ⟨taken, left⟩ := first
      ('.' :: (others ++ (ExponentPart.ofInteger explicit exponent).text)) rfl
    have point : scanFraction ('.' :: (others ++ (ExponentPart.ofInteger explicit exponent).text)) =
        (some others, (ExponentPart.ofInteger explicit exponent).text) := by
      rw [mark, scanFraction, takeWhile_append_of_neg rfl, dropWhile_append_of_neg rfl,
        List.takeWhile_eq_self_iff.mpr digits, List.dropWhile_eq_nil_iff.mpr digits]
      rfl
    rw [written, scan, taken, left, point, last]
    simp [withExponent, whole]

/-- The numeral is what the scientific layouts set down. -/
theorem text_withExponent (explicit : Bool) (digit : Char) (others : Text) (exponent : Int) :
    (withExponent explicit digit others exponent).text =
      Layout.scientificText (ExponentPart.plusSign explicit).toList (digit :: others) exponent := by
  by_cases whole : others = []
  · simp [Layout.scientificText, withExponent, text, whole, ExponentPart.text_ofInteger]
  · simp [Layout.scientificText, withExponent, text, whole, ExponentPart.text_ofInteger]

/-- The numeral denotes the decimal that is set down. -/
theorem decimal_withExponent (explicit : Bool) (digit : Char) (others : Text) (exponent : Int) :
    (withExponent explicit digit others exponent).decimal =
      ⟨Nat.ofDigitChars 10 (digit :: others) 0, exponent - others.length⟩ := by
  by_cases whole : others = []
  · simp [withExponent, decimal, digits, whole, ExponentPart.value_ofInteger]
  · simp [withExponent, decimal, digits, whole, ExponentPart.value_ofInteger]

/-- The numeral stands as one lexeme. -/
theorem lexemes_withExponent (isDigit : digit.isDigit = true)
    (digits : ∀ c ∈ others, c.isDigit = true) (explicit : Bool) (exponent : Int) :
    lexemes (withExponent explicit digit others exponent).text =
      [.numeral (withExponent explicit digit others exponent)] := by
  have starts : startsAt digit = true := by simp [startsAt, isDigit]
  have cut := scan_withExponent isDigit digits explicit exponent
  obtain ⟨rest, text⟩ :
      ∃ rest, (withExponent explicit digit others exponent).text = digit :: rest :=
    ⟨_, rfl⟩
  rw [text] at cut ⊢
  rw [lexemes_cons, Lexeme.scan, if_pos starts, cut, lexemes_nil]

end Numeral

namespace Layout

open Numeral

/-- A decimal set down with an exponent is a numeral of the same rank. -/
theorem exists_numeral_scientificText (s : Nat) (e : Int) :
    ∃ n : Numeral, lexemes n.text = [.numeral n] ∧ n.digits ≠ [] ∧
      scientificText [] (decimalDigits s) ((decimalDigits s).length + e - 1) = n.text ∧
        n.decimal = ⟨s, e⟩ := by
  have all : ∀ c ∈ decimalDigits s, c.isDigit = true := isDigit_decimalDigits
  have value := ofDigitChars_decimalDigits s
  have nonempty : decimalDigits s ≠ [] := Nat.toDigits_ne_nil
  rcases List.exists_cons_of_ne_nil nonempty with ⟨digit, others, cut⟩
  rw [cut] at all value ⊢
  have ⟨isDigit, digits⟩ := List.forall_mem_cons.mp all
  have exponent : ((digit :: others).length + e - 1 : Int) - others.length = e := by
    rw [List.length_cons]
    omega
  refine ⟨withExponent false digit others ((digit :: others).length + e - 1),
    lexemes_withExponent isDigit digits false _, ?_, ?_, ?_⟩
  · simp [Numeral.digits, withExponent]
  · exact (text_withExponent false digit others _).symm
  · rw [decimal_withExponent, value, exponent]

end Layout

end Reckoner
