import Reckoner.Json.Printer
import Reckoner.Proofs.Json.Spelling

/-!
# Strings in JSON

A string is read off each of its spellings: the units that are scanned off the spelling of a
character make up that character, whatever follows them. What a string is printed as is one of its
spellings.
-/

namespace Reckoner.Json

/-! ## Scanning -/

/-- A unit in front of what is scanned. -/
def unitBefore (unit : StringUnit) (scanned : Option (List StringUnit × Text)) :
    Option (List StringUnit × Text) :=
  scanned.map fun scanned => (unit :: scanned.1, scanned.2)

/-- A unit is scanned off its spelling. -/
theorem SpellsUnit.scanString_append {unit : StringUnit} {spelling : Text}
    (spelled : SpellsUnit unit spelling) (t : Text) :
    scanString (spelling ++ t) = unitBefore unit (scanString t) := by
  cases spelled with
  | @itself c visible notQuote notEscape =>
      have plain : ¬ (c.toNat < 0x20 || c = '\\') = true := by simp [notEscape, visible]
      rw [List.singleton_append, scanString, if_neg plain]
      · rfl
      all_goals simp [notQuote, notEscape]
  | @short letter c known =>
      have notCode : letter ≠ 'u' := by
        rintro rfl
        contradiction
      rw [List.cons_append, List.singleton_append, scanString, known]
      · cases scanString t <;> rfl
      · rintro a b c d rest rfl
        exact absurd rfl notCode
  | code value =>
      simp only [List.cons_append, List.nil_append, scanString, value]
      cases scanString t <;> rfl

/-! ## Units -/

/-- A code unit that belongs to no pair is a character of its own. -/
theorem textOfUnits?_code {n : Nat} (high : isHighSurrogate n = false)
    (low : isLowSurrogate n = false) (units : List StringUnit) :
    textOfUnits? (.code n :: units) = (textOfUnits? units).map (Char.ofNat n :: ·) := by
  rcases units with _ | ⟨unit, units⟩
  · simp [textOfUnits?, high, low]
  · cases unit <;> simp [textOfUnits?, high, low]

/-- The code point of a character is no code unit of a pair. -/
theorem isSurrogate_toNat (c : Char) :
    isHighSurrogate c.toNat = false ∧ isLowSurrogate c.toNat = false := by
  have valid : c.toNat < 0xd800 ∨ 0xdfff < c.toNat ∧ c.toNat < 0x110000 := c.valid
  simp only [isHighSurrogate, isLowSurrogate, Bool.and_eq_false_iff, decide_eq_false_iff_not]
  omega

/-- A character is scanned off its spelling as units that make it up, whatever follows them. -/
theorem SpellsChar.exists_units {c : Char} {spelling : Text} (spelled : SpellsChar c spelling) :
    ∃ units : List StringUnit,
      (∀ others, textOfUnits? (units ++ others) = (textOfUnits? others).map (c :: ·)) ∧
      ∀ t, scanString (spelling ++ t) = units.foldr unitBefore (scanString t) := by
  cases spelled with
  | char spelled => exact ⟨[.char c], fun _ => rfl, spelled.scanString_append⟩
  | code spelled =>
      refine ⟨[.code c.toNat], fun others => ?_, spelled.scanString_append⟩
      rcases isSurrogate_toNat c with ⟨high, low⟩
      rw [List.singleton_append, textOfUnits?_code high low, Char.ofNat_toNat]
  | @pair high low s t first second isHigh isLow point =>
      refine ⟨[.code high, .code low], fun others => ?_, fun rest => ?_⟩
      · have char : pairedChar high low = c := by rw [pairedChar, ← point, Char.ofNat_toNat]
        rw [List.cons_append, List.singleton_append, textOfUnits?, if_pos isHigh, if_pos isLow,
          char]
      · rw [List.append_assoc, first.scanString_append, second.scanString_append]
        rfl

theorem foldr_unitBefore (units others : List StringUnit) (rest : Text) :
    units.foldr unitBefore (some (others, rest)) = some (units ++ others, rest) := by
  induction units with
  | nil => rfl
  | cons unit units ih =>
      rw [List.foldr_cons, ih]
      rfl

/-- A string is scanned from its spelling as units that spell it. -/
theorem SpellsString.exists_units {t spelling : Text} (spelled : SpellsString t spelling)
    (rest : Text) :
    ∃ units, textOfUnits? units = some t ∧
      scanString (spelling ++ '"' :: rest) = some (units, rest) := by
  induction spelled with
  | nil => exact ⟨[], rfl, rfl⟩
  | cons head _ ih =>
      rcases head.exists_units with ⟨units, spelled, first⟩
      rcases ih with ⟨others, text, scanned⟩
      refine ⟨units ++ others, ?_, ?_⟩
      · rw [spelled, text]
        rfl
      · rw [List.append_assoc, first, scanned, foldr_unitBefore]

/-- A string is read off its spelling. -/
theorem SpellsString.read_stringBody {t spelling : Text} (spelled : SpellsString t spelling)
    (literals : Literals) (rest : Text) :
    (stringBody literals).read (spelling ++ '"' :: rest) = .ok (t, rest) := by
  rcases spelled.exists_units rest with ⟨units, text, scanned⟩
  simp only [stringBody, scanned, text]

/-! ## Printed strings -/

/-- The escape of a control is made of four digits that stand for its code. -/
theorem codeUnit?_control : ∀ n < 0x20,
    "\\u".toList ++ List.replicate (4 - (Text.hexDigits n).length) '0' ++ Text.hexDigits n =
        ['\\', 'u', '0', '0', (n / 16).digitChar, (n % 16).digitChar] ∧
      codeUnit? '0' '0' (n / 16).digitChar (n % 16).digitChar = some n := by
  decide

theorem spellsChar_escaped (c : Char) : SpellsChar c (escaped c) := by
  by_cases short : c ∈ ['"', '\\', '\x08', '\t', '\n', '\x0c', '\r']
  · simp only [List.mem_cons, List.not_mem_nil, or_false] at short
    rcases short with rfl | rfl | rfl | rfl | rfl | rfl | rfl
    all_goals exact .char (.short rfl)
  · simp only [List.mem_cons, List.not_mem_nil, or_false, not_or] at short
    rcases short with ⟨notQuote, notEscape, others⟩
    by_cases control : c.toNat < 0x20
    · have escape : escaped c = controlEscape c := by
        simp [escaped, notQuote, notEscape, others, control]
      rcases codeUnit?_control c.toNat control with ⟨digits, value⟩
      rw [escape, controlEscape, digits]
      exact .code (.code value)
    · have itself : escaped c = [c] := by
        simp [escaped, notQuote, notEscape, others, control]
      rw [itself]
      exact .char (.itself (Nat.le_of_not_lt control) notQuote notEscape)

theorem spellsString_flatMap (t : Text) : SpellsString t (t.flatMap escaped) := by
  induction t with
  | nil => exact .nil
  | cons c t ih => exact .cons (spellsChar_escaped c) ih

end Reckoner.Json
