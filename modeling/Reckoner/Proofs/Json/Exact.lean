import Mathlib.Data.List.Forall2
import Reckoner.Proofs.Json.Reading

/-!
# Only spelled JSON is read

Whatever is read with every literal having a value is read off a spelling of it. Together with the
reading of spellings this makes a document the same as a spelling between gaps.
-/

namespace Reckoner.Json

variable {literals : Literals} {budget : Nat} {j : Json} {rest t : Text}

/-! ## Strings -/

theorem hexValue?_lt {c : Char} {n : Nat} (digit : hexValue? c = some n) : n < 16 := by
  unfold hexValue? at digit
  simp only [Char.le_def, UInt32.le_iff_toNat_le, Char.toNat_val, Char.reduceToNat] at digit
  split at digit
  · cases digit
    omega
  · split at digit
    · cases digit
      omega
    · split at digit
      · cases digit
        omega
      · contradiction

theorem codeUnit?_lt {d₁ d₂ d₃ d₄ : Char} {n : Nat} (value : codeUnit? d₁ d₂ d₃ d₄ = some n) :
    n < 0x10000 := by
  simp only [codeUnit?, Option.pure_def, Option.bind_eq_bind, Option.bind_eq_some_iff] at value
  rcases value with ⟨a, first, b, second, c, third, d, fourth, whole⟩
  have := hexValue?_lt first
  have := hexValue?_lt second
  have := hexValue?_lt third
  have := hexValue?_lt fourth
  cases whole
  omega

/-- What is scanned off a text as the units of a string is spelled there unit by unit. -/
theorem exists_spellings {units : List StringUnit} (scanned : scanString t = some (units, rest)) :
    ∃ spellings, List.Forall₂ SpellsUnit units spellings ∧
      t = spellings.flatten ++ '"' :: rest := by
  fun_induction scanString t generalizing units rest with
  | case1 => contradiction
  | case2 after =>
      cases scanned
      exact ⟨[], .nil, rfl⟩
  | case3 d₁ d₂ d₃ d₄ after n inner last more value ih =>
      cases scanned
      rcases ih more with ⟨spellings, spelled, rfl⟩
      exact ⟨_, .cons (.code value) spelled, rfl⟩
  | case4 => contradiction
  | case5 letter after _ c inner last more known ih =>
      cases scanned
      rcases ih more with ⟨spellings, spelled, rfl⟩
      exact ⟨_, .cons (.short known) spelled, rfl⟩
  | case6 => contradiction
  | case7 => contradiction
  | case8 c after notQuote _ _ plain ih =>
      obtain ⟨⟨inner, last⟩, more, eq⟩ := Option.map_eq_some_iff.mp scanned
      cases eq
      rcases ih more with ⟨spellings, spelled, rfl⟩
      simp only [Bool.or_eq_true, decide_eq_true_eq, not_or, Nat.not_lt] at plain
      exact ⟨_, .cons (.itself plain.1 notQuote plain.2) spelled, rfl⟩

/-- A code unit that belongs to no pair is the code point of a character. -/
theorem SpellsUnit.spellsChar_ofNat {n : Nat} (spelled : SpellsUnit (.code n) t)
    (high : ¬ isHighSurrogate n = true) (low : ¬ isLowSurrogate n = true) :
    SpellsChar (.ofNat n) t := by
  have below : n < 0x10000 := by
    cases spelled with
    | code value => exact codeUnit?_lt value
  have valid : n.isValidChar := by
    simp only [isHighSurrogate, isLowSurrogate, Bool.and_eq_true, decide_eq_true_eq] at high low
    rw [Nat.isValidChar]
    omega
  apply SpellsChar.code
  rwa [Char.toNat_ofNat, if_pos valid]

/-- The units of a pair are the character that they stand for. -/
theorem SpellsUnit.spellsChar_pair {high low : Nat} {s : Text} (first : SpellsUnit (.code high) s)
    (second : SpellsUnit (.code low) t) (isHigh : isHighSurrogate high = true)
    (isLow : isLowSurrogate low = true) : SpellsChar (pairedChar high low) (s ++ t) := by
  refine .pair first second isHigh isLow ?_
  simp only [isHighSurrogate, isLowSurrogate, Bool.and_eq_true, decide_eq_true_eq] at isHigh isLow
  have valid : (0x10000 + (high - 0xd800) * 0x400 + (low - 0xdc00)).isValidChar := by
    rw [Nat.isValidChar]
    omega
  rw [pairedChar, Char.toNat_ofNat, if_pos valid]

/-- The units of a text spell it character by character. -/
theorem spellsString_flatten {units : List StringUnit} {spellings : List Text} {text : Text}
    (spelled : List.Forall₂ SpellsUnit units spellings) (known : textOfUnits? units = some text) :
    SpellsString text spellings.flatten := by
  fun_induction textOfUnits? units generalizing spellings text with
  | case1 =>
      cases spelled
      cases known
      exact .nil
  | case2 c units ih =>
      rcases Option.map_eq_some_iff.mp known with ⟨others, more, rfl⟩
      cases spelled with
      | cons first spelled => exact .cons (.char first) (ih spelled more)
  | case3 high low units isHigh isLow ih =>
      rcases Option.map_eq_some_iff.mp known with ⟨others, more, rfl⟩
      cases spelled with
      | cons first spelled =>
          cases spelled with
          | cons second spelled =>
              rw [List.flatten_cons, List.flatten_cons, ← List.append_assoc]
              exact .cons (first.spellsChar_pair second isHigh isLow) (ih spelled more)
  | case4 => contradiction
  | case5 => contradiction
  | case6 n low units notHigh notLow ih =>
      rcases Option.map_eq_some_iff.mp known with ⟨others, more, rfl⟩
      cases spelled with
      | cons first spelled =>
          exact .cons (first.spellsChar_ofNat notHigh notLow) (ih spelled more)
  | case7 => contradiction
  | case8 n units _ single ih =>
      rcases Option.map_eq_some_iff.mp known with ⟨others, more, rfl⟩
      simp only [Bool.or_eq_true, not_or] at single
      cases spelled with
      | cons first spelled =>
          exact .cons (first.spellsChar_ofNat single.1 single.2) (ih spelled more)

section Literals

variable (refuses : literals.refuses = true)
include refuses

theorem spellsString_of_read {text : Text}
    (done : (stringBody literals).read t = .ok (text, rest)) :
    ∃ spelling, SpellsString text spelling ∧ t = spelling ++ '"' :: rest := by
  simp only [stringBody, refuses, if_true] at done
  split at done
  · contradiction
  · rename_i units after scanned
    split at done
    · rename_i known
      cases done
      rcases exists_spellings scanned with ⟨spellings, spelled, rfl⟩
      exact ⟨spellings.flatten, spellsString_flatten spelled known, rfl⟩
    · contradiction

/-- Whether a text spells a string is decided by reading it in quotes. -/
theorem spellsString_iff {text spelling : Text} : SpellsString text spelling ↔
    (stringBody literals).read (spelling ++ ['"']) = .ok (text, []) := by
  constructor
  · intro spelled
    exact spelled.read_stringBody literals []
  · intro done
    rcases spellsString_of_read refuses done with ⟨other, spelled, same⟩
    rwa [List.append_cancel_right same]

/-! ## Values without brackets -/

theorem isNumber_of_read {negative : Bool}
    (done : (numberBody literals negative).read t = .ok (j, rest)) :
    ∃ n, IsNumber n ∧ literals.number? negative n = some j ∧ t = n.text ++ rest := by
  simp only [numberBody, refuses, if_true] at done
  split at done
  · contradiction
  · rename_i n after scanned
    split at done
    · rename_i valued
      cases done
      simp only [scanNumber] at scanned
      split at scanned
      · rename_i formed
        have cut : Numeral.scan t = (n, rest) := Option.some.inj scanned
        have whole := Numeral.scan_append t
        have isScanned := Numeral.isScanned_scan t
        rw [cut] at formed whole isScanned
        exact ⟨n, ⟨isScanned, formed.1⟩, valued, whole.symm⟩
      · contradiction
    · contradiction

theorem spellsScalar_of_read (done : (scalar literals).read t = .ok (j, rest)) :
    ∃ spelling, SpellsScalar literals j spelling ∧ t = spelling ++ rest := by
  simp only [scalar] at done
  split at done
  · cases done
    exact ⟨_, .null, rfl⟩
  · cases done
    exact ⟨_, .yes, rfl⟩
  · cases done
    exact ⟨_, .no, rfl⟩
  · rename_i inside
    simp only [Reader.map] at done
    split at done
    · contradiction
    · rename_i read
      cases done
      rcases spellsString_of_read refuses read with ⟨spelling, spelled, rfl⟩
      exact ⟨_, .string spelled, by simp⟩
  · rcases isNumber_of_read refuses done with ⟨n, number, valued, rfl⟩
    exact ⟨_, .number number valued, rfl⟩
  · split at done
    · rcases isNumber_of_read refuses done with ⟨n, number, valued, text⟩
      exact ⟨_, .number number valued, text⟩
    · contradiction
  · contradiction

end Literals

/-! ## Items -/

/-- Whatever the reader reads is spelled there, behind a gap. -/
def ReadsOnly {α : Type} (reader : JsonReader α) (spells : α → Text → Prop) : Prop :=
  ∀ {item : α} {t rest : Text}, reader.read t = .ok (item, rest) →
    ∃ gap spelling, Gap gap ∧ spells item spelling ∧ t = gap ++ spelling ++ rest

theorem exists_gap (t : Text) : ∃ gap, Gap gap ∧ t = gap ++ afterGap t :=
  ⟨t.takeWhile isGap, fun _ mem => List.mem_takeWhile_imp mem,
    List.takeWhile_append_dropWhile.symm⟩

section Items

variable {α : Type} {spells : α → Text → Prop} {item : α} {items : List α}
  {middle inside tail : Text}

theorem exists_listed_last
    (read : ∃ gap spelling, Gap gap ∧ spells item spelling ∧ t = gap ++ spelling ++ middle)
    (closed : afterGap middle = tail) :
    ∃ whole, Listed spells [item] whole ∧ t = whole ++ tail := by
  rcases read with ⟨before, spelling, front, spelled, rfl⟩
  rcases exists_gap middle with ⟨after, back, text⟩
  refine ⟨_, .last front spelled back, ?_⟩
  rw [text, closed]
  simp

theorem Listed.exists_next (more : Listed spells items inside) (nonempty : items ≠ [])
    (read : ∃ gap spelling, Gap gap ∧ spells item spelling ∧ t = gap ++ spelling ++ middle)
    (comma : afterGap middle = ',' :: (inside ++ tail)) :
    ∃ whole, Listed spells (item :: items) whole ∧ t = whole ++ tail := by
  rcases read with ⟨before, spelling, front, spelled, rfl⟩
  rcases exists_gap middle with ⟨after, back, text⟩
  rcases List.exists_cons_of_ne_nil nonempty with ⟨second, others, rfl⟩
  refine ⟨_, .next front spelled back more, ?_⟩
  rw [text, comma]
  simp

end Items

variable {element : JsonReader Json} {spells : Json → Text → Prop}

theorem listed_of_elementsFrom {elements : List Json} (only : ReadsOnly element spells)
    (done : elementsFrom element t = .ok (elements, rest)) :
    elements ≠ [] ∧ ∃ inside, Listed spells elements inside ∧ t = inside ++ ']' :: rest := by
  fun_induction elementsFrom element t generalizing elements rest with
  | case1 => contradiction
  | case2 => contradiction
  | case3 t first middle step next comma others last more ih =>
      cases done
      rcases ih more with ⟨nonempty, inside, listed, rfl⟩
      exact ⟨List.cons_ne_nil _ _, listed.exists_next nonempty (only step) comma⟩
  | case4 t first middle step next closed =>
      cases done
      exact ⟨List.cons_ne_nil _ _, exists_listed_last (only step) closed⟩
  | case5 => contradiction

theorem spellsNested_of_arrayBody (only : ReadsOnly element spells)
    (done : (arrayBody element).read t = .ok (j, rest)) :
    ∃ spelling, SpellsNested spells j spelling ∧ '[' :: t = spelling ++ rest := by
  simp only [arrayBody] at done
  split at done
  · rename_i closed
    cases done
    rcases exists_gap t with ⟨gap, isGap, text⟩
    rw [closed] at text
    exact ⟨_, .array (.none isGap), by simp [text]⟩
  · split at done
    · contradiction
    · rename_i read
      cases done
      rcases listed_of_elementsFrom only read with ⟨_, inside, listed, rfl⟩
      exact ⟨_, .array listed, by simp⟩

section Members

variable (refuses : literals.refuses = true)
include refuses

theorem spellsMember_of_read {name colon : Text} (only : ReadsOnly element spells)
    (named : (memberName literals).read t = .ok (name, colon))
    (step : (afterColon element).read colon = .ok (j, rest)) :
    ∃ gap spelling, Gap gap ∧ SpellsMember spells (name, j) spelling ∧
      t = gap ++ spelling ++ rest := by
  rcases exists_gap t with ⟨gap, isGap, text⟩
  simp only [memberName] at named
  split at named
  · rename_i quote
    rcases spellsString_of_read refuses named with ⟨nameSpelling, nameSpelled, rfl⟩
    rw [quote] at text
    rcases exists_gap colon with ⟨before, front, colonText⟩
    simp only [afterColon] at step
    split at step
    · rename_i mark
      rw [mark] at colonText
      rcases only step with ⟨after, spelling, back, spelled, rfl⟩
      exact ⟨gap, _, isGap, .mk nameSpelled front back spelled, by simp [text, colonText]⟩
    · contradiction
  · contradiction

theorem listed_of_membersFrom {members : List (Text × Json)} (only : ReadsOnly element spells)
    (done : membersFrom (memberName literals) element t = .ok (members, rest)) :
    members ≠ [] ∧
      ∃ inside, Listed (SpellsMember spells) members inside ∧ t = inside ++ '\x7d' :: rest := by
  fun_induction membersFrom (memberName literals) element t generalizing members rest with
  | case1 => contradiction
  | case2 => contradiction
  | case3 => contradiction
  | case4 t name colon named first middle step next comma others last more ih =>
      cases done
      have member := spellsMember_of_read refuses only named step
      rcases ih more with ⟨nonempty, inside, listed, rfl⟩
      exact ⟨List.cons_ne_nil _ _, listed.exists_next nonempty member comma⟩
  | case5 t name colon named first middle step next closed =>
      cases done
      have member := spellsMember_of_read refuses only named step
      exact ⟨List.cons_ne_nil _ _, exists_listed_last member closed⟩
  | case6 => contradiction

theorem spellsNested_of_objectBody (only : ReadsOnly element spells)
    (done : (objectBody (memberName literals) element).read t = .ok (j, rest)) :
    ∃ spelling, SpellsNested spells j spelling ∧ '\x7b' :: t = spelling ++ rest := by
  simp only [objectBody] at done
  split at done
  · rename_i closed
    cases done
    rcases exists_gap t with ⟨gap, isGap, text⟩
    rw [closed] at text
    exact ⟨_, .object (.none isGap), by simp [text]⟩
  · split at done
    · contradiction
    · rename_i read
      cases done
      rcases listed_of_membersFrom refuses only read with ⟨_, inside, listed, rfl⟩
      exact ⟨_, .object listed, by simp⟩

/-! ## Documents -/

/-- Values are read off their spellings only. -/
theorem readsOnly_value (budget : Nat) :
    ReadsOnly (value literals budget) (Spells literals budget) := by
  induction budget with
  | zero =>
      intro item t rest done
      rcases exists_gap t with ⟨gap, isGap, text⟩
      rcases spellsScalar_of_read refuses done with ⟨spelling, spelled, front⟩
      exact ⟨gap, spelling, isGap, spelled, by rw [List.append_assoc, ← front, ← text]⟩
  | succ budget ih =>
      intro item t rest done
      rcases exists_gap t with ⟨gap, isGap, text⟩
      have spelled : ∃ spelling, Spells literals (budget + 1) item spelling ∧
          afterGap t = spelling ++ rest := by
        simp only [value] at done
        split at done
        · rename_i bracket
          rcases spellsNested_of_arrayBody ih done with ⟨spelling, spelled, front⟩
          exact ⟨spelling, .inr spelled, bracket.trans front⟩
        · rename_i brace
          rcases spellsNested_of_objectBody refuses ih done with ⟨spelling, spelled, front⟩
          exact ⟨spelling, .inr spelled, brace.trans front⟩
        · rcases spellsScalar_of_read refuses done with ⟨spelling, spelled, front⟩
          exact ⟨spelling, .inl spelled, front⟩
      rcases spelled with ⟨spelling, spelled, front⟩
      exact ⟨gap, spelling, isGap, spelled, by rw [List.append_assoc, ← front, ← text]⟩

/-- A document of a value is a spelling of it between two gaps. -/
theorem document?_eq_some_iff : document? literals t = some j ↔
    ∃ before spelling after, Gap before ∧ Spells literals maxNesting j spelling ∧ Gap after ∧
      t = before ++ spelling ++ after := by
  constructor
  · intro document
    simp only [document?] at document
    split at document
    · rename_i item left done
      split at document
      · rename_i empty
        cases document
        rcases readsOnly_value refuses maxNesting done with ⟨before, spelling, front, spelled, rfl⟩
        rcases exists_gap left with ⟨after, back, text⟩
        rw [List.isEmpty_iff.mp empty, List.append_nil] at text
        exact ⟨before, spelling, after, front, spelled, back, by rw [← text]⟩
      · contradiction
    · contradiction
  · rintro ⟨before, spelling, after, front, spelled, back, rfl⟩
    exact document?_of_spells spelled front back

end Members

end Reckoner.Json
