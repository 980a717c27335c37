import Reckoner.Proofs.Json.Exact

/-!
# The front of a spelling

The first character of a spelled value tells what kind of value it is, so that a reader that asks
for one kind sees at once whether the value is of that kind. Where values stand one after another,
the first of them is read in front of the others.
-/

namespace Reckoner.Json

variable {budget : Nat} {j : Json} {gap rest spelling : Text}

/-! ## What values start with -/

theorem ofNumeral?_cases {negative : Bool} {n : Numeral} (valued : ofNumeral? negative n = some j) :
    (∃ i, j = integer i) ∨ ∃ x, j = float x := by
  unfold ofNumeral? at valued
  dsimp only at valued
  split at valued
  · cases valued
    unfold ofWhole
    split
    · exact .inl ⟨_, rfl⟩
    · split
      · exact .inr ⟨_, rfl⟩
      · exact .inl ⟨_, rfl⟩
  · rcases Option.map_eq_some_iff.mp valued with ⟨x, _, rfl⟩
    exact .inr ⟨_, rfl⟩

/-- The first character of a value tells what kind of value it is. -/
structure Opens (j : Json) (c : Char) : Prop where
  visible : isGap c = false
  not_close : c ≠ ']'
  quote_iff : c = '"' ↔ ∃ t, j = string t
  letter_iff : c = 'n' ↔ j = null
  bracket_iff : c = '[' ↔ ∃ elements, j = array elements
  brace_iff : c = '\x7b' ↔ ∃ members, j = object members

theorem opens_number {c : Char} (number : (∃ i, j = integer i) ∨ ∃ x, j = float x)
    (sign : c = '-' ∨ c.isDigit = true) : Opens j c := by
  have other (d : Char) (apart : d ≠ '-' ∧ d.isDigit = false) : c ≠ d := by
    rintro rfl
    rcases sign with rfl | digit
    · exact apart.1 rfl
    · rw [apart.2] at digit
      contradiction
  have kind : (¬ ∃ t, j = string t) ∧ j ≠ null ∧ (¬ ∃ elements, j = array elements) ∧
      ¬ ∃ members, j = object members := by
    rcases number with ⟨i, rfl⟩ | ⟨x, rfl⟩ <;> simp
  constructor
  · simp [isGap, other]
  · exact other _ (by decide)
  · exact iff_of_false (other _ (by decide)) kind.1
  · exact iff_of_false (other _ (by decide)) kind.2.1
  · exact iff_of_false (other _ (by decide)) kind.2.2.1
  · exact iff_of_false (other _ (by decide)) kind.2.2.2

theorem SpellsScalar.exists_opens (spelled : SpellsScalar .strict j spelling) :
    ∃ c t, spelling = c :: t ∧ Opens j c := by
  cases spelled with
  | null => exact ⟨'n', _, rfl, by constructor <;> simp [isGap]⟩
  | yes => exact ⟨'t', _, rfl, by constructor <;> simp [isGap]⟩
  | no => exact ⟨'f', _, rfl, by constructor <;> simp [isGap]⟩
  | string spelled => exact ⟨'"', _, rfl, by constructor <;> simp [isGap]⟩
  | @number negative n _ number valued =>
      have kind := ofNumeral?_cases valued
      cases negative with
      | true => exact ⟨'-', n.text, rfl, opens_number kind (.inl rfl)⟩
      | false =>
          rcases number.exists_cons with ⟨c, t, text, digit⟩
          exact ⟨c, t, text, opens_number kind (.inr digit)⟩

theorem spells_cases (spelled : Spells .strict budget j spelling) :
    SpellsScalar .strict j spelling ∨
      ∃ inner, SpellsNested (Spells .strict inner) j spelling := by
  cases budget with
  | zero => exact .inl spelled
  | succ budget => exact spelled.imp_right fun nested => ⟨budget, nested⟩

theorem exists_opens (spelled : Spells .strict budget j spelling) :
    ∃ c t, spelling = c :: t ∧ Opens j c := by
  rcases spells_cases spelled with scalar | ⟨_, nested⟩
  · exact scalar.exists_opens
  · cases nested with
    | array => exact ⟨'[', _, rfl, by constructor <;> simp [isGap]⟩
    | object => exact ⟨'\x7b', _, rfl, by constructor <;> simp [isGap]⟩

/-! ## How values of a kind are spelled -/

theorem eq_of_spells_null (spelled : Spells .strict budget null spelling) :
    spelling = "null".toList := by
  rcases spells_cases spelled with scalar | ⟨_, nested⟩
  · cases scalar with
    | null => rfl
    | number _ valued => rcases ofNumeral?_cases valued with ⟨_, ⟨⟩⟩ | ⟨_, ⟨⟩⟩
  · cases nested

theorem exists_of_spells_string {t : Text} (spelled : Spells .strict budget (string t) spelling) :
    ∃ inside, SpellsString t inside ∧ spelling = '"' :: inside ++ ['"'] := by
  rcases spells_cases spelled with scalar | ⟨_, nested⟩
  · cases scalar with
    | string text => exact ⟨_, text, rfl⟩
    | number _ valued => rcases ofNumeral?_cases valued with ⟨_, ⟨⟩⟩ | ⟨_, ⟨⟩⟩
  · cases nested

theorem exists_of_spells_array {elements : List Json}
    (spelled : Spells .strict budget (array elements) spelling) :
    ∃ inner inside, Listed (Spells .strict inner) elements inside ∧
      spelling = '[' :: inside ++ [']'] := by
  rcases spells_cases spelled with scalar | ⟨inner, nested⟩
  · cases scalar with
    | number _ valued => rcases ofNumeral?_cases valued with ⟨_, ⟨⟩⟩ | ⟨_, ⟨⟩⟩
  · cases nested with
    | array listed => exact ⟨inner, _, listed, rfl⟩

theorem exists_of_spells_object {members : List (Text × Json)}
    (spelled : Spells .strict budget (object members) spelling) :
    ∃ inner inside, Listed (SpellsMember (Spells .strict inner)) members inside ∧
      spelling = '\x7b' :: inside ++ ['\x7d'] := by
  rcases spells_cases spelled with scalar | ⟨inner, nested⟩
  · cases scalar with
    | number _ valued => rcases ofNumeral?_cases valued with ⟨_, ⟨⟩⟩ | ⟨_, ⟨⟩⟩
  · cases nested with
    | object listed => exact ⟨inner, _, listed, rfl⟩

/-! ## Fronts -/

/-- In front of a value there is a gap, and then the character that it starts with. -/
theorem afterGap_spelled {c : Char} (opens : Opens j c) (isGap : Gap gap) (t rest : Text) :
    afterGap (gap ++ (c :: t) ++ rest) = c :: (t ++ rest) := by
  rw [List.append_assoc, afterGap_append isGap, List.cons_append, afterGap_cons opens.visible]

theorem afterGap_enclosed {first : Char} (visible : isGap first = false) (isGap : Gap gap)
    (inside : Text) (last : Char) (rest : Text) :
    afterGap (gap ++ (first :: inside ++ [last]) ++ rest) = first :: (inside ++ last :: rest) := by
  rw [List.append_assoc, afterGap_append isGap]
  simp [afterGap_cons visible]

/-- The first item stands behind a gap. What follows it is the closing bracket, or a comma and the
other items. -/
theorem Listed.uncons {α : Type} {spells : α → Text → Prop} {item : α} {others : List α}
    {inside : Text} {close : Char} (listed : Listed spells (item :: others) inside)
    (isClose : close = ']' ∨ close = '\x7d') (rest : Text) :
    ∃ gap spelling behind, Gap gap ∧ spells item spelling ∧ Closes behind ∧
      inside ++ close :: rest = gap ++ spelling ++ behind ∧
      (others = [] ∧ afterGap behind = close :: rest ∨
        others ≠ [] ∧ ∃ t, Listed spells others t ∧
          afterGap behind = ',' :: (t ++ close :: rest)) := by
  have visible : isGap close = false := by rcases isClose with rfl | rfl <;> rfl
  cases listed with
  | @last _ before spelling after front spelled back =>
      refine ⟨before, spelling, after ++ close :: rest, front, spelled,
        back.closes_append (closes_cons (.inr isClose) rest), List.append_assoc _ _ _,
        .inl ⟨rfl, ?_⟩⟩
      rw [afterGap_append back, afterGap_cons visible]
  | @next _ second others before spelling after t front spelled back more =>
      refine ⟨before, spelling, after ++ ',' :: (t ++ close :: rest), front, spelled,
        back.closes_append (closes_cons (.inl rfl) _), by simp,
        .inr ⟨List.cons_ne_nil second others, t, more, ?_⟩⟩
      rw [afterGap_append back, afterGap_cons rfl]

theorem Listed.afterGap_of_nil {α : Type} {spells : α → Text → Prop} {inside : Text} {close : Char}
    (listed : Listed spells [] inside) (isClose : close = ']' ∨ close = '\x7d') (rest : Text) :
    afterGap (inside ++ close :: rest) = close :: rest := by
  cases listed with
  | none isGap =>
      rw [afterGap_append isGap]
      rcases isClose with rfl | rfl <;> rfl

end Reckoner.Json
