import Reckoner.Json.Reader
import Reckoner.Proofs.Token.Cutting

/-!
# Spellings of JSON

A JSON value is spelled by many texts. Gaps may stand around every token, a character of a string
may be written as itself, by a letter or by its code units, and a number may be written in any of
its forms. Which texts spell a value is said here apart from the reader, level by level of brackets.
-/

namespace Reckoner.Json

/-! ## Gaps -/

/-- The text may stand between two tokens. -/
def Gap (t : Text) : Prop :=
  ∀ c ∈ t, isGap c = true

theorem gap_nil : Gap [] :=
  nofun

theorem afterGap_cons {c : Char} (visible : isGap c = false) (t : Text) :
    afterGap (c :: t) = c :: t :=
  List.dropWhile_cons_of_neg (Bool.eq_false_iff.mp visible)

theorem afterGap_append {gap : Text} (isGap : Gap gap) (t : Text) :
    afterGap (gap ++ t) = afterGap t :=
  List.dropWhile_append_of_pos isGap

/-- What follows a value does not go on with it: the value stands at the end, or in front of a gap,
a comma or a closing bracket. -/
def Closes (rest : Text) : Prop :=
  ∀ c ∈ rest.head?, isGap c = true ∨ c = ',' ∨ c = ']' ∨ c = '\x7d'

theorem closes_nil : Closes [] :=
  nofun

theorem closes_cons {c : Char} (closes : c = ',' ∨ c = ']' ∨ c = '\x7d') (rest : Text) :
    Closes (c :: rest) := by
  rintro _ ⟨⟩
  exact .inr closes

theorem Gap.closes_append {gap rest : Text} (isGap : Gap gap) (closes : Closes rest) :
    Closes (gap ++ rest) := by
  cases gap with
  | nil => exact closes
  | cons c gap =>
      rintro _ ⟨⟩
      exact .inl (isGap c List.mem_cons_self)

/-! ## Literals -/

/-- The text stands for the unit inside a string. -/
inductive SpellsUnit : StringUnit → Text → Prop where
  | itself {c : Char} (visible : 0x20 ≤ c.toNat) (notQuote : c ≠ '"') (notEscape : c ≠ '\\') :
      SpellsUnit (.char c) [c]
  | short {letter c : Char} (known : shortEscape? letter = some c) :
      SpellsUnit (.char c) ['\\', letter]
  | code {d₁ d₂ d₃ d₄ : Char} {n : Nat} (value : codeUnit? d₁ d₂ d₃ d₄ = some n) :
      SpellsUnit (.code n) ['\\', 'u', d₁, d₂, d₃, d₄]

/-- The text stands for the character inside a string. A character past `U+FFFF` has two code units,
and is escaped by both. -/
inductive SpellsChar : Char → Text → Prop where
  | char {c : Char} {t : Text} (spelled : SpellsUnit (.char c) t) : SpellsChar c t
  | code {c : Char} {t : Text} (spelled : SpellsUnit (.code c.toNat) t) : SpellsChar c t
  | pair {c : Char} {high low : Nat} {s t : Text} (first : SpellsUnit (.code high) s)
      (second : SpellsUnit (.code low) t) (isHigh : isHighSurrogate high = true)
      (isLow : isLowSurrogate low = true)
      (point : c.toNat = 0x10000 + (high - 0xd800) * 0x400 + (low - 0xdc00)) :
      SpellsChar c (s ++ t)

/-- The text stands for the characters inside a string, one after another. -/
inductive SpellsString : Text → Text → Prop where
  | nil : SpellsString [] []
  | cons {c : Char} {t spelling others : Text} (head : SpellsChar c spelling)
      (tail : SpellsString t others) : SpellsString (c :: t) (spelling ++ others)

/-- The numeral is a number of JSON. -/
structure IsNumber (n : Numeral) : Prop where
  scanned : n.IsScanned
  wellFormed : isWellFormed n = true

/-- The text spells a value without brackets. A number has to have a value, which a number has in
`Literals.strict` if the double that it comes to is finite. -/
inductive SpellsScalar (literals : Literals) : Json → Text → Prop where
  | null : SpellsScalar literals null "null".toList
  | yes : SpellsScalar literals (bool true) "true".toList
  | no : SpellsScalar literals (bool false) "false".toList
  | string {t spelling : Text} (spelled : SpellsString t spelling) :
      SpellsScalar literals (string t) ('"' :: spelling ++ ['"'])
  | number {negative : Bool} {n : Numeral} {j : Json} (number : IsNumber n)
      (valued : literals.number? negative n = some j) :
      SpellsScalar literals j (if negative then '-' :: n.text else n.text)

/-! ## Brackets -/

section Items

variable {α : Type}

/-- The items stand in the text one after another, with commas between them and gaps around each. -/
inductive Listed (spells : α → Text → Prop) : List α → Text → Prop where
  | none {gap : Text} (isGap : Gap gap) : Listed spells [] gap
  | last {item : α} {before spelling after : Text} (front : Gap before)
      (spelled : spells item spelling) (back : Gap after) :
      Listed spells [item] (before ++ spelling ++ after)
  | next {item second : α} {others : List α} {before spelling after t : Text} (front : Gap before)
      (spelled : spells item spelling) (back : Gap after)
      (more : Listed spells (second :: others) t) :
      Listed spells (item :: second :: others) (before ++ spelling ++ after ++ ',' :: t)

end Items

/-- The text spells a member of an object: its name, a colon and its value. -/
inductive SpellsMember (spells : Json → Text → Prop) : Text × Json → Text → Prop where
  | mk {name : Text} {j : Json} {nameSpelling before after spelling : Text}
      (named : SpellsString name nameSpelling) (front : Gap before) (back : Gap after)
      (spelled : spells j spelling) :
      SpellsMember spells (name, j)
        ('"' :: nameSpelling ++ '"' :: (before ++ ':' :: (after ++ spelling)))

/-- The text spells an array or an object, whose inner values are spelled as given. -/
inductive SpellsNested (spells : Json → Text → Prop) : Json → Text → Prop where
  | array {elements : List Json} {t : Text} (inner : Listed spells elements t) :
      SpellsNested spells (array elements) ('[' :: t ++ [']'])
  | object {members : List (Text × Json)} {t : Text}
      (inner : Listed (SpellsMember spells) members t) :
      SpellsNested spells (object members) ('\x7b' :: t ++ ['\x7d'])

/-- The text spells the value, with brackets that are nested at most `budget` deep. -/
def Spells (literals : Literals) : Nat → Json → Text → Prop
  | 0, j, t => SpellsScalar literals j t
  | budget + 1, j, t => SpellsScalar literals j t ∨ SpellsNested (Spells literals budget) j t

/-! ## More room

A text has no deeper brackets than it has characters. Where literals may go without a value, those
that have one keep it. -/

section Imp

variable {α : Type} {spells other : α → Text → Prop}

theorem Listed.imp {items : List α} {t : Text} (listed : Listed spells items t)
    (each : ∀ item s, s.length ≤ t.length → spells item s → other item s) :
    Listed other items t := by
  induction listed with
  | none isGap => exact .none isGap
  | last front spelled back =>
      refine .last front (each _ _ ?_ spelled) back
      simp only [List.length_append]
      omega
  | next front spelled back _ ih =>
      refine .next front (each _ _ ?_ spelled) back (ih fun item s shorter => each item s ?_)
      · simp only [List.length_append, List.length_cons]
        omega
      · simp only [List.length_append, List.length_cons]
        omega

end Imp

theorem SpellsMember.imp {spells other : Json → Text → Prop} {member : Text × Json} {t : Text}
    (spelled : SpellsMember spells member t)
    (each : ∀ j s, s.length ≤ t.length → spells j s → other j s) :
    SpellsMember other member t := by
  cases spelled with
  | mk named front back spelled =>
      refine .mk named front back (each _ _ ?_ spelled)
      simp only [List.length_append, List.length_cons]
      omega

theorem SpellsScalar.lenient {j : Json} {t : Text} (spelled : SpellsScalar .strict j t) :
    SpellsScalar .lenient j t := by
  cases spelled with
  | null => exact .null
  | yes => exact .yes
  | no => exact .no
  | string spelled => exact .string spelled
  | number number valued => exact .number number valued

theorem SpellsScalar.spells {literals : Literals} {j : Json} {t : Text}
    (spelled : SpellsScalar literals j t) (budget : Nat) : Spells literals budget j t := by
  cases budget with
  | zero => exact spelled
  | succ budget => exact .inl spelled

theorem Spells.lenient_of_length {budget room : Nat} {j : Json} {t : Text}
    (spelled : Spells .strict budget j t) (fits : t.length ≤ room) :
    Spells .lenient room j t := by
  induction budget generalizing room j t with
  | zero => exact SpellsScalar.spells (SpellsScalar.lenient spelled) room
  | succ budget ih =>
      rcases spelled with scalar | nested
      · exact scalar.lenient.spells room
      · cases nested with
        | array inner =>
            rw [List.length_append, List.length_cons] at fits
            obtain ⟨room, rfl⟩ := Nat.exists_eq_add_of_le' (by omega : 1 ≤ room)
            exact .inr (.array (inner.imp fun _ _ shorter spelled => ih spelled (by omega)))
        | object inner =>
            rw [List.length_append, List.length_cons] at fits
            obtain ⟨room, rfl⟩ := Nat.exists_eq_add_of_le' (by omega : 1 ≤ room)
            refine .inr (.object (inner.imp fun _ _ shorter member => ?_))
            exact member.imp fun _ _ within spelled => ih spelled (by omega)

end Reckoner.Json
