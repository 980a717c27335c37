import Reckoner.Proofs.Json.Number
import Reckoner.Proofs.Json.Text

/-!
# Spelled JSON is read

Every value is read off each of its spellings, behind any gap and in front of whatever closes it.
The readers of elements, members and brackets are taken one by one, each for whatever the reader
below it reads; the values themselves follow by induction on the levels of brackets.
-/

namespace Reckoner.Json

variable {literals : Literals} {budget : Nat} {j : Json} {gap rest t : Text}

/-! ## Gaps in front of values -/

theorem read_value_append (isGap : Gap gap) (literals : Literals) (budget : Nat) (t : Text) :
    (value literals budget).read (gap ++ t) = (value literals budget).read t := by
  cases budget with
  | zero => simp only [value, afterGap_append isGap]
  | succ budget => simp only [value, afterGap_append isGap]

/-- The character starts a value that has no brackets. -/
structure Starts (c : Char) : Prop where
  not_gap : isGap c = false
  not_array : c ≠ '['
  not_object : c ≠ '\x7b'

theorem starts_of_isDigit {c : Char} (digit : c.isDigit = true) : Starts c := by
  have range := (Text.isDigit_iff c).mp digit
  have other (d : Char) (outside : d.toNat < 48 ∨ 57 < d.toNat) : c ≠ d := by
    rintro rfl
    omega
  constructor
  · simp [isGap, other]
  · exact other _ (by decide)
  · exact other _ (by decide)

theorem read_value_of_starts {c : Char} (starts : Starts c) (literals : Literals) (budget : Nat)
    (t : Text) : (value literals budget).read (c :: t) = (scalar literals).read (c :: t) := by
  cases budget with
  | zero => simp only [value, afterGap_cons starts.not_gap]
  | succ budget =>
      simp only [value, afterGap_cons starts.not_gap]
      split
      · rename_i bracket
        exact absurd (List.cons.inj bracket).1 starts.not_array
      · rename_i brace
        exact absurd (List.cons.inj brace).1 starts.not_object
      · rfl

/-! ## Values without brackets -/

theorem scalar_of_isDigit {c : Char} (digit : c.isDigit = true) (literals : Literals) (t : Text) :
    (scalar literals).read (c :: t) = (numberBody literals false).read (c :: t) := by
  have other (d : Char) (letter : d.isDigit = false) : c ≠ d := by
    rintro rfl
    rw [digit] at letter
    contradiction
  simp only [scalar]
  split
  case h_6 shape =>
    rcases List.cons.inj shape with ⟨rfl, rfl⟩
    rw [if_pos digit]
  case h_7 shape => contradiction
  all_goals
    rename_i shape
    exact absurd (List.cons.inj shape).1 (other _ rfl)

/-- A numeral is read as the value that it has behind its minus sign, or without one. -/
theorem read_value_number {n : Numeral} (number : IsNumber n) {negative : Bool}
    (valued : literals.number? negative n = some j) (budget : Nat) (closes : Closes rest) :
    (value literals budget).read ((if negative then '-' :: n.text else n.text) ++ rest) =
      .ok (j, rest) := by
  have body := number.read_numberBody closes valued
  cases negative with
  | false =>
      rcases number.exists_cons with ⟨c, t, text, digit⟩
      rw [text] at body
      rw [if_neg (by decide), text, List.cons_append,
        read_value_of_starts (starts_of_isDigit digit), scalar_of_isDigit digit]
      exact body
  | true =>
      exact (read_value_of_starts ⟨by decide, by decide, by decide⟩ literals budget _).trans body

theorem SpellsScalar.read_value (spelled : SpellsScalar literals j t) (budget : Nat)
    (closes : Closes rest) : (value literals budget).read (t ++ rest) = .ok (j, rest) := by
  cases spelled with
  | null => exact read_value_of_starts ⟨by decide, by decide, by decide⟩ literals budget _
  | yes => exact read_value_of_starts ⟨by decide, by decide, by decide⟩ literals budget _
  | no => exact read_value_of_starts ⟨by decide, by decide, by decide⟩ literals budget _
  | @string x spelling spelled =>
      have body := spelled.read_stringBody literals rest
      have text : '"' :: spelling ++ ['"'] ++ rest = '"' :: (spelling ++ '"' :: rest) := by simp
      rw [text, read_value_of_starts ⟨by decide, by decide, by decide⟩]
      simp only [scalar, Reader.map, body]
  | number number valued => exact read_value_number number valued budget closes

/-! ## Elements -/

/-- The reader reads what is spelled, behind any gap and in front of whatever closes it. -/
def ReadsSpelled {α : Type} (reader : JsonReader α) (spells : α → Text → Prop) : Prop :=
  ∀ {item : α} {spelling gap rest : Text}, spells item spelling → Gap gap → Closes rest →
    reader.read (gap ++ spelling ++ rest) = .ok (item, rest)

section Elements

variable {element : JsonReader Json} {middle next last : Text} {first : Json} {others : List Json}

theorem elementsFrom_of_next (step : element.read t = .ok (first, middle))
    (comma : afterGap middle = ',' :: next)
    (more : elementsFrom element next = .ok (others, last)) :
    elementsFrom element t = .ok (first :: others, last) := by
  fun_cases elementsFrom element t <;> simp_all

theorem elementsFrom_of_last (step : element.read t = .ok (first, middle))
    (closed : afterGap middle = ']' :: last) :
    elementsFrom element t = .ok ([first], last) := by
  fun_cases elementsFrom element t <;> simp_all

theorem elementsFrom_of_error {e : ReadError} (failed : element.read t = .error e) :
    elementsFrom element t = .error e := by
  fun_cases elementsFrom element t <;> simp_all

/-- Elements are read up to the closing bracket, if there are any. -/
theorem elementsFrom_of_listed {spells : Json → Text → Prop} {elements : List Json}
    (reads : ReadsSpelled element spells) (listed : Listed spells elements t)
    (nonempty : elements ≠ []) (rest : Text) :
    elementsFrom element (t ++ ']' :: rest) = .ok (elements, rest) := by
  induction listed with
  | none => contradiction
  | @last item before spelling after front spelled back =>
      have closes := back.closes_append (closes_cons (.inr (.inl rfl)) rest)
      have step := reads spelled front closes
      rw [List.append_assoc _ after]
      refine elementsFrom_of_last step ?_
      rw [afterGap_append back, afterGap_cons rfl]
  | @next item second others before spelling after t front spelled back _ ih =>
      have closes := back.closes_append (closes_cons (.inl rfl) (t ++ ']' :: rest))
      have step := reads spelled front closes
      have text : before ++ spelling ++ after ++ ',' :: t ++ ']' :: rest =
          before ++ spelling ++ (after ++ ',' :: (t ++ ']' :: rest)) := by
        simp
      rw [text]
      refine elementsFrom_of_next step ?_ (ih (List.cons_ne_nil _ _))
      rw [afterGap_append back, afterGap_cons rfl]

end Elements

/-- No value starts with a closing bracket. -/
theorem read_value_of_close (literals : Literals) (budget : Nat)
    (closed : afterGap t = ']' :: rest) : (value literals budget).read t = .error .malformed := by
  cases budget with
  | zero => simp only [value, closed]; rfl
  | succ budget => simp only [value, closed]; rfl

theorem read_arrayBody {spells : Json → Text → Prop} {elements : List Json}
    (reads : ReadsSpelled (value literals budget) spells) (listed : Listed spells elements t)
    (rest : Text) :
    (arrayBody (value literals budget)).read (t ++ ']' :: rest) = .ok (array elements, rest) := by
  cases elements with
  | nil =>
      cases listed with
      | none isGap => simp [arrayBody, afterGap_append isGap, afterGap_cons (c := ']') rfl]
  | cons first others =>
      have done := elementsFrom_of_listed reads listed (List.cons_ne_nil _ _) rest
      simp only [arrayBody]
      split
      · rename_i closed
        rw [elementsFrom_of_error (read_value_of_close literals budget closed)] at done
        contradiction
      · rw [done]

/-! ## Members -/

theorem SpellsString.read_memberName {name spelling : Text} (spelled : SpellsString name spelling)
    (isGap : Gap gap) (literals : Literals) (rest : Text) :
    (memberName literals).read (gap ++ '"' :: (spelling ++ '"' :: rest)) = .ok (name, rest) := by
  have body := spelled.read_stringBody literals rest
  simp only [memberName, afterGap_append isGap, afterGap_cons (by decide : Json.isGap '"' = false),
    body]

/-- No name starts with a closing brace. -/
theorem read_memberName_of_close (literals : Literals) (closed : afterGap t = '\x7d' :: rest) :
    (memberName literals).read t = .error .malformed := by
  simp only [memberName, closed]
  rfl

theorem read_afterColon {α : Type} (reader : JsonReader α) (isGap : Gap gap) (t : Text) :
    (afterColon reader).read (gap ++ ':' :: t) = reader.read t := by
  simp only [afterColon, afterGap_append isGap, afterGap_cons (by decide : Json.isGap ':' = false)]

section Members

variable {reader : JsonReader Text} {element : JsonReader Json}
  {name colon middle next last : Text} {first : Json} {others : List (Text × Json)}

theorem membersFrom_of_error {e : ReadError} (failed : reader.read t = .error e) :
    membersFrom reader element t = .error e := by
  fun_cases membersFrom reader element t <;> simp_all

theorem membersFrom_of_next (named : reader.read t = .ok (name, colon))
    (step : (afterColon element).read colon = .ok (first, middle))
    (comma : afterGap middle = ',' :: next)
    (more : membersFrom reader element next = .ok (others, last)) :
    membersFrom reader element t = .ok ((name, first) :: others, last) := by
  fun_cases membersFrom reader element t <;> grind

theorem membersFrom_of_last (named : reader.read t = .ok (name, colon))
    (step : (afterColon element).read colon = .ok (first, middle))
    (closed : afterGap middle = '\x7d' :: last) :
    membersFrom reader element t = .ok ([(name, first)], last) := by
  fun_cases membersFrom reader element t <;> grind

/-- A member is read in two steps, its name and what stands behind the colon. -/
theorem SpellsMember.read {spells : Json → Text → Prop} {member : Text × Json} {spelling : Text}
    (reads : ReadsSpelled element spells) (spelled : SpellsMember spells member spelling)
    (isGap : Gap gap) (closes : Closes rest) (literals : Literals) :
    ∃ colon, (memberName literals).read (gap ++ spelling ++ rest) = .ok (member.1, colon) ∧
      (afterColon element).read colon = .ok (member.2, rest) := by
  cases spelled with
  | @mk name j nameSpelling before after spelling named front back spelled =>
      refine ⟨before ++ ':' :: (after ++ spelling ++ rest), ?_, ?_⟩
      · have name := named.read_memberName isGap literals
          (before ++ ':' :: (after ++ spelling ++ rest))
        simpa using name
      · exact (read_afterColon element front _).trans (reads spelled back closes)

/-- Members are read up to the closing brace, if there are any. -/
theorem membersFrom_of_listed {spells : Json → Text → Prop} {members : List (Text × Json)}
    (reads : ReadsSpelled element spells) (listed : Listed (SpellsMember spells) members t)
    (nonempty : members ≠ []) (literals : Literals) (rest : Text) :
    membersFrom (memberName literals) element (t ++ '\x7d' :: rest) = .ok (members, rest) := by
  induction listed with
  | none => contradiction
  | @last item before spelling after front spelled back =>
      have closes := back.closes_append (closes_cons (.inr (.inr rfl)) rest)
      rcases spelled.read reads front closes literals with ⟨colon, named, step⟩
      rw [List.append_assoc _ after]
      refine membersFrom_of_last named step ?_
      rw [afterGap_append back, afterGap_cons rfl]
  | @next item second others before spelling after t front spelled back _ ih =>
      have closes := back.closes_append (closes_cons (.inl rfl) (t ++ '\x7d' :: rest))
      rcases spelled.read reads front closes literals with ⟨colon, named, step⟩
      have text : before ++ spelling ++ after ++ ',' :: t ++ '\x7d' :: rest =
          before ++ spelling ++ (after ++ ',' :: (t ++ '\x7d' :: rest)) := by
        simp
      rw [text]
      refine membersFrom_of_next named step ?_ (ih (List.cons_ne_nil _ _))
      rw [afterGap_append back, afterGap_cons rfl]

theorem read_objectBody {spells : Json → Text → Prop} {members : List (Text × Json)}
    (reads : ReadsSpelled element spells) (listed : Listed (SpellsMember spells) members t)
    (literals : Literals) (rest : Text) :
    (objectBody (memberName literals) element).read (t ++ '\x7d' :: rest) =
      .ok (object members, rest) := by
  cases members with
  | nil =>
      cases listed with
      | none isGap => simp [objectBody, afterGap_append isGap, afterGap_cons (c := '\x7d') rfl]
  | cons first others =>
      have done := membersFrom_of_listed reads listed (List.cons_ne_nil _ _) literals rest
      simp only [objectBody]
      split
      · rename_i closed
        have unnamed := read_memberName_of_close literals closed
        rw [membersFrom_of_error unnamed] at done
        contradiction
      · rw [done]

end Members

/-! ## Documents -/

theorem SpellsNested.read_value
    (reads : ReadsSpelled (value literals budget) (Spells literals budget))
    (spelled : SpellsNested (Spells literals budget) j t) (rest : Text) :
    (value literals (budget + 1)).read (t ++ rest) = .ok (j, rest) := by
  cases spelled with
  | @array elements inside listed =>
      have text : '[' :: inside ++ [']'] ++ rest = '[' :: (inside ++ ']' :: rest) := by simp
      rw [text]
      simp only [value, afterGap_cons (by decide : isGap '[' = false)]
      exact read_arrayBody reads listed rest
  | @object members inside listed =>
      have text : '\x7b' :: inside ++ ['\x7d'] ++ rest = '\x7b' :: (inside ++ '\x7d' :: rest) := by
        simp
      rw [text]
      simp only [value, afterGap_cons (by decide : isGap '\x7b' = false)]
      exact read_objectBody reads listed literals rest

/-- A gap in front of a value makes no difference, so that the value may be read without one. -/
theorem readsSpelled_of_read
    (reads : ∀ {j : Json} {t rest : Text}, Spells literals budget j t → Closes rest →
      (value literals budget).read (t ++ rest) = .ok (j, rest)) :
    ReadsSpelled (value literals budget) (Spells literals budget) := by
  intro item spelling gap rest spelled isGap closes
  rw [List.append_assoc, read_value_append isGap]
  exact reads spelled closes

/-- Values are read off their spellings. -/
theorem readsSpelled_value (literals : Literals) (budget : Nat) :
    ReadsSpelled (value literals budget) (Spells literals budget) := by
  induction budget with
  | zero =>
      apply readsSpelled_of_read
      intro j t rest spelled closes
      exact SpellsScalar.read_value spelled 0 closes
  | succ budget ih =>
      apply readsSpelled_of_read
      intro j t rest spelled closes
      rcases spelled with scalar | nested
      · exact scalar.read_value (budget + 1) closes
      · exact nested.read_value ih rest

/-- A spelling of a value is a document of that value, whatever gaps stand around it. -/
theorem document?_of_spells {before after : Text} (spelled : Spells literals maxNesting j t)
    (front : Gap before) (back : Gap after) :
    document? literals (before ++ t ++ after) = some j := by
  have closes : Closes after := by
    have closes := back.closes_append closes_nil
    rwa [List.append_nil] at closes
  have left : afterGap after = [] := by
    have left := afterGap_append back []
    rwa [List.append_nil] at left
  simp only [document?, readsSpelled_value literals maxNesting spelled front closes, left]
  rfl

end Reckoner.Json
