import Reckoner.Proofs.Json.Reading

/-!
# JSON is read back

The text of a JSON value is one of its spellings, so that reading it gives the value back, as long
as its numbers are finite and its brackets are not nested too deeply. Numbers are taken for what
they denote.
-/

namespace Reckoner.Json

/-- The value can be written in a document whose brackets are nested at most `budget` deep. -/
inductive Fits : Nat → Json → Prop where
  | null (budget : Nat) : Fits budget null
  | bool (budget : Nat) (b : Bool) : Fits budget (bool b)
  | integer (budget : Nat) (i : Int) : Fits budget (integer i)
  | float (budget : Nat) {x : Binary64} (finite : x.isFinite = true) : Fits budget (float x)
  | string (budget : Nat) (t : Text) : Fits budget (string t)
  | array {budget : Nat} {elements : List Json} (inner : ∀ j ∈ elements, Fits budget j) :
      Fits (budget + 1) (array elements)
  | object {budget : Nat} {members : List (Text × Json)}
      (inner : ∀ entry ∈ members, Fits budget entry.2) : Fits (budget + 1) (object members)

/-! ## Values without brackets -/

theorem spellsScalar_bool (literals : Literals) (b : Bool) :
    SpellsScalar literals (bool b) (bool b).print := by
  cases b with
  | false => exact .no
  | true => exact .yes

theorem spellsScalar_integer (i : Int) : SpellsScalar .exact (integer i) (integer i).print := by
  have magnitude : ((if i < 0 then -i.natAbs else i.natAbs : Int)) = i := by
    split <;> omega
  have known : Literals.exact.number? (decide (i < 0)) ⟨decimalDigits i.natAbs, none, none⟩ =
      some (integer i) := by
    simp only [Literals.exact, exactNumber?, and_self, if_true, Layout.ofDigitChars_decimalDigits,
      decide_eq_true_eq, magnitude]
  have spelled := SpellsScalar.number (isNumber_decimalDigits i.natAbs) known
  simpa [print, Layout.integer, Numeral.text] using spelled

theorem spellsScalar_float {x : Binary64} (finite : x.isFinite = true) :
    SpellsScalar .exact (float x) (float x).print := by
  have written : (float x).print = Layout.json.write x := by
    rw [print, floatText, if_pos finite]
  rw [written]
  cases sign : x.isNegative with
  | false =>
      rcases exists_isNumber_write finite sign with ⟨n, number, text, known⟩
      have spelled := SpellsScalar.number number (known false)
      rwa [Binary64.ofRank_rank sign, if_neg (by decide), ← text] at spelled
  | true =>
      have magnitude : (-x).isFinite = true ∧ (-x).isNegative = false := by simp [finite, sign]
      rcases exists_isNumber_write magnitude.1 magnitude.2 with ⟨n, number, text, known⟩
      have same : Binary64.ofRank true (-x).rank = x := by
        rw [Binary64.rank_neg, ← sign, Binary64.ofRank_isNegative_rank]
      have spelled := SpellsScalar.number number (known true)
      rwa [same, if_pos rfl, ← text, ← Layout.json.write_of_isNegative finite sign] at spelled

/-! ## Values with brackets -/

section Brackets

variable {spells : Json → Text → Prop}

theorem listed_printElements {elements : List Json} (spelled : ∀ j ∈ elements, spells j j.print) :
    Listed spells elements (printElements elements) := by
  induction elements with
  | nil => exact .none gap_nil
  | cons first others ih =>
      rcases List.forall_mem_cons.mp spelled with ⟨head, tail⟩
      cases others with
      | nil => simpa [printElements] using Listed.last gap_nil head gap_nil
      | cons second others =>
          simpa [printElements] using Listed.next gap_nil head gap_nil (ih tail)

theorem spellsMember_print (name : Text) {j : Json} (spelled : spells j j.print) :
    SpellsMember spells (name, j) (stringText name ++ ':' :: j.print) := by
  simpa [stringText] using SpellsMember.mk (spellsString_flatMap name) gap_nil gap_nil spelled

theorem listed_printMembers {members : List (Text × Json)}
    (spelled : ∀ entry ∈ members, spells entry.2 entry.2.print) :
    Listed (SpellsMember spells) members (printMembers members) := by
  induction members with
  | nil => exact .none gap_nil
  | cons first others ih =>
      rcases List.forall_mem_cons.mp spelled with ⟨head, tail⟩
      have member := spellsMember_print first.1 head
      cases others with
      | nil => simpa [printMembers] using Listed.last gap_nil member gap_nil
      | cons second others =>
          simpa [printMembers] using Listed.next gap_nil member gap_nil (ih tail)

end Brackets

/-! ## Documents -/

/-- A value that fits is spelled by its text. -/
theorem spells_print {budget : Nat} {j : Json} (fits : Fits budget j) :
    Spells .exact budget j j.print := by
  induction fits with
  | null budget => exact SpellsScalar.null.spells budget
  | bool budget b => exact (spellsScalar_bool .exact b).spells budget
  | integer budget i => exact (spellsScalar_integer i).spells budget
  | float budget finite => exact (spellsScalar_float finite).spells budget
  | string budget t => exact (SpellsScalar.string (spellsString_flatMap t)).spells budget
  | array _ ih => exact .inr (.array (listed_printElements ih))
  | object _ ih => exact .inr (.object (listed_printMembers ih))

/-- The text of a value is a document of that value. -/
theorem document?_print {j : Json} (fits : Fits maxNesting j) :
    document? .exact j.print = some j := by
  simpa using document?_of_spells (spells_print fits) gap_nil gap_nil

/-- Values without brackets may stand anywhere, in particular as the members of an object. -/
theorem document?_print_object {members : List (Text × Json)}
    (fits : ∀ entry ∈ members, ∀ budget, Fits budget entry.2) :
    document? .exact (object members).print = some (object members) :=
  document?_print (.object fun entry mem => fits entry mem (maxNesting - 1))

end Reckoner.Json
