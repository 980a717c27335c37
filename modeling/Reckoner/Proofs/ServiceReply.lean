import Reckoner.Proofs.Json.Front
import Reckoner.Proofs.Text.Words
import Reckoner.ServiceReply

/-!
# Expressions out of replies

A reply that is an object of JSON is taken as that object, however it is spelled: what stands inside
its strings is never taken for a code fence or for a fragment in quotes.
-/

namespace Reckoner

namespace Json

/-- The last member of a name counts. -/
theorem member?_of_last {name : Text} {later : List (Text × Json)}
    (last : ∀ member ∈ later, member.1 ≠ name) (earlier : List (Text × Json)) (j : Json) :
    member? name (earlier ++ (name, j) :: later) = some j := by
  have others : later.reverse.find? (·.1 = name) = none := by simpa using last
  simp [member?, List.find?_append, others]

end Json

namespace ServiceReply

open Text

variable {t : Text}

theorem fenced?_braces (inside : Text) : fenced? ('\x7b' :: inside ++ ['\x7d']) = none := by
  have noFence : fence.isPrefixOf ('\x7b' :: inside ++ ['\x7d']) = false := by
    simp [fence, List.isPrefixOf]
  rw [fenced?, noFence, if_neg fun fenced => Bool.false_ne_true fenced.1]

/-- A reply that spells an object, between any blanks, gives the string that is the last member of
the right name, unless it is blank. -/
theorem expression_of_spells {before after x : Text} {earlier later : List (Text × Json)}
    (front : ∀ c ∈ before, isBlank c = true) (back : ∀ c ∈ after, isBlank c = true)
    (spelled : Json.Spells .strict Json.maxNesting
      (.object (earlier ++ ("expression".toList, .string x) :: later)) t)
    (last : ∀ member ∈ later, member.1 ≠ "expression".toList) :
    expression (before ++ t ++ after) =
      if ∀ c ∈ x, isBlank c = true then .error (.normalizationFailed .emptyReply)
      else .ok (trim x) := by
  have document := Json.document?_of_spells spelled Json.gap_nil Json.gap_nil
  rw [List.nil_append, List.append_nil] at document
  have raw : rawExpression t = .ok x := by
    simp only [rawExpression, Json.ofText?, document, ofJson, Json.member?_of_last last]
    rfl
  rcases Json.exists_of_spells_object spelled with ⟨_, inside, _, text⟩
  have trimmed : trim (before ++ t ++ after) = t := by
    rw [trim_append front back, text, trim_enclosed (by decide) (by decide)]
  have content : (fenced? t).getD t = t := by
    rw [text, fenced?_braces]
    rfl
  simp only [expression, trimmed, content, raw, List.isEmpty_iff, trim_eq_nil_iff]

/-- An object whose string looks like a code block. Its name is escaped, and it stands between
members that do not count. -/
def fencedString : Text :=
  "\x7b\"expression\":5, \"\\u0065xpression\" : ".toList ++
    "\" \x60\x60\x60\\ud835\\uDFD9\x60\x60\x60 \" ,".toList ++
    "\"n\":[\x7b \x7d,\t-15]\x7d".toList

theorem spells_fencedString : Json.Spells .strict Json.maxNesting
    (.object ([("expression".toList, .integer 5)] ++
      ("expression".toList, .string " \x60\x60\x60𝟙\x60\x60\x60 ".toList) ::
        [("n".toList, .array [.object [], .integer (-15)])])) fencedString := by
  have string (x spelling : Text) (read : (Json.stringBody .strict).read (spelling ++ ['"']) =
      .ok (x, [])) : Json.SpellsString x spelling := (Json.spellsString_iff rfl).mpr read
  have space : Json.Gap [' '] := by simp [Json.Gap, Json.isGap]
  have tab : Json.Gap ['\t'] := by simp [Json.Gap, Json.isGap]
  have five : Json.Spells .strict 126 (.integer 5) "5".toList :=
    (@Json.SpellsScalar.number .strict false _ _ (Json.isNumber_decimalDigits 5) rfl).spells 126
  have fifteen : Json.Spells .strict 125 (.integer (-15)) "-15".toList :=
    (@Json.SpellsScalar.number .strict true _ _ (Json.isNumber_decimalDigits 15) rfl).spells 125
  have fenced := string " \x60\x60\x60𝟙\x60\x60\x60 ".toList
    " \x60\x60\x60\\ud835\\uDFD9\x60\x60\x60 ".toList (by decide +kernel)
  have empty : Json.Spells .strict 125 (.object []) "\x7b \x7d".toList :=
    .inr (.object (.none space))
  have elements : Json.Spells .strict 126 (.array [.object [], .integer (-15)])
      "[\x7b \x7d,\t-15]".toList :=
    .inr (.array (.next Json.gap_nil empty Json.gap_nil (.last tab fifteen Json.gap_nil)))
  have first := Json.SpellsMember.mk
    (string "expression".toList "expression".toList (by decide +kernel))
    Json.gap_nil Json.gap_nil five
  have second := Json.SpellsMember.mk
    (string "expression".toList "\\u0065xpression".toList (by decide +kernel)) space space
    ((@Json.SpellsScalar.string .strict _ _ fenced).spells 126)
  have third := Json.SpellsMember.mk (string "n".toList "n".toList (by decide +kernel))
    Json.gap_nil Json.gap_nil elements
  exact .inr (.object (.next Json.gap_nil first Json.gap_nil
    (.next space second space (.last Json.gap_nil third Json.gap_nil))))

/-- The theorem applies between blanks of both kinds. -/
theorem expression_of_spells_fencedString :
    (∀ c ∈ "\n ".toList, isBlank c = true) ∧ (∀ c ∈ "\u00a0".toList, isBlank c = true) ∧
      (∀ member ∈ [("n".toList, Json.array [.object [], .integer (-15)])],
        member.1 ≠ "expression".toList) ∧
      expression ("\n ".toList ++ fencedString ++ "\u00a0".toList) =
        .ok "\x60\x60\x60𝟙\x60\x60\x60".toList := by
  have front : ∀ c ∈ "\n ".toList, isBlank c = true := by decide
  have back : ∀ c ∈ "\u00a0".toList, isBlank c = true := by decide
  have last : ∀ member ∈ [("n".toList, Json.array [.object [], .integer (-15)])],
      member.1 ≠ "expression".toList := by
    simp
  refine ⟨front, back, last, ?_⟩
  rw [expression_of_spells front back spells_fencedString last, if_neg (by decide)]
  rfl

end ServiceReply

end Reckoner
