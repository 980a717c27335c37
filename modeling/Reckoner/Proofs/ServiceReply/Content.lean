import Reckoner.Proofs.ServiceReply

/-!
# The content of a reply

A reply is read by its content alone, which is its trimmed text or, if that is one code block, what
stands in the block. So a code block around a text makes no difference. Content that is a JSON value
gives an expression in two shapes only: as the member of an object, and as the only element of an
array.
-/

namespace Reckoner

namespace Json

/-- The member that counts is the last one of its name. -/
theorem member?_eq_some_iff {name : Text} {members : List (Text × Json)} {j : Json} :
    member? name members = some j ↔ ∃ earlier later, members = earlier ++ (name, j) :: later ∧
      ∀ member ∈ later, member.1 ≠ name := by
  constructor
  · intro found
    rcases Option.map_eq_some_iff.mp found with ⟨⟨key, value⟩, last, rfl⟩
    rcases List.find?_eq_some_iff_append.mp last with ⟨named, before, after, reversed, others⟩
    obtain rfl : key = name := of_decide_eq_true named
    refine ⟨after.reverse, before.reverse, ?_, ?_⟩
    · rw [← List.reverse_reverse members, reversed]
      simp
    · intro member mem same
      simpa [same] using others member (List.mem_reverse.mp mem)
  · rintro ⟨earlier, later, rfl, last⟩
    exact member?_of_last last earlier j

end Json

namespace ServiceReply

open Text

/-- What a reply is read by. -/
def content (reply : Text) : Text :=
  (fenced? (trim reply)).getD (trim reply)

theorem expression_eq (reply : Text) :
    expression reply =
      match rawExpression (content reply) with
      | .error cause => .error (.normalizationFailed cause)
      | .ok found =>
        if (trim found).isEmpty then .error (.normalizationFailed .emptyReply)
        else .ok (trim found) :=
  rfl

/-! ## Code blocks -/

/-- The whole text is one code block. -/
def IsFenced (t : Text) : Prop :=
  ∃ inside, t = fence ++ inside ++ fence

theorem fenced?_fence (inside : Text) :
    fenced? (fence ++ inside ++ fence) = some (trim (inside.dropWhile Char.isAlpha)) := by
  have start : fence.isPrefixOf (fence ++ inside ++ fence) = true := by
    rw [List.isPrefixOf_iff_prefix, List.append_assoc]
    exact List.prefix_append _ _
  have stop : fence.isSuffixOf (fence ++ inside ++ fence) = true := by
    rw [List.isSuffixOf_iff_suffix]
    exact List.suffix_append _ _
  have length : (fence ++ inside ++ fence).length =
      fence.length + (inside.length + fence.length) := by
    rw [List.append_assoc, List.length_append, List.length_append]
  have body : ((fence ++ inside ++ fence).drop fence.length).take
      ((fence ++ inside ++ fence).length - 2 * fence.length) = inside := by
    rw [List.append_assoc, List.drop_left, ← List.append_assoc, length]
    exact List.take_left' (by omega)
  rw [fenced?, if_pos ⟨start, stop, by omega⟩, body]

theorem fenced?_eq_none_iff {t : Text} : fenced? t = none ↔ ¬ IsFenced t := by
  constructor
  · rintro none ⟨inside, rfl⟩
    rw [fenced?_fence] at none
    contradiction
  · intro unfenced
    rw [fenced?]
    refine if_neg ?_
    rintro ⟨start, stop, long⟩
    rcases List.isPrefixOf_iff_prefix.mp start with ⟨rest, rfl⟩
    rw [List.isSuffixOf_iff_suffix] at stop
    have inRest : fence <:+ rest := by
      rw [List.length_append] at long
      exact List.suffix_of_suffix_length_le stop (List.suffix_append _ _) (by omega)
    rcases inRest with ⟨inside, rfl⟩
    exact unfenced ⟨inside, (List.append_assoc _ _ _).symm⟩

theorem trim_fence (inside : Text) : trim (fence ++ inside ++ fence) = fence ++ inside ++ fence := by
  have ends : fence ++ inside ++ fence = '\x60' :: ('\x60' :: '\x60' :: inside ++ ['\x60', '\x60']) ++
      ['\x60'] := by
    simp [fence]
  rw [ends, trim_enclosed (by decide) (by decide)]

/-- The word behind the opening fence and the blanks inside the block are cut off. -/
theorem content_fence {label : Text} (letters : ∀ c ∈ label, c.isAlpha = true) (inside : Text) :
    content (fence ++ (label ++ '\n' :: inside ++ ['\n']) ++ fence) = trim inside := by
  have body : (label ++ '\n' :: inside ++ ['\n']).dropWhile Char.isAlpha =
      ['\n'] ++ inside ++ ['\n'] := by
    rw [List.append_assoc, List.dropWhile_append_of_pos letters]
    exact List.dropWhile_cons_of_neg (by decide)
  have newline : ∀ c ∈ ['\n'], isBlank c = true := by decide
  rw [content, trim_fence, fenced?_fence, body, trim_append newline newline]
  rfl

/-- A code block is read as the text in it, if this is not itself a code block. -/
theorem expression_fence {label inside : Text} (letters : ∀ c ∈ label, c.isAlpha = true)
    (unfenced : ¬ IsFenced (trim inside)) :
    expression (fence ++ label ++ '\n' :: inside ++ '\n' :: fence) = expression inside := by
  have block : fence ++ label ++ '\n' :: inside ++ '\n' :: fence =
      fence ++ (label ++ '\n' :: inside ++ ['\n']) ++ fence := by
    simp
  have same : content inside = trim inside := by
    rw [content, fenced?_eq_none_iff.mpr unfenced]
    rfl
  rw [expression_eq, expression_eq inside, block, content_fence letters, same]

/-- The theorem applies to a text that ends in a fence and starts with letters. -/
theorem expression_fence_quoted :
    let label := "json".toList
    let inside := "\u00a0say \x60\x60\x602pi\x60\x60\x60\n".toList
    (∀ c ∈ label, c.isAlpha = true) ∧ ¬ IsFenced (trim inside) ∧
      expression (fence ++ label ++ '\n' :: inside ++ '\n' :: fence) = expression inside ∧
        expression inside = .ok "2pi".toList := by
  intro label inside
  have letters : ∀ c ∈ label, c.isAlpha = true := by decide
  have unfenced : ¬ IsFenced (trim inside) := fenced?_eq_none_iff.mp (by decide +kernel)
  exact ⟨letters, unfenced, expression_fence letters unfenced, by decide +kernel⟩

/-! ## Shapes -/

/-- The value is an object, and its member `expression` is a string. -/
def HasExpression (j : Json) (t : Text) : Prop :=
  ∃ earlier later, j = .object (earlier ++ ("expression".toList, .string t) :: later) ∧
    ∀ member ∈ later, member.1 ≠ "expression".toList

/-- A reply has the string in an object, or it is an array of nothing but the string. -/
theorem ofJson_eq_ok_iff {j : Json} {t : Text} :
    ofJson j = .ok t ↔ HasExpression j t ∨ j = .array [.string t] := by
  constructor
  · intro done
    unfold ofJson at done
    split at done
    · split at done
      · rename_i members _ string found
        cases done
        rcases Json.member?_eq_some_iff.mp found with ⟨earlier, later, rfl, last⟩
        exact .inl ⟨earlier, later, rfl, last⟩
      · contradiction
      · contradiction
    · contradiction
    · cases done
      exact .inr rfl
    · contradiction
    · contradiction
    · contradiction
  · rintro (⟨earlier, later, rfl, last⟩ | rfl)
    · rw [ofJson, Json.member?_of_last last]
    · rfl

section Documents

variable {reply before spelling after : Text} {j : Json}

theorem rawExpression_of_spells (front : Json.Gap before) (back : Json.Gap after)
    (spelled : Json.Spells .strict Json.maxNesting j spelling) :
    rawExpression (before ++ spelling ++ after) = (ofJson j).mapError .unexpectedShape := by
  rw [rawExpression, Json.ofText?, Json.document?_of_spells spelled front back]

theorem expression_of_found {found : Text} (raw : rawExpression (content reply) = .ok found) :
    expression reply =
      if ∀ c ∈ found, isBlank c = true then .error (.normalizationFailed .emptyReply)
      else .ok (trim found) := by
  simp only [expression_eq, raw, List.isEmpty_iff, trim_eq_nil_iff]

/-- A reply that is a JSON value gives an expression exactly if the value has a string that is not
blank, as the member `expression` of an object or as the only element of an array. A reply that is any
other JSON value is a failure to normalize. -/
theorem expression_of_document (front : Json.Gap before) (back : Json.Gap after)
    (spelled : Json.Spells .strict Json.maxNesting j spelling)
    (json : content reply = before ++ spelling ++ after) :
    (∀ x, expression reply = .ok x ↔
      ∃ t, (HasExpression j t ∨ j = .array [.string t]) ∧ ¬ (∀ c ∈ t, isBlank c = true) ∧
        x = trim t) ∧
    ((∀ x, expression reply ≠ .ok x) →
      ∃ cause, expression reply = .error (.normalizationFailed cause)) := by
  have raw := rawExpression_of_spells front back spelled
  rw [← json] at raw
  simp only [← ofJson_eq_ok_iff]
  cases shape : ofJson j with
  | error cause =>
      rw [shape] at raw
      have failed : expression reply = .error (.normalizationFailed (.unexpectedShape cause)) := by
        rw [expression_eq, raw]
        rfl
      rw [failed]
      exact ⟨by simp, fun _ => ⟨_, rfl⟩⟩
  | ok found =>
      rw [shape] at raw
      rw [expression_of_found raw]
      by_cases blank : ∀ c ∈ found, isBlank c = true
      · rw [if_pos blank]
        refine ⟨fun x => ?_, fun _ => ⟨_, rfl⟩⟩
        constructor
        · intro done
          contradiction
        · rintro ⟨t, ⟨rfl⟩, visible, _⟩
          exact absurd blank visible
      · rw [if_neg blank]
        refine ⟨fun x => ?_, fun none => absurd rfl (none _)⟩
        constructor
        · rintro ⟨rfl⟩
          exact ⟨found, rfl, blank, rfl⟩
        · rintro ⟨t, ⟨rfl⟩, _, rfl⟩
          rfl

end Documents

/-- An array of one string. -/
theorem spells_element : Json.Spells .strict Json.maxNesting (.array [.string "2 + 2".toList])
    "[\"2 + 2\"]".toList := by
  have read : (Json.stringBody .strict).read ("2 + 2".toList ++ ['"']) =
      .ok ("2 + 2".toList, []) := by decide +kernel
  have string : Json.SpellsString "2 + 2".toList "2 + 2".toList :=
    (Json.spellsString_iff rfl).mpr read
  exact .inr (.array (.last Json.gap_nil
    ((@Json.SpellsScalar.string .strict _ _ string).spells 126) Json.gap_nil))

/-- The theorem applies to an array in a code block. -/
theorem expression_of_document_fenced :
    let reply := "\x60\x60\x60json\n[\"2 + 2\"]\n\x60\x60\x60".toList
    let j := Json.array [.string "2 + 2".toList]
    Json.Gap [] ∧ Json.Spells .strict Json.maxNesting j "[\"2 + 2\"]".toList ∧
      content reply = [] ++ "[\"2 + 2\"]".toList ++ [] ∧
      (∀ x, expression reply = .ok x ↔
        ∃ t, (HasExpression j t ∨ j = .array [.string t]) ∧ ¬ (∀ c ∈ t, isBlank c = true) ∧
          x = trim t) ∧
      ((∀ x, expression reply ≠ .ok x) →
        ∃ cause, expression reply = .error (.normalizationFailed cause)) := by
  intro reply j
  have json : content reply = [] ++ "[\"2 + 2\"]".toList ++ [] := by decide +kernel
  exact ⟨Json.gap_nil, spells_element, json,
    expression_of_document Json.gap_nil Json.gap_nil spells_element json⟩

/-- Not only objects give an expression: an array of one string gives it, too. -/
theorem expression_of_element :
    let reply := "[\"2 + 2\"]".toList
    let j := Json.array [.string "2 + 2".toList]
    Json.Spells .strict Json.maxNesting j (content reply) ∧
      expression reply = .ok "2 + 2".toList ∧ ∀ t, ¬ HasExpression j t := by
  intro reply j
  have json : content reply = "[\"2 + 2\"]".toList := by decide +kernel
  refine ⟨json ▸ spells_element, ?_, ?_⟩
  · decide +kernel
  · rintro t ⟨earlier, later, object, _⟩
    contradiction

end ServiceReply

end Reckoner
