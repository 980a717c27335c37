import Reckoner.Proofs.Json.Front
import Reckoner.Web.Request

/-!
# What a body asks

A body that is one JSON value asks what the value says, however the value is spelled. Of an object
the members `expression` and `angleMode` count, in any order and each at most once, and of an array
the two elements. Everything else that is a JSON value is turned away.
-/

namespace Reckoner.WebRequest

open Json

variable {α : Type} {budget : Nat} {j : Json} {gap rest spelling t : Text}

/-! ## Results

Why a reader fails is left aside. -/

theorem eq_ok_of_toOption {ε : Type} {result : Except ε α} {a : α}
    (done : result.toOption = some a) : result = .ok a := by
  cases result with
  | error e => contradiction
  | ok b => exact congrArg Except.ok (Option.some.inj done)

theorem exists_error_of_toOption {ε : Type} {result : Except ε α}
    (failed : result.toOption = none) : ∃ e, result = .error e := by
  cases result with
  | error e => exact ⟨e, rfl⟩
  | ok a => contradiction

theorem toOption_map {β : Type} (f : α → β) (reader : JsonReader α) (t : Text) :
    ((reader.map f).read t).toOption =
      (reader.read t).toOption.map fun found => (f found.1, found.2) := by
  simp only [Reader.map]
  cases reader.read t <;> rfl

/-! ## Values of a known kind -/

/-- The text that a value is. -/
def text? : Json → Option Text
  | .string t => some t
  | _ => none

/-- The mode that a value names, by a string or as the only member of an object, with the value
`null`. -/
def mode? : Json → Option AngleMode
  | .string name => modeOfName? name
  | .object [(name, .null)] => modeOfName? name
  | _ => none

/-- Whether a value is `null`. -/
def null? : Json → Option Unit
  | .null => some ()
  | _ => none

/-- Nothing for `null`, and what a value means otherwise. -/
def orNull (meaning : Json → Option α) : Json → Option (Option α)
  | .null => some none
  | j => (meaning j).map some

/-- The reader makes of every spelled value what the value means, and fails if it means nothing. -/
def Interprets (reader : JsonReader α) (meaning : Json → Option α) : Prop :=
  ∀ {budget : Nat} {j : Json} {spelling gap rest : Text}, Spells .strict budget j spelling →
    Gap gap → Closes rest →
      (reader.read (gap ++ spelling ++ rest)).toOption = (meaning j).map (·, rest)

theorem interprets_stringValue : Interprets stringValue text? := by
  intro budget j spelling gap rest spelled isGap closes
  by_cases isText : ∃ t, j = .string t
  · rcases isText with ⟨t, rfl⟩
    rcases exists_of_spells_string spelled with ⟨inside, spelledText, rfl⟩
    have front := afterGap_enclosed (by decide : Json.isGap '"' = false) isGap inside '"' rest
    simp only [stringValue, front, spelledText.read_stringBody .strict rest]
    rfl
  · rcases exists_opens spelled with ⟨c, t, rfl, opens⟩
    have front := afterGap_spelled opens isGap t rest
    have other : text? j = none := by
      cases j <;> first | rfl | exact absurd ⟨_, rfl⟩ isText
    simp only [stringValue, front, other]
    split
    · rename_i quote
      exact absurd (opens.quote_iff.mp (List.cons.inj quote).1) isText
    · rfl

theorem interprets_ignoredValue : Interprets ignoredValue some := by
  intro budget j spelling gap rest spelled isGap closes
  have room : spelling.length ≤ (gap ++ spelling ++ rest).length := by
    simp only [List.length_append]
    omega
  have relaxed := spelled.lenient_of_length room
  simp only [ignoredValue, readsSpelled_value .lenient _ relaxed isGap closes]
  rfl

theorem orNull_of_ne_null {meaning : Json → Option α} (other : j ≠ .null) :
    orNull meaning j = (meaning j).map some := by
  cases j <;> first | rfl | contradiction

/-- A value is `null`, or it is read as the reader reads it. -/
theorem Interprets.nullable {reader : JsonReader α} {meaning : Json → Option α}
    (interprets : Interprets reader meaning) :
    Interprets (nullable reader) (orNull meaning) := by
  intro budget j spelling gap rest spelled isGap closes
  rcases exists_opens spelled with ⟨c, t, rfl, opens⟩
  have front := afterGap_spelled opens isGap t rest
  by_cases isNull : j = .null
  · subst isNull
    obtain ⟨rfl, rfl⟩ := List.cons_eq_cons.mp (eq_of_spells_null spelled)
    simp only [WebRequest.nullable, front]
    rfl
  · have read := interprets spelled gap_nil closes
    rw [List.nil_append, List.cons_append] at read
    simp only [WebRequest.nullable, front]
    split
    · rename_i letter
      exact absurd (opens.letter_iff.mp (List.cons.inj letter).1) isNull
    · rw [toOption_map, read, orNull_of_ne_null isNull, Option.map_map, Option.map_map]
      rfl

theorem interprets_nullValue : Interprets nullValue null? := by
  intro budget j spelling gap rest spelled isGap closes
  rcases exists_opens spelled with ⟨c, t, rfl, opens⟩
  have front := afterGap_spelled opens isGap t rest
  by_cases isNull : j = .null
  · subst isNull
    obtain ⟨rfl, rfl⟩ := List.cons_eq_cons.mp (eq_of_spells_null spelled)
    simp only [nullValue, front]
    rfl
  · have other : null? j = none := by
      cases j <;> first | rfl | contradiction
    simp only [nullValue, front, other]
    split
    · rename_i letters
      exact absurd (opens.letter_iff.mp (List.cons.inj letters).1) isNull
    · rfl

/-! ## Members -/

/-- A member is read in two steps, its name and what stands behind the colon. -/
theorem read_member {name : Text}
    (spelled : SpellsMember (Spells .strict budget) (name, j) spelling) (isGap : Gap gap)
    (closes : Closes rest) :
    ∃ colon, (memberName .strict).read (gap ++ spelling ++ rest) = .ok (name, colon) ∧
      ∀ {α : Type} {reader : JsonReader α} {meaning : Json → Option α},
        Interprets reader meaning →
          ((afterColon reader).read colon).toOption = (meaning j).map (·, rest) := by
  cases spelled with
  | @mk _ _ nameSpelling before after spelling named front back spelled =>
      refine ⟨before ++ ':' :: (after ++ spelling ++ rest), ?_, ?_⟩
      · have name := named.read_memberName isGap .strict
          (before ++ ':' :: (after ++ spelling ++ rest))
        simpa using name
      · intro α reader meaning interprets
        rw [read_afterColon reader front]
        exact interprets spelled back closes

/-! ## Modes -/

theorem toOption_modeName {name : Text} (named : (memberName .strict).read t = .ok (name, rest)) :
    (modeName.read t).toOption = (modeOfName? name).map (·, rest) := by
  simp only [modeName, named]
  cases modeOfName? name <;> rfl

theorem mode?_object_singleton (name : Text) (j : Json) :
    mode? (.object [(name, j)]) =
      (modeOfName? name).bind fun mode => (null? j).map fun _ => mode := by
  cases known : modeOfName? name <;> cases j <;> simp [mode?, null?, known]

theorem mode?_object_cons_of_ne_nil {others : List (Text × Json)} (member : Text × Json)
    (more : others ≠ []) : mode? (.object (member :: others)) = none := by
  rcases member with ⟨name, j⟩
  obtain ⟨second, others, rfl⟩ := List.exists_cons_of_ne_nil more
  cases j <;> rfl

/-- The closing brace has to follow the value. -/
theorem toOption_modeMember {name colon middle : Text}
    (named : (memberName .strict).read t = .ok (name, colon))
    (valued : ((afterColon nullValue).read colon).toOption = (null? j).map (·, middle)) :
    (modeMember.read t).toOption =
      (mode? (.object [(name, j)])).bind fun mode =>
        if (afterGap middle).head? = some '\x7d' then some (mode, (afterGap middle).tail)
        else none := by
  have known := toOption_modeName named
  rw [mode?_object_singleton]
  cases isMode : modeOfName? name with
  | none =>
      rw [isMode] at known
      rcases exists_error_of_toOption known with ⟨e, failed⟩
      simp only [modeMember, failed]
      rfl
  | some mode =>
      rw [isMode] at known
      have step := eq_ok_of_toOption known
      cases isNull : null? j with
      | none =>
          rw [isNull] at valued
          rcases exists_error_of_toOption valued with ⟨e, failed⟩
          simp only [modeMember, step, failed]
          rfl
      | some _ =>
          rw [isNull] at valued
          simp only [modeMember, step, eq_ok_of_toOption valued]
          cases afterGap middle with
          | nil => rfl
          | cons c after => by_cases closes : c = '\x7d' <;> simp [Except.toOption, closes]

/-- What is in braces is a mode if it is a single member. -/
theorem toOption_modeMember_of_listed {members : List (Text × Json)} {inside : Text}
    (listed : Listed (SpellsMember (Spells .strict budget)) members inside) (rest : Text) :
    (modeMember.read (inside ++ '\x7d' :: rest)).toOption =
      (mode? (.object members)).map (·, rest) := by
  cases members with
  | nil =>
      have closed := listed.afterGap_of_nil (.inr rfl) rest
      simp only [modeMember, modeName, read_memberName_of_close .strict closed]
      rfl
  | cons member others =>
      rcases member with ⟨name, j⟩
      rcases listed.uncons (.inr rfl) rest
        with ⟨gap, spelling, behind, front, spelled, closes, text, place⟩
      rcases read_member spelled front closes with ⟨colon, named, valued⟩
      rw [text, toOption_modeMember named (valued interprets_nullValue)]
      rcases place with ⟨rfl, closed⟩ | ⟨more, t, _, comma⟩
      · rw [closed]
        cases mode? (.object [(name, j)]) <;> rfl
      · rw [comma, mode?_object_cons_of_ne_nil (name, j) more]
        cases mode? (.object [(name, j)]) <;> rfl

theorem interprets_modeValue : Interprets modeValue mode? := by
  intro budget j spelling gap rest spelled isGap closes
  by_cases isText : ∃ t, j = .string t
  · rcases isText with ⟨name, rfl⟩
    rcases exists_of_spells_string spelled with ⟨inside, spelledName, rfl⟩
    simp only [modeValue, afterGap_enclosed (by decide : Json.isGap '"' = false) isGap inside]
    exact toOption_modeName (spelledName.read_memberName gap_nil .strict rest)
  · by_cases isObject : ∃ members, j = .object members
    · rcases isObject with ⟨members, rfl⟩
      rcases exists_of_spells_object spelled with ⟨inner, inside, listed, rfl⟩
      simp only [modeValue, afterGap_enclosed (by decide : Json.isGap '\x7b' = false) isGap inside]
      exact toOption_modeMember_of_listed listed rest
    · rcases exists_opens spelled with ⟨c, t, rfl, opens⟩
      have front := afterGap_spelled opens isGap t rest
      have other : mode? j = none := by
        cases j <;> first | rfl | exact absurd ⟨_, rfl⟩ isText | exact absurd ⟨_, rfl⟩ isObject
      simp only [modeValue, front, other]
      split
      · rename_i quote
        exact absurd (opens.quote_iff.mp (List.cons.inj quote).1) isText
      · rename_i brace
        exact absurd (opens.brace_iff.mp (List.cons.inj brace).1) isObject
      · rfl

/-! ## Bodies -/

/-- What is known of a member after one more occurrence of it. There must not have been another. -/
def noted? (meaning : Json → Option α) (seen : Option (Option α)) (j : Json) :
    Option (Option (Option α)) :=
  if seen.isSome then none else (orNull meaning j).map some

/-- What is known of a request after one more member. -/
def Fields.note? (fields : Fields) (name : Text) (j : Json) : Option Fields :=
  if name = "expression".toList then
    (noted? text? fields.expression j).map fun expression => { fields with expression }
  else if name = "angleMode".toList then
    (noted? mode? fields.mode j).map fun mode => { fields with mode }
  else
    some fields

/-- The values of the members with the name, in order. -/
def valuesOf (name : Text) (members : List (Text × Json)) : List Json :=
  (members.filter (·.1 = name)).map (·.2)

/-- The meaning of the only value, if there is one. -/
def sole? (meaning : Json → Option α) : List Json → Option (Option α)
  | [] => some none
  | [j] => orNull meaning j
  | _ => none

/-- The request that a value is. -/
def asked? : Json → Option WebRequest
  | .object members =>
    (sole? text? (valuesOf "expression".toList members)).bind fun expression =>
      (sole? mode? (valuesOf "angleMode".toList members)).map fun mode => ⟨expression, mode⟩
  | .array [] => some {}
  | .array (expression :: others) =>
    (orNull text? expression).bind fun expression =>
      (sole? mode? others).map fun mode => ⟨expression, mode⟩
  | _ => none

theorem sole?_cons_of_ne_nil {values : List Json} (meaning : Json → Option α) (j : Json)
    (more : values ≠ []) : sole? meaning (j :: values) = none := by
  obtain ⟨second, values, rfl⟩ := List.exists_cons_of_ne_nil more
  rfl

theorem toOption_fieldValue (fields : Fields) (name : Text) {colon : Text}
    (read : ∀ {α : Type} {reader : JsonReader α} {meaning : Json → Option α},
      Interprets reader meaning →
        ((afterColon reader).read colon).toOption = (meaning j).map (·, rest)) :
    ((fieldValue fields name).read colon).toOption = (fields.note? name j).map (·, rest) := by
  rw [fieldValue, Fields.note?, noted?, noted?]
  split
  · split
    · rfl
    · rw [toOption_map, read interprets_stringValue.nullable]
      simp only [Option.map_map]
      rfl
  · split
    · split
      · rfl
      · rw [toOption_map, read interprets_modeValue.nullable]
        simp only [Option.map_map]
        rfl
    · rw [toOption_map, read interprets_ignoredValue]
      rfl

section Steps

variable {fields met : Fields} {name colon middle next : Text}

theorem fieldsFrom_of_error {e : ReadError}
    (named : (memberName .strict).read t = .ok (name, colon))
    (step : (fieldValue fields name).read colon = .error e) : fieldsFrom fields t = .error e := by
  fun_cases fieldsFrom fields t <;> grind

theorem fieldsFrom_of_next (named : (memberName .strict).read t = .ok (name, colon))
    (step : (fieldValue fields name).read colon = .ok (met, middle))
    (comma : afterGap middle = ',' :: next) : fieldsFrom fields t = fieldsFrom met next := by
  fun_cases fieldsFrom fields t <;> grind

theorem fieldsFrom_of_last (named : (memberName .strict).read t = .ok (name, colon))
    (step : (fieldValue fields name).read colon = .ok (met, middle))
    (closed : afterGap middle = '\x7d' :: next) : fieldsFrom fields t = .ok met := by
  fun_cases fieldsFrom fields t <;> grind

end Steps

/-- Where a member says nothing, no request is read. -/
theorem toOption_fieldsFrom {fields : Fields} {name colon middle : Text}
    {onward : Fields → Option Fields} (named : (memberName .strict).read t = .ok (name, colon))
    (valued : ((fieldValue fields name).read colon).toOption =
      (fields.note? name j).map (·, middle))
    (goes : ∀ met, (fieldValue fields name).read colon = .ok (met, middle) →
      (fieldsFrom fields t).toOption = onward met) :
    (fieldsFrom fields t).toOption = (fields.note? name j).bind onward := by
  cases known : fields.note? name j with
  | none =>
      rw [known] at valued
      rcases exists_error_of_toOption valued with ⟨e, step⟩
      rw [fieldsFrom_of_error named step]
      rfl
  | some met =>
      rw [known] at valued
      exact goes met (eq_ok_of_toOption valued)

/-- A request is read from what its members say, one after another. -/
theorem toOption_fieldsFrom_of_listed {members : List (Text × Json)} {inside : Text}
    (listed : Listed (SpellsMember (Spells .strict budget)) members inside)
    (nonempty : members ≠ []) (fields : Fields) (rest : Text) :
    (fieldsFrom fields (inside ++ '\x7d' :: rest)).toOption =
      members.foldlM (fun fields member => fields.note? member.1 member.2) fields := by
  induction members generalizing fields inside with
  | nil => contradiction
  | cons member others ih =>
      rcases member with ⟨name, j⟩
      rcases listed.uncons (.inr rfl) rest
        with ⟨gap, spelling, behind, front, spelled, closes, text, place⟩
      rcases read_member spelled front closes with ⟨colon, named, read⟩
      rw [text, List.foldlM_cons]
      refine toOption_fieldsFrom named (toOption_fieldValue fields name read) fun met step => ?_
      rcases place with ⟨rfl, closed⟩ | ⟨more, t, listed, comma⟩
      · rw [fieldsFrom_of_last named step closed]
        rfl
      · rw [fieldsFrom_of_next named step comma, ih listed more met]

/-! ## What the members say -/

theorem valuesOf_cons (name other : Text) (j : Json) (members : List (Text × Json)) :
    valuesOf name ((other, j) :: members) =
      if other = name then j :: valuesOf name members else valuesOf name members := by
  by_cases same : other = name <;> simp [valuesOf, same]

/-- Members count by their names, each name by itself. -/
theorem foldlM_note? (members : List (Text × Json)) (fields : Fields) :
    members.foldlM (fun fields member => fields.note? member.1 member.2) fields =
      ((valuesOf "expression".toList members).foldlM (noted? text?) fields.expression).bind
        fun expression =>
          ((valuesOf "angleMode".toList members).foldlM (noted? mode?) fields.mode).map
            fun mode => ⟨expression, mode⟩ := by
  induction members generalizing fields with
  | nil => rfl
  | cons member members ih =>
      rcases member with ⟨name, j⟩
      rw [List.foldlM_cons, valuesOf_cons, valuesOf_cons]
      by_cases isExpression : name = "expression".toList
      · have apart : ¬ name = "angleMode".toList := by
          rw [isExpression]
          decide
        rw [Fields.note?, if_pos isExpression, if_pos isExpression, if_neg apart, List.foldlM_cons]
        cases noted? text? fields.expression j with
        | none => rfl
        | some expression => exact ih { fields with expression }
      · rw [Fields.note?, if_neg isExpression, if_neg isExpression]
        by_cases isMode : name = "angleMode".toList
        · rw [if_pos isMode, if_pos isMode, List.foldlM_cons]
          cases noted? mode? fields.mode j with
          | none => exact (Option.bind_fun_none _).symm
          | some mode => exact ih { fields with mode }
        · rw [if_neg isMode, if_neg isMode]
          exact ih fields

theorem foldlM_noted? (meaning : Json → Option α) (values : List Json) :
    (values.foldlM (noted? meaning) none).map Option.join = sole? meaning values := by
  cases values with
  | nil => rfl
  | cons j values =>
      rw [List.foldlM_cons, noted?, if_neg (by simp)]
      cases values with
      | nil =>
          change ((orNull meaning j).map some >>= pure).map Option.join = orNull meaning j
          cases orNull meaning j <;> rfl
      | cons k values =>
          change _ = none
          cases orNull meaning j <;> rfl

/-- The request of the members is read from what is known after the last of them. -/
theorem foldlM_note?_request (members : List (Text × Json)) :
    (members.foldlM (fun (fields : Fields) member => fields.note? member.1 member.2) {}).map
      Fields.request = asked? (.object members) := by
  rw [foldlM_note?, asked?, ← foldlM_noted?, ← foldlM_noted?]
  cases (valuesOf "expression".toList members).foldlM (noted? text?) none with
  | none => rfl
  | some expression =>
      cases (valuesOf "angleMode".toList members).foldlM (noted? mode?) none <;> rfl

/-! ## Requests in bodies -/

/-- What is spelled between the braces is the request of the members. -/
theorem toOption_ofMembers {members : List (Text × Json)} {inside : Text}
    (listed : Listed (SpellsMember (Spells .strict budget)) members inside) (rest : Text) :
    (ofMembers (inside ++ '\x7d' :: rest)).toOption = asked? (.object members) := by
  cases members with
  | nil =>
      simp only [ofMembers, listed.afterGap_of_nil (.inr rfl) rest]
      rfl
  | cons member members =>
      have read := toOption_fieldsFrom_of_listed listed (List.cons_ne_nil _ _) {} rest
      rw [← foldlM_note?_request, ← read, ofMembers]
      split
      · rename_i closed
        rcases listed.uncons (.inr rfl) rest with ⟨gap, _, behind, isGap, spelled, _, text, _⟩
        cases spelled
        rw [text, List.append_assoc, afterGap_append isGap] at closed
        exact absurd (List.cons.inj closed).1 (by decide)
      · cases fieldsFrom {} (inside ++ '\x7d' :: rest) <;> rfl

theorem ofElements_of_error {e : ReadError} (opened : ∀ last, afterGap t ≠ ']' :: last)
    (failed : (nullable stringValue).read t = .error e) : ofElements t = .error e := by
  rw [ofElements]
  split
  · rename_i closed
    exact absurd closed (opened _)
  · rw [failed]

section Elements

variable {expression : Option Text} {middle next last : Text}

theorem ofElements_of_last (opened : ∀ last, afterGap t ≠ ']' :: last)
    (step : (nullable stringValue).read t = .ok (expression, middle))
    (closed : afterGap middle = ']' :: next) : ofElements t = .ok { expression } := by
  rw [ofElements]
  split
  · rename_i closed
    exact absurd closed (opened _)
  · simp only [step, closed]

theorem ofElements_of_next (opened : ∀ last, afterGap t ≠ ']' :: last)
    (step : (nullable stringValue).read t = .ok (expression, middle))
    (comma : afterGap middle = ',' :: next) :
    (ofElements t).toOption =
      ((((nullable modeValue).read next).toOption.filter
        fun found => (afterGap found.2).head? = some ']').map Prod.fst).map
          fun mode => { expression, mode } := by
  rw [ofElements]
  split
  · rename_i closed
    exact absurd closed (opened _)
  · simp only [step, comma]
    cases read : (nullable modeValue).read next with
    | error e => rfl
    | ok found =>
        rcases found with ⟨mode, behind⟩
        cases front : afterGap behind with
        | nil => simp [Except.toOption, front]
        | cons c after => by_cases closes : c = ']' <;> simp [Except.toOption, front, closes]

end Elements

/-- A mode is the last element. -/
theorem read_mode_of_listed {elements : List Json} {inside : Text}
    (listed : Listed (Spells .strict budget) elements inside) (nonempty : elements ≠ [])
    (rest : Text) :
    (((nullable modeValue).read (inside ++ ']' :: rest)).toOption.filter
      fun found => (afterGap found.2).head? = some ']').map Prod.fst = sole? mode? elements := by
  obtain ⟨j, others, rfl⟩ := List.exists_cons_of_ne_nil nonempty
  rcases listed.uncons (.inl rfl) rest
    with ⟨gap, spelling, behind, front, spelled, closes, text, place⟩
  rw [text, interprets_modeValue.nullable spelled front closes]
  rcases place with ⟨rfl, closed⟩ | ⟨more, t, _, comma⟩
  · rw [sole?]
    cases orNull mode? j with
    | none => rfl
    | some mode => simp [closed]
  · rw [sole?_cons_of_ne_nil mode? j more]
    cases orNull mode? j with
    | none => rfl
    | some mode => simp [comma]

/-- What is spelled between the brackets is the request of the elements. -/
theorem toOption_ofElements {elements : List Json} {inside : Text}
    (listed : Listed (Spells .strict budget) elements inside) (rest : Text) :
    (ofElements (inside ++ ']' :: rest)).toOption = asked? (.array elements) := by
  cases elements with
  | nil =>
      simp only [ofElements, listed.afterGap_of_nil (.inl rfl) rest]
      rfl
  | cons j others =>
      rcases listed.uncons (.inl rfl) rest
        with ⟨gap, spelling, behind, front, spelled, closes, text, place⟩
      have read := interprets_stringValue.nullable spelled front closes
      have opened : ∀ last, afterGap (gap ++ spelling ++ behind) ≠ ']' :: last := by
        rcases exists_opens spelled with ⟨c, t, rfl, opens⟩
        rw [afterGap_spelled opens front]
        exact fun last closed => opens.not_close (List.cons.inj closed).1
      rw [text, asked?]
      cases known : orNull text? j with
      | none =>
          rw [known] at read
          rcases exists_error_of_toOption read with ⟨e, failed⟩
          rw [ofElements_of_error opened failed]
          rfl
      | some expression =>
          rw [known] at read
          rcases place with ⟨rfl, closed⟩ | ⟨more, t, listed, comma⟩
          · rw [ofElements_of_last opened (eq_ok_of_toOption read) closed]
            rfl
          · rw [ofElements_of_next opened (eq_ok_of_toOption read) comma,
              read_mode_of_listed listed more]
            rfl

/-- A body that starts with a spelled value asks what the value says. -/
theorem ofBody_of_spells {before : Text} (spelled : Spells .strict budget j spelling)
    (front : Gap before) (rest : Text) :
    (ofBody (before ++ spelling ++ rest)).toOption = asked? j := by
  by_cases isArray : ∃ elements, j = .array elements
  · rcases isArray with ⟨elements, rfl⟩
    rcases exists_of_spells_array spelled with ⟨inner, inside, listed, rfl⟩
    simp only [ofBody, afterGap_enclosed (by decide : Json.isGap '[' = false) front inside]
    exact toOption_ofElements listed rest
  · by_cases isObject : ∃ members, j = .object members
    · rcases isObject with ⟨members, rfl⟩
      rcases exists_of_spells_object spelled with ⟨inner, inside, listed, rfl⟩
      simp only [ofBody, afterGap_enclosed (by decide : Json.isGap '\x7b' = false) front inside]
      exact toOption_ofMembers listed rest
    · rcases exists_opens spelled with ⟨c, t, rfl, opens⟩
      have other : asked? j = none := by
        cases j <;> first | rfl | exact absurd ⟨_, rfl⟩ isArray | exact absurd ⟨_, rfl⟩ isObject
      simp only [ofBody, afterGap_spelled opens front t rest, other]
      split
      · rename_i bracket
        exact absurd (opens.bracket_iff.mp (List.cons.inj bracket).1) isArray
      · rename_i brace
        exact absurd (opens.brace_iff.mp (List.cons.inj brace).1) isObject
      · rfl

/-- A message whose body is one JSON value asks what the value says, and is turned away if it says
nothing. How the value is spelled makes no difference. -/
theorem ofMessage_of_document {contentType : Option Text} {body : Text}
    (isJson : (contentType.bind MediaType.ofText?).any MediaType.isJson = true)
    (document : Json.document? .strict body = some j) :
    (ofMessage contentType body).toOption = asked? j := by
  rcases (Json.document?_eq_some_iff rfl).mp document
    with ⟨before, spelling, after, front, spelled, back, rfl⟩
  rw [ofMessage, if_pos isJson, ← ofBody_of_spells spelled front after]
  cases ofBody (before ++ spelling ++ after) <;> rfl

example : ofMessage (some "application/json".toList)
    "\x7b\"angleMode\": \"DEG\", \"note\": [1], \"expression\": \"sin(90)\"\x7d".toList =
      .ok ⟨some "sin(90)".toList, some .deg⟩ := by
  decide +kernel

end Reckoner.WebRequest
