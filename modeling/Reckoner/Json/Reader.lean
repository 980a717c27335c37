import Reckoner.Json.Literal

/-!
# Reading JSON

Values are read by a grammar of their own for blanks, brackets and literals. How deeply brackets may
be nested is given; a text cannot nest more deeply than it is long.
-/

namespace Reckoner.Json

/-- Reads JSON off a text. -/
abbrev JsonReader := Reader Char ReadError

/-- The characters that may stand between the tokens of JSON. -/
def isGap (c : Char) : Bool :=
  c = ' ' || c = '\t' || c = '\n' || c = '\r'

/-- Drops the gap in front of a token. -/
def afterGap (t : Text) : Text :=
  t.dropWhile isGap

theorem afterGap_length (t : Text) : (afterGap t).length ≤ t.length :=
  (List.dropWhile_sublist _).length_le

/-- Reads a value without brackets at the very front of a text. -/
def scalar (literals : Literals) : JsonReader Json where
  read
    | 'n' :: 'u' :: 'l' :: 'l' :: rest => .ok (.null, rest)
    | 't' :: 'r' :: 'u' :: 'e' :: rest => .ok (.bool true, rest)
    | 'f' :: 'a' :: 'l' :: 's' :: 'e' :: rest => .ok (.bool false, rest)
    | '"' :: rest => ((stringBody literals).map .string).read rest
    | '-' :: rest => (numberBody literals true).read rest
    | c :: rest =>
      if c.isDigit then (numberBody literals false).read (c :: rest) else .error .malformed
    | [] => .error .malformed
  shortens {t j rest} done := by
    split at done
    · cases done
      simp only [List.length_cons]
      omega
    · cases done
      simp only [List.length_cons]
      omega
    · cases done
      simp only [List.length_cons]
      omega
    · have := ((stringBody literals).map Json.string).shortens done
      simp only [List.length_cons]
      omega
    · have := (numberBody literals true).shortens done
      simp only [List.length_cons]
      omega
    · split at done
      · exact (numberBody literals false).shortens done
      · contradiction
    · contradiction

/-- Reads an element and those after it, up to the closing bracket. -/
def elementsFrom (element : JsonReader Json) (t : Text) : Except ReadError (List Json × Text) :=
  match _step : element.read t with
  | .error e => .error e
  | .ok (first, rest) =>
    match _gap : afterGap rest with
    | ',' :: next =>
      match elementsFrom element next with
      | .error e => .error e
      | .ok (others, last) => .ok (first :: others, last)
    | ']' :: next => .ok ([first], next)
    | _ => .error .malformed
termination_by t.length
decreasing_by
  have := element.shortens _step
  have := afterGap_length rest
  rw [_gap, List.length_cons] at this
  omega

theorem elementsFrom_length {element : JsonReader Json} {t rest : Text} {elements : List Json}
    (done : elementsFrom element t = .ok (elements, rest)) : rest.length < t.length := by
  fun_induction elementsFrom element t generalizing elements rest with
  | case1 => contradiction
  | case2 => contradiction
  | case3 t first middle step next gap others last inner ih =>
    have := element.shortens step
    have skipped := afterGap_length middle
    have := ih inner
    cases done
    rw [gap, List.length_cons] at skipped
    omega
  | case4 t first middle step next gap =>
    have := element.shortens step
    have skipped := afterGap_length middle
    cases done
    rw [gap, List.length_cons] at skipped
    omega
  | case5 => contradiction

/-- Reads the rest of an array after its opening bracket. -/
def arrayBody (element : JsonReader Json) : JsonReader Json where
  read t :=
    match afterGap t with
    | ']' :: rest => .ok (.array [], rest)
    | _ =>
      match elementsFrom element t with
      | .error e => .error e
      | .ok (elements, rest) => .ok (.array elements, rest)
  shortens {t j rest} done := by
    split at done
    · rename_i gap
      have skipped := afterGap_length t
      cases done
      rw [gap, List.length_cons] at skipped
      omega
    · split at done
      · contradiction
      · rename_i outcome
        cases done
        exact elementsFrom_length outcome

/-- Reads the name of a member. -/
def memberName (literals : Literals) : JsonReader Text where
  read t :=
    match afterGap t with
    | '"' :: rest => (stringBody literals).read rest
    | _ => .error .malformed
  shortens {t name rest} done := by
    split at done
    · rename_i gap
      have skipped := afterGap_length t
      have := (stringBody literals).shortens done
      rw [gap, List.length_cons] at skipped
      omega
    · contradiction

/-- Reads a colon and what follows it. -/
def afterColon {α : Type} (reader : JsonReader α) : JsonReader α where
  read t :=
    match afterGap t with
    | ':' :: rest => reader.read rest
    | _ => .error .malformed
  shortens {t result rest} done := by
    split at done
    · rename_i gap
      have skipped := afterGap_length t
      have := reader.shortens done
      rw [gap, List.length_cons] at skipped
      omega
    · contradiction

/-- Reads a member and those after it, up to the closing brace. -/
def membersFrom (name : JsonReader Text) (element : JsonReader Json) (t : Text) :
    Except ReadError (List (Text × Json) × Text) :=
  match _named : name.read t with
  | .error e => .error e
  | .ok (key, colon) =>
    match _step : (afterColon element).read colon with
    | .error e => .error e
    | .ok (first, rest) =>
      match _gap : afterGap rest with
      | ',' :: next =>
        match membersFrom name element next with
        | .error e => .error e
        | .ok (others, last) => .ok ((key, first) :: others, last)
      | '\x7d' :: next => .ok ([(key, first)], next)
      | _ => .error .malformed
termination_by t.length
decreasing_by
  have := name.shortens _named
  have := (afterColon element).shortens _step
  have := afterGap_length rest
  rw [_gap, List.length_cons] at this
  omega

theorem membersFrom_length {name : JsonReader Text} {element : JsonReader Json} {t rest : Text}
    {members : List (Text × Json)} (done : membersFrom name element t = .ok (members, rest)) :
    rest.length < t.length := by
  fun_induction membersFrom name element t generalizing members rest with
  | case1 => contradiction
  | case2 => contradiction
  | case3 => contradiction
  | case4 t key colon named first middle step next gap others last inner ih =>
    have := name.shortens named
    have := (afterColon element).shortens step
    have skipped := afterGap_length middle
    have := ih inner
    cases done
    rw [gap, List.length_cons] at skipped
    omega
  | case5 t key colon named first middle step next gap =>
    have := name.shortens named
    have := (afterColon element).shortens step
    have skipped := afterGap_length middle
    cases done
    rw [gap, List.length_cons] at skipped
    omega
  | case6 => contradiction

/-- Reads the rest of an object after its opening brace. -/
def objectBody (name : JsonReader Text) (element : JsonReader Json) : JsonReader Json where
  read t :=
    match afterGap t with
    | '\x7d' :: rest => .ok (.object [], rest)
    | _ =>
      match membersFrom name element t with
      | .error e => .error e
      | .ok (members, rest) => .ok (.object members, rest)
  shortens {t j rest} done := by
    split at done
    · rename_i gap
      have skipped := afterGap_length t
      cases done
      rw [gap, List.length_cons] at skipped
      omega
    · split at done
      · contradiction
      · rename_i outcome
        cases done
        exact membersFrom_length outcome

/-- Reads a value whose brackets are nested at most `budget` deep. -/
def value (literals : Literals) : Nat → JsonReader Json
  | 0 =>
    { read := fun t => (scalar literals).read (afterGap t)
      shortens := fun {t j rest} done => by
        have := (scalar literals).shortens done
        have := afterGap_length t
        omega }
  | budget + 1 =>
    { read := fun t =>
        match afterGap t with
        | '[' :: rest => (arrayBody (value literals budget)).read rest
        | '\x7b' :: rest => (objectBody (memberName literals) (value literals budget)).read rest
        | front => (scalar literals).read front
      shortens := fun {t j rest} done => by
        have skipped := afterGap_length t
        split at done
        · rename_i gap
          have := (arrayBody (value literals budget)).shortens done
          rw [gap, List.length_cons] at skipped
          omega
        · rename_i gap
          have := (objectBody (memberName literals) (value literals budget)).shortens done
          rw [gap, List.length_cons] at skipped
          omega
        · have := (scalar literals).shortens done
          omega }

/-- The deepest nesting of brackets in a document. -/
def maxNesting : Nat :=
  127

/-- The value of a text that is one JSON value and nothing else. -/
def document? (literals : Literals) (t : Text) : Option Json :=
  match (value literals maxNesting).read t with
  | .ok (j, rest) => if (afterGap rest).isEmpty then some j else none
  | .error _ => none

/-- The value of a text in which every literal has a value. -/
def ofText? (t : Text) : Option Json :=
  document? .strict t

end Reckoner.Json
