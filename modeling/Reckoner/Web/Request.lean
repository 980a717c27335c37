import Reckoner.Json.Reader
import Reckoner.Token
import Reckoner.Web.MediaType

/-!
# Requests

The body of a request is an object with the members `expression` and `angleMode`, or an array of the
two. Both may be left out or `null`. The body is read up to the end of its first value.
-/

namespace Reckoner

/-- What a request asks. -/
structure WebRequest where
  expression : Option Text := none
  mode : Option AngleMode := none
  deriving DecidableEq

/-- Why a request is turned away before it is looked at. -/
inductive Rejection where
  | notJsonContent
  | malformedBody
  | mistypedBody
  deriving DecidableEq, Repr

namespace Rejection

/-- The wording for a request that is turned away. -/
def message : Rejection → Text
  | notJsonContent =>
    "invalid request body: Expected request with \x60Content-Type: application/json\x60".toList
  | malformedBody => "invalid request body: Failed to parse the request body as JSON".toList
  | mistypedBody =>
    "invalid request body: Failed to deserialize the JSON body into the target type".toList

/-- The rejection for a body that cannot be read. -/
def ofReadError : Json.ReadError → Rejection
  | .malformed => malformedBody
  | .mistyped => mistypedBody

end Rejection

namespace WebRequest

open Json

/-! ## Values of a known kind -/

/-- Fails. -/
def refuse {α : Type} (e : ReadError) : JsonReader α :=
  ⟨fun _ => .error e, fun done => by contradiction⟩

/-- Why a value of another kind than was asked for is refused: unless it has brackets, it has to be
read in order to be of another kind. -/
def refusal : Text → ReadError
  | '[' :: _ | '\x7b' :: _ => .mistyped
  | t =>
    match (scalar .strict).read t with
    | .ok _ => .mistyped
    | .error e => e

/-- Reads a string. -/
def stringValue : JsonReader Text where
  read t :=
    match afterGap t with
    | '"' :: rest => (stringBody .strict).read rest
    | front => .error (refusal front)
  shortens {t value rest} done := by
    split at done
    · rename_i gap
      have skipped := afterGap_length t
      have := (stringBody .strict).shortens done
      rw [gap, List.length_cons] at skipped
      omega
    · contradiction

/-- Reads `null`. -/
def nullValue : JsonReader Unit where
  read t :=
    match afterGap t with
    | 'n' :: 'u' :: 'l' :: 'l' :: rest => .ok ((), rest)
    | front => .error (refusal front)
  shortens {t value rest} done := by
    split at done
    · rename_i gap
      have skipped := afterGap_length t
      cases done
      simp only [gap, List.length_cons] at skipped
      omega
    · contradiction

/-- Reads `null` or what `reader` reads. -/
def nullable {α : Type} (reader : JsonReader α) : JsonReader (Option α) where
  read t :=
    match afterGap t with
    | 'n' :: rest => (nullValue.map fun _ => none).read ('n' :: rest)
    | front => (reader.map some).read front
  shortens {t value rest} done := by
    have skipped := afterGap_length t
    split at done
    · rename_i gap
      have := (nullValue.map fun _ => (none : Option α)).shortens done
      rw [gap] at skipped
      omega
    · have := (reader.map some).shortens done
      omega

/-- Reads a value of any kind and forgets it; only its form counts. -/
def ignoredValue : JsonReader Json where
  read t := (value .lenient t.length).read t
  shortens done := (value .lenient _).shortens done

/-- The mode that a word stands for. -/
def modeOfName? (name : Text) : Option AngleMode :=
  if name = "RAD".toList ∨ name = "rad".toList then some .rad
  else if name = "DEG".toList ∨ name = "deg".toList then some .deg
  else none

/-- Reads the name of a mode. -/
def modeName : JsonReader AngleMode where
  read t :=
    match (memberName .strict).read t with
    | .error e => .error e
    | .ok (name, rest) =>
      match modeOfName? name with
      | some mode => .ok (mode, rest)
      | none => .error .mistyped
  shortens {t mode rest} done := by
    split at done
    · contradiction
    · rename_i step
      have taken := (memberName .strict).shortens step
      split at done
      · cases done
        exact taken
      · contradiction

/-- Reads the rest of an object whose only member has a mode's name and the value `null`. -/
def modeMember : JsonReader AngleMode where
  read t :=
    match modeName.read t with
    | .error e => .error e
    | .ok (mode, colon) =>
      match (afterColon nullValue).read colon with
      | .error e => .error e
      | .ok (_, rest) =>
        match afterGap rest with
        | '\x7d' :: last => .ok (mode, last)
        | _ => .error .malformed
  shortens {t mode rest} done := by
    split at done
    · contradiction
    · rename_i named
      have := modeName.shortens named
      split at done
      · contradiction
      · rename_i middle step
        have := (afterColon nullValue).shortens step
        have skipped := afterGap_length middle
        split at done
        · rename_i gap
          cases done
          rw [gap, List.length_cons] at skipped
          omega
        · contradiction

/-- Reads a mode, by its name or as an object. -/
def modeValue : JsonReader AngleMode where
  read t :=
    match afterGap t with
    | '"' :: rest => modeName.read ('"' :: rest)
    | '\x7b' :: rest => modeMember.read rest
    | _ => .error .malformed
  shortens {t mode rest} done := by
    have skipped := afterGap_length t
    split at done
    · rename_i gap
      have := modeName.shortens done
      rw [gap] at skipped
      omega
    · rename_i gap
      have := modeMember.shortens done
      rw [gap, List.length_cons] at skipped
      omega
    · contradiction

/-! ## Bodies -/

/-- The members of a request that have been read so far. -/
structure Fields where
  expression : Option (Option Text) := none
  mode : Option (Option AngleMode) := none

/-- The request that consists of the members read. -/
def Fields.request (fields : Fields) : WebRequest :=
  ⟨fields.expression.join, fields.mode.join⟩

/-- Reads the colon and the value of a member. A member of a request may occur once; others are
passed over. -/
def fieldValue (fields : Fields) (name : Text) : JsonReader Fields :=
  if name = "expression".toList then
    if fields.expression.isSome then refuse .mistyped
    else
      (afterColon (nullable stringValue)).map fun found =>
        { fields with expression := some found }
  else if name = "angleMode".toList then
    if fields.mode.isSome then refuse .mistyped
    else (afterColon (nullable modeValue)).map fun found => { fields with mode := some found }
  else
    (afterColon ignoredValue).map fun _ => fields

/-- Reads a member and those after it. -/
def fieldsFrom (fields : Fields) (t : Text) : Except ReadError Fields :=
  match _named : (memberName .strict).read t with
  | .error e => .error e
  | .ok (name, colon) =>
    match _step : (fieldValue fields name).read colon with
    | .error e => .error e
    | .ok (fields, rest) =>
      match _gap : afterGap rest with
      | ',' :: next => fieldsFrom fields next
      | '\x7d' :: _ => .ok fields
      | _ => .error .malformed
termination_by t.length
decreasing_by
  have := (memberName .strict).shortens _named
  have := (fieldValue _ name).shortens _step
  have := afterGap_length rest
  rw [_gap, List.length_cons] at this
  omega

/-- Reads a request after the opening brace of an object. -/
def ofMembers (t : Text) : Except ReadError WebRequest :=
  match afterGap t with
  | '\x7d' :: _ => .ok {}
  | _ => (fieldsFrom {} t).map Fields.request

/-- Reads a request after the opening bracket of an array. -/
def ofElements (t : Text) : Except ReadError WebRequest :=
  match afterGap t with
  | ']' :: _ => .ok {}
  | _ =>
    match (nullable stringValue).read t with
    | .error e => .error e
    | .ok (expression, rest) =>
      match afterGap rest with
      | ']' :: _ => .ok { expression }
      | ',' :: next =>
        match (nullable modeValue).read next with
        | .error e => .error e
        | .ok (mode, rest) =>
          match afterGap rest with
          | ']' :: _ => .ok { expression, mode }
          | _ => .error .malformed
      | _ => .error .malformed

/-- Reads a request from the body of a message. -/
def ofBody (body : Text) : Except ReadError WebRequest :=
  match afterGap body with
  | '[' :: rest => ofElements rest
  | '\x7b' :: rest => ofMembers rest
  | front => .error (refusal front)

/-- Reads a request from a message with the given content type. -/
def ofMessage (contentType : Option Text) (body : Text) : Except Rejection WebRequest :=
  if (contentType.bind MediaType.ofText?).any MediaType.isJson then
    (ofBody body).mapError .ofReadError
  else
    .error .notJsonContent

end WebRequest

end Reckoner
