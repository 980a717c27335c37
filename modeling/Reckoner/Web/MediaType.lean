import Reckoner.Text.Blank

/-!
# Media types

The type of a request's content: two names with a slash between them, the second of which may have a
suffix after a plus sign, and parameters after semicolons.
-/

namespace Reckoner

/-- A media type without its parameters, in lower case. -/
structure MediaType where
  main : Text
  sub : Text
  /-- What follows the last plus sign. -/
  suffix : Option Text
  deriving DecidableEq, Repr

namespace MediaType

/-- The characters of names. -/
def isNameChar (c : Char) : Bool :=
  c.isAlphanum || "!#$%&'*+-.^_\x60|~".toList.contains c

/-- The characters that may stand between quotes. -/
def isQuotable (c : Char) : Bool :=
  0x20 ≤ c.toNat && c.toNat < 0x7f

/-- The text after the quote that ends a quoted value. A value has at least one character, and a
quote in that place does not end it. -/
def afterQuoted? : Text → Option Text
  | [] => none
  | first :: rest =>
    if isQuotable first then
      match rest.dropWhile fun c => isQuotable c && c != '"' with
      | '"' :: after => some after
      | _ => none
    else
      none

theorem afterQuoted?_length {t rest : Text} (done : afterQuoted? t = some rest) :
    rest.length < t.length := by
  cases t with
  | nil => contradiction
  | cons first body =>
    have shorter :=
      (List.dropWhile_sublist (fun c => isQuotable c && c != '"') (l := body)).length_le
    simp only [afterQuoted?] at done
    split at done
    · split at done
      · rename_i closing
        cases done
        rw [closing, List.length_cons] at shorter
        rw [List.length_cons]
        omega
      · contradiction
    · contradiction

/-- The text after a parameter's value and the semicolon that ends it; at the end of a text there
need be no semicolon. -/
def afterValue? (t : Text) : Option Text :=
  match t with
  | '"' :: inside =>
    (afterQuoted? inside).bind fun after =>
      match after.dropWhile (· == ' ') with
      | [] => some []
      | c :: next => if c = ';' then some next else none
  | _ =>
    match t.dropWhile isNameChar with
    | [] => some []
    | c :: next => if c = ';' ∧ t.head? ≠ some ';' then some next else none

theorem afterValue?_length {t rest : Text} (done : afterValue? t = some rest) :
    rest.length ≤ t.length := by
  unfold afterValue? at done
  split at done
  · rename_i inside
    obtain ⟨after, quoted, next⟩ := Option.bind_eq_some_iff.mp done
    have := afterQuoted?_length quoted
    have blanks := (List.dropWhile_sublist (· == ' ') (l := after)).length_le
    rw [List.length_cons]
    split at next
    · cases next
      exact Nat.zero_le _
    · rename_i c last ended
      rw [ended, List.length_cons] at blanks
      split at next
      · cases next
        omega
      · contradiction
  · have shorter := (List.dropWhile_sublist isNameChar (l := t)).length_le
    split at done
    · cases done
      exact Nat.zero_le _
    · rename_i c last ended
      rw [ended, List.length_cons] at shorter
      split at done
      · cases done
        omega
      · contradiction

/-- The text after the first parameter's name and equals sign. -/
def afterName? (t : Text) : Option Text :=
  match t.dropWhile isNameChar with
  | '=' :: rest => if t.head? = some '=' then none else some rest
  | _ => none

theorem afterName?_length {t rest : Text} (done : afterName? t = some rest) :
    rest.length < t.length := by
  unfold afterName? at done
  split at done
  · have shorter := (List.dropWhile_sublist isNameChar (l := t)).length_le
    split at done
    · contradiction
    · rename_i rest equals _
      cases done
      rw [equals, List.length_cons] at shorter
      omega
  · contradiction

/-- What follows the first semicolon is a list of parameters, which may be empty. -/
def areParameters (t : Text) : Bool :=
  match t with
  | [] => true
  | ' ' :: rest => areParameters rest
  | t =>
    match _named : afterName? t with
    | none => false
    | some value =>
      match _valued : afterValue? value with
      | none => false
      | some rest => areParameters rest
termination_by t.length
decreasing_by
  · simp
  · have := afterName?_length _named
    have := afterValue?_length _valued
    omega

/-- The part of a subtype after its last plus sign, and the part before it. A plus sign in front
does not count. -/
def splitSuffix (name : Text) : Text × Option Text :=
  let suffix := (name.reverse.takeWhile (· != '+')).reverse
  let front := name.length - suffix.length
  if 1 < front then (name.take (front - 1), some suffix) else (name, none)

/-- The media type that a text spells. -/
def ofText? (t : Text) : Option MediaType :=
  let main := t.takeWhile isNameChar
  match t.dropWhile isNameChar with
  | '/' :: rest =>
    let sub := rest.takeWhile isNameChar
    let formed :=
      match rest.dropWhile isNameChar with
      | [] => true
      | ';' :: parameters => !sub.isEmpty && areParameters parameters
      | _ => false
    if formed && !main.isEmpty then
      let split := splitSuffix sub
      some ⟨main.map Char.toLower, split.1.map Char.toLower, split.2.map (·.map Char.toLower)⟩
    else
      none
  | _ => none

/-- The content is JSON. -/
def isJson (m : MediaType) : Bool :=
  m.main = "application".toList && (m.sub = "json".toList || m.suffix = some "json".toList)

end MediaType

end Reckoner
