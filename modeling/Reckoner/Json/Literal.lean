import Reckoner.Json
import Reckoner.Number.Numeral
import Reckoner.Reader

/-!
# JSON strings and numbers

A string literal is scanned into characters and UTF-16 code units, and the units are then paired
into characters. A number literal is scanned as a numeral; its digits are gathered into a
significand of at most 64 bits, which is then scaled by its power of ten. -/

namespace Reckoner.Json

/-- Why JSON cannot be read. -/
inductive ReadError where
  /-- The text is not JSON. -/
  | malformed
  /-- The text is JSON, of another kind than was asked for. -/
  | mistyped
  deriving DecidableEq, Repr

/-- How literals are valued. -/
structure Literals where
  /-- A literal of the right form that has no value is refused. Otherwise it is passed over, and
  only the form of a text counts. -/
  refuses : Bool
  /-- The number that a minus sign and a numeral stand for, if they have a value. -/
  number? : Bool → Numeral → Option Json

/-! ## Strings -/

/-- A part of a string literal. -/
inductive StringUnit where
  | char (c : Char)
  /-- A UTF-16 code unit, given by its number. -/
  | code (n : Nat)
  deriving DecidableEq, Repr

/-- The value of a hexadecimal digit. -/
def hexValue? (c : Char) : Option Nat :=
  if '0' ≤ c ∧ c ≤ '9' then some (c.toNat - '0'.toNat)
  else if 'a' ≤ c ∧ c ≤ 'f' then some (c.toNat - 'a'.toNat + 10)
  else if 'A' ≤ c ∧ c ≤ 'F' then some (c.toNat - 'A'.toNat + 10)
  else none

/-- The value of four hexadecimal digits. -/
def codeUnit? (a b c d : Char) : Option Nat := do
  let a ← hexValue? a
  let b ← hexValue? b
  let c ← hexValue? c
  let d ← hexValue? d
  return ((a * 16 + b) * 16 + c) * 16 + d

/-- The character that a backslash and a letter stand for. -/
def shortEscape? : Char → Option Char
  | '"' => some '"'
  | '\\' => some '\\'
  | '/' => some '/'
  | 'b' => some '\x08'
  | 'f' => some '\x0c'
  | 'n' => some '\n'
  | 'r' => some '\r'
  | 't' => some '\t'
  | _ => none

/-- Scans a string literal after its opening quote, up to its closing quote. -/
def scanString : Text → Option (List StringUnit × Text)
  | [] => none
  | '"' :: rest => some ([], rest)
  | '\\' :: 'u' :: a :: b :: c :: d :: rest =>
    match codeUnit? a b c d, scanString rest with
    | some n, some (units, after) => some (.code n :: units, after)
    | _, _ => none
  | '\\' :: letter :: rest =>
    match shortEscape? letter, scanString rest with
    | some c, some (units, after) => some (.char c :: units, after)
    | _, _ => none
  | c :: rest =>
    if c.toNat < 0x20 || c = '\\' then none
    else (scanString rest).map fun scanned => (.char c :: scanned.1, scanned.2)

/-- Scanning a string takes at least its closing quote. -/
theorem scanString_length {t rest : Text} {units : List StringUnit}
    (done : scanString t = some (units, rest)) : rest.length < t.length := by
  fun_induction scanString t generalizing units rest with
  | case1 => contradiction
  | case2 after =>
    cases done
    exact Nat.lt_succ_self _
  | case3 a b c d after n inner last scanned known ih =>
    cases done
    have := ih scanned
    simp only [List.length_cons]
    omega
  | case4 => contradiction
  | case5 letter after _ c inner last scanned known ih =>
    cases done
    have := ih scanned
    simp only [List.length_cons]
    omega
  | case6 => contradiction
  | case7 => contradiction
  | case8 c after _ _ _ _ ih =>
    obtain ⟨⟨inner, last⟩, scanned, eq⟩ := Option.map_eq_some_iff.mp done
    cases eq
    have := ih scanned
    simp only [List.length_cons]
    omega

/-- The first of two code units that stand for one character. -/
def isHighSurrogate (n : Nat) : Bool :=
  0xd800 ≤ n && n < 0xdc00

/-- The second of two code units that stand for one character. -/
def isLowSurrogate (n : Nat) : Bool :=
  0xdc00 ≤ n && n < 0xe000

/-- The character that two code units stand for. -/
def pairedChar (high low : Nat) : Char :=
  .ofNat (0x10000 + (high - 0xd800) * 0x400 + (low - 0xdc00))

/-- The text that the units of a string spell. A unit of a pair that stands alone spells nothing. -/
def textOfUnits? : List StringUnit → Option Text
  | [] => some []
  | .char c :: rest => (textOfUnits? rest).map (c :: ·)
  | .code high :: .code low :: rest =>
    if isHighSurrogate high then
      if isLowSurrogate low then (textOfUnits? rest).map (pairedChar high low :: ·) else none
    else if isLowSurrogate high then none
    else (textOfUnits? (.code low :: rest)).map (Char.ofNat high :: ·)
  | .code n :: rest =>
    if isHighSurrogate n || isLowSurrogate n then none
    else (textOfUnits? rest).map (Char.ofNat n :: ·)

/-- Reads a string literal after its opening quote. -/
def stringBody (literals : Literals) : Reader Char ReadError Text where
  read t :=
    match scanString t with
    | none => .error .malformed
    | some (units, rest) =>
      match textOfUnits? units with
      | some text => .ok (text, rest)
      | none => if literals.refuses then .error .malformed else .ok ([], rest)
  shortens {t text rest} done := by
    split at done
    · contradiction
    · rename_i scanned
      have taken := scanString_length scanned
      split at done
      · cases done
        exact taken
      · split at done
        · contradiction
        · cases done
          exact taken

/-! ## Numbers -/

/-- Significands stay below this bound. -/
def significandBound : Nat :=
  Nat.pow 2 64

/-- Gathers digits into a significand while it stays below the bound; gives the significand and the
digits that did not go in. -/
def gather : Nat → Text → Nat × Text
  | significand, [] => (significand, [])
  | significand, c :: rest =>
    let next := 10 * significand + (c.toNat - '0'.toNat)
    if next < significandBound then gather next rest else (significand, c :: rest)

/-- The double nearest to `10 ^ k`. -/
def powerOfTen (k : Nat) : Binary64 :=
  Binary64.nearest (Nat.pow 10 k) 1

/-- Divides by `10 ^ k`, in steps of at most `10 ^ 308`. -/
def dividedByPower (x : Binary64) (k : Nat) : Binary64 :=
  if k ≤ 308 then x / powerOfTen k
  else if x.rank = 0 then x
  else dividedByPower (x / powerOfTen 308) (k - 308)
termination_by k
decreasing_by
  omega

/-- The double that a significand and a power of ten come to, if it is finite. -/
def scaled? (significand : Nat) (exponent : Int) : Option Binary64 :=
  let x := Binary64.nearest significand 1
  if exponent < 0 then some (dividedByPower x exponent.natAbs)
  else if exponent ≤ 308 then
    let product := x * powerOfTen exponent.toNat
    if product.isFinite then some product else none
  else if significand = 0 then some x
  else none

/-- A whole number that is written without fraction and exponent. A negative one that is zero or
does not fit into 64 bits is a float. -/
def ofWhole (negative : Bool) (n : Nat) : Json :=
  if !negative then .integer n
  else if n = 0 ∨ Nat.pow 2 63 < n then .float (Binary64.ofRank true (Binary64.nearestRank n 1))
  else .integer (-n)

/-- The number that a numeral and its minus sign stand for, if it is within the doubles. -/
def ofNumeral? (negative : Bool) (n : Numeral) : Option Json :=
  let whole := gather 0 n.whole
  if n.fraction.isNone ∧ n.exponent.isNone ∧ whole.2 = [] then some (ofWhole negative whole.1)
  else
    let fraction := n.fraction.getD []
    let all := gather whole.1 fraction
    let taken := fraction.length - all.2.length
    let exponent : Int := whole.2.length - taken + n.exponent.elim 0 ExponentPart.value
    (scaled? all.1 exponent).map fun x => .float (if negative then -x else x)

/-- A number has digits before the point, no idle zero in front, and digits after a point. -/
def isWellFormed (n : Numeral) : Bool :=
  !n.whole.isEmpty && (n.whole.head? != some '0' || n.whole.length == 1) &&
    n.fraction.all (!·.isEmpty)

/-- The letter of an exponent follows a numeral without one. -/
def lacksExponent (n : Numeral) (rest : Text) : Bool :=
  n.exponent.isNone && (rest.head? = some 'e' || rest.head? = some 'E')

/-- Scans a number literal after its sign. -/
def scanNumber (t : Text) : Option (Numeral × Text) :=
  let cut := Numeral.scan t
  if isWellFormed cut.1 ∧ lacksExponent cut.1 cut.2 = false then some cut else none

/-- Scanning a number takes at least one digit. -/
theorem scanNumber_length {t rest : Text} {n : Numeral} (done : scanNumber t = some (n, rest)) :
    rest.length < t.length := by
  simp only [scanNumber] at done
  split at done
  · rename_i formed
    have cut : Numeral.scan t = (n, rest) := Option.some.inj done
    have lengths := congrArg List.length (Numeral.scan_append t)
    rw [cut] at lengths formed
    have digits : n.whole ≠ [] := by
      have := formed.1
      simp only [isWellFormed, Bool.and_eq_true, Bool.not_eq_true',
        List.isEmpty_eq_false_iff] at this
      exact this.1.1
    have positive := List.length_pos_iff.mpr digits
    simp only [Numeral.text, List.length_append] at lengths
    omega
  · contradiction

namespace Literals

/-- Every literal has to have a value. -/
def strict : Literals where
  refuses := true
  number? := ofNumeral?

/-- Literals without a value are passed over. -/
def lenient : Literals where
  refuses := false
  number? := ofNumeral?

end Literals

/-- Reads a number literal after its sign. -/
def numberBody (literals : Literals) (negative : Bool) : Reader Char ReadError Json where
  read t :=
    match scanNumber t with
    | none => .error .malformed
    | some (n, rest) =>
      match literals.number? negative n with
      | some j => .ok (j, rest)
      | none => if literals.refuses then .error .malformed else .ok (.null, rest)
  shortens {t j rest} done := by
    split at done
    · contradiction
    · rename_i scanned
      have taken := scanNumber_length scanned
      split at done
      · cases done
        exact taken
      · split at done
        · contradiction
        · cases done
          exact taken

end Reckoner.Json
