import Reckoner.Number.Layout

/-!
# Socket addresses

The written form of an address with a port: four octets, or eight groups of sixteen bits in square
brackets, where `::` stands for one or more groups of zero, the last two groups may be written as
octets, and a scope may follow. The printed form is the shortest: the longest run of two or more
zero groups, the first of such, becomes `::`. -/

namespace Reckoner

/-- An address with a port. -/
inductive SocketAddress where
  | v4 (octets : List Nat) (port : Nat)
  | v6 (groups : List Nat) (scope : Nat) (port : Nat)
  deriving DecidableEq, Repr

namespace SocketAddress

/-! ## Reading -/

/-- The value of a digit in base ten or sixteen. -/
def digitValue? (base : Nat) (c : Char) : Option Nat :=
  let value :=
    if c.isDigit then c.toNat - '0'.toNat
    else if 'a' ≤ c ∧ c ≤ 'f' then c.toNat - 'a'.toNat + 10
    else if 'A' ≤ c ∧ c ≤ 'F' then c.toNat - 'A'.toNat + 10
    else base
  if value < base then some value else none

/-- How a number in an address may be written. -/
structure NumberForm where
  base : Nat
  bound : Nat
  maxDigits : Option Nat
  leadingZeros : Bool

/-- A number between dots. -/
def octetForm : NumberForm :=
  ⟨10, Nat.pow 2 8, some 3, false⟩

/-- A number between colons. -/
def groupForm : NumberForm :=
  ⟨16, Nat.pow 2 16, some 4, true⟩

/-- The number after a percent sign. -/
def scopeForm : NumberForm :=
  ⟨10, Nat.pow 2 32, none, true⟩

/-- The number after the address. -/
def portForm : NumberForm :=
  ⟨10, Nat.pow 2 16, none, true⟩

/-- Takes a number off the front of a text. -/
def number? (form : NumberForm) (t : Text) : Option (Nat × Text) :=
  let isDigit := fun c => (digitValue? form.base c).isSome
  let digits := t.takeWhile isDigit
  let n := digits.foldl (fun n c => form.base * n + (digitValue? form.base c).getD 0) 0
  if digits ≠ [] ∧ n < form.bound ∧ form.maxDigits.all (digits.length ≤ ·) ∧
      (form.leadingZeros ∨ digits.length = 1 ∨ digits.head? ≠ some '0') then
    some (n, t.dropWhile isDigit)
  else
    none

/-- Takes one character off the front of a text. -/
def mark? (mark : Char) : Text → Option Text
  | [] => none
  | c :: rest => if c = mark then some rest else none

/-- Takes `n` more octets, each after a dot. -/
def moreOctets? : Nat → Text → Option (List Nat × Text)
  | 0, t => some ([], t)
  | n + 1, t => do
    let (octet, t) ← number? octetForm (← mark? '.' t)
    let (octets, t) ← moreOctets? n t
    return (octet :: octets, t)

/-- Takes four octets with dots between them. -/
def octets? (t : Text) : Option (List Nat × Text) := do
  let (octet, t) ← number? octetForm t
  let (octets, t) ← moreOctets? 3 t
  return (octet :: octets, t)

/-- The two groups that four octets make up. -/
def groupsOfOctets : List Nat → List Nat
  | [a, b, c, d] => [a * 256 + b, c * 256 + d]
  | _ => []

/-- Groups taken off the front of a text. -/
structure Groups where
  groups : List Nat
  /-- The last two groups are written as octets, and no more may follow. -/
  closed : Bool
  rest : Text

/-- Takes up to `n` groups, with colons between them and, unless they are the first, before them. -/
def groups (isFirst : Bool) : Nat → Text → Groups
  | 0, t => ⟨[], false, t⟩
  | n + 1, t =>
    let start := if isFirst then some t else mark? ':' t
    match (if n = 0 then none else start.bind octets?) with
    | some (octets, rest) => ⟨groupsOfOctets octets, true, rest⟩
    | none =>
      match start.bind (number? groupForm) with
      | some (group, rest) =>
        let others := groups false n rest
        ⟨group :: others.groups, others.closed, others.rest⟩
      | none => ⟨[], false, t⟩

/-- Takes eight groups, some of which may be left out in one place. -/
def address6? (t : Text) : Option (List Nat × Text) :=
  let front := groups true 8 t
  if front.groups.length = 8 then some (front.groups, front.rest)
  else if front.closed then none
  else do
    let gap ← mark? ':' (← mark? ':' front.rest)
    let back := groups true (7 - front.groups.length) gap
    let zeros := 8 - front.groups.length - back.groups.length
    return (front.groups ++ List.replicate zeros 0 ++ back.groups, back.rest)

/-- Takes a colon and a port. -/
def port? (t : Text) : Option (Nat × Text) := do
  number? portForm (← mark? ':' t)

/-- Takes an address of four octets and a port. -/
def socket4? (t : Text) : Option (SocketAddress × Text) := do
  let (octets, t) ← octets? t
  let (port, t) ← port? t
  return (v4 octets port, t)

/-- Takes an address of eight groups in brackets and a port. -/
def socket6? (t : Text) : Option (SocketAddress × Text) := do
  let (groups, t) ← address6? (← mark? '[' t)
  let (scope, t) := (mark? '%' t >>= number? scopeForm).getD (0, t)
  let (port, t) ← port? (← mark? ']' t)
  return (v6 groups scope port, t)

/-- The address that a text spells. -/
def ofText? (t : Text) : Option SocketAddress :=
  match (socket4? t).or (socket6? t) with
  | some (address, []) => some address
  | _ => none

/-! ## Printing -/

/-- Four octets with dots between them. -/
def octetsText (octets : List Nat) : Text :=
  ['.'].intercalate (octets.map decimalDigits)

/-- Groups with colons between them. -/
def groupsText (groups : List Nat) : Text :=
  [':'].intercalate (groups.map (Nat.toDigits 16))

/-- How many zeros a list starts with. -/
def leadingZeros (groups : List Nat) : Nat :=
  (groups.takeWhile (· == 0)).length

/-- Where the longest run of zeros starts, the first of such, and how long it is. -/
def longestZeros (groups : List Nat) : Nat × Nat :=
  (List.range groups.length).foldl
    (fun best start =>
      let run := leadingZeros (groups.drop start)
      if best.2 < run then (start, run) else best)
    (0, 0)

/-- The shortest form of eight groups. Addresses that stand for four octets show them. -/
def address6Text (groups : List Nat) : Text :=
  match groups with
  | [0, 0, 0, 0, 0, 0xffff, high, low] =>
    "::ffff:".toList ++ octetsText [high / 256, high % 256, low / 256, low % 256]
  | _ =>
    let (start, run) := longestZeros groups
    if run < 2 then groupsText groups
    else groupsText (groups.take start) ++ "::".toList ++ groupsText (groups.drop (start + run))

/-- An address in its printed form. -/
def text : SocketAddress → Text
  | v4 octets port => octetsText octets ++ ':' :: decimalDigits port
  | v6 groups scope port =>
    '[' :: address6Text groups ++ (if scope = 0 then [] else '%' :: decimalDigits scope) ++
      "]:".toList ++ decimalDigits port

end SocketAddress

end Reckoner
