import Reckoner.Error
import Reckoner.Expr
import Reckoner.Reader

/-!
# Reading expressions

Expressions are read from tokens by this grammar:

    Sum     = Product { ("+" | "-") Product }
    Product = Signed { ("*" | "/") Signed | Signed that starts with a constant, function or "(" }
    Signed  = ("-" | "+") Signed | Power
    Power   = Measure [ "^" Signed ]
    Measure = Primary [ unit ]
    Primary = number | constant | function "(" [ Sum { "," Sum } ] ")" | function | "(" Sum ")"

A reader takes at least one token. Every way round the grammar goes through `signed`, which counts
down how many more signs, exponents, groups and argument lists may enclose an operand; the loops of
`Sum`, `Product` and the argument lists end because the tokens run out. No tree that is returned is
taller than `maxDepth`.
-/

namespace Reckoner

/-- The deepest nesting and the tallest tree that are read. -/
def maxDepth : Nat :=
  256

/-- Reads expressions off lists of tokens. -/
abbrev ExprReader := Reader Token SyntaxError Expr

namespace Expr

/-- Hands on a new tree with the tokens that follow it, unless the tree is too tall. -/
def built (tree : Expr) (rest : List Token) : Except SyntaxError (Expr × List Token) :=
  if tree.height ≤ maxDepth then .ok (tree, rest) else .error .tooDeep

theorem built_eq_ok_iff {tree result : Expr} {rest last : List Token} :
    built tree rest = .ok (result, last) ↔
      tree.height ≤ maxDepth ∧ result = tree ∧ last = rest := by
  unfold built
  split
  · rename_i fits
    constructor
    · intro done
      cases done
      exact ⟨fits, rfl, rfl⟩
    · rintro ⟨_, rfl, rfl⟩
      rfl
  · rename_i tall
    constructor
    · intro done
      contradiction
    · intro done
      exact absurd done.1 tall

/-! ## Operators between operands -/

/-- What a token says after an operand. -/
inductive Joint where
  /-- The token is the operator. -/
  | written (op : Operator)
  /-- The token starts the next operand, and the operator is left out. -/
  | implied (op : Operator)
  /-- The chain of operands ends. -/
  | ends

/-- Continues sums. -/
def sumJoint : Token → Joint
  | .plus => .written .add
  | .minus => .written .sub
  | _ => .ends

/-- Continues products. A constant, a function or a group may follow an operand directly. -/
def productJoint : Token → Joint
  | .star => .written .mul
  | .slash => .written .div
  | .constant _ | .func _ | .openParen => .implied .mul
  | _ => .ends

/-- The operator at a joint, with the tokens of the operand that follows it. -/
def nextOperand (joint : Token → Joint) : List Token → Option (Operator × List Token)
  | [] => none
  | token :: rest =>
    match joint token with
    | .written op => some (op, rest)
    | .implied op => some (op, token :: rest)
    | .ends => none

theorem nextOperand_length {joint : Token → Joint} {tokens rest : List Token} {op : Operator}
    (next : nextOperand joint tokens = some (op, rest)) : rest.length ≤ tokens.length := by
  unfold nextOperand at next
  split at next
  · contradiction
  · split at next
    · cases next
      exact Nat.le_succ _
    · cases next
      exact Nat.le_refl _
    · contradiction

/-- Reads the operands that follow `left`, building a tree that leans to the left. -/
def chainFrom (joint : Token → Joint) (operand : ExprReader) (left : Expr) (tokens : List Token) :
    Except SyntaxError (Expr × List Token) :=
  match _next : nextOperand joint tokens with
  | none => .ok (left, tokens)
  | some (op, start) =>
    match _step : operand.read start with
    | .error e => .error e
    | .ok (right, rest) =>
      match _node : built (binary left op right) rest with
      | .error e => .error e
      | .ok (tree, rest) => chainFrom joint operand tree rest
termination_by tokens.length
decreasing_by
  have := operand.shortens _step
  have := nextOperand_length _next
  obtain ⟨_, _, rfl⟩ := built_eq_ok_iff.mp _node
  omega

theorem chainFrom_length {joint : Token → Joint} {operand : ExprReader} {left tree : Expr}
    {tokens rest : List Token} (done : chainFrom joint operand left tokens = .ok (tree, rest)) :
    rest.length ≤ tokens.length := by
  fun_induction chainFrom joint operand left tokens with
  | case1 =>
    cases done
    exact Nat.le_refl _
  | case2 => contradiction
  | case3 => contradiction
  | case4 left tokens op start next right middle step node last finished ih =>
    have := operand.shortens step
    have := nextOperand_length next
    have := ih done
    obtain ⟨_, _, rfl⟩ := built_eq_ok_iff.mp finished
    omega

/-- Reads one operand and those that are joined to it. -/
def chain (joint : Token → Joint) (operand : ExprReader) : ExprReader where
  read tokens :=
    match operand.read tokens with
    | .error e => .error e
    | .ok (first, rest) => chainFrom joint operand first rest
  shortens {tokens tree rest} done := by
    split at done
    · contradiction
    · rename_i first middle step
      have := operand.shortens step
      have := chainFrom_length done
      omega

/-- Reads a sum, its signed operands being read by `signed`. -/
def sum (signed : ExprReader) : ExprReader :=
  chain sumJoint (chain productJoint signed)

/-! ## Primaries -/

/-- Reads one argument and those that follow it, up to the closing parenthesis. -/
def argumentsFrom (argument : ExprReader) (tokens : List Token) :
    Except SyntaxError (List Expr × List Token) :=
  match _step : argument.read tokens with
  | .error e => .error e
  | .ok (first, .comma :: rest) =>
    match argumentsFrom argument rest with
    | .error e => .error e
    | .ok (others, last) => .ok (first :: others, last)
  | .ok (first, .closeParen :: rest) => .ok ([first], rest)
  | .ok (_, token :: _) => .error (.unfinishedArgument token)
  | .ok (_, []) => .error .unclosedArguments
termination_by tokens.length
decreasing_by
  have := argument.shortens _step
  simp only [List.length_cons] at this
  omega

theorem argumentsFrom_length {argument : ExprReader} {tokens rest : List Token} {args : List Expr}
    (done : argumentsFrom argument tokens = .ok (args, rest)) : rest.length < tokens.length := by
  fun_induction argumentsFrom argument tokens generalizing args rest with
  | case1 => contradiction
  | case2 => contradiction
  | case3 tokens first middle step others last inner ih =>
    have taken := argument.shortens step
    have := ih inner
    cases done
    rw [List.length_cons] at taken
    omega
  | case4 tokens first middle step =>
    have taken := argument.shortens step
    cases done
    rw [List.length_cons] at taken
    omega
  | case5 => contradiction
  | case6 => contradiction

/-- Reads an argument list after its opening parenthesis. -/
def arguments (argument : ExprReader) : Reader Token SyntaxError (List Expr) where
  read
    | .closeParen :: rest => .ok ([], rest)
    | tokens => argumentsFrom argument tokens
  shortens {tokens args rest} done := by
    split at done
    · cases done
      exact Nat.lt_succ_self _
    · exact argumentsFrom_length done

/-- Reads a call after the opening parenthesis of its argument list. -/
def callOf (f : Func) (argument : ExprReader) : ExprReader where
  read tokens :=
    match (arguments argument).read tokens with
    | .error e => .error e
    | .ok (args, rest) =>
      if f.accepts args.length then built (call f args) rest
      else .error (.wrongArgumentCount f args.length)
  shortens {tokens tree rest} done := by
    split at done
    · contradiction
    · rename_i step
      have taken := (arguments argument).shortens step
      split at done
      · obtain ⟨_, _, rfl⟩ := built_eq_ok_iff.mp done
        exact taken
      · contradiction

/-- Reads the rest of a group after its opening parenthesis. -/
def groupOf (inner : ExprReader) : ExprReader where
  read tokens :=
    match inner.read tokens with
    | .error e => .error e
    | .ok (tree, .closeParen :: rest) => .ok (tree, rest)
    | .ok (_, token :: _) => .error (.unclosedGroup (some token))
    | .ok (_, []) => .error (.unclosedGroup none)
  shortens {tokens tree rest} done := by
    split at done
    · contradiction
    · rename_i step
      have taken := inner.shortens step
      cases done
      rw [List.length_cons] at taken
      omega
    · contradiction
    · contradiction

/-- Reads a number, constant, function, call or group. -/
def primary (inner : ExprReader) : ExprReader where
  read
    | .number x :: rest => .ok (number x, rest)
    | .constant c :: rest => .ok (constant c, rest)
    | .func f :: .openParen :: rest => (callOf f inner).read rest
    | .func f :: rest => .ok (reference f, rest)
    | .openParen :: rest => (groupOf inner).read rest
    | token :: _ => .error (.unexpected token)
    | [] => .error .unexpectedEnd
  shortens {tokens tree rest} done := by
    split at done
    · cases done
      exact Nat.lt_succ_self _
    · cases done
      exact Nat.lt_succ_self _
    · have := (callOf _ inner).shortens done
      simp only [List.length_cons]
      omega
    · cases done
      exact Nat.lt_succ_self _
    · have := (groupOf inner).shortens done
      simp only [List.length_cons]
      omega
    · contradiction
    · contradiction

/-! ## Units, powers and signs -/

/-- Reads a primary and the unit after it. -/
def measure (inner : ExprReader) : ExprReader where
  read tokens :=
    match (primary inner).read tokens with
    | .error e => .error e
    | .ok (tree, .unit u :: rest) => built (withUnit tree u) rest
    | .ok (tree, rest) => .ok (tree, rest)
  shortens {tokens tree rest} done := by
    split at done
    · contradiction
    · rename_i step
      have taken := (primary inner).shortens step
      obtain ⟨_, _, rfl⟩ := built_eq_ok_iff.mp done
      rw [List.length_cons] at taken
      omega
    · rename_i step
      cases done
      exact (primary inner).shortens step

/-- Reads a measure and the exponent after it. -/
def power (inner exponent : ExprReader) : ExprReader where
  read tokens :=
    match (measure inner).read tokens with
    | .error e => .error e
    | .ok (base, .caret :: rest) =>
      match exponent.read rest with
      | .error e => .error e
      | .ok (raised, last) => built (binary base .pow raised) last
    | .ok (base, rest) => .ok (base, rest)
  shortens {tokens tree rest} done := by
    split at done
    · contradiction
    · rename_i step
      have taken := (measure inner).shortens step
      rw [List.length_cons] at taken
      split at done
      · contradiction
      · rename_i raising
        have := exponent.shortens raising
        obtain ⟨_, _, rfl⟩ := built_eq_ok_iff.mp done
        omega
    · rename_i step
      cases done
      exact (measure inner).shortens step

/-- Reads a signed operand, at most `budget` levels deep. A plus sign leaves no node. -/
def signed : Nat → ExprReader
  | 0 => ⟨fun _ => .error .tooDeep, fun done => by contradiction⟩
  | budget + 1 =>
    { read := fun
        | .minus :: rest =>
          match (signed budget).read rest with
          | .error e => .error e
          | .ok (tree, last) => built (neg tree) last
        | .plus :: rest => (signed budget).read rest
        | tokens => (power (sum (signed budget)) (signed budget)).read tokens
      shortens := fun {tokens tree rest} done => by
        split at done
        · split at done
          · contradiction
          · rename_i step
            have := (signed budget).shortens step
            obtain ⟨_, _, rfl⟩ := built_eq_ok_iff.mp done
            rw [List.length_cons]
            omega
        · have := (signed budget).shortens done
          simp only [List.length_cons]
          omega
        · exact (power (sum (signed budget)) (signed budget)).shortens done }

/-- The expression that a list of tokens spells. -/
def parse (tokens : List Token) : Except SyntaxError Expr :=
  match tokens with
  | [] => .error .emptyExpression
  | tokens =>
    match (sum (signed (maxDepth + 1))).read tokens with
    | .error e => .error e
    | .ok (tree, []) => .ok tree
    | .ok (_, token :: _) => .error (.trailing token)

end Expr

end Reckoner
