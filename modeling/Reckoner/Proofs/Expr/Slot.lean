import Reckoner.Proofs.Expr.Context
import Reckoner.Proofs.Expr.Openings
import Reckoner.Proofs.Text.Paired

/-!
# Slots of operands

An operand is printed in the slot that it fills: behind a sign, on a side of an operator, before a
unit, or on its own. The slot decides whether it is put into parentheses and which category its phrase
has to be of. Every operand in parentheses binds too loosely for its slot, except for one kind: what
has a minus sign may be an exponent without them.
-/

namespace Reckoner

open Grammar
open Reckoner.Expr

/-- Where an operand is printed. -/
inductive Slot where
  /-- It is a whole text, or a whole argument. -/
  | whole
  | sign
  | left (op : Operator)
  | right (op : Operator)
  | measured

namespace Expr

theorem precedence_pos (e : Expr) : 0 < e.precedence := by
  cases e with
  | binary left op right => cases op <;> exact Nat.zero_lt_succ _
  | number | constant | reference | call | neg | withUnit => exact Nat.zero_lt_succ _

variable {e : Expr}

theorem level_eq_precedence (loose : e.precedence < 5) : e.category.level = e.precedence := by
  cases e with
  | binary left op right => cases op <;> rfl
  | neg => rfl
  | number | constant | reference | call | withUnit => exact absurd loose (Nat.lt_irrefl 5)

/-- Nothing but a sign binds as tightly as a sign. -/
theorem exists_neg_of_precedence (signed : e.precedence = 3) : ∃ operand, e = neg operand := by
  cases e with
  | neg operand => exact ⟨operand, rfl⟩
  | binary left op right => cases op <;> simp [precedence, Operator.precedence] at signed
  | number | constant | reference | call | withUnit => simp [precedence] at signed

end Expr

namespace Slot

/-- The category that the phrase in a slot has to be of. -/
def category : Slot → Category
  | whole => .sum
  | sign => .signed
  | left op => op.leftCategory
  | right op => op.rightCategory
  | measured => .primary

/-- The operand is printed in parentheses. -/
def wraps : Slot → Expr → Bool
  | whole, _ => false
  | sign, e => e.precedence < 3
  | left op, e => wrapsLeft op e
  | right op, e => wrapsRight op e
  | measured, e => e.precedence < 5

/-- The text of the operand in the slot. -/
def text (slot : Slot) (e : Expr) : Text :=
  grouped (slot.wraps e) e.print

/-- The phrase that the operand is printed as in the slot. -/
def phrase (slot : Slot) (e : Expr) : Phrase :=
  wrapped (slot.wraps e) e.phrase

/-- The operand is a negative exponent. -/
def NegativeExponent (slot : Slot) (e : Expr) : Prop :=
  slot = .right .pow ∧ ∃ operand, e = .neg operand

variable {slot : Slot} {e : Expr}

/-- What binds less tightly than this is put into parentheses. -/
def bound : Slot → Nat
  | whole | left .add | left .sub => 1
  | left .mul | left .div | right .add | right .sub => 2
  | sign | right .mul | right .div => 3
  | right .pow => 4
  | left .pow | measured => 5

theorem wraps_iff : slot.wraps e = true ↔ e.precedence < slot.bound := by
  cases slot with
  | whole => exact iff_of_false Bool.false_ne_true (Nat.not_lt.mpr e.precedence_pos)
  | left op =>
      cases op with
      | pow => exact decide_eq_true_iff.trans Nat.lt_succ_iff.symm
      | add | sub | mul | div => exact decide_eq_true_iff
  | right op =>
      cases op with
      | pow => exact decide_eq_true_iff
      | add | sub | mul | div => exact decide_eq_true_iff.trans Nat.lt_succ_iff.symm
  | sign | measured => exact decide_eq_true_iff

theorem bound_le (slot : Slot) : slot.bound ≤ 5 := by
  cases slot with
  | left op | right op => cases op <;> decide
  | whole | sign | measured => decide

/-- Parentheses depend on the root of an operand only. -/
theorem wraps_congr {other : Expr} (same : e.precedence = other.precedence) :
    slot.wraps e = slot.wraps other := by
  rw [Bool.eq_iff_iff, wraps_iff, wraps_iff, same]

theorem wraps_constant (slot : Slot) (k : Constant) : slot.wraps (.constant k) = false := by
  rw [Bool.eq_false_iff, ne_eq, wraps_iff]
  exact Nat.not_lt.mpr slot.bound_le

/-- The operand does not end in a unit of its own if a unit follows it. -/
def Bare (slot : Slot) (e : Expr) : Prop :=
  slot = .measured → ∀ operand u, e ≠ .withUnit operand u

theorem bare_of_ne (other : slot ≠ .measured) : slot.Bare e :=
  fun measured => absurd measured other

/-- An operand without parentheses fits its slot. Only a unit may not follow another one. -/
theorem level_le (unwrapped : slot.wraps e = false) (bare : slot.Bare e) :
    slot.category.level ≤ e.category.level := by
  cases slot with
  | whole => exact level_sum_le _
  | sign =>
      have bound : 3 ≤ e.precedence := Nat.not_lt.mp (of_decide_eq_false unwrapped)
      exact Nat.le_trans bound (precedence_le_level e)
  | left op => exact level_left_le unwrapped
  | right op => exact level_right_le unwrapped
  | measured => exact level_measured_le (bare rfl) unwrapped

/-- An exponent may have a sign, although a sign binds less tightly than a power. No other slot takes
what is put into parentheses there. -/
theorem bound_le_level (slot : Slot) : slot.bound ≤ slot.category.level ∨ slot = .right .pow := by
  cases slot with
  | right op =>
      cases op with
      | pow => exact .inr rfl
      | add | sub | mul | div => exact .inl (Nat.le_refl _)
  | left op => cases op <;> exact .inl (Nat.le_refl _)
  | whole | sign => exact .inl (Nat.le_refl _)
  | measured => exact .inl (Nat.le_succ 5)

/-- An operand in parentheses binds too loosely for its slot, unless it is a negative exponent. -/
theorem needed_eq_one_or (wrapped : slot.wraps e = true) :
    needed slot.category e = 1 ∨ slot.NegativeExponent e := by
  have below := wraps_iff.mp wrapped
  have level := level_eq_precedence (Nat.lt_of_lt_of_le below slot.bound_le)
  have fits : e.category.level < slot.category.level → needed slot.category e = 1 :=
    fun loose => if_neg (Nat.not_le.mpr loose)
  rcases slot.bound_le_level with tight | rfl
  · exact .inl (fits (level ▸ Nat.lt_of_lt_of_le below tight))
  · rcases Nat.lt_succ_iff_lt_or_eq.mp below with loose | signed
    · exact .inl (fits (level ▸ loose))
    · exact .inr ⟨rfl, exists_neg_of_precedence signed⟩

theorem wraps_le_needed (other : slot ≠ .right .pow) :
    (slot.wraps e).toNat ≤ needed slot.category e := by
  cases wraps : slot.wraps e with
  | false => exact Nat.zero_le _
  | true =>
      rcases needed_eq_one_or wraps with one | ⟨exponent, _⟩
      · exact Nat.le_of_eq one.symm
      · contradiction

/-- The parentheses around an operand in its slot do not make up for others in it. -/
theorem covers_of_wrapped {counts : List Nat} (length : counts.length = e.required.length)
    (covers : Covers (raised (needed slot.category e) e.required)
      (raised (slot.wraps e).toNat counts)) : Covers e.required counts := by
  cases wraps : slot.wraps e with
  | false =>
      rw [wraps] at covers
      exact covers.of_raised (Nat.zero_le _)
  | true =>
      rcases needed_eq_one_or wraps with one | ⟨_, operand, rfl⟩
      · rw [one, wraps] at covers
        exact covers.of_raised (Nat.le_refl _)
      · -- Nothing is needed around a negative exponent, but nothing can be needed before its sign.
        cases counts with
        | nil => contradiction
        | cons n counts => exact .cons (Nat.zero_le n) covers.tail

/-- A negative exponent is in parentheses, and fits its slot without them. -/
theorem NegativeExponent.level_le (negative : slot.NegativeExponent e) :
    slot.category.level ≤ e.category.level := by
  rcases negative with ⟨rfl, operand, rfl⟩
  exact Nat.le_refl _

end Slot

/-- The slot of the hole, if the whole tree is in the given one. -/
def Context.slot : Context → Slot → Slot
  | hole, around => around
  | argument _ _ inner _, _ => inner.slot .whole
  | neg inner, _ => inner.slot .sign
  | leftOperand inner op _, _ => inner.slot (.left op)
  | rightOperand _ op inner, _ => inner.slot (.right op)
  | withUnit inner _, _ => inner.slot .measured

/-! ## Trees that are read back -/

namespace Expr

/-- The tree is well-formed and no unit in it follows a unit. -/
structure Readable (e : Expr) : Prop where
  well : e.WellFormed
  single : ¬ e.StacksUnits

namespace Readable

variable {e first second operand : Expr} {op : Operator} {u : AngleUnit}

theorem arguments {f : Func} {args : List Expr} (readable : Readable (call f args)) :
    ∀ e ∈ args, Readable e :=
  fun e mem => ⟨(every_call.mp readable.well).2 e mem,
    not_stacksUnits_of_mem readable.single (arg_mem_nodes mem)⟩

theorem signed (readable : Readable (neg operand)) : Readable operand :=
  ⟨(every_neg.mp readable.well).2,
    not_stacksUnits_of_mem readable.single (operand_mem_nodes_neg operand)⟩

theorem left (readable : Readable (binary first op second)) : Readable first :=
  ⟨(every_binary.mp readable.well).2.1,
    not_stacksUnits_of_mem readable.single (left_mem_nodes first second op)⟩

theorem right (readable : Readable (binary first op second)) : Readable second :=
  ⟨(every_binary.mp readable.well).2.2,
    not_stacksUnits_of_mem readable.single (right_mem_nodes first second op)⟩

theorem measured (readable : Readable (withUnit operand u)) : Readable operand :=
  ⟨(every_withUnit.mp readable.well).2,
    not_stacksUnits_of_mem readable.single (operand_mem_nodes_withUnit operand u)⟩

theorem derives_phrase (readable : Readable e) : Derives e.category e.phrase :=
  Expr.derives_phrase readable.well readable.single

end Readable

end Expr

/-! ## Parentheses in printed texts -/

namespace Expr

open Reckoner.Text (Paired)

variable {t : Text}

theorem func_plain (f : Func) : ∀ c ∈ f.name, c ≠ '(' ∧ c ≠ ')' := by
  cases f <;> decide

theorem constant_plain (k : Constant) : ∀ c ∈ k.name, c ≠ '(' ∧ c ≠ ')' := by
  cases k <;> decide

theorem number_plain {x : Binary64} (finite : x.isFinite = true) (positive : x.isNegative = false) :
    ∀ c ∈ numberText x, c ≠ '(' ∧ c ≠ ')' := by
  rcases exists_numeral_numberText finite positive with ⟨n, plain, text, _⟩
  intro c mem
  rw [text] at mem
  rcases plain.isDigit_or_eq_point mem with digit | rfl
  · constructor <;> rintro rfl <;> exact absurd digit (by decide)
  · decide

theorem symbol_plain (op : Operator) : ∀ c ∈ op.symbol, c ≠ '(' ∧ c ≠ ')' := by
  cases op <;> decide

theorem unit_plain (u : AngleUnit) : ∀ c ∈ ' ' :: u.name, c ≠ '(' ∧ c ≠ ')' := by
  cases u <;> decide

theorem paired_grouped (wrap : Bool) (inner : Paired t) : Paired (grouped wrap t) := by
  cases wrap with
  | false => exact inner
  | true => exact inner.enclosed

theorem paired_printArguments {args : List Expr} (each : ∀ a ∈ args, Paired a.print) :
    Paired (printArguments args) := by
  induction args with
  | nil => exact .nil
  | cons a args ih =>
      have ⟨first, others⟩ := List.forall_mem_cons.mp each
      cases args with
      | nil => exact first
      | cons b args =>
          rw [printArguments_cons (List.cons_ne_nil b args)]
          exact (first.append (.of_forall (by decide))).append (ih others)

/-- Every parenthesis in the text of a tree has its partner. -/
theorem paired_print {e : Expr} (well : e.WellFormed) : Paired e.print := by
  induction e with
  | number x =>
      rcases every_number.mp well with ⟨finite, positive⟩
      exact .of_forall (number_plain finite positive)
  | constant k => exact .of_forall (constant_plain k)
  | reference f => exact .of_forall (func_plain f)
  | call f args ih =>
      have ⟨_, each⟩ := every_call.mp well
      have inner := paired_printArguments fun a mem => ih a mem (each a mem)
      rw [print, List.append_assoc]
      exact (Paired.of_forall (func_plain f)).append inner.enclosed
  | neg operand ih =>
      exact .cons (by decide) (by decide) (paired_grouped _ (ih (every_neg.mp well).2))
  | binary left op right leftIh rightIh =>
      rcases every_binary.mp well with ⟨_, leftWell, rightWell⟩
      exact ((paired_grouped _ (leftIh leftWell)).append (.of_forall (symbol_plain op))).append
        (paired_grouped _ (rightIh rightWell))
  | withUnit operand u ih =>
      exact (paired_grouped _ (ih (every_withUnit.mp well).2)).append (.of_forall (unit_plain u))

end Expr

end Reckoner
