import Reckoner.Proofs.Expr.Printed
import Reckoner.Proofs.Text.Tidy

/-!
# Printed trees are tidy

The text of a tree is settled: its letters are small, and single spaces stand around its operators,
before its units and after its commas.
-/

namespace Reckoner

open Text

theorem Token.isQuiet_of_mark {c : Char} {token : Token} (mark : ofMark? c = some token) :
    isQuiet c = true := by
  have quiet : ∀ m ∈ marks, isQuiet m.1 = true := by decide
  exact quiet _ (mem_marks mark)

theorem isQuiet_of_isDigit {c : Char} (digit : c.isDigit = true) : isQuiet c = true := by
  have ⟨low, high⟩ := (isDigit_iff c).mp digit
  refine isQuiet_iff.mpr ⟨Nat.lt_of_le_of_lt high (by decide), ?_, ?_⟩
  · rw [Bool.eq_false_iff]
    intro upper
    have alpha : c.isAlpha = true := by rw [Char.isAlpha, upper, Bool.true_or]
    rw [isAlpha_iff] at alpha
    omega
  · rw [Bool.eq_false_iff]
    intro blank
    rw [(Parts.of_blank blank).not_digit] at digit
    contradiction

theorem settled_mark {c : Char} {token : Token} (mark : Token.ofMark? c = some token) :
    Settled [c] := by
  apply Settled.word (List.cons_ne_nil c [])
  intro d mem
  obtain rfl := List.mem_singleton.mp mem
  exact Token.isQuiet_of_mark mark

theorem Numeral.Plain.settled_text {n : Numeral} (plain : n.Plain) : Settled n.text := by
  apply Settled.word (by simp [text, plain.whole_ne_nil])
  intro c mem
  rcases plain.isDigit_or_eq_point mem with digit | rfl
  · exact isQuiet_of_isDigit digit
  · rfl

theorem settled_func (f : Func) : Settled f.name := by
  cases f <;> exact .word (by decide) (List.all_eq_true.mp rfl)

theorem settled_constant (c : Constant) : Settled c.name := by
  cases c <;> exact .word (by decide) (List.all_eq_true.mp rfl)

theorem settled_unit (u : AngleUnit) : Settled u.name := by
  cases u <;> exact .word (by decide) (List.all_eq_true.mp rfl)

theorem settled_numberText {x : Binary64} (finite : x.isFinite = true)
    (positive : x.isNegative = false) : Settled (numberText x) := by
  rcases exists_numeral_numberText finite positive with ⟨n, plain, text, _⟩
  rw [text]
  exact plain.settled_text

namespace Expr

variable {a b : Text}

theorem settled_grouped (wrap : Bool) (settled : Settled a) : Settled (grouped wrap a) := by
  cases wrap with
  | false => exact settled
  | true => exact (settled_mark (c := '(') rfl).append (settled.append (settled_mark rfl))

theorem settled_symbol (op : Operator) (first : Settled a) (second : Settled b) :
    Settled (a ++ op.symbol ++ b) := by
  rw [List.append_assoc]
  by_cases power : op = .pow
  · subst power
    exact first.append ((settled_mark (c := '^') rfl).append second)
  · rcases exists_mark_symbol power with ⟨mark, symbol, meaning⟩
    rw [symbol]
    exact .spaced first (.spaced (settled_mark meaning) second)

theorem settled_printArguments {args : List Expr} (nonempty : args ≠ [])
    (each : ∀ a ∈ args, Settled a.print) : Settled (printArguments args) := by
  induction args with
  | nil => contradiction
  | cons a args ih =>
      have ⟨first, others⟩ := List.forall_mem_cons.mp each
      cases args with
      | nil => exact first
      | cons b args =>
          have comma : Settled (a.print ++ [',']) := first.append (settled_mark rfl)
          have listed := Settled.spaced comma (ih (List.cons_ne_nil b args) others)
          rw [printArguments_cons (List.cons_ne_nil b args)]
          simpa using listed

/-- The text of a tree is settled. -/
theorem settled_print {e : Expr} (well : e.WellFormed) : Settled e.print := by
  induction e with
  | number x =>
      rcases every_number.mp well with ⟨finite, positive⟩
      exact settled_numberText finite positive
  | constant c => exact settled_constant c
  | reference f => exact settled_func f
  | call f args ih =>
      have ⟨accepted, each⟩ := every_call.mp well
      have nonempty : args ≠ [] := by
        rintro rfl
        cases f <;> contradiction
      have inner := settled_printArguments nonempty fun a mem => ih a mem (each a mem)
      have closed : Settled (printArguments args ++ [')']) := inner.append (settled_mark rfl)
      rw [print, List.append_assoc]
      exact (settled_func f).append ((settled_mark (c := '(') rfl).append closed)
  | neg operand ih =>
      exact (settled_mark (c := '-') rfl).append (settled_grouped _ (ih (every_neg.mp well).2))
  | binary left op right leftIh rightIh =>
      rcases every_binary.mp well with ⟨_, leftWell, rightWell⟩
      exact settled_symbol op (settled_grouped _ (leftIh leftWell))
        (settled_grouped _ (rightIh rightWell))
  | withUnit operand u ih =>
      exact .spaced (settled_grouped _ (ih (every_withUnit.mp well).2)) (settled_unit u)

end Expr

end Reckoner
