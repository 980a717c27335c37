import Reckoner.Proofs.Gate.Operand
import Reckoner.Proofs.Text.Respaced

/-!
# Operators and calls

What the gate takes for a written operation: an operator, or a function's name with a parenthesis
behind it. The layout of a text decides nothing about that, and the marks of an operation remain
when the known words are taken out.
-/

namespace Reckoner

namespace Text

/-- What occurs in a text does so at one of its places. -/
theorem exists_suffix_of_occurs {p : Option Char → Text → Bool} {before : Option Char} {t : Text}
    (found : occurs p before t = true) : ∃ before place, place <:+ t ∧ p before place = true := by
  induction t generalizing before with
  | nil => exact ⟨before, [], List.suffix_rfl, found⟩
  | cons c t ih =>
      rw [occurs_cons, Bool.or_eq_true] at found
      rcases found with here | later
      · exact ⟨before, c :: t, List.suffix_rfl, here⟩
      · rcases ih later with ⟨before, place, suffix, holds⟩
        exact ⟨before, place, suffix.trans (List.suffix_cons c t), holds⟩

/-- No word ends in blanks. -/
theorem isWordAt_getLast?_or {gap : Text} (blank : ∀ c ∈ gap, isBlank c = true)
    {before : Option Char} (outside : gap = [] → isWordAt before = false) :
    isWordAt (gap.getLast?.or before) = false := by
  cases last : gap.getLast? with
  | none => exact outside (List.getLast?_eq_none_iff.mp last)
  | some c => exact isWord_of_blank (blank c (List.mem_of_getLast? last))

end Text

namespace Gate

open Text

variable {before other : Option Char} {s t : Text}

/-! ## Calls -/

theorem ascii_of_mem_functionWords : ∀ word ∈ functionWords, ∀ l ∈ word, l.toNat < 0x80 := by
  decide

theorem startsCall_iff :
    startsCall before t = true ↔ isBoundary before t.head? = true ∧
      ∃ name rest : Text, name ++ rest = t ∧ name.map foldedChar ∈ functionWords ∧
        (rest.dropWhile isBlank).head? = some '(' := by
  rw [startsCall, Bool.and_eq_true, List.any_eq_true]
  refine and_congr_right fun _ => ?_
  constructor
  · rintro ⟨word, known, opens⟩
    rcases (Option.any_eq_true _ _).mp opens with ⟨rest, after, parenthesis⟩
    rcases (afterPattern?_eq_some_iff (ascii_of_mem_functionWords word known)).mp after
      with ⟨name, whole, rfl⟩
    exact ⟨name, rest, whole, known, of_decide_eq_true parenthesis⟩
  · rintro ⟨name, rest, whole, known, parenthesis⟩
    have after := (afterPattern?_eq_some_iff (ascii_of_mem_functionWords _ known)).mpr
      ⟨name, whole, rfl⟩
    refine ⟨_, known, ?_⟩
    rw [after, Option.any_some]
    exact decide_eq_true parenthesis

/-- A function's name has letters, and no blanks between them. -/
theorem visible_of_mem_functionWords {name : Text} (known : name.map foldedChar ∈ functionWords) :
    name ≠ [] ∧ ∀ c ∈ name, isBlank c = false := by
  have all : ∀ word ∈ functionWords, word ≠ [] ∧ ∀ l ∈ word, isBlank l = false := by decide
  rcases all _ known with ⟨nonempty, visible⟩
  refine ⟨fun none => nonempty (by rw [none]; rfl), fun c mem => ?_⟩
  rw [Bool.eq_false_iff]
  intro blank
  have inWord := List.mem_map_of_mem (f := foldedChar) mem
  rw [foldedChar_of_blank blank] at inWord
  rw [visible c inWord] at blank
  contradiction

theorem startsCall_nil : startsCall before [] = false := by
  rw [Bool.eq_false_iff]
  intro call
  rcases (startsCall_iff.mp call).2 with ⟨name, rest, whole, known, _⟩
  exact (visible_of_mem_functionWords known).1 (List.append_eq_nil_iff.mp whole).1

theorem startsCall_cons_of_blank {c : Char} (blank : isBlank c = true) (t : Text) :
    startsCall before (c :: t) = false := by
  rw [Bool.eq_false_iff]
  intro call
  rcases (startsCall_iff.mp call).2 with ⟨name, rest, whole, known, _⟩
  rcases visible_of_mem_functionWords known with ⟨nonempty, visible⟩
  obtain ⟨d, name, rfl⟩ := List.exists_cons_of_ne_nil nonempty
  cases whole
  rw [visible c List.mem_cons_self] at blank
  contradiction

/-- A call has a parenthesis. -/
theorem mem_of_startsCall (call : startsCall before t = true) : '(' ∈ t := by
  rcases (startsCall_iff.mp call).2 with ⟨name, rest, rfl, _, opens⟩
  have inRest := (List.dropWhile_sublist _).subset (List.mem_of_head? opens)
  exact List.mem_append_right name inRest

/-! ## Layout -/

theorem startsCall_of_respaced (same : isWordAt before = isWordAt other) (respaced : Respaced s t)
    (call : startsCall before s = true) : startsCall other t = true := by
  rcases startsCall_iff.mp call with ⟨boundary, name, rest, rfl, known, opens⟩
  rcases visible_of_mem_functionWords known with ⟨nonempty, visible⟩
  rcases respaced.exists_of_append visible with ⟨rest', rfl, behind⟩
  rw [isBoundary, same, List.head?_append_of_ne_nil name nonempty] at boundary
  refine startsCall_iff.mpr ⟨?_, name, rest', rfl, known, ?_⟩
  · rwa [isBoundary, List.head?_append_of_ne_nil name nonempty]
  · rwa [← behind.head?_dropWhile]

/-- No call starts at a blank. -/
theorem occurs_startsCall_append_of_blank {gap : Text} (blank : ∀ c ∈ gap, isBlank c = true)
    (t : Text) :
    occurs startsCall before (gap ++ t) = true ↔
      occurs startsCall (gap.getLast?.or before) t = true := by
  refine ⟨fun found => ?_, occurs_append⟩
  induction gap generalizing before with
  | nil => exact found
  | cons c gap ih =>
      obtain ⟨head, tail⟩ := List.forall_mem_cons.mp blank
      rw [List.cons_append, occurs_cons, startsCall_cons_of_blank head, Bool.false_or] at found
      rw [getLast?_cons_or]
      exact ih tail found

theorem occurs_startsCall_of_respaced (same : isWordAt before = isWordAt other)
    (respaced : Respaced s t) (found : occurs startsCall before s = true) :
    occurs startsCall other t = true := by
  induction respaced generalizing before other with
  | @ends a b first second =>
      rw [← List.append_nil a, occurs_startsCall_append_of_blank first, occurs_nil,
        startsCall_nil] at found
      contradiction
  | @visible c s t visible rest ih =>
      rw [occurs_cons, Bool.or_eq_true] at found ⊢
      rcases found with here | later
      · exact .inl (startsCall_of_respaced same (.visible visible rest) here)
      · exact .inr (ih rfl later)
  | gap nonempty nonempty' first second _ ih =>
      rw [occurs_startsCall_append_of_blank first] at found
      rw [occurs_startsCall_append_of_blank second]
      refine ih ?_ found
      rw [isWordAt_getLast?_or first fun none => absurd none nonempty,
        isWordAt_getLast?_or second fun none => absurd none nonempty']

theorem occurs_startsCall_collapse (t : Text) :
    occurs startsCall none (collapse t) = occurs startsCall none t := by
  have gap : ∀ c ∈ t.takeWhile isBlank, isBlank c = true := fun _ => List.mem_takeWhile_imp
  have same : isWordAt ((t.takeWhile isBlank).getLast?.or none) = isWordAt none :=
    isWordAt_getLast?_or gap fun _ => rfl
  have cut : occurs startsCall none t = true ↔
      occurs startsCall ((t.takeWhile isBlank).getLast?.or none) (t.dropWhile isBlank) = true := by
    conv_lhs => rw [← List.takeWhile_append_dropWhile (p := isBlank) (l := t)]
    exact occurs_startsCall_append_of_blank gap (t.dropWhile isBlank)
  rw [Bool.eq_iff_iff, cut]
  constructor
  · exact occurs_startsCall_of_respaced same.symm (respaced_collapse t).symm
  · exact occurs_startsCall_of_respaced same (respaced_collapse t)

theorem any_isOperator_collapse (t : Text) : (collapse t).any isOperator = t.any isOperator := by
  have visible : ∀ c ∈ ['+', '-', '*', '/', '^'], isBlank c = false := by decide
  rw [Bool.eq_iff_iff, List.any_eq_true, List.any_eq_true]
  refine exists_congr fun c => and_congr_left fun operator => ?_
  exact mem_iff_of_words_eq (words_collapse t) (visible c (of_decide_eq_true operator))

/-- The layout of a text decides nothing about the operators and calls in it. -/
theorem hasOperatorOrCall_collapse (t : Text) :
    hasOperatorOrCall (collapse t) = hasOperatorOrCall t := by
  rw [hasOperatorOrCall, hasOperatorOrCall, any_isOperator_collapse, occurs_startsCall_collapse]

/-! ## Written operations -/

/-- Operators and the parentheses of calls remain when the known words are gone. -/
theorem remainder_ne_nil (written : hasOperatorOrCall t = true) : remainder t ≠ [] := by
  have marks : ∀ c ∈ ['+', '-', '*', '/', '^', '('], IsForeign c := by decide
  rw [hasOperatorOrCall, Bool.or_eq_true] at written
  rcases written with operator | call
  · rcases List.any_eq_true.mp operator with ⟨c, mem, isOperator⟩
    have known : c ∈ ['+', '-', '*', '/', '^'] := of_decide_eq_true isOperator
    exact List.ne_nil_of_mem (mem_remainder (marks c (List.mem_append_left ['('] known)) mem)
  · rcases exists_suffix_of_occurs call with ⟨before, place, suffix, starts⟩
    have mem := suffix.subset (mem_of_startsCall starts)
    exact List.ne_nil_of_mem (mem_remainder (marks '(' (by decide)) mem)

theorem isLikelyMath_of_isClean (clean : IsClean t) (written : hasOperatorOrCall t = true) :
    isLikelyMath t = true := by
  rw [isLikelyMath, Bool.and_eq_true, List.all_eq_true]
  refine ⟨?_, clean⟩
  cases remains : remainder t with
  | nil => exact absurd remains (remainder_ne_nil written)
  | cons c rest => rfl

theorem hasOperatorOrCall_of_passes (passes : passes t = true) : hasOperatorOrCall t = true := by
  rw [Gate.passes, Bool.and_eq_true, Bool.and_eq_true] at passes
  exact passes.1.2

end Gate

end Reckoner
