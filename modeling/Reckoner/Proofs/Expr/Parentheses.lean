import Reckoner.Proofs.Expr.Respelled

/-!
# Parentheses that can be left out

Every pair of parentheses in a printed text is around arguments or around an operand in its slot. An
operand that binds too loosely for its slot needs the pair. A negative exponent is put into parentheses
as well, although the grammar takes signs in exponents, and the pair around it is the only kind that
can be left out.
-/

namespace Reckoner.Expr

open Grammar
open Reckoner.Text (Paired)

variable {a b c t : Text} {e x left right operand : Expr} {op : Operator} {place : Context}

/-! ## The place of a pair of parentheses -/

/-- A parenthesis behind the text does not start an argument list. -/
def Grouping (a : Text) : Prop :=
  ∀ f : Func, ¬ f.name <:+ a

theorem Grouping.of_append (grouping : Grouping (t ++ a)) : Grouping a :=
  fun f ends => grouping f (ends.trans (List.suffix_append t a))

/-- The pair of parentheses around `b` in the text of an operand in its slot is around `x` at the
place. -/
structure Encloses (slot : Slot) (e : Expr) (a b c : Text) (place : Context) (x : Expr) : Prop where
  fill : place.fill x = e
  print : x.print = b
  text : ∀ k, slot.text (place.fill (.constant k)) = a ++ (k.name ++ c)
  respelled : ∃ p counts, Respelled slot.category e (slot.phrase e)
    ((place.slot slot).NegativeExponent x) (a ++ (b ++ c)) p counts

/-- The pair of parentheses is around an operand below the root of the tree. -/
structure Inside (e : Expr) (a b c : Text) (place : Context) (x : Expr) : Prop where
  fill : place.fill x = e
  print : x.print = b
  text : ∀ k, (place.fill (.constant k)).print = a ++ (k.name ++ c)
  root : ∀ k, (place.fill (.constant k)).precedence = e.precedence
  slot : ∀ around, place.slot around = place.slot .whole
  respelled : ∃ p counts, Respelled e.category e e.phrase
    ((place.slot .whole).NegativeExponent x) (a ++ (b ++ c)) p counts

theorem Inside.encloses {slot : Slot} {front back : Text} (inside : Inside e a b c place x)
    (bare : slot.Bare e)
    (around : ∀ own, grouped (slot.wraps e) (a ++ (own ++ c)) = front ++ (own ++ back)) :
    Encloses slot e front b back place x where
  fill := inside.fill
  print := inside.print
  text k := by
    rw [Slot.text, Slot.wraps_congr (inside.root k), inside.text, around]
  respelled := by
    rcases inside.respelled with ⟨p, counts, respelled⟩
    rw [inside.slot, ← around]
    exact ⟨_, _, respelled.enclosed bare⟩

/-- A pair of parentheses in the text of an operand is the one around the operand, or is inside. -/
theorem exists_encloses (slot : Slot) (readable : Readable e) (bare : slot.Bare e)
    (inner : Paired b) (grouping : Grouping a) (printed : slot.text e = a ++ '(' :: (b ++ ')' :: c))
    (inside : ∀ {a c}, Grouping a → e.print = a ++ '(' :: (b ++ ')' :: c) →
      ∃ place x, Inside e a b c place x) :
    ∃ place x, Encloses slot e a b c place x := by
  rw [Slot.text] at printed
  cases wraps : slot.wraps e with
  | false =>
      rw [wraps] at printed
      rcases inside grouping printed with ⟨place, x, found⟩
      refine ⟨place, x, found.encloses bare fun own => ?_⟩
      rw [wraps]
      rfl
  | true =>
      rw [wraps] at printed
      cases a with
      | nil =>
          have closed := (List.cons.inj printed).2
          rcases (paired_print readable.well).eq_of_close inner closed with ⟨rfl, rfl⟩
          rcases Respelled.opened readable wraps with ⟨counts, opened⟩
          refine ⟨.hole, e, rfl, rfl, ?_, e.phrase, counts, ?_⟩
          · intro k
            rw [Context.fill, Slot.text, Slot.wraps_constant]
            exact (List.append_nil _).symm
          · rw [List.nil_append, List.append_nil]
            exact opened
      | cons opening a =>
          rcases List.cons.inj printed with ⟨rfl, rest⟩
          rcases (paired_print readable.well).cut_front (by decide) inner rest with ⟨back, rfl, below⟩
          rcases inside (Grouping.of_append (t := ['(']) grouping) below with ⟨place, x, found⟩
          refine ⟨place, x, found.encloses bare fun own => ?_⟩
          rw [wraps]
          simp [grouped]

namespace Encloses

theorem neg (found : Encloses .sign operand a b c place x) :
    Inside (neg operand) ('-' :: a) b c (.neg place) x where
  fill := congrArg Expr.neg found.fill
  print := found.print
  text k := congrArg ('-' :: ·) (found.text k)
  root _ := rfl
  slot _ := rfl
  respelled := by
    rcases found.respelled with ⟨p, counts, respelled⟩
    exact ⟨_, _, respelled.negated⟩

theorem withUnit (found : Encloses .measured operand a b c place x) (u : AngleUnit) :
    Inside (withUnit operand u) a b (c ++ ' ' :: u.name) (.withUnit place u) x where
  fill := congrArg (Expr.withUnit · u) found.fill
  print := found.print
  text k := by
    change Slot.measured.text (place.fill (constant k)) ++ ' ' :: u.name = _
    rw [found.text]
    simp only [List.append_assoc]
  root _ := rfl
  slot _ := rfl
  respelled := by
    rcases found.respelled with ⟨p, counts, respelled⟩
    have measured := respelled.measured u
    rw [List.append_assoc, List.append_assoc] at measured
    exact ⟨_, _, measured⟩

theorem leftOperand (found : Encloses (.left op) left a b c place x) (readable : Readable right) :
    Inside (binary left op right) a b (c ++ (op.symbol ++ (Slot.right op).text right))
      (.leftOperand place op right) x where
  fill := congrArg (binary · op right) found.fill
  print := found.print
  text k := by
    change (Slot.left op).text (place.fill (constant k)) ++ op.symbol ++ (Slot.right op).text right = _
    rw [found.text]
    simp only [List.append_assoc]
  root _ := rfl
  slot _ := rfl
  respelled := by
    rcases found.respelled with ⟨p, counts, respelled⟩
    rcases Respelled.print (.right op) readable (Slot.bare_of_ne (by simp)) with ⟨more, printed⟩
    have both := (respelled.operation printed).congr (iff_of_eq (and_true _))
    simp only [List.append_assoc] at both
    exact ⟨_, _, both⟩

theorem rightOperand (found : Encloses (.right op) right a b c place x) (readable : Readable left) :
    Inside (binary left op right) ((Slot.left op).text left ++ op.symbol ++ a) b c
      (.rightOperand left op place) x where
  fill := congrArg (binary left op ·) found.fill
  print := found.print
  text k := by
    change (Slot.left op).text left ++ op.symbol ++ (Slot.right op).text (place.fill (constant k)) = _
    rw [found.text]
    simp only [List.append_assoc]
  root _ := rfl
  slot _ := rfl
  respelled := by
    rcases found.respelled with ⟨p, counts, respelled⟩
    rcases Respelled.print (.left op) readable (Slot.bare_of_ne (by simp)) with ⟨more, printed⟩
    have both := (printed.operation respelled).congr (iff_of_eq (true_and _))
    rw [← List.append_assoc] at both
    exact ⟨_, _, both⟩

end Encloses

/-- The pair of parentheses in an argument list is around `x` at the place in the argument behind
`before`. -/
structure InArguments (args : List Expr) (a b c : Text) (before after : List Expr) (place : Context)
    (x : Expr) : Prop where
  fill : before ++ place.fill x :: after = args
  print : x.print = b
  text : ∀ k, printArguments (before ++ place.fill (.constant k) :: after) = a ++ (k.name ++ c)
  respelled : ∃ ps counts, RespelledArguments args (phrases args)
    ((place.slot .whole).NegativeExponent x) (a ++ (b ++ c)) ps counts

namespace InArguments

variable {args before after : List Expr}

theorem singleton (found : Encloses .whole e a b c place x) :
    InArguments [e] a b c [] [] place x where
  fill := congrArg (fun tree => [tree]) found.fill
  print := found.print
  text := found.text
  respelled := by
    rcases found.respelled with ⟨p, counts, respelled⟩
    exact ⟨_, _, .singleton respelled⟩

theorem head (found : Encloses .whole e a b c place x) (nonempty : args ≠ [])
    (each : ∀ e ∈ args, Readable e) :
    InArguments (e :: args) a b (c ++ (", ".toList ++ printArguments args)) [] args place x where
  fill := congrArg (· :: args) found.fill
  print := found.print
  text k := by
    have text : (place.fill (.constant k)).print = a ++ (k.name ++ c) := found.text k
    rw [List.nil_append, printArguments_cons nonempty, text]
    simp only [List.append_assoc]
  respelled := by
    rcases found.respelled with ⟨p, counts, respelled⟩
    rcases RespelledArguments.print nonempty each with ⟨ps, more, listed⟩
    have both := (RespelledArguments.cons respelled listed).congr (iff_of_eq (and_true _))
    simp only [List.append_assoc] at both
    exact ⟨_, _, both⟩

theorem tail (found : InArguments args a b c before after place x) (readable : Readable e) :
    InArguments (e :: args) (e.print ++ ", ".toList ++ a) b c (e :: before) after place x where
  fill := congrArg (e :: ·) found.fill
  print := found.print
  text k := by
    rw [List.cons_append, printArguments_cons (by simp), found.text, List.append_assoc _ a]
  respelled := by
    rcases found.respelled with ⟨ps, more, respelled⟩
    rcases Respelled.print .whole readable (Slot.bare_of_ne (by simp)) with ⟨counts, first⟩
    have both := (RespelledArguments.cons first respelled).congr (iff_of_eq (true_and _))
    rw [← List.append_assoc] at both
    exact ⟨_, _, both⟩

theorem call {f : Func} (found : InArguments args a b c before after place x)
    (accepted : f.accepts args.length = true) :
    Inside (.call f args) (f.name ++ '(' :: a) b (c ++ [')']) (.argument f before place after) x where
  fill := congrArg (Expr.call f) found.fill
  print := found.print
  text k := by
    change f.name ++ '(' :: printArguments (before ++ place.fill (.constant k) :: after) ++ [')'] = _
    rw [found.text]
    simp only [List.append_assoc, List.cons_append]
  root _ := rfl
  slot _ := rfl
  respelled := by
    rcases found.respelled with ⟨ps, counts, respelled⟩
    have whole := respelled.call accepted
    simp only [List.append_assoc, List.cons_append] at whole ⊢
    exact ⟨_, _, whole⟩

end InArguments

/-- A pair of parentheses in an argument list is in one of the arguments. -/
theorem exists_inArguments {args : List Expr} (each : ∀ e ∈ args, Readable e) (inner : Paired b)
    (grouping : Grouping a) (printed : printArguments args = a ++ '(' :: (b ++ ')' :: c))
    (inside : ∀ e ∈ args, ∀ {a c}, Grouping a → e.print = a ++ '(' :: (b ++ ')' :: c) →
      ∃ place x, Inside e a b c place x) :
    ∃ before after place x, InArguments args a b c before after place x := by
  induction args generalizing a with
  | nil => simp [printArguments] at printed
  | cons e args ih =>
      rcases List.forall_mem_cons.mp each with ⟨readable, later⟩
      rcases List.forall_mem_cons.mp inside with ⟨first, others⟩
      have bare : Slot.whole.Bare e := Slot.bare_of_ne (by simp)
      cases args with
      | nil =>
          rcases exists_encloses .whole readable bare inner grouping printed first with
            ⟨place, x, found⟩
          exact ⟨[], [], place, x, .singleton found⟩
      | cons f args =>
          have nonempty : f :: args ≠ [] := List.cons_ne_nil f args
          rw [printArguments_cons nonempty, List.append_assoc] at printed
          have paired := paired_print readable.well
          rcases paired.cut inner printed with ⟨gap, rfl, rest⟩ | ⟨back, rfl, text⟩
          · rcases Paired.cut_plain (x := ", ".toList) (by decide) inner rest with ⟨gap, rfl, listed⟩
            rw [← List.append_assoc] at grouping ⊢
            rcases ih later grouping.of_append listed others with ⟨before, after, place, x, found⟩
            exact ⟨e :: before, after, place, x, found.tail readable⟩
          · rcases exists_encloses .whole readable bare inner grouping text first with
              ⟨place, x, found⟩
            exact ⟨[], f :: args, place, x, .head found nonempty later⟩

/-- A pair of parentheses in the text of a tree, other than one around arguments, is around an
operand. The induction is over the tree: the pair is in the text of one operand of the root. -/
theorem exists_inside (readable : Readable e) (inner : Paired b) (grouping : Grouping a)
    (printed : e.print = a ++ '(' :: (b ++ ')' :: c)) :
    ∃ place x, Inside e a b c place x := by
  induction e generalizing a c with
  | number x =>
      rcases every_number.mp readable.well with ⟨finite, positive⟩
      exact absurd printed (Paired.not_plain (number_plain finite positive))
  | constant k => exact absurd printed (Paired.not_plain (constant_plain k))
  | reference f => exact absurd printed (Paired.not_plain (func_plain f))
  | call f args ih =>
      have ⟨accepted, each⟩ := every_call.mp readable.well
      rw [print, List.append_assoc] at printed
      rcases Paired.cut_plain (func_plain f) inner printed with ⟨gap, rfl, rest⟩
      cases gap with
      | nil => exact absurd (by simp) (grouping f)
      | cons opening gap =>
          rcases List.cons.inj rest with ⟨rfl, opened⟩
          have paired := paired_printArguments fun e mem => paired_print (each e mem)
          rcases paired.cut_front (y := [')']) (by decide) inner opened with ⟨back, rfl, listed⟩
          have deeper : Grouping gap :=
            Grouping.of_append (t := f.name ++ ['(']) (by simpa using grouping)
          rcases exists_inArguments readable.arguments inner deeper listed
            (fun e mem => ih e mem (readable.arguments e mem)) with ⟨before, after, place, x, found⟩
          exact ⟨.argument f before place after, x, found.call accepted⟩
  | neg operand ih =>
      rcases Paired.cut_plain (x := ['-']) (by decide) inner printed with ⟨gap, rfl, rest⟩
      have bare : Slot.sign.Bare operand := Slot.bare_of_ne (by simp)
      rcases exists_encloses .sign readable.signed bare inner grouping.of_append rest
        (ih readable.signed) with ⟨place, x, found⟩
      exact ⟨.neg place, x, found.neg⟩
  | binary left op right leftIh rightIh =>
      have paired : Paired ((Slot.left op).text left) :=
        paired_grouped _ (paired_print readable.left.well)
      rw [print, List.append_assoc] at printed
      rcases paired.cut inner printed with ⟨gap, rfl, rest⟩ | ⟨back, rfl, text⟩
      · rcases Paired.cut_plain (symbol_plain op) inner rest with ⟨gap, rfl, text⟩
        rw [← List.append_assoc] at grouping ⊢
        have bare : (Slot.right op).Bare right := Slot.bare_of_ne (by simp)
        rcases exists_encloses (.right op) readable.right bare inner grouping.of_append text
          (rightIh readable.right) with ⟨place, x, found⟩
        exact ⟨.rightOperand left op place, x, found.rightOperand readable.left⟩
      · have bare : (Slot.left op).Bare left := Slot.bare_of_ne (by simp)
        rcases exists_encloses (.left op) readable.left bare inner grouping text
          (leftIh readable.left) with ⟨place, x, found⟩
        exact ⟨.leftOperand place op right, x, found.leftOperand readable.right⟩
  | withUnit operand u ih =>
      have paired : Paired (Slot.measured.text operand) :=
        paired_grouped _ (paired_print readable.measured.well)
      rcases paired.cut_front (fun mem => absurd rfl (unit_plain u '(' mem).1) inner printed with
        ⟨back, rfl, text⟩
      have bare : Slot.measured.Bare operand := fun _ => bare_of_not_stacksUnits readable.single
      rcases exists_encloses .measured readable.measured bare inner grouping text
        (ih readable.measured) with ⟨place, x, found⟩
      exact ⟨.withUnit place u, x, found.withUnit u⟩

/-! ## Parentheses that can be left out -/

/-- In the text of a tree in which no unit follows a unit, every pair of parentheses is around an
operand, those around arguments apart: with a constant at the place of the operand, the text has the
constant instead of the pair. Without the pair the text is never read as the tree, except around a
negative exponent. There it is read as the tree whenever the printed text is. -/
theorem ofStrict_without_parentheses (well : e.WellFormed) (single : ¬ e.StacksUnits)
    (inner : Paired b) (grouping : Grouping a) (printed : e.print = a ++ '(' :: (b ++ ')' :: c)) :
    ∃ place : Context, ∃ x, place.fill x = e ∧ x.print = b ∧
      (∀ k, (place.fill (.constant k)).print = a ++ (k.name ++ c)) ∧
        (ofStrict (a ++ (b ++ c)) = .ok e → (place.slot .whole).NegativeExponent x) ∧
          ((place.slot .whole).NegativeExponent x → ofStrict e.print = .ok e →
            ofStrict (a ++ (b ++ c)) = .ok e) := by
  rcases exists_inside ⟨well, single⟩ inner grouping printed with ⟨place, x, found⟩
  rcases found.respelled with ⟨p, counts, respelled⟩
  refine ⟨place, x, found.fill, found.print, found.text, ?_, ?_⟩
  · intro same
    rcases ofStrict_eq_ok_iff.mp same with ⟨tokens, lexed, parsed⟩
    rcases derives_of_parse parsed with ⟨q, derived, _, rfl, rfl⟩
    rcases derived.meets with ⟨more, opens, covers⟩
    rw [← Except.ok.inj (respelled.read.symm.trans lexed)] at opens
    obtain rfl := respelled.opens.unique opens
    have own : needed q.tree.category q.tree = 0 := needed_of_le (Nat.le_refl _)
    rw [needed_sum] at covers
    exact respelled.keeps (own.symm ▸ covers)
  · intro negative accepted
    rw [ofStrict_print well single] at accepted
    split at accepted
    · rename_i fits
      have derived := (respelled.derived negative).loosen (level_sum_le _)
      have shallow := Nat.le_trans respelled.shallow fits.1
      rw [ofStrict_of_derives respelled.read derived, respelled.tree, if_pos ⟨shallow, fits.2⟩]
    · contradiction

/-- The theorem applies to the pair around a sum that is a factor. -/
theorem ofStrict_without_parentheses_sum :
    let tree := binary (binary (constant .pi) .add (constant .e)) .mul (constant .e)
    let inside := "pi + e".toList
    let behind := " * e".toList
    tree.WellFormed ∧ ¬ tree.StacksUnits ∧ Paired inside ∧ Grouping [] ∧
      tree.print = [] ++ '(' :: (inside ++ ')' :: behind) ∧
        ∃ place : Context, ∃ x, place.fill x = tree ∧ x.print = inside ∧
          (∀ k, (place.fill (.constant k)).print = [] ++ (k.name ++ behind)) ∧
            (ofStrict ([] ++ (inside ++ behind)) = .ok tree → (place.slot .whole).NegativeExponent x) ∧
              ((place.slot .whole).NegativeExponent x → ofStrict tree.print = .ok tree →
                ofStrict ([] ++ (inside ++ behind)) = .ok tree) := by
  intro tree inside behind
  have well : tree.WellFormed := by simp [tree, WellFormed, RootWellFormed]
  have single : ¬ tree.StacksUnits := by simp [tree, StacksUnits, nodes]
  have inner : Paired inside := .of_forall (by decide)
  have grouping : Grouping [] := by
    intro f ends
    cases f <;> exact absurd ends (by decide)
  have printed : tree.print = [] ++ '(' :: (inside ++ ')' :: behind) := rfl
  exact ⟨well, single, inner, grouping, printed,
    ofStrict_without_parentheses well single inner grouping printed⟩

/-- The pair around a negative exponent can be left out. -/
theorem ofStrict_exponent_without_parentheses :
    let tree := binary (constant .e) .pow (neg (constant .e))
    ¬ tree.StacksUnits ∧ Paired "-e".toList ∧ Grouping "e^".toList ∧
      tree.print = "e^".toList ++ '(' :: ("-e".toList ++ [')']) ∧
        ofStrict ("e^".toList ++ "-e".toList) = .ok tree := by
  intro tree
  have grouping : Grouping "e^".toList := by
    intro f ends
    cases f <;> exact absurd ends (by decide)
  refine ⟨(isCanonical_tower 1).not_stacksUnits, .of_forall (by decide), grouping, rfl, ?_⟩
  rcases exists_phrase_towerText 1 with ⟨p, lexed, derived, spelled, nesting⟩
  have read := ofStrict_of_derives lexed (derived.loosen (level_sum_le _))
  rwa [nesting, spelled, if_pos (by decide)] at read

end Reckoner.Expr
