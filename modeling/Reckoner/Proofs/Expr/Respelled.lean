import Reckoner.Proofs.Expr.Slot

/-!
# Printed texts with fewer parentheses

A text that is printed with a pair of parentheses less has the tokens of a phrase of the tree still. If
the pair was not needed, the grammar derives the phrase. Otherwise there are too few parentheses at
some token for any phrase of the tree. Both pass from the text of an operand to that of the tree around
it.
-/

namespace Reckoner.Expr

open Grammar

variable {t u : Text} {e left right : Expr} {op : Operator} {c : Category}
variable {kept other : Prop} {p q printed behind : Phrase} {counts more : List Nat}

/-! ## Parentheses that are not there -/

theorem not_covers_raised {needed : List Nat} (nonempty : needed ≠ []) (counts : List Nat) :
    ¬ Covers (raised 1 needed) (0 :: counts) := by
  intro covers
  cases needed with
  | nil => contradiction
  | cons n needed =>
      cases covers with
      | cons le _ => exact absurd le (Nat.not_succ_le_zero n)

theorem not_covers_slot (slot : Slot) (side : slot ≠ .right .pow)
    (lacks : ¬ Covers (raised 1 e.required) counts) :
    ¬ Covers (raised 1 (raised (needed slot.category e) e.required))
      (raised (slot.wraps e).toNat counts) := by
  intro covers
  rw [raised_raised, Nat.add_comm, ← raised_raised] at covers
  exact lacks (covers.of_raised (Slot.wraps_le_needed side))

/-- The printed phrase of a tree has as many fixed tokens as every other. -/
theorem exists_opens_phrase (readable : Readable e) :
    ∃ counts, Opens e.phrase.tokens counts ∧ counts.length = e.required.length := by
  rcases readable.derives_phrase.meets with ⟨counts, opens, covers⟩
  have length := covers.length_eq
  rw [length_raised, tree_phrase] at length
  exact ⟨counts, opens, length.symm⟩

/-- There is no parenthesis in front of a printed tree beside those that its operands need. -/
theorem not_covers_print {counts : List Nat} (readable : Readable e)
    (opens : Opens e.phrase.tokens counts) : ¬ Covers (raised 1 e.required) counts := by
  induction e generalizing counts with
  | number | constant | reference | call | neg =>
      rcases opens.exists_cons rfl with ⟨more, rfl⟩
      exact not_covers_raised (required_ne_nil _) more
  | binary left op right leftIh rightIh =>
      rcases exists_opens_phrase readable.left with ⟨first, leftOpens, length⟩
      rcases exists_opens_phrase readable.right with ⟨second, rightOpens, _⟩
      have whole := opens_operation (opens_wrapped (wrapsLeft op left) leftOpens)
        (opens_wrapped (wrapsRight op right) rightOpens) op
      obtain rfl := opens.unique whole
      have lacks := not_covers_slot (.left op) (by simp) (leftIh readable.left leftOpens)
      intro covers
      rw [required, raised_append (raised_ne_nil (required_ne_nil left) _)] at covers
      exact lacks (covers.split (by simp only [length_raised, length])).1
  | withUnit operand u ih =>
      rcases exists_opens_phrase readable.measured with ⟨first, inner, _⟩
      have whole : Opens (withUnit operand u).phrase.tokens _ :=
        (opens_wrapped (operand.precedence < 5) inner).concat rfl (by simp)
      obtain rfl := opens.unique whole
      exact not_covers_slot .measured (by simp) (ih readable.measured inner)

/-! ## Texts that differ from the printed one in parentheses -/

/-- The text has the tokens of a phrase of the tree, which is nested no deeper than the printed one.
The grammar derives the phrase from the category if the tree is kept, and otherwise it lacks
parentheses that every phrase of the tree has there. -/
structure Respelled (c : Category) (e : Expr) (printed : Phrase) (kept : Prop) (t : Text)
    (p : Phrase) (counts : List Nat) : Prop where
  tree : p.tree = e
  read : tokenize t = .ok p.tokens
  shallow : p.nesting ≤ printed.nesting
  opens : Opens p.tokens counts
  length : counts.length = e.required.length
  derived : kept → Derives c p
  keeps : Covers (raised (needed c e) e.required) counts → kept

theorem nesting_operation_mono {left left' right right' : Phrase} (op : Operator)
    (first : left.nesting ≤ left'.nesting) (second : right.nesting ≤ right'.nesting) :
    (operation op left right).nesting ≤ (operation op left' right').nesting := by
  cases op with
  | pow => exact max_le_max first (Nat.succ_le_succ second)
  | add | sub | mul | div => exact max_le_max first second

namespace Respelled

theorem congr (respelled : Respelled c e printed kept t p counts) (same : kept ↔ other) :
    Respelled c e printed other t p counts :=
  { respelled with
    derived := fun still => respelled.derived (same.mpr still)
    keeps := fun covers => same.mp (respelled.keeps covers) }

theorem negated (operand : Respelled .signed e printed kept t p counts) :
    Respelled .signed (neg e) printed.negated kept ('-' :: t) p.negated (0 :: counts) where
  tree := congrArg neg operand.tree
  read := tokenize_cons_mark rfl operand.read
  shallow := Nat.succ_le_succ operand.shallow
  opens := (Opens.fixed rfl).append operand.opens
  length := by rw [required, List.length_cons, List.length_cons, length_raised, operand.length]
  derived still := .negated (operand.derived still)
  keeps covers := by
    cases covers with
    | cons _ rest => exact operand.keeps rest

theorem operation (first : Respelled op.leftCategory left printed kept t p counts)
    (second : Respelled op.rightCategory right behind other u q more) :
    Respelled op.category (binary left op right) (Expr.operation op printed behind) (kept ∧ other)
      (t ++ op.symbol ++ u) (Expr.operation op p q) (counts ++ (op.markCounts ++ more)) where
  tree := by rw [tree_operation, first.tree, second.tree]
  read := by
    rw [tokens_operation]
    exact tokenize_symbol op first.read second.read
  shallow := nesting_operation_mono op first.shallow second.shallow
  opens := opens_operation first.opens second.opens op
  length := by
    simp only [required, List.length_append, length_raised, first.length, second.length]
  derived still := derives_operation (first.derived still.1) (second.derived still.2)
  keeps covers := by
    have own : needed op.category (binary left op right) = 0 := needed_of_le (Nat.le_refl _)
    rw [own, raised_zero, required] at covers
    rcases covers.split (by rw [length_raised, first.length]) with ⟨front, back⟩
    exact ⟨first.keeps front, second.keeps (back.split rfl).2⟩

theorem measured (operand : Respelled .primary e printed kept t p counts) (u : AngleUnit) :
    Respelled .measure (withUnit e u) (printed.measured u) kept (t ++ ' ' :: u.name) (p.measured u)
      counts where
  tree := congrArg (withUnit · u) operand.tree
  read := tokenize_append parts_space operand.read ((tokenize_cons_space _).trans (tokenize_unit u))
  shallow := operand.shallow
  opens := operand.opens.concat rfl (by simp)
  length := by rw [required, length_raised, operand.length]
  derived still := .measured u (operand.derived still)
  keeps covers := by
    have own : needed .measure (withUnit e u) = 0 := needed_of_le (Nat.le_refl _)
    rw [own, raised_zero, required] at covers
    exact operand.keeps covers

/-- A text of a tree in its slot, from one on its own. -/
theorem enclosed {slot : Slot} (inner : Respelled e.category e e.phrase kept t p counts)
    (bare : slot.Bare e) :
    Respelled slot.category e (slot.phrase e) kept (grouped (slot.wraps e) t)
      (wrapped (slot.wraps e) p) (raised (slot.wraps e).toNat counts) where
  tree := (tree_wrapped _ _).trans inner.tree
  read := tokenize_grouped _ inner.read
  shallow := by
    rw [Slot.phrase]
    cases slot.wraps e with
    | false => exact inner.shallow
    | true => exact Nat.succ_le_succ inner.shallow
  opens := opens_wrapped _ inner.opens
  length := by rw [length_raised, inner.length]
  derived still := derives_wrapped (inner.derived still) fun loose => Slot.level_le loose bare
  keeps covers := by
    have own : needed e.category e = 0 := needed_of_le (Nat.le_refl _)
    apply inner.keeps
    rw [own, raised_zero]
    exact Slot.covers_of_wrapped inner.length covers

/-- The grammar derives the printed text of an operand in its slot. -/
theorem print (slot : Slot) (readable : Readable e) (bare : slot.Bare e) :
    ∃ counts, Respelled slot.category e (slot.phrase e) True (slot.text e) (slot.phrase e) counts := by
  rcases exists_opens_phrase readable with ⟨counts, opens, length⟩
  have own : Respelled e.category e e.phrase True e.print e.phrase counts :=
    ⟨tree_phrase e, tokenize_print readable.well, Nat.le_refl _, opens, length,
      fun _ => readable.derives_phrase, fun _ => trivial⟩
  exact ⟨_, own.enclosed bare⟩

/-- Without its parentheses, the text of an operand in its slot. -/
theorem opened {slot : Slot} (readable : Readable e) (wraps : slot.wraps e = true) :
    ∃ counts, Respelled slot.category e (slot.phrase e) (slot.NegativeExponent e) e.print e.phrase
      counts := by
  rcases exists_opens_phrase readable with ⟨counts, opens, length⟩
  refine ⟨counts, tree_phrase e, tokenize_print readable.well, ?_, opens, length, ?_, ?_⟩
  · rw [Slot.phrase, wraps]
    exact Nat.le_succ _
  · intro negative
    exact readable.derives_phrase.loosen negative.level_le
  · intro covers
    rcases Slot.needed_eq_one_or wraps with one | negative
    · rw [one] at covers
      exact absurd covers (not_covers_print readable opens)
    · exact negative

end Respelled

/-- The same for an argument list. -/
structure RespelledArguments (args : List Expr) (printed : List Phrase) (kept : Prop) (t : Text)
    (ps : List Phrase) (counts : List Nat) : Prop where
  trees : ps.map Phrase.tree = args
  read : tokenize t = .ok (Phrase.argumentTokens ps)
  shallow : Phrase.maxNesting ps ≤ Phrase.maxNesting printed
  opens : Opens (Phrase.argumentTokens ps) counts
  length : counts.length = (requiredOf args).length
  derived : kept → ∀ p ∈ ps, Derives .sum p
  keeps : Covers (requiredOf args) counts → kept

namespace RespelledArguments

variable {args : List Expr} {ps listed : List Phrase}

theorem singleton (last : Respelled .sum e printed kept t p counts) :
    RespelledArguments [e] [printed] kept t [p] counts where
  trees := congrArg (fun tree => [tree]) last.tree
  read := last.read
  shallow := max_le_max last.shallow (Nat.le_refl 0)
  opens := last.opens
  length := by rw [requiredOf, requiredOf, List.append_nil, last.length]
  derived still := List.forall_mem_singleton.mpr (last.derived still)
  keeps covers := by
    rw [requiredOf, requiredOf, List.append_nil] at covers
    apply last.keeps
    rwa [needed_sum, raised_zero]

theorem cons (first : Respelled .sum e printed kept t p counts)
    (others : RespelledArguments args listed other u ps more) :
    RespelledArguments (e :: args) (printed :: listed) (kept ∧ other) (t ++ ", ".toList ++ u)
      (p :: ps) (counts ++ more) := by
  cases ps with
  | nil => exact absurd rfl others.opens.tokens_ne_nil
  | cons q ps =>
      constructor
      · rw [List.map_cons, first.tree, others.trees]
      · rw [List.append_assoc]
        refine tokenize_append parts_comma first.read (tokenize_cons_mark rfl ?_)
        exact (tokenize_cons_space u).trans others.read
      · exact max_le_max first.shallow others.shallow
      · exact first.opens.append (others.opens.cons rfl (by simp))
      · rw [requiredOf, List.length_append, List.length_append, first.length, others.length]
      · rintro ⟨still, rest⟩
        exact List.forall_mem_cons.mpr ⟨first.derived still, others.derived rest⟩
      · intro covers
        rcases covers.split first.length with ⟨front, back⟩
        refine ⟨first.keeps ?_, others.keeps back⟩
        rwa [needed_sum, raised_zero]

theorem call {f : Func} (accepted : f.accepts args.length = true)
    (inside : RespelledArguments args listed kept t ps counts) :
    Respelled .primary (.call f args) (.call f listed) kept (f.name ++ '(' :: t ++ [')'])
      (.call f ps) (0 :: raised 1 counts) where
  tree := congrArg (Expr.call f) inside.trees
  read := by
    rw [List.append_assoc]
    have opened : tokenize ('(' :: (t ++ [')'])) = _ :=
      tokenize_cons_mark rfl (tokenize_closed inside.read)
    have read := tokenize_append parts_openParen (tokenize_func f) opened
    exact read
  shallow := Nat.succ_le_succ inside.shallow
  opens := (Opens.fixed rfl).append inside.opens.enclosed
  length := by rw [required, List.length_cons, List.length_cons, length_raised, length_raised,
    inside.length]
  derived still := by
    apply Derives.call _ (inside.derived still)
    rwa [← inside.trees, List.length_map] at accepted
  keeps covers := by
    have own : needed .primary (.call f args) = 0 := needed_of_le (Nat.le_refl _)
    rw [own, raised_zero, required] at covers
    cases covers with
    | cons _ rest => exact inside.keeps (Covers.of_raised rest (Nat.le_refl 1))

theorem congr (respelled : RespelledArguments args listed kept t ps counts) (same : kept ↔ other) :
    RespelledArguments args listed other t ps counts :=
  { respelled with
    derived := fun still => respelled.derived (same.mpr still)
    keeps := fun covers => same.mp (respelled.keeps covers) }

theorem print {args : List Expr} (nonempty : args ≠ []) (each : ∀ e ∈ args, Readable e) :
    ∃ ps counts, RespelledArguments args (phrases args) True (printArguments args) ps counts := by
  induction args with
  | nil => contradiction
  | cons e args ih =>
      have ⟨readable, later⟩ := List.forall_mem_cons.mp each
      rcases Respelled.print .whole readable (Slot.bare_of_ne (by simp)) with ⟨counts, first⟩
      cases args with
      | nil => exact ⟨_, _, singleton first⟩
      | cons f args =>
          rcases ih (List.cons_ne_nil f args) later with ⟨ps, more, others⟩
          rw [printArguments_cons (List.cons_ne_nil f args)]
          exact ⟨_, _, (cons first others).congr and_self_iff⟩

end RespelledArguments

end Reckoner.Expr
