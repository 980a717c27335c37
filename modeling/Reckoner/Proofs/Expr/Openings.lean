import Mathlib.Data.List.Forall2
import Reckoner.Proofs.Expr.RoundTrip

/-!
# Parentheses that a tree needs

The parentheses that open in front of an operand are counted at the first token of the operand that
every phrase of the tree has: a number, a constant, a function's name or a minus sign. Other tokens
may be left out of a phrase or put into it without changing its tree. An operand that binds too
loosely for its place needs a parenthesis, and every phrase of a tree has as many at each token as
its operands need there.
-/

namespace Reckoner

open Grammar
open Reckoner.Expr

/-- No phrase of a tree can leave the token out or have another one of its kind. -/
def Token.isFixed : Token → Bool
  | number _ | constant _ | func _ | minus => true
  | _ => false

namespace Grammar

/-! ## Counting -/

/-- The number of parentheses that open between each fixed token and the one before it, if `pending`
are open already at the front. -/
def openings (pending : Nat) : List Token → List Nat
  | [] => []
  | .openParen :: rest => openings (pending + 1) rest
  | token :: rest => if token.isFixed then pending :: openings 0 rest else openings pending rest

/-- More parentheses in front of the first token. -/
def raised (extra : Nat) : List Nat → List Nat
  | [] => []
  | n :: counts => (n + extra) :: counts

@[simp]
theorem raised_zero (counts : List Nat) : raised 0 counts = counts := by
  cases counts <;> rfl

@[simp]
theorem length_raised (extra : Nat) (counts : List Nat) :
    (raised extra counts).length = counts.length := by
  cases counts <;> rfl

theorem raised_append {counts : List Nat} (nonempty : counts ≠ []) (extra : Nat) (more : List Nat) :
    raised extra (counts ++ more) = raised extra counts ++ more := by
  cases counts with
  | nil => contradiction
  | cons n counts => rfl

theorem raised_raised (extra other : Nat) (counts : List Nat) :
    raised extra (raised other counts) = raised (other + extra) counts := by
  cases counts with
  | nil => rfl
  | cons n counts => simp [raised, Nat.add_assoc]

theorem raised_ne_nil {counts : List Nat} (nonempty : counts ≠ []) (extra : Nat) :
    raised extra counts ≠ [] := by
  cases counts with
  | nil => contradiction
  | cons n counts => exact List.cons_ne_nil _ _

theorem openings_cons {token : Token} (notParen : token ≠ .openParen) (pending : Nat)
    (rest : List Token) :
    openings pending (token :: rest) =
      if token.isFixed then pending :: openings 0 rest else openings pending rest := by
  cases token <;> first | rfl | contradiction

/-- These are the counts for the tokens, whatever stands around them. -/
structure Opens (tokens : List Token) (counts : List Nat) : Prop where
  nonempty : counts ≠ []
  count : ∀ pending rest,
    openings pending (tokens ++ rest) = raised pending counts ++ openings 0 rest

namespace Opens

variable {tokens others : List Token} {counts more : List Nat} {token : Token}

theorem unique (first : Opens tokens counts) (second : Opens tokens more) : counts = more := by
  have same := (first.count 0 []).symm.trans (second.count 0 [])
  simpa [openings] using same

theorem tokens_ne_nil (opens : Opens tokens counts) : tokens ≠ [] := by
  rintro rfl
  have none := opens.count 0 []
  rw [raised_zero] at none
  exact opens.nonempty (List.append_eq_nil_iff.mp none.symm).1

theorem exists_cons (opens : Opens (token :: tokens) counts) (isFixed : token.isFixed = true) :
    ∃ more, counts = 0 :: more := by
  have notParen : token ≠ .openParen := by
    rintro rfl
    contradiction
  have first := opens.count 0 []
  rw [List.cons_append, openings_cons notParen, isFixed, if_pos rfl, raised_zero, openings,
    List.append_nil, List.append_nil] at first
  exact ⟨_, first.symm⟩

theorem fixed (isFixed : token.isFixed = true) : Opens [token] [0] where
  nonempty := List.cons_ne_nil _ _
  count pending rest := by
    have notParen : token ≠ .openParen := by
      rintro rfl
      contradiction
    simp [openings_cons notParen, isFixed, raised]

theorem append (first : Opens tokens counts) (second : Opens others more) :
    Opens (tokens ++ others) (counts ++ more) where
  nonempty := List.append_ne_nil_of_left_ne_nil first.nonempty _
  count pending rest := by
    rw [List.append_assoc, first.count, second.count, raised_zero, raised_append first.nonempty,
      List.append_assoc]

/-- A token that is not fixed does not count, in front of a phrase or behind it. -/
theorem cons (opens : Opens tokens counts) (loose : token.isFixed = false)
    (notParen : token ≠ .openParen) : Opens (token :: tokens) counts where
  nonempty := opens.nonempty
  count pending rest := by
    rw [List.cons_append, openings_cons notParen, loose, if_neg Bool.false_ne_true, opens.count]

theorem concat (opens : Opens tokens counts) (loose : token.isFixed = false)
    (notParen : token ≠ .openParen) : Opens (tokens ++ [token]) counts where
  nonempty := opens.nonempty
  count pending rest := by
    rw [List.append_assoc, opens.count, List.singleton_append, openings_cons notParen, loose,
      if_neg Bool.false_ne_true]

theorem enclosed (opens : Opens tokens counts) :
    Opens (.openParen :: tokens ++ [.closeParen]) (raised 1 counts) where
  nonempty := raised_ne_nil opens.nonempty 1
  count pending rest := by
    have closed : Opens (tokens ++ [.closeParen]) counts := opens.concat rfl (by simp)
    rw [raised_raised, Nat.add_comm 1 pending]
    exact closed.count (pending + 1) rest

end Opens

/-! ## Comparing -/

/-- Everywhere there are at least as many parentheses. -/
def Covers (needed counts : List Nat) : Prop :=
  List.Forall₂ (· ≤ ·) needed counts

namespace Covers

variable {needed counts : List Nat} {extra other : Nat}

theorem refl (counts : List Nat) : Covers counts counts :=
  List.forall₂_refl counts

theorem trans {more : List Nat} (first : Covers needed counts) (second : Covers counts more) :
    Covers needed more := by
  induction first generalizing more with
  | nil => exact second
  | cons le _ ih =>
      cases second with
      | cons le' rest => exact .cons (Nat.le_trans le le') (ih rest)

theorem raised (covers : Covers needed counts) (le : extra ≤ other) :
    Covers (raised extra needed) (raised other counts) := by
  cases covers with
  | nil => exact .nil
  | cons first rest => exact .cons (Nat.add_le_add first le) rest

/-- What is raised less is covered without being raised. -/
theorem of_raised (covers : Covers (Grammar.raised extra needed) (Grammar.raised other counts))
    (le : other ≤ extra) : Covers needed counts := by
  cases needed with
  | nil =>
      cases counts with
      | nil => exact .nil
      | cons n counts => cases covers
  | cons m needed =>
      cases counts with
      | nil => cases covers
      | cons n counts =>
          cases covers with
          | cons first rest => exact .cons (by omega) rest

/-- Raising the first count leaves the others as they are. -/
theorem tail {m n : Nat}
    (covers : Covers (Grammar.raised extra (m :: needed)) (Grammar.raised other (n :: counts))) :
    Covers needed counts := by
  cases covers with
  | cons _ rest => exact rest

theorem append {after more : List Nat} (first : Covers needed counts) (second : Covers after more) :
    Covers (needed ++ after) (counts ++ more) :=
  List.rel_append first second

theorem split {before more : List Nat} (covers : Covers (needed ++ before) (counts ++ more))
    (same : counts.length = needed.length) : Covers needed counts ∧ Covers before more := by
  have front := List.forall₂_take_append _ _ _ covers
  have back := List.forall₂_drop_append _ _ _ covers
  rw [same, List.take_left] at front
  rw [same, List.drop_left] at back
  exact ⟨front, back⟩

end Covers

end Grammar

namespace Operator

/-- Of the marks of operators, only that of a difference is fixed. -/
def markCounts (op : Operator) : List Nat :=
  if op = .sub then [0] else []

end Operator

namespace Grammar

section Phrases

variable {p q : Phrase} {counts more : List Nat}

theorem opens_operation (first : Opens p.tokens counts) (second : Opens q.tokens more)
    (op : Operator) : Opens (operation op p q).tokens (counts ++ (op.markCounts ++ more)) := by
  rw [tokens_operation]
  apply first.append
  by_cases difference : op = .sub
  · subst difference
    exact (Opens.fixed rfl).append second
  · rw [Operator.markCounts, if_neg difference]
    have loose : op.token.isFixed = false ∧ op.token ≠ .openParen := by
      cases op <;> first | contradiction | exact ⟨rfl, by simp [Operator.token]⟩
    exact second.cons loose.1 loose.2

theorem opens_wrapped (wrap : Bool) (opens : Opens p.tokens counts) :
    Opens (wrapped wrap p).tokens (raised wrap.toNat counts) := by
  cases wrap with
  | false => exact (raised_zero counts).symm ▸ opens
  | true => exact opens.enclosed

end Phrases

end Grammar

namespace Expr

/-! ## What is needed -/

/-- The operand needs a parenthesis at a place of the category if it binds too loosely. -/
def needed (c : Category) (e : Expr) : Nat :=
  if c.level ≤ e.category.level then 0 else 1

mutual

/-- The parentheses that every phrase of the tree has, at each of its fixed tokens. -/
def required : Expr → List Nat
  | number _ | constant _ | reference _ => [0]
  | call _ args => 0 :: raised 1 (requiredOf args)
  | neg operand => 0 :: raised (needed .signed operand) (required operand)
  | binary left op right =>
    raised (needed op.leftCategory left) (required left) ++
      (op.markCounts ++ raised (needed op.rightCategory right) (required right))
  | withUnit operand _ => raised (needed .primary operand) (required operand)

/-- The parentheses that every list of phrases of the trees has. -/
def requiredOf : List Expr → List Nat
  | [] => []
  | e :: es => required e ++ requiredOf es

end

theorem required_ne_nil (e : Expr) : e.required ≠ [] := by
  induction e with
  | number | constant | reference | call | neg => exact List.cons_ne_nil _ _
  | binary left op right leftIh _ =>
      exact List.append_ne_nil_of_left_ne_nil (raised_ne_nil leftIh _) _
  | withUnit operand u ih => exact raised_ne_nil ih _

theorem needed_of_le {c : Category} {e : Expr} (le : c.level ≤ e.category.level) :
    needed c e = 0 :=
  if_pos le

theorem needed_sum (e : Expr) : needed .sum e = 0 :=
  needed_of_le (level_sum_le _)

theorem needed_mono {c d : Category} (looser : d.level ≤ c.level) (e : Expr) :
    needed d e ≤ needed c e := by
  unfold needed
  split
  · exact Nat.zero_le _
  · rename_i loose
    rw [if_neg fun tight => loose (Nat.le_trans looser tight)]

end Expr

namespace Grammar

/-- The phrase has all the parentheses that its tree needs at a place of the category. -/
def Meets (c : Category) (p : Phrase) : Prop :=
  ∃ counts, Opens p.tokens counts ∧ Covers (raised (needed c p.tree) (required p.tree)) counts

namespace Meets

variable {c d : Category} {p q : Phrase}

theorem loosen (meets : Meets c p) (looser : d.level ≤ c.level) : Meets d p := by
  rcases meets with ⟨counts, opens, covers⟩
  refine ⟨counts, opens, Covers.trans ?_ covers⟩
  exact (Covers.refl _).raised (needed_mono looser _)

/-- At the category of its tree, a phrase needs no parentheses around it. -/
theorem of_category {counts : List Nat} (opens : Opens p.tokens counts)
    (covers : Covers (required p.tree) counts) (loose : c.level ≤ p.tree.category.level) :
    Meets c p := by
  refine ⟨counts, opens, ?_⟩
  rwa [needed_of_le loose, raised_zero]

theorem grouped (meets : Meets .sum p) : Meets .primary p.grouped := by
  rcases meets with ⟨counts, opens, covers⟩
  rw [needed_sum, raised_zero] at covers
  have one : needed .primary p.tree ≤ 1 := by
    unfold needed
    split <;> omega
  exact ⟨_, opens.enclosed, covers.raised one⟩

theorem joined (op : Operator) {mark : List Token} (left : Meets op.leftCategory p)
    (right : Meets op.rightCategory q)
    (marked : ∀ counts, Opens q.tokens counts → Opens (mark ++ q.tokens) (op.markCounts ++ counts)) :
    Meets op.category (p.joined mark op q) := by
  rcases left with ⟨counts, opens, covers⟩
  rcases right with ⟨more, opens', covers'⟩
  refine of_category (opens.append (marked more opens')) ?_ (Nat.le_refl _)
  exact covers.append ((Covers.refl _).append covers')

end Meets

theorem meets_arguments {args : List Phrase} (nonempty : args ≠ [])
    (each : ∀ p ∈ args, Meets .sum p) :
    ∃ counts, Opens (Phrase.argumentTokens args) counts ∧
      Covers (requiredOf (args.map Phrase.tree)) counts := by
  induction args with
  | nil => contradiction
  | cons p args ih =>
      have ⟨first, others⟩ := List.forall_mem_cons.mp each
      rcases first with ⟨counts, opens, covers⟩
      rw [needed_sum, raised_zero] at covers
      cases args with
      | nil =>
          refine ⟨counts, opens, ?_⟩
          simpa [requiredOf] using covers
      | cons q args =>
          rcases ih (List.cons_ne_nil q args) others with ⟨more, opens', covers'⟩
          exact ⟨counts ++ more, opens.append (opens'.cons rfl (by simp)), covers.append covers'⟩

/-- Every derived phrase has the parentheses that its tree needs. -/
theorem Derives.meets {c : Category} {p : Phrase} (derived : Derives c p) : Meets c p := by
  induction derived with
  | number | constant | reference =>
      exact .of_category (Opens.fixed rfl) (Covers.refl _) (Nat.le_refl _)
  | @call f args accepted _ ih =>
      have nonempty : args ≠ [] := by
        rintro rfl
        cases f <;> contradiction
      rcases meets_arguments nonempty ih with ⟨counts, opens, covers⟩
      have name : Opens [.func f] [0] := .fixed rfl
      have whole : Opens (Phrase.call f args).tokens ([0] ++ Grammar.raised 1 counts) :=
        name.append opens.enclosed
      exact .of_category whole (.cons (Nat.le_refl 0) (covers.raised (Nat.le_refl 1)))
        (Nat.le_refl _)
  | group _ ih => exact ih.grouped
  | bare _ ih | base _ ih | unsigned _ ih | factor _ ih | term _ ih => exact ih.loosen (by decide)
  | measured u _ ih =>
      rcases ih with ⟨counts, opens, covers⟩
      exact .of_category (opens.concat rfl (by simp)) covers (Nat.le_refl _)
  | @raised base exponent _ _ first second =>
      have whole : Meets .power (base.joined [.caret] .pow exponent) :=
        first.joined .pow second fun _ opens => opens.cons rfl (by simp)
      exact whole
  | negated _ ih =>
      rcases ih with ⟨counts, opens, covers⟩
      have sign : Opens [.minus] [0] := .fixed rfl
      exact .of_category (sign.append opens) (.cons (Nat.le_refl 0) covers) (Nat.le_refl _)
  | affirmed _ ih =>
      rcases ih with ⟨counts, opens, covers⟩
      exact ⟨counts, opens.cons rfl (by simp), covers⟩
  | times _ _ first second =>
      exact first.joined .mul second fun _ opens => opens.cons rfl (by simp)
  | divided _ _ first second =>
      exact first.joined .div second fun _ opens => opens.cons rfl (by simp)
  | juxtaposed _ _ _ _ first second => exact first.joined .mul second fun _ opens => opens
  | plus _ _ first second =>
      exact first.joined .add second fun _ opens => opens.cons rfl (by simp)
  | minus _ _ first second =>
      exact first.joined .sub second fun _ opens => (Opens.fixed rfl).append opens

end Grammar

end Reckoner
