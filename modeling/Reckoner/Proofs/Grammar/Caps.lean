import Reckoner.Proofs.Grammar

/-!
# The caps on phrases

A phrase fits when it is not nested too deeply and its tree is not too tall. A phrase that is made of
others fits exactly when they fit and its own tree is not too tall, with one level of nesting less for
them where the phrase encloses them.
-/

namespace Reckoner.Grammar

open Reckoner.Expr

theorem height_le_maxHeight {e : Expr} {es : List Expr} (mem : e ∈ es) :
    e.height ≤ maxHeight es := by
  induction es with
  | nil => contradiction
  | cons first rest ih =>
      rw [maxHeight]
      rcases List.mem_cons.mp mem with rfl | later
      · exact Nat.le_max_left _ _
      · exact Nat.le_trans (ih later) (Nat.le_max_right _ _)

theorem maxHeight_le {es : List Expr} {n : Nat} (each : ∀ e ∈ es, e.height ≤ n) :
    maxHeight es ≤ n := by
  induction es with
  | nil => exact Nat.zero_le n
  | cons e es ih =>
      have ⟨first, others⟩ := List.forall_mem_cons.mp each
      exact Nat.max_le.mpr ⟨first, ih others⟩

theorem height_lt_binary (left right : Expr) (op : Operator) :
    left.height < (binary left op right).height ∧ right.height < (binary left op right).height := by
  rw [height]
  omega

namespace Phrase

/-- The phrase is nested less deeply than `limit`, and its tree is not too tall. -/
def Fits (p : Phrase) (limit : Nat) : Prop :=
  p.nesting < limit ∧ p.tree.height ≤ maxDepth

instance (p : Phrase) (limit : Nat) : Decidable (p.Fits limit) :=
  inferInstanceAs (Decidable (_ ∧ _))

/-- What a reader goes on with after a phrase, unless the phrase does not fit. -/
def within {α : Type} (p : Phrase) (limit : Nat) (next : Except SyntaxError α) :
    Except SyntaxError α :=
  if p.Fits limit then next else .error .tooDeep

variable {p q : Phrase} {limit : Nat}

theorem within_of_fits {α : Type} {next : Except SyntaxError α} (fits : p.Fits limit) :
    p.within limit next = next :=
  if_pos fits

theorem within_of_not_fits {α : Type} {next : Except SyntaxError α} (tall : ¬ p.Fits limit) :
    p.within limit next = .error .tooDeep :=
  if_neg tall

theorem fits_grouped_iff : p.grouped.Fits (limit + 1) ↔ p.Fits limit :=
  and_congr_left' Nat.succ_lt_succ_iff

theorem fits_affirmed_iff : p.affirmed.Fits (limit + 1) ↔ p.Fits limit :=
  and_congr_left' Nat.succ_lt_succ_iff

theorem fits_negated_iff :
    p.negated.Fits (limit + 1) ↔ p.Fits limit ∧ p.negated.tree.height ≤ maxDepth := by
  have lower : p.tree.height < p.negated.tree.height := Nat.lt_add_of_pos_left Nat.one_pos
  constructor
  · rintro ⟨shallow, low⟩
    exact ⟨⟨Nat.lt_of_succ_lt_succ shallow, Nat.le_trans (Nat.le_of_lt lower) low⟩, low⟩
  · rintro ⟨fits, low⟩
    exact ⟨Nat.succ_lt_succ fits.1, low⟩

theorem fits_measured_iff {u : AngleUnit} :
    (p.measured u).Fits limit ↔ p.Fits limit ∧ (p.measured u).tree.height ≤ maxDepth := by
  have lower : p.tree.height < (p.measured u).tree.height := Nat.lt_add_of_pos_left Nat.one_pos
  constructor
  · rintro ⟨shallow, low⟩
    exact ⟨⟨shallow, Nat.le_trans (Nat.le_of_lt lower) low⟩, low⟩
  · rintro ⟨fits, low⟩
    exact ⟨fits.1, low⟩

theorem fits_raised_iff :
    (p.raised q).Fits (limit + 1) ↔
      p.Fits (limit + 1) ∧ q.Fits limit ∧ (p.raised q).tree.height ≤ maxDepth := by
  have lower : p.tree.height < (p.raised q).tree.height ∧ q.tree.height < (p.raised q).tree.height :=
    height_lt_binary p.tree q.tree .pow
  constructor
  · rintro ⟨shallow, low⟩
    have ⟨base, exponent⟩ := Nat.max_lt.mp shallow
    exact ⟨⟨base, Nat.le_trans (Nat.le_of_lt lower.1) low⟩,
      ⟨Nat.lt_of_succ_lt_succ exponent, Nat.le_trans (Nat.le_of_lt lower.2) low⟩, low⟩
  · rintro ⟨base, exponent, low⟩
    exact ⟨Nat.max_lt.mpr ⟨base.1, Nat.succ_lt_succ exponent.1⟩, low⟩

theorem fits_joined_iff {mark : List Token} {op : Operator} :
    (p.joined mark op q).Fits limit ↔
      p.Fits limit ∧ q.Fits limit ∧ (p.joined mark op q).tree.height ≤ maxDepth := by
  have lower : p.tree.height < (p.joined mark op q).tree.height ∧
      q.tree.height < (p.joined mark op q).tree.height := height_lt_binary p.tree q.tree op
  constructor
  · rintro ⟨shallow, low⟩
    have ⟨first, second⟩ := Nat.max_lt.mp shallow
    exact ⟨⟨first, Nat.le_trans (Nat.le_of_lt lower.1) low⟩,
      ⟨second, Nat.le_trans (Nat.le_of_lt lower.2) low⟩, low⟩
  · rintro ⟨first, second, low⟩
    exact ⟨Nat.max_lt.mpr ⟨first.1, second.1⟩, low⟩

theorem maxNesting_lt_iff {args : List Phrase} (nonempty : args ≠ []) :
    maxNesting args < limit ↔ ∀ a ∈ args, a.nesting < limit := by
  induction args with
  | nil => contradiction
  | cons p ps ih =>
      cases ps with
      | nil => simp [maxNesting]
      | cons q qs =>
          have rest := ih (List.cons_ne_nil q qs)
          rw [maxNesting, Nat.max_lt, rest]
          simp only [List.forall_mem_cons]

theorem fits_call_iff {f : Func} {args : List Phrase} (nonempty : args ≠ []) :
    (call f args).Fits (limit + 1) ↔
      (∀ a ∈ args, a.Fits limit) ∧ (call f args).tree.height ≤ maxDepth := by
  have nesting : (call f args).nesting < limit + 1 ↔ ∀ a ∈ args, a.nesting < limit := by
    rw [← maxNesting_lt_iff nonempty]
    exact Nat.succ_lt_succ_iff
  constructor
  · rintro ⟨shallow, low⟩
    have each : ∀ a ∈ args, a.Fits limit := by
      intro a mem
      have below := height_le_maxHeight (List.mem_map_of_mem (f := tree) mem)
      have bound := low
      simp only [call, height] at bound
      constructor
      · exact nesting.mp shallow a mem
      · omega
    exact ⟨each, low⟩
  · rintro ⟨each, low⟩
    exact ⟨nesting.mpr fun a mem => (each a mem).1, low⟩

theorem within_bind {α β : Type} (next : Except SyntaxError α) (after : α → Except SyntaxError β) :
    (p.within limit next).bind after = p.within limit (next.bind after) := by
  by_cases fits : p.Fits limit
  · rw [within_of_fits fits, within_of_fits fits]
  · rw [within_of_not_fits fits, within_of_not_fits fits]
    rfl

theorem within_within {α : Type} {bound : Nat} (next : Except SyntaxError α) :
    p.within limit (q.within bound next) =
      if p.Fits limit ∧ q.Fits bound then next else .error .tooDeep := by
  unfold within
  by_cases fits : p.Fits limit
  · simp [fits]
  · simp [fits]

/-- A node that is built on parts which fit, when that makes the whole fit. -/
theorem ite_built {α : Type} {fits : Prop} [Decidable fits] {whole : Phrase} {rest : List Token}
    (next : Expr × List Token → Except SyntaxError α)
    (same : whole.Fits limit ↔ fits ∧ whole.tree.height ≤ maxDepth) :
    (if fits then (built whole.tree rest).bind next else .error .tooDeep) =
      whole.within limit (next (whole.tree, rest)) := by
  unfold within built
  by_cases parts : fits
  · by_cases low : whole.tree.height ≤ maxDepth
    · rw [if_pos parts, if_pos low, if_pos (same.mpr ⟨parts, low⟩)]
      rfl
    · rw [if_pos parts, if_neg low, if_neg fun all => low (same.mp all).2]
      rfl
  · rw [if_neg parts, if_neg fun all => parts (same.mp all).1]

theorem ite_built_ok {fits : Prop} [Decidable fits] {whole : Phrase} {rest : List Token}
    (same : whole.Fits limit ↔ fits ∧ whole.tree.height ≤ maxDepth) :
    (if fits then built whole.tree rest else .error .tooDeep) =
      whole.within limit (.ok (whole.tree, rest)) := by
  have bind_ok : (built whole.tree rest).bind .ok = built whole.tree rest := by
    cases built whole.tree rest <;> rfl
  rw [← ite_built .ok same, bind_ok]

end Phrase

end Reckoner.Grammar
