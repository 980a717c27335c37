import Reckoner.Proofs.Expr.CanonicalText
import Reckoner.Proofs.Number.Exponent
import Reckoner.Proofs.Number.Sign

/-!
# Signed numbers

A number without a sign is read from its text as a number, and one with a sign as the negation of its
magnitude. Both denote the number that was written, in either layout and in every angle mode.
-/

namespace Reckoner

open Text

/-! ## The text of a magnitude -/

/-- The layout sets down magnitudes as tidy texts that are read as the token of the magnitude. -/
def Layout.ReadsBack (layout : Layout) : Prop :=
  ∀ x : Binary64, x.isFinite = true → x.isNegative = false →
    Settled (layout.write x) ∧ tokenize (layout.write x) = .ok [.number x]

theorem Layout.readsBack_plain : plain.ReadsBack :=
  fun _ finite positive => ⟨settled_numberText finite positive, tokenize_numberText finite positive⟩

theorem isQuiet_of_mem_decimalDigits {n : Nat} : ∀ c ∈ decimalDigits n, isQuiet c = true :=
  fun c mem => isQuiet_of_isDigit (Layout.isDigit_decimalDigits c mem)

theorem isQuiet_of_mem_integer {i : Int} : ∀ c ∈ Layout.integer i, isQuiet c = true := by
  unfold Layout.integer
  split
  · exact List.forall_mem_cons.mpr ⟨rfl, isQuiet_of_mem_decimalDigits⟩
  · exact isQuiet_of_mem_decimalDigits

/-- Digits with an exponent stand as one tidy word. -/
theorem Layout.settled_scientificText (s : Nat) (exponent : Int) :
    Settled (scientificText [] (decimalDigits s) exponent) := by
  have digits : ∀ c ∈ decimalDigits s, isQuiet c = true := isQuiet_of_mem_decimalDigits
  have fraction : ∀ c ∈ '.' :: (decimalDigits s).drop 1, isQuiet c = true :=
    List.forall_mem_cons.mpr ⟨rfl, fun c mem => digits c (List.mem_of_mem_drop mem)⟩
  have power : ∀ c ∈ 'e' :: integer exponent, isQuiet c = true :=
    List.forall_mem_cons.mpr ⟨rfl, isQuiet_of_mem_integer⟩
  apply Settled.word (by simp [scientificText])
  rw [scientificText, ite_self, List.append_assoc, List.singleton_append]
  refine List.forall_mem_append.mpr ⟨List.forall_mem_append.mpr ⟨?_, ?_⟩, power⟩
  · exact fun c mem => digits c (List.mem_of_mem_take mem)
  · split
    · exact List.forall_mem_nil _
    · exact fraction

theorem Layout.readsBack_scientific : scientific.ReadsBack := by
  intro x finite positive
  have inRange : x.rank < Binary64.infinityRank := of_decide_eq_true finite
  have defined : x.isUndefined = false := decide_eq_false (Nat.not_lt.mpr (Nat.le_of_lt inRange))
  generalize shortest : Decimal.shortest .away x.rank = d
  rcases d with ⟨s, e⟩
  have written : scientific.write x =
      Layout.scientificText [] (decimalDigits s) ((decimalDigits s).length + e - 1) := by
    simp [Layout.write, Layout.decimal, Layout.scientific, defined, finite, positive, shortest, Decimal.top]
  rcases Layout.exists_numeral_scientificText s e with ⟨n, single, digits, text, value⟩
  have same : n.decimal.rank = x.rank := by
    rw [value, ← shortest, Decimal.rank_shortest .away inRange]
  have meaning : (Lexeme.numeral n).read = .ok (some (.number x)) := by
    rw [Lexeme.read, Numeral.read_of_rank digits same inRange, Binary64.ofRank_rank positive]
  constructor
  · rw [written]
    exact Layout.settled_scientificText s _
  · rw [written, text]
    exact tokenize_of_lexeme single meaning

namespace Expr

open Grammar

/-- The tree that the text of a number is read as. -/
def literal (x : Binary64) : Expr :=
  if x.isNegative then neg (number (-x)) else number x

theorem value_literal (library : Elementary) (x : Binary64) :
    (literal x).value library = .ok (.real x) := by
  unfold literal
  split
  · have value : (neg (number (-x))).value library = .ok (.real (- -x)) := rfl
    rw [value, Binary64.neg_neg_self]
  · rfl

theorem canonical_literal (mode : AngleMode) (x : Binary64) :
    canonical mode (literal x) = literal x := by
  unfold literal
  split <;> rfl

theorem wellFormed_literal {x : Binary64} (finite : x.isFinite = true) :
    (literal x).WellFormed := by
  unfold literal
  split
  · rename_i negative
    have magnitude : (-x).isFinite = true ∧ (-x).isNegative = false := by simp [finite, negative]
    exact every_neg.mpr ⟨trivial, every_number.mpr magnitude⟩
  · rename_i positive
    exact every_number.mpr ⟨finite, Bool.eq_false_iff.mpr positive⟩

theorem isCanonical_literal (x : Binary64) : (literal x).IsCanonical := by
  have fixed := isCanonical_canonical .rad (literal x)
  rwa [canonical_literal] at fixed

/-- The phrase of a signed number is nested and built no deeper than a sign. -/
theorem phrase_literal_le (x : Binary64) :
    (literal x).phrase.nesting ≤ maxDepth ∧ (literal x).height ≤ maxDepth := by
  unfold literal
  split
  · exact ⟨(by decide : 1 ≤ 256), (by decide : 2 ≤ 256)⟩
  · exact ⟨(by decide : 0 ≤ 256), (by decide : 1 ≤ 256)⟩

variable {layout : Layout} {x : Binary64}

/-- The text of a number is tidy and has the tokens of its tree. -/
theorem tokenize_write (reads : layout.ReadsBack) (finite : x.isFinite = true) :
    Settled (layout.write x) ∧ tokenize (layout.write x) = .ok (literal x).phrase.tokens := by
  unfold literal
  split
  · rename_i negative
    have ⟨settled, lexed⟩ := reads (-x) (by simp [finite]) (by simp [negative])
    rw [layout.write_of_isNegative finite negative]
    exact ⟨(settled_mark (c := '-') rfl).append settled, tokenize_cons_mark rfl lexed⟩
  · rename_i positive
    exact reads x finite (Bool.eq_false_iff.mpr positive)

/-- A number is read back from its text, in every angle mode. -/
theorem ofText_write (reads : layout.ReadsBack) (finite : x.isFinite = true) (mode : AngleMode) :
    ofText mode (layout.write x) = .ok (literal x) := by
  have ⟨settled, lexed⟩ := tokenize_write reads finite
  have derived := derives_phrase (wellFormed_literal finite) (isCanonical_literal x).not_stacksUnits
  have read := ofStrict_of_derives lexed (derived.loosen (level_sum_le _))
  rw [tree_phrase, if_pos (phrase_literal_le x)] at read
  refine ofText_eq_ok_iff.mpr ⟨?_, literal x, ?_, canonical_literal mode x⟩
  · rw [settled.tidy_eq_self]
    exact settled.ne_nil
  · rw [settled.tidy_eq_self]
    exact read

end Expr

end Reckoner
