import Reckoner.Evaluation
import Reckoner.Proofs.Expr.Canonical
import Reckoner.Proofs.Expr.RoundTrip
import Reckoner.Proofs.Expr.Settled
import Reckoner.Proofs.Expr.WellFormed

/-!
# Canonical texts are read back

The text of a canonical tree is tidy, and reading it gives the tree or, when the parentheses of the
text are nested too deeply, the refusal of that. So a canonical text that is accepted is its own
canonical text and has the answer of the text that it comes from.
-/

namespace Reckoner

namespace Expr

open Grammar

/-- A text with the tokens of a derived phrase is only ever refused as nested too deeply. -/
theorem ofStrict_of_derives {t : Text} {p : Phrase} (lexed : tokenize t = .ok p.tokens)
    (derived : Derives .sum p) :
    ofStrict t =
      if p.nesting ≤ maxDepth ∧ p.tree.height ≤ maxDepth then .ok p.tree
      else .error (.parseFailure .tooDeep) := by
  have fits : p.Fits (maxDepth + 1) ↔ p.nesting ≤ maxDepth ∧ p.tree.height ≤ maxDepth := by
    rw [Phrase.Fits, Nat.lt_succ_iff]
  rw [ofStrict, lexed]
  dsimp only
  rw [parse_of_derives derived, Phrase.within]
  by_cases within : p.Fits (maxDepth + 1)
  · rw [if_pos within, if_pos (fits.mp within)]
    rfl
  · rw [if_neg within, if_neg fun both => within (fits.mpr both)]
    rfl

/-- Reading the text of a tree gives the tree, unless the text is nested too deeply. -/
theorem ofStrict_print {e : Expr} (well : e.WellFormed) (single : ¬ e.StacksUnits) :
    ofStrict e.print =
      if e.phrase.nesting ≤ maxDepth ∧ e.height ≤ maxDepth then .ok e
      else .error (.parseFailure .tooDeep) := by
  have derived := (derives_phrase well single).loosen (level_sum_le _)
  have read := ofStrict_of_derives (tokenize_print well) derived
  rwa [tree_phrase] at read

theorem ofText_eq_ok_iff {mode : AngleMode} {t : Text} {e : Expr} :
    ofText mode t = .ok e ↔
      Text.tidy t ≠ [] ∧ ∃ tree, ofStrict (Text.tidy t) = .ok tree ∧ canonical mode tree = e := by
  unfold ofText
  dsimp only
  by_cases empty : Text.tidy t = []
  · rw [if_pos empty]
    constructor
    · intro read
      contradiction
    · rintro ⟨nonempty, _⟩
      exact absurd empty nonempty
  · rw [if_neg empty]
    cases ofStrict (Text.tidy t) with
    | error e => simp [Except.map]
    | ok tree => simp [Except.map, empty]

/-- Trees that texts are read as, in canonical form, are well-formed and canonical. -/
theorem wellFormed_of_ofText {mode : AngleMode} {t : Text} {e : Expr}
    (read : ofText mode t = .ok e) : e.WellFormed ∧ e.IsCanonical := by
  rcases ofText_eq_ok_iff.mp read with ⟨_, tree, strict, rfl⟩
  exact ⟨(wellFormed_of_ofStrict strict).canonical mode, isCanonical_canonical mode tree⟩

/-- The text of a tree is tidy, so that it is read as it is. -/
theorem ofText_print (mode : AngleMode) {e : Expr} (well : e.WellFormed) :
    ofText mode e.print = (ofStrict e.print).map (canonical mode) := by
  have settled := settled_print well
  rw [ofText, settled.tidy_eq_self]
  exact if_neg settled.ne_nil

/-- A tree whose text is not nested too deeply is read back from it and brought into canonical form. -/
theorem ofText_print_of_fits (mode : AngleMode) {e : Expr} (well : e.WellFormed)
    (single : ¬ e.StacksUnits) (fits : e.phrase.nesting ≤ maxDepth ∧ e.height ≤ maxDepth) :
    ofText mode e.print = .ok (e.canonical mode) := by
  rw [ofText_print mode well, ofStrict_print well single, if_pos fits]
  rfl

/-- A canonical tree is read back from its text without a change, if its text is accepted. -/
theorem ofText_print_of_canonical {mode : AngleMode} {e result : Expr} (well : e.WellFormed)
    (reduced : e.IsCanonical) (radians : mode = .rad ∨ e.NotTrig)
    (read : ofText mode e.print = .ok result) : result = e := by
  rw [ofText_print mode well, ofStrict_print well reduced.not_stacksUnits] at read
  split at read
  · rw [Except.map, reduced.canonical_eq_self radians] at read
    exact (Except.ok.inj read).symm
  · contradiction

end Expr

theorem canonicalText_eq_ok_iff {mode : AngleMode} {t c : Text} :
    canonicalText mode t = .ok c ↔ ∃ e, Expr.ofText mode t = .ok e ∧ e.print = c := by
  unfold canonicalText
  cases Expr.ofText mode t with
  | error e => simp [Except.map]
  | ok e => simp [Except.map]

/-- A canonical text that is accepted in a mode is read as the tree that it is the text of, so that it
is canonical already and has the evaluation of the text that it comes from. -/
theorem canonicalText_print {mode again : AngleMode} {t result : Text} {e : Expr}
    (read : Expr.ofText mode t = .ok e) (radians : again = .rad ∨ e.NotTrig)
    (accepted : canonicalText again e.print = .ok result) :
    result = e.print ∧
      ∀ evaluator : Evaluator, evaluator.evaluate again e.print = evaluator.evaluate mode t := by
  rcases Expr.wellFormed_of_ofText read with ⟨well, reduced⟩
  rcases canonicalText_eq_ok_iff.mp accepted with ⟨tree, reread, rfl⟩
  obtain rfl := Expr.ofText_print_of_canonical well reduced radians reread
  constructor
  · rfl
  · intro evaluator
    rw [Evaluator.evaluate, Evaluator.evaluate, reread, read]

/-- The canonical text of a printed tree is the text of its canonical form. -/
theorem canonicalText_of_fits (mode : AngleMode) {e : Expr} (well : e.WellFormed)
    (single : ¬ e.StacksUnits) (fits : e.phrase.nesting ≤ maxDepth ∧ e.height ≤ maxDepth) :
    canonicalText mode e.print = .ok (e.canonical mode).print := by
  rw [canonicalText, Expr.ofText_print_of_fits mode well single fits]
  rfl

/-- A canonical text that is accepted in radian mode is its own canonical text, and it has the
evaluation of the text that it comes from. So it is in degree mode if that text calls no function of
an angle. -/
theorem canonicalText_again {mode : AngleMode} {t c : Text} (done : canonicalText mode t = .ok c) :
    (∀ result, canonicalText .rad c = .ok result →
      result = c ∧ ∀ evaluator : Evaluator, evaluator.evaluate .rad c = evaluator.evaluate mode t) ∧
    ((∀ tree, Expr.ofStrict (Text.tidy t) = .ok tree → tree.NotTrig) →
      ∀ result, canonicalText .deg c = .ok result →
        result = c ∧
          ∀ evaluator : Evaluator, evaluator.evaluate .deg c = evaluator.evaluate mode t) := by
  rcases canonicalText_eq_ok_iff.mp done with ⟨e, read, rfl⟩
  constructor
  · intro result accepted
    exact canonicalText_print read (Or.inl rfl) accepted
  · intro plain result accepted
    rcases Expr.ofText_eq_ok_iff.mp read with ⟨_, tree, strict, rfl⟩
    exact canonicalText_print read (Or.inr ((plain tree strict).canonical mode)) accepted

/-- The theorem applies to a logarithm without a base, which becomes the decimal logarithm. -/
theorem canonicalText_again_log :
    canonicalText .deg "log(e)".toList = .ok "log10(e)".toList ∧
      (∀ mode, canonicalText mode "log10(e)".toList = .ok "log10(e)".toList) ∧
        ∀ mode, ∀ evaluator : Evaluator,
          evaluator.evaluate mode "log10(e)".toList = evaluator.evaluate .deg "log(e)".toList := by
  have well : ∀ f : Func, (Expr.call f [.constant .e]).WellFormed := by
    intro f
    rw [Expr.WellFormed, Expr.every_call]
    constructor
    · cases f <;> rfl
    · simp [Expr.RootWellFormed]
  have single : ∀ f : Func, ¬ (Expr.call f [.constant .e]).StacksUnits := by
    intro f
    simp [Expr.StacksUnits, Expr.nodes, Expr.nodesOf]
  have first : canonicalText .deg "log(e)".toList = .ok "log10(e)".toList :=
    canonicalText_of_fits .deg (well .log) (single .log) (by decide)
  have second : ∀ mode, canonicalText mode "log10(e)".toList = .ok "log10(e)".toList := by
    intro mode
    cases mode with
    | rad => exact canonicalText_of_fits .rad (well .log10) (single .log10) (by decide)
    | deg => exact canonicalText_of_fits .deg (well .log10) (single .log10) (by decide)
  have plain : ∀ tree, Expr.ofStrict (Text.tidy "log(e)".toList) = .ok tree → tree.NotTrig := by
    intro tree strict
    have tidy : Text.tidy "log(e)".toList = (Expr.call .log [.constant .e]).print :=
      (Expr.settled_print (well .log)).tidy_eq_self
    rw [tidy, Expr.ofStrict_print (well .log) (single .log), if_pos (by decide)] at strict
    cases strict
    rw [Expr.NotTrig, Expr.every_call]
    constructor
    · rfl
    · simp [Expr.RootNotTrig]
  refine ⟨first, second, fun mode => ?_⟩
  cases mode with
  | rad => exact ((canonicalText_again first).1 _ (second .rad)).2
  | deg => exact ((canonicalText_again first).2 plain _ (second .deg)).2

/-! ## Towers of negative powers -/

namespace Expr

open Grammar

/-- A tower of powers of e, each with a minus sign in its exponent. -/
def tower : Nat → Expr
  | 0 => constant .e
  | n + 1 => binary (constant .e) .pow (neg (tower n))

/-- A tower as it may be written, without parentheses. -/
def towerText : Nat → Text
  | 0 => "e".toList
  | n + 1 => "e".toList ++ '^' :: '-' :: towerText n

theorem height_tower (n : Nat) : (tower n).height = 2 * n + 1 := by
  induction n with
  | zero => rfl
  | succ n ih =>
      rw [tower, height, height, height, ih]
      omega

theorem wellFormed_tower (n : Nat) : (tower n).WellFormed := by
  induction n with
  | zero => exact every_constant.mpr trivial
  | succ n ih =>
      exact every_binary.mpr ⟨trivial, every_constant.mpr trivial, every_neg.mpr ⟨trivial, ih⟩⟩

theorem isCanonical_tower (n : Nat) : (tower n).IsCanonical := by
  induction n with
  | zero => exact every_constant.mpr trivial
  | succ n ih =>
      exact every_binary.mpr ⟨trivial, every_constant.mpr trivial, every_neg.mpr ⟨trivial, ih⟩⟩

theorem settled_towerText (n : Nat) : Text.Settled (towerText n) := by
  induction n with
  | zero => exact settled_constant .e
  | succ n ih =>
      have signed : Text.Settled ('-' :: towerText n) := (settled_mark (c := '-') rfl).append ih
      exact (settled_constant .e).append ((settled_mark (c := '^') rfl).append signed)

/-- A tower as it may be written goes down two levels for a storey. -/
theorem exists_phrase_towerText (n : Nat) :
    ∃ p : Phrase, tokenize (towerText n) = .ok p.tokens ∧ Derives .power p ∧ p.tree = tower n ∧
      p.nesting = 2 * n := by
  induction n with
  | zero =>
      exact ⟨.atom (.constant .e) (constant .e), tokenize_constant .e,
        .base (.bare (.constant .e)), rfl, rfl⟩
  | succ n ih =>
      rcases ih with ⟨p, lexed, derived, tree, nesting⟩
      refine ⟨(Phrase.atom (.constant .e) (constant .e)).raised p.negated, ?_, ?_, ?_, ?_⟩
      · exact tokenize_append parts_caret (tokenize_constant .e)
          (tokenize_cons_mark rfl (tokenize_cons_mark rfl lexed))
      · exact .raised (.bare (.constant .e)) (.negated (.unsigned derived))
      · rw [Phrase.raised, Phrase.negated, tree]
        rfl
      · rw [Phrase.raised, Phrase.negated, Phrase.atom, nesting]
        exact Nat.max_eq_right (Nat.zero_le _)

/-- A printed tower has its exponents in parentheses and goes down three levels for a storey. -/
theorem nesting_phrase_tower (n : Nat) : (tower n).phrase.nesting = 3 * n := by
  induction n with
  | zero => rfl
  | succ n ih =>
      have unwrapped : decide ((tower n).precedence < 3) = false := by cases n <;> rfl
      have exponent : (neg (tower n)).phrase.nesting = 3 * n + 1 := by
        rw [phrase, unwrapped, ← ih]
        rfl
      calc
        (tower (n + 1)).phrase.nesting = max 0 ((neg (tower n)).phrase.nesting + 1 + 1) := rfl
        _ = 3 * (n + 1) := by rw [exponent, Nat.zero_max, Nat.mul_succ]

/-- A tower of up to 127 storeys is accepted. -/
theorem canonicalText_towerText {n : Nat} (low : n ≤ 127) :
    canonicalText .rad (towerText n) = .ok (tower n).print := by
  rcases exists_phrase_towerText n with ⟨p, lexed, derived, tree, nesting⟩
  have strict := ofStrict_of_derives lexed (derived.loosen (by decide))
  have fits : p.nesting ≤ maxDepth ∧ p.tree.height ≤ maxDepth := by
    rw [nesting, tree, height_tower, maxDepth]
    omega
  have settled := settled_towerText n
  have nonempty : Text.tidy (towerText n) ≠ [] := by
    rw [settled.tidy_eq_self]
    exact settled.ne_nil
  rw [if_pos fits, tree] at strict
  refine canonicalText_eq_ok_iff.mpr ⟨tower n, ofText_eq_ok_iff.mpr ⟨nonempty, tower n, ?_, ?_⟩, rfl⟩
  · rw [settled.tidy_eq_self, strict]
  · exact (isCanonical_tower n).canonical_eq_self (Or.inl rfl)

/-- Its canonical text is refused from 86 storeys on. -/
theorem ofStrict_print_tower {n : Nat} (tall : 86 ≤ n) :
    ofStrict (tower n).print = .error (.parseFailure .tooDeep) := by
  have deep : ¬ ((tower n).phrase.nesting ≤ maxDepth ∧ (tower n).height ≤ maxDepth) := by
    rw [nesting_phrase_tower, maxDepth]
    omega
  rw [ofStrict_print (wellFormed_tower n) (isCanonical_tower n).not_stacksUnits, if_neg deep]

end Expr

/-! ## Which canonical texts are accepted -/

/-- A canonical text has the tokens of a phrase that the grammar derives and that spells its tree, and
it is accepted exactly when the phrase is not nested too deeply and the tree is not too tall. -/
theorem ofStrict_canonicalText {mode : AngleMode} {t c : Text} (done : canonicalText mode t = .ok c) :
    ∃ e, Expr.ofText mode t = .ok e ∧ e.print = c ∧
      tokenize c = .ok e.phrase.tokens ∧ Grammar.Derives .sum e.phrase ∧ e.phrase.tree = e ∧
        Expr.ofStrict c =
          if e.phrase.nesting ≤ maxDepth ∧ e.height ≤ maxDepth then .ok e
          else .error (.parseFailure .tooDeep) := by
  rcases canonicalText_eq_ok_iff.mp done with ⟨e, read, rfl⟩
  rcases Expr.wellFormed_of_ofText read with ⟨well, reduced⟩
  have derived := Expr.derives_phrase well reduced.not_stacksUnits
  exact ⟨e, read, rfl, Expr.tokenize_print well, derived.loosen (Expr.level_sum_le _),
    Expr.tree_phrase e, Expr.ofStrict_print well reduced.not_stacksUnits⟩

/-- The theorem applies to a tower of two storeys. -/
theorem ofStrict_canonicalText_tower :
    canonicalText .rad (Expr.towerText 2) = .ok (Expr.tower 2).print ∧
      ∃ e, Expr.ofText .rad (Expr.towerText 2) = .ok e ∧ e.print = (Expr.tower 2).print ∧
        tokenize (Expr.tower 2).print = .ok e.phrase.tokens ∧
          Grammar.Derives .sum e.phrase ∧ e.phrase.tree = e ∧
            Expr.ofStrict (Expr.tower 2).print =
              if e.phrase.nesting ≤ maxDepth ∧ e.height ≤ maxDepth then .ok e
              else .error (.parseFailure .tooDeep) := by
  have done := Expr.canonicalText_towerText (n := 2) (by decide)
  exact ⟨done, ofStrict_canonicalText done⟩

/-- Not every canonical text is accepted: a tower of 86 storeys is read and put into parentheses, and
they nest too deeply to be read. -/
theorem canonicalText_tower_refused :
    canonicalText .rad (Expr.towerText 86) = .ok (Expr.tower 86).print ∧
      Expr.ofStrict (Expr.tower 86).print = .error (.parseFailure .tooDeep) :=
  ⟨Expr.canonicalText_towerText (by decide), Expr.ofStrict_print_tower (by decide)⟩

end Reckoner
