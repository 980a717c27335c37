import Reckoner.Expr.OfText
import Reckoner.Proofs.Expr.Units
import Reckoner.Proofs.Grammar.Exact

/-!
# Trees that are read are well-formed

Numerals are read as finite doubles without a sign, and the grammar derives calls with an accepted
number of arguments only. A tree that is read from a text is therefore well-formed, and no unit in it
follows a unit.
-/

namespace Reckoner

theorem Binary64.isFinite_ofRank {n : Nat} (finite : n < infinityRank) :
    (ofRank false n).isFinite = true ∧ (ofRank false n).isNegative = false := by
  have low : n < Nat.pow 2 63 := Nat.lt_trans finite (by decide)
  have bits : (ofRank false n).bits.toNat = n :=
    UInt64.toNat_ofNat_of_lt' (Nat.lt_trans low (by decide))
  constructor
  · rw [isFinite, rank, bits, Nat.mod_eq_of_lt low]
    exact decide_eq_true finite
  · rw [isNegative, bits]
    exact decide_eq_false (Nat.not_le.mpr low)

theorem Numeral.isFinite_of_read {n : Numeral} {x : Binary64} (read : n.read = .ok x) :
    x.isFinite = true ∧ x.isNegative = false := by
  unfold Numeral.read at read
  split at read
  · contradiction
  · split at read
    · rename_i finite
      cases read
      exact Binary64.isFinite_ofRank finite
    · contradiction

/-- A number is finite and has no sign. -/
def Token.InRange : Token → Prop
  | number x => x.isFinite = true ∧ x.isNegative = false
  | _ => True

theorem Token.inRange_of_ofMark? {c : Char} {token : Token} (mark : ofMark? c = some token) :
    token.InRange := by
  unfold ofMark? at mark
  split at mark <;> cases mark <;> trivial

theorem Token.inRange_of_ofWord? {word : Text} {token : Token} (known : ofWord? word = some token) :
    token.InRange := by
  rcases ofWord?_cases known with ⟨_, rfl, _⟩ | ⟨_, rfl, _⟩ | ⟨_, rfl, _⟩ <;> trivial

/-- Only numerals are read as numbers. -/
theorem Lexeme.inRange_of_read {lexeme : Lexeme} {token : Token}
    (read : lexeme.read = .ok (some token)) : token.InRange := by
  cases lexeme with
  | mark c =>
      rw [Lexeme.read] at read
      split at read
      · rename_i known
        cases read
        exact Token.inRange_of_ofMark? known
      · split at read <;> cases read
  | word letters =>
      simp only [Lexeme.read] at read
      split at read
      · rename_i known
        cases read
        exact Token.inRange_of_ofWord? known
      · contradiction
  | numeral n =>
      rw [Lexeme.read] at read
      split at read
      · rename_i x number
        cases read
        exact n.isFinite_of_read number
      · contradiction

theorem inRange_of_tokensOf {lexemes : List Lexeme} {tokens : List Token}
    (read : tokensOf lexemes = .ok tokens) : ∀ token ∈ tokens, token.InRange := by
  induction lexemes generalizing tokens with
  | nil =>
      cases read
      exact List.forall_mem_nil _
  | cons lexeme rest ih =>
      rw [tokensOf] at read
      split at read
      · contradiction
      · rename_i token meaning
        split at read
        · contradiction
        · rename_i others later
          cases read
          rw [List.forall_mem_append]
          constructor
          · intro first mem
            rw [Option.mem_toList] at mem
            rw [Option.mem_def.mp mem] at meaning
            exact Lexeme.inRange_of_read meaning
          · exact ih later

namespace Grammar

open Reckoner.Expr

/-- A condition holds at all nodes of a derived phrase's tree if it holds at the numbers of the phrase,
at calls with an accepted number of arguments, and at the other kinds of nodes. -/
theorem Derives.every {P : Expr → Prop} {c : Category} {p : Phrase} (derived : Derives c p)
    (numbers : ∀ x, .number x ∈ p.tokens → P (.number x))
    (calls : ∀ f (args : List Expr), f.accepts args.length = true → P (.call f args))
    (others : ∀ e, (∀ x, e ≠ .number x) → (∀ f args, e ≠ .call f args) → P e) :
    p.tree.Every P := by
  induction derived with
  | number x => exact every_number.mpr (numbers x List.mem_cons_self)
  | constant => exact every_constant.mpr (others _ nofun nofun)
  | reference => exact every_reference.mpr (others _ nofun nofun)
  | @call f args accepted _ ih =>
      refine every_call.mpr ⟨calls f _ (by rwa [List.length_map]), ?_⟩
      intro tree mem
      rcases List.mem_map.mp mem with ⟨a, arg, rfl⟩
      apply ih a arg
      intro x inside
      apply numbers x
      have listed := (Phrase.infix_argumentTokens arg).subset inside
      exact List.mem_cons_of_mem _ (List.mem_cons_of_mem _ (List.mem_append_left _ listed))
  | group _ ih =>
      exact ih fun x mem => numbers x (List.mem_cons_of_mem _ (List.mem_append_left _ mem))
  | bare _ ih | base _ ih | unsigned _ ih | factor _ ih | term _ ih => exact ih numbers
  | measured u _ ih =>
      have inner := ih fun x mem => numbers x (List.mem_append_left _ mem)
      exact every_withUnit.mpr ⟨others _ nofun nofun, inner⟩
  | negated _ ih =>
      have inner := ih fun x mem => numbers x (List.mem_cons_of_mem _ mem)
      exact every_neg.mpr ⟨others _ nofun nofun, inner⟩
  | affirmed _ ih => exact ih fun x mem => numbers x (List.mem_cons_of_mem _ mem)
  | raised _ _ first second | times _ _ first second | divided _ _ first second
  | plus _ _ first second | minus _ _ first second =>
      have before := first fun x mem => numbers x (List.mem_append_left _ mem)
      have after := second fun x mem =>
        numbers x (List.mem_append_right _ (List.mem_cons_of_mem _ mem))
      exact every_binary.mpr ⟨others _ nofun nofun, before, after⟩
  | juxtaposed _ _ _ _ first second =>
      have before := first fun x mem => numbers x (List.mem_append_left _ mem)
      have after := second fun x mem => numbers x (List.mem_append_right _ mem)
      exact every_binary.mpr ⟨others _ nofun nofun, before, after⟩

/-- The tree of a derived phrase is well-formed when the numbers of the phrase are in range. -/
theorem Derives.wellFormed {c : Category} {p : Phrase} (derived : Derives c p)
    (range : ∀ token ∈ p.tokens, token.InRange) : p.tree.WellFormed := by
  refine derived.every (fun x mem => range _ mem) (fun f args accepted => accepted) ?_
  intro e notNumber notCall
  cases e with
  | number x => exact absurd rfl (notNumber x)
  | call f args => exact absurd rfl (notCall f args)
  | constant | reference | neg | binary | withUnit => trivial

/-- Every call in a tree that is read has as many arguments as its function takes. -/
theorem accepted_of_parse {tokens : List Token} {tree : Expr} (parsed : parse tokens = .ok tree) :
    tree.Every RootAccepted := by
  rcases derives_of_parse parsed with ⟨p, derived, _, rfl, _⟩
  refine derived.every (fun _ _ => trivial) (fun f args accepted => accepted) ?_
  intro e _ notCall
  cases e with
  | call f args => exact absurd rfl (notCall f args)
  | number | constant | reference | neg | binary | withUnit => trivial

end Grammar

theorem Expr.ofStrict_eq_ok_iff {t : Text} {tree : Expr} :
    ofStrict t = .ok tree ↔ ∃ tokens, tokenize t = .ok tokens ∧ parse tokens = .ok tree := by
  unfold ofStrict
  cases tokenize t with
  | error e =>
      constructor
      · intro read
        contradiction
      · rintro ⟨tokens, lexed, _⟩
        contradiction
  | ok tokens =>
      dsimp only
      cases done : parse tokens with
      | error cause =>
          constructor
          · intro read
            contradiction
          · rintro ⟨_, ⟨rfl⟩, parsed⟩
            rw [done] at parsed
            contradiction
      | ok result =>
          constructor
          · rintro ⟨rfl⟩
            exact ⟨tokens, rfl, done⟩
          · rintro ⟨_, ⟨rfl⟩, parsed⟩
            rw [done] at parsed
            cases parsed
            rfl

/-- A tree that is read from a text is well-formed. -/
theorem Expr.wellFormed_of_ofStrict {t : Text} {tree : Expr} (read : ofStrict t = .ok tree) :
    tree.WellFormed := by
  rcases ofStrict_eq_ok_iff.mp read with ⟨tokens, lexed, parsed⟩
  rcases Grammar.derives_of_parse parsed with ⟨p, derived, _, rfl, rfl⟩
  exact derived.wellFormed (inRange_of_tokensOf lexed)

end Reckoner
