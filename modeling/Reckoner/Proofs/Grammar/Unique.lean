import Reckoner.Proofs.Grammar.Complete

/-!
# The grammar is unambiguous

A list of tokens has one derivation at most, however deeply it is nested and however tall its tree
is. Where two phrases of a category stand at the same place, and neither goes on with the tokens
behind it, they are the same phrase. Sums and products lean to the left, so that a phrase in front is
compared with the chain of operands that another phrase consists of.
-/

namespace Reckoner.Grammar

open Reckoner.Expr

/-! ## Where a phrase ends -/

/-- A phrase of the category ends before these tokens. -/
def EndsBefore (c : Category) (p : Phrase) (rest : List Token) : Prop :=
  ¬ p.Calls rest ∧ c.Ends rest

/-- Only a phrase itself stands at its place. -/
def Unique (c : Category) (p : Phrase) : Prop :=
  ∀ ⦃q : Phrase⦄ ⦃rest more : List Token⦄, Derives c q → p.tokens ++ rest = q.tokens ++ more →
    EndsBefore c p rest → EndsBefore c q more → p = q

/-- The same tokens go on with a power and with a signed power. -/
theorem Category.Ends.power_iff {rest : List Token} :
    Category.power.Ends rest ↔ Category.signed.Ends rest := by
  have same : Category.power.goesOn = Category.signed.goesOn := by
    funext token
    cases token <;> rfl
  rw [Category.Ends, Category.Ends, same]

namespace EndsBefore

variable {c d : Category} {p q : Phrase} {token : Token} {rest : List Token}

/-- A token that neither goes on with a category nor opens an argument list ends every phrase. -/
theorem cons (stops : c.goesOn token = false) (notParen : token ≠ .openParen) :
    EndsBefore c p (token :: rest) := by
  constructor
  · apply Phrase.not_calls_of_head?
    intro paren
    exact notParen (Option.some.inj paren)
  · exact .cons stops

theorem head (ends : EndsBefore c p (token :: rest)) : c.goesOn token = false :=
  ends.2.head

theorem append (ends : EndsBefore c p rest) (nonempty : rest ≠ []) (more : List Token) :
    EndsBefore c p (rest ++ more) := by
  rcases List.exists_cons_of_ne_nil nonempty with ⟨token, others, rfl⟩
  exact ends

theorem imp (looser : c.Ends rest → d.Ends rest) (ends : EndsBefore c p rest) :
    EndsBefore d p rest :=
  ⟨ends.1, looser ends.2⟩

/-- What no call goes on with is a primary's end. -/
theorem primary (ends : EndsBefore c p rest) : EndsBefore .primary p rest :=
  ends.imp fun _ _ _ => rfl

/-- The last part of a phrase ends where the phrase does. -/
theorem of_suffix {front : List Token} (ends : EndsBefore c p rest)
    (suffix : p.tokens = front ++ q.tokens) (nonempty : q.tokens ≠ []) : EndsBefore c q rest := by
  constructor
  · exact mt (Phrase.calls_of_suffix suffix nonempty).mpr ends.1
  · exact ends.2

end EndsBefore

/-! ## Chains of operands -/

/-- An operand follows `left`, with the mark of its operator between them. -/
structure Links (joint : Token → Joint) (d : Category) (left : Phrase) (mark : List Token)
    (op : Operator) (right : Phrase) : Prop where
  operand : Derives d right
  next : ∀ rest, nextOperand joint (mark ++ (right.tokens ++ rest)) =
    some (op, right.tokens ++ rest)
  ends : EndsBefore d left (mark ++ right.tokens)

/-- Operands that follow `left` one after the other make it the phrase `whole`. -/
inductive Chain (joint : Token → Joint) (d : Category) : Phrase → List Token → Phrase → Prop where
  | done (p : Phrase) : Chain joint d p [] p
  | next {left right whole : Phrase} {mark others : List Token} {op : Operator} :
      Links joint d left mark op right → Chain joint d (left.joined mark op right) others whole →
      Chain joint d left (mark ++ (right.tokens ++ others)) whole

namespace Links

variable {left right q : Phrase} {mark : List Token} {op : Operator}

theorem plus (right : Derives .product q) : Links sumJoint .product left [.plus] .add q :=
  ⟨right, fun _ => rfl, .cons rfl (by simp)⟩

theorem minus (right : Derives .product q) : Links sumJoint .product left [.minus] .sub q :=
  ⟨right, fun _ => rfl, .cons rfl (by simp)⟩

theorem times (right : Derives .signed q) : Links productJoint .signed left [.star] .mul q :=
  ⟨right, fun _ => rfl, .cons rfl (by simp)⟩

theorem divided (right : Derives .signed q) : Links productJoint .signed left [.slash] .div q :=
  ⟨right, fun _ => rfl, .cons rfl (by simp)⟩

theorem juxtaposed (opens : q.tokens.head?.any opensFactor = true)
    (noCall : ¬ left.Calls q.tokens) (right : Derives .signed q) :
    Links productJoint .signed left [] .mul q := by
  rcases List.exists_cons_of_ne_nil right.starts.ne_nil with ⟨token, others, tokens⟩
  rw [tokens, List.head?_cons, Option.any_some] at opens
  constructor
  · exact right
  · intro rest
    rw [tokens]
    cases token <;> first | rfl | contradiction
  · constructor
    · exact noCall
    · rw [List.nil_append, tokens]
      cases token <;> first | exact .cons rfl | contradiction

variable {joint : Token → Joint} {d : Category}

/-- The operand behind a mark ends where the whole does. -/
theorem right_ends {c : Category} {rest : List Token} (link : Links joint d left mark op right)
    (ends : EndsBefore c (left.joined mark op right) rest) : EndsBefore c right rest := by
  have suffix : (left.joined mark op right).tokens = (left.tokens ++ mark) ++ right.tokens :=
    (List.append_assoc _ _ _).symm
  exact ends.of_suffix suffix link.operand.starts.ne_nil

end Links

namespace Chain

variable {c d : Category} {joint : Token → Joint} {left right middle whole other : Phrase}
  {mark tokens others rest more : List Token} {op : Operator}

theorem tokens_eq (chain : Chain joint d left tokens whole) :
    whole.tokens = left.tokens ++ tokens := by
  induction chain with
  | done p => exact (List.append_nil _).symm
  | next link _ ih =>
      rw [ih]
      simp [Phrase.joined]

/-- One more operand makes a longer chain. -/
theorem concat (chain : Chain joint d left tokens middle)
    (link : Links joint d middle mark op right) :
    ∃ others, Chain joint d left others (middle.joined mark op right) := by
  induction chain with
  | done p => exact ⟨_, .next link (.done _)⟩
  | next first _ ih =>
      rcases ih link with ⟨others, longer⟩
      exact ⟨_, .next first longer⟩

/-- The first part of a chain ends before the others. -/
theorem endsBefore (chain : Chain joint d left tokens whole) (looser : c.Ends rest → d.Ends rest)
    (ends : EndsBefore c whole rest) : EndsBefore d left (tokens ++ rest) := by
  cases chain with
  | done => exact ⟨ends.1, looser ends.2⟩
  | @next _ right _ mark others op link _ =>
      have nonempty : mark ++ right.tokens ≠ [] :=
        List.append_ne_nil_of_right_ne_nil _ link.operand.starts.ne_nil
      have first := link.ends.append nonempty (others ++ rest)
      rwa [List.append_assoc, List.append_assoc, ← List.append_assoc mark]

/-- What ends a chain is not its next operand. -/
theorem eq_of_ends (chain : Chain joint d left tokens whole)
    (ends : nextOperand joint (tokens ++ rest) = none) : left = whole := by
  cases chain with
  | done => rfl
  | next link =>
      rw [List.append_assoc, List.append_assoc, link.next] at ends
      contradiction

/-- An operand behind `left` is the next one of every chain that stands there. -/
theorem tail (chain : Chain joint d left tokens whole) (link : Links joint d left mark op right)
    (unique : Unique d right) (same : mark ++ (right.tokens ++ rest) = tokens ++ more)
    (looser : c.Ends more → d.Ends more) (stops : nextOperand joint more = none)
    (before : EndsBefore d right rest) (ends : EndsBefore c whole more) :
    ∃ others, Chain joint d (left.joined mark op right) others whole ∧ rest = others ++ more := by
  cases chain with
  | done =>
      rw [List.nil_append] at same
      rw [← same, link.next] at stops
      contradiction
  | @next _ other _ otherMark others otherOp otherLink chain =>
      rw [List.append_assoc, List.append_assoc] at same
      have next := link.next rest
      rw [same, otherLink.next] at next
      rcases Prod.mk.inj (Option.some.inj next) with ⟨rfl, operands⟩
      have after : EndsBefore d other (others ++ more) :=
        otherLink.right_ends (chain.endsBefore looser ends)
      obtain rfl := unique otherLink.operand operands.symm before after
      obtain rfl := List.append_cancel_left operands
      obtain rfl := List.append_cancel_right same
      exact ⟨others, chain, rfl⟩

end Chain

/-- A phrase of the category is a chain of operands. -/
def IsChain (joint : Token → Joint) (d : Category) (whole : Phrase) : Prop :=
  ∃ first tokens, Derives d first ∧ Chain joint d first tokens whole

namespace IsChain

variable {joint : Token → Joint} {d : Category} {left right : Phrase} {mark : List Token}
  {op : Operator}

theorem single (derived : Derives d left) : IsChain joint d left :=
  ⟨left, [], derived, .done left⟩

theorem joined (chained : IsChain joint d left) (link : Links joint d left mark op right) :
    IsChain joint d (left.joined mark op right) := by
  rcases chained with ⟨first, tokens, derived, chain⟩
  rcases chain.concat link with ⟨others, longer⟩
  exact ⟨first, others, derived, longer⟩

end IsChain

/-- Products and sums are chains of their operands. -/
theorem Derives.isChain {c : Category} {p : Phrase} (derived : Derives c p) :
    match c with
    | .product => IsChain productJoint .signed p
    | .sum => IsChain sumJoint .product p
    | _ => True := by
  induction derived with
  | factor derived => exact .single derived
  | times _ right ih => exact ih.joined (.times right)
  | divided _ right ih => exact ih.joined (.divided right)
  | juxtaposed opens noCall _ right ih => exact ih.joined (.juxtaposed opens noCall right)
  | term derived => exact .single derived
  | plus _ right ih => exact ih.joined (.plus right)
  | minus _ right ih => exact ih.joined (.minus right)
  | _ => trivial

/-- Every chain that stands at the place of the phrase and is not continued begins with the
phrase. -/
def Leads (c : Category) (joint : Token → Joint) (d : Category) (p : Phrase) : Prop :=
  ∀ ⦃q : Phrase⦄ ⦃rest more : List Token⦄, Derives c q → p.tokens ++ rest = q.tokens ++ more →
    EndsBefore d p rest → EndsBefore c q more →
      ∃ tokens, Chain joint d p tokens q ∧ rest = tokens ++ more

namespace Leads

variable {c d : Category} {joint : Token → Joint} {left right : Phrase} {mark : List Token}
  {op : Operator}

theorem unique (leads : Leads c joint d p) (looser : ∀ {rest}, c.Ends rest → d.Ends rest)
    (stops : ∀ {rest}, c.Ends rest → nextOperand joint rest = none) : Unique c p := by
  intro q rest more derived same before after
  rcases leads derived same (before.imp looser) after with ⟨tokens, chain, split⟩
  have stopped : nextOperand joint (tokens ++ more) = none := by
    rw [← split]
    exact stops before.2
  exact chain.eq_of_ends stopped

theorem single (chained : ∀ {q}, Derives c q → IsChain joint d q)
    (looser : ∀ {rest}, c.Ends rest → d.Ends rest) (unique : Unique d p) :
    Leads c joint d p := by
  intro q rest more derived same before after
  rcases chained derived with ⟨first, tokens, operand, chain⟩
  rw [chain.tokens_eq, List.append_assoc] at same
  obtain rfl := unique operand same before (chain.endsBefore looser after)
  exact ⟨tokens, chain, List.append_cancel_left same⟩

theorem joined (leads : Leads c joint d left) (link : Links joint d left mark op right)
    (unique : Unique d right) (looser : ∀ {rest}, c.Ends rest → d.Ends rest)
    (stops : ∀ {rest}, c.Ends rest → nextOperand joint rest = none) :
    Leads c joint d (left.joined mark op right) := by
  intro q rest more derived same before after
  have nonempty : mark ++ right.tokens ≠ [] :=
    List.append_ne_nil_of_right_ne_nil _ link.operand.starts.ne_nil
  have whole : left.tokens ++ ((mark ++ right.tokens) ++ rest) = q.tokens ++ more := by
    rw [← same]
    simp [Phrase.joined]
  rcases leads derived whole (link.ends.append nonempty rest) after with ⟨tokens, chain, split⟩
  rw [List.append_assoc] at split
  exact chain.tail link unique split looser (stops after.2) (link.right_ends before) after

end Leads

/-! ## One rule of the grammar after the other -/

namespace Unique

variable {p left right : Phrase}

theorem number (x : Binary64) : Unique .primary (.atom (.number x) (.number x)) := by
  intro q rest more derived same _ _
  cases derived <;> cases same
  rfl

theorem constant (c : Constant) : Unique .primary (.atom (.constant c) (.constant c)) := by
  intro q rest more derived same _ _
  cases derived <;> cases same
  rfl

/-- A function's name that no parenthesis follows is no call. -/
theorem reference (f : Func) : Unique .primary (.atom (.func f) (.reference f)) := by
  intro q rest more derived same before _
  cases derived with
  | reference g =>
      cases same
      rfl
  | call =>
      cases same
      exact absurd ⟨⟨f, rfl⟩, rfl⟩ before.1
  | number | constant | group => cases same

/-- What follows an argument: the other arguments up to the closing parenthesis. -/
def afterArgument (others : List Phrase) (rest : List Token) : List Token :=
  match others with
  | [] => .closeParen :: rest
  | p :: ps => .comma :: (Phrase.argumentTokens (p :: ps) ++ .closeParen :: rest)

theorem argumentTokens_cons (p : Phrase) (others : List Phrase) (rest : List Token) :
    Phrase.argumentTokens (p :: others) ++ .closeParen :: rest =
      p.tokens ++ afterArgument others rest := by
  cases others with
  | nil => rfl
  | cons q qs => exact List.append_assoc p.tokens (.comma :: _) _

theorem endsBefore_afterArgument (p : Phrase) (others : List Phrase) (rest : List Token) :
    EndsBefore .sum p (afterArgument others rest) := by
  cases others <;> exact .cons rfl (by simp)

theorem arguments {args others : List Phrase} {rest more : List Token}
    (unique : ∀ a ∈ args, Unique .sum a) (each : ∀ b ∈ others, Derives .sum b)
    (nonempty : args ≠ []) (otherNonempty : others ≠ [])
    (same : Phrase.argumentTokens args ++ .closeParen :: rest =
      Phrase.argumentTokens others ++ .closeParen :: more) : args = others := by
  induction args generalizing others with
  | nil => contradiction
  | cons a args ih =>
      cases others with
      | nil => contradiction
      | cons b others =>
          rcases List.forall_mem_cons.mp unique with ⟨first, later⟩
          rcases List.forall_mem_cons.mp each with ⟨derived, laterEach⟩
          rw [argumentTokens_cons, argumentTokens_cons] at same
          obtain rfl := first derived same (endsBefore_afterArgument _ _ _)
            (endsBefore_afterArgument _ _ _)
          have behind := List.append_cancel_left same
          cases args with
          | nil =>
              cases others with
              | nil => rfl
              | cons => cases behind
          | cons c args =>
              cases others with
              | nil => cases behind
              | cons d others =>
                  rw [ih later laterEach (List.cons_ne_nil _ _) (List.cons_ne_nil _ _)
                    (List.cons.inj behind).2]

theorem call {f : Func} {args : List Phrase} (accepted : f.accepts args.length = true)
    (unique : ∀ a ∈ args, Unique .sum a) : Unique .primary (.call f args) := by
  have nonempty {g : Func} {others : List Phrase} (accepted : g.accepts others.length = true) :
      others ≠ [] := by
    rintro rfl
    simp [Func.accepts] at accepted
  have opened (g : Func) (others : List Phrase) (more : List Token) :
      (Phrase.call g others).tokens ++ more =
        .func g :: .openParen :: (Phrase.argumentTokens others ++ .closeParen :: more) := by
    simp [Phrase.call]
  intro q rest more derived same _ after
  rw [opened] at same
  cases derived with
  | @call g others acceptedOthers each =>
      rw [opened] at same
      injection same with name tail
      injection name with name
      injection tail with _ behind
      rw [name, arguments unique each (nonempty accepted) (nonempty acceptedOthers) behind]
  | reference g =>
      cases same
      exact absurd ⟨⟨f, rfl⟩, rfl⟩ after.1
  | number | constant | group => cases same

theorem group (unique : Unique .sum p) : Unique .primary p.grouped := by
  intro q rest more derived same _ _
  have opened (inner : Phrase) (rest : List Token) :
      inner.grouped.tokens ++ rest = .openParen :: (inner.tokens ++ .closeParen :: rest) := by
    simp [Phrase.grouped]
  rw [opened] at same
  cases derived with
  | group derived =>
      rw [opened] at same
      injection same with _ inner
      rw [unique derived inner (.cons rfl (by simp)) (.cons rfl (by simp))]
  | number | constant | reference | call => cases same

theorem bare (unique : Unique .primary p) : Unique .measure p := by
  intro q rest more derived same before after
  cases derived with
  | bare derived => exact unique derived same before.primary after.primary
  | @measured r u derived =>
      have split : p.tokens ++ rest = r.tokens ++ .unit u :: more := by
        simpa [Phrase.measured] using same
      obtain rfl := unique derived split before.primary (.cons rfl (by simp))
      obtain rfl := List.append_cancel_left split
      cases before.head

theorem measured (u : AngleUnit) (unique : Unique .primary p) : Unique .measure (p.measured u) := by
  intro q rest more derived same before after
  have split : p.tokens ++ .unit u :: rest = q.tokens ++ more := by
    simpa [Phrase.measured] using same
  cases derived with
  | bare derived =>
      obtain rfl := unique derived split (.cons rfl (by simp)) after.primary
      obtain rfl := List.append_cancel_left split
      cases after.head
  | @measured r v derived =>
      have parts : p.tokens ++ .unit u :: rest = r.tokens ++ .unit v :: more := by
        simpa [Phrase.measured] using split
      obtain rfl := unique derived parts (.cons rfl (by simp)) (.cons rfl (by simp))
      cases List.append_cancel_left parts
      rfl

theorem measure_of_power {rest : List Token} (ends : Category.power.Ends rest) :
    Category.measure.Ends rest :=
  (Category.Ends.power_iff.mp ends).measure_of_signed

theorem base (unique : Unique .measure p) : Unique .power p := by
  intro q rest more derived same before after
  cases derived with
  | base derived =>
      exact unique derived same (before.imp measure_of_power) (after.imp measure_of_power)
  | @raised base exponent derived _ =>
      have split : p.tokens ++ rest = base.tokens ++ .caret :: (exponent.tokens ++ more) := by
        simpa [Phrase.raised] using same
      obtain rfl := unique derived split (before.imp measure_of_power) (.cons rfl (by simp))
      obtain rfl := List.append_cancel_left split
      cases before.head

theorem raised (base : Unique .measure left) (exponent : Unique .signed right)
    (nonempty : right.tokens ≠ []) : Unique .power (left.raised right) := by
  intro q rest more derived same before after
  have split : left.tokens ++ .caret :: (right.tokens ++ rest) = q.tokens ++ more := by
    simpa [Phrase.raised] using same
  cases derived with
  | base derived =>
      obtain rfl := base derived split (.cons rfl (by simp)) (after.imp measure_of_power)
      obtain rfl := List.append_cancel_left split
      cases after.head
  | @raised otherBase otherExponent derived raising =>
      have parts : left.tokens ++ .caret :: (right.tokens ++ rest) =
          otherBase.tokens ++ .caret :: (otherExponent.tokens ++ more) := by
        simpa [Phrase.raised] using split
      obtain rfl := base derived parts (.cons rfl (by simp)) (.cons rfl (by simp))
      have powers := (List.cons.inj (List.append_cancel_left parts)).2
      have suffix (base exponent : Phrase) : (base.raised exponent).tokens =
          (base.tokens ++ [.caret]) ++ exponent.tokens := by
        simp [Phrase.raised]
      rw [exponent raising powers
        ((before.of_suffix (suffix _ _) nonempty).imp Category.Ends.power_iff.mp)
        ((after.of_suffix (suffix _ _) raising.starts.ne_nil).imp Category.Ends.power_iff.mp)]

/-- A power does not start with a sign. -/
theorem startsOperand_of_power {token : Token} {rest more : List Token}
    (derived : Derives .power p) (same : p.tokens ++ rest = token :: more) :
    startsOperand token = true := by
  rcases derived.starts with ⟨first, others, tokens, start | ⟨sign, _⟩⟩
  · rw [tokens] at same
    cases same
    exact start
  · contradiction

theorem unsigned (derived : Derives .power p) (unique : Unique .power p) : Unique .signed p := by
  intro q rest more other same before after
  cases other with
  | unsigned other =>
      exact unique other same (before.imp Category.Ends.power_iff.mpr)
        (after.imp Category.Ends.power_iff.mpr)
  | negated => cases startsOperand_of_power derived same
  | affirmed => cases startsOperand_of_power derived same

theorem negated (derived : Derives .signed p) (unique : Unique .signed p) :
    Unique .signed p.negated := by
  have suffix (operand : Phrase) : operand.negated.tokens = [.minus] ++ operand.tokens := rfl
  intro q rest more other same before after
  cases other with
  | unsigned other => cases startsOperand_of_power other same.symm
  | negated other =>
      rw [unique other (List.cons.inj same).2 (before.of_suffix (suffix _) derived.starts.ne_nil)
        (after.of_suffix (suffix _) other.starts.ne_nil)]
  | affirmed => cases same

theorem affirmed (derived : Derives .signed p) (unique : Unique .signed p) :
    Unique .signed p.affirmed := by
  have suffix (operand : Phrase) : operand.affirmed.tokens = [.plus] ++ operand.tokens := rfl
  intro q rest more other same before after
  cases other with
  | unsigned other => cases startsOperand_of_power other same.symm
  | negated => cases same
  | affirmed other =>
      rw [unique other (List.cons.inj same).2 (before.of_suffix (suffix _) derived.starts.ne_nil)
        (after.of_suffix (suffix _) other.starts.ne_nil)]

end Unique

/-- What the derivation of a phrase says about the other phrases at its place. -/
def Determines : Category → Phrase → Prop
  | .sum, p => Leads .sum sumJoint .product p
  | .product, p => Leads .product productJoint .signed p
  | c, p => Unique c p

theorem Determines.unique_product {p : Phrase} (leads : Determines .product p) :
    Unique .product p :=
  Leads.unique leads Category.Ends.signed_of_product Category.Ends.nextOperand_product

theorem Determines.unique_sum {p : Phrase} (leads : Determines .sum p) : Unique .sum p :=
  Leads.unique leads Category.Ends.product_of_sum Category.Ends.nextOperand_sum

/-- A link of a product makes a longer beginning. -/
theorem Determines.product {left right : Phrase} {mark : List Token} {op : Operator}
    (leads : Determines .product left) (link : Links productJoint .signed left mark op right)
    (unique : Determines .signed right) : Determines .product (left.joined mark op right) :=
  Leads.joined leads link unique Category.Ends.signed_of_product
    Category.Ends.nextOperand_product

theorem Determines.sum {left right : Phrase} {mark : List Token} {op : Operator}
    (leads : Determines .sum left) (link : Links sumJoint .product left mark op right)
    (unique : Determines .product right) : Determines .sum (left.joined mark op right) :=
  Leads.joined leads link unique.unique_product Category.Ends.product_of_sum
    Category.Ends.nextOperand_sum

theorem Derives.determines {c : Category} {p : Phrase} (derived : Derives c p) :
    Determines c p := by
  induction derived with
  | number x => exact Unique.number x
  | constant c => exact Unique.constant c
  | reference f => exact Unique.reference f
  | call accepted _ ih => exact Unique.call accepted fun a mem => (ih a mem).unique_sum
  | group _ ih => exact Unique.group ih.unique_sum
  | bare _ ih => exact Unique.bare ih
  | measured u _ ih => exact Unique.measured u ih
  | base _ ih => exact Unique.base ih
  | raised _ exponent base ih => exact Unique.raised base ih exponent.starts.ne_nil
  | unsigned derived ih => exact Unique.unsigned derived ih
  | negated derived ih => exact Unique.negated derived ih
  | affirmed derived ih => exact Unique.affirmed derived ih
  | factor _ ih => exact Leads.single Derives.isChain Category.Ends.signed_of_product ih
  | times _ right first second => exact first.product (.times right) second
  | divided _ right first second => exact first.product (.divided right) second
  | juxtaposed opens noCall _ right first second =>
      exact first.product (.juxtaposed opens noCall right) second
  | term _ ih => exact Leads.single Derives.isChain Category.Ends.product_of_sum ih.unique_product
  | plus _ right first second => exact first.sum (.plus right) second
  | minus _ right first second => exact first.sum (.minus right) second

/-- The grammar is unambiguous: a list of tokens is derived as one phrase at most. -/
theorem Derives.unique {p q : Phrase} (first : Derives .sum p) (second : Derives .sum q)
    (same : p.tokens = q.tokens) : p = q := by
  have ends (r : Phrase) : EndsBefore .sum r [] :=
    ⟨Phrase.not_calls_of_head? (by simp), .nil _⟩
  exact first.determines.unique_sum second (congrArg (· ++ []) same) (ends p) (ends q)

end Reckoner.Grammar
