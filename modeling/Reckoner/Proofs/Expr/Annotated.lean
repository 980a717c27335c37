import Reckoner.Proofs.Expr.CanonicalText

/-!
# Degrees written out

Degree mode is radian mode on the tree in which the degrees are written out: a unit is put after every
angle that holds none, and nothing else changes. Which angles those are is decided on the tree as it
was read, so that a unit which is put after an inner angle does not hide an outer one.
-/

namespace Reckoner

namespace Expr

mutual

/-- The tree with degrees written after every angle that holds no unit. -/
def annotated : Expr → Expr
  | number x => number x
  | constant c => constant c
  | reference f => reference f
  | call f args => call f (annotatedArguments f args)
  | neg operand => neg (annotated operand)
  | binary left op right => binary (annotated left) op (annotated right)
  | withUnit operand u => withUnit (annotated operand) u

/-- The arguments of a call of `f`, with degrees written out. -/
def annotatedArguments (f : Func) : List Expr → List Expr
  | [] => []
  | e :: es =>
    (if f.isTrig && !e.hasUnit then withUnit (annotated e) .deg else annotated e) ::
      annotatedArguments f es

end

theorem annotatedArguments_eq_map (f : Func) (args : List Expr) :
    annotatedArguments f args =
      args.map fun e => if f.isTrig && !e.hasUnit then withUnit e.annotated .deg else e.annotated := by
  induction args with
  | nil => rfl
  | cons e es ih => rw [annotatedArguments, ih, List.map_cons]

/-- A root that is no call of a function of an angle, or one whose angle holds a unit. -/
def RootMeasured : Expr → Prop
  | call f args => f.isTrig = true → ∀ angle ∈ args, angle.hasUnit = true
  | _ => True

/-- Every angle holds a unit. -/
def Measured (e : Expr) : Prop :=
  e.Every RootMeasured

/-- There is nothing to write where every angle holds a unit. -/
theorem Measured.annotated_eq_self {e : Expr} (measured : e.Measured) : e.annotated = e := by
  induction e with
  | number | constant | reference => rfl
  | call f args ih =>
      rcases every_call.mp measured with ⟨root, each⟩
      rw [annotated, annotatedArguments_eq_map]
      congr 1
      refine (List.map_congr_left fun e mem => ?_).trans (List.map_id args)
      have same := ih e mem (each e mem)
      cases trig : f.isTrig with
      | true => simp [root trig e mem, same]
      | false => simp [same]
  | neg operand ih => rw [annotated, ih (every_neg.mp measured).2]
  | binary left op right leftIh rightIh =>
      rcases every_binary.mp measured with ⟨_, first, second⟩
      rw [annotated, leftIh first, rightIh second]
  | withUnit operand u ih => rw [annotated, ih (every_withUnit.mp measured).2]

/-- Reading angles as degrees is multiplying out the degrees that are written after them. The angle of
a call is decided on before the call's own argument changes, as in the canonical form itself. -/
theorem canonical_annotated {e : Expr} (accepted : e.Every RootAccepted) :
    canonical .rad e.annotated = canonical .deg e := by
  induction e with
  | number | constant | reference => rfl
  | call f args ih =>
      rcases every_call.mp accepted with ⟨count, each⟩
      have same : ∀ a ∈ args, canonical .rad a.annotated = canonical .deg a :=
        fun a mem => ih a mem (each a mem)
      rw [annotated, annotatedArguments_eq_map, canonical_call (Or.inl rfl)]
      cases trig : f.isTrig with
      | true =>
          rcases exists_angle trig count with ⟨angle, rfl⟩
          rw [canonical_deg_call trig, canonicalCall_of_trig trig, ← same angle List.mem_cons_self]
          cases unit : angle.hasUnit with
          | true => simp [unit]
          | false =>
              simp only [List.map_cons, List.map_nil, unit, Bool.not_false, Bool.and_self,
                if_true, Bool.false_eq_true, if_false]
              rfl
      | false =>
          rw [canonical_call (Or.inr trig), List.map_map]
          exact congrArg _ (List.map_congr_left same)
  | neg operand ih => rw [annotated, canonical, ih (every_neg.mp accepted).2, canonical]
  | binary left op right leftIh rightIh =>
      rcases every_binary.mp accepted with ⟨_, first, second⟩
      rw [annotated, canonical, leftIh first, rightIh second, canonical]
  | withUnit operand u ih =>
      have inner := ih (every_withUnit.mp accepted).2
      cases u with
      | deg => rw [annotated, canonical, inner, canonical]
      | rad => rw [annotated, canonical, inner, canonical]

end Expr

/-! ## Evaluation -/

/-- Evaluates a tree as it was read. -/
def Evaluator.evaluateTree (evaluator : Evaluator) (mode : AngleMode) (e : Expr) :
    Except CalcError Evaluation :=
  (evaluator.answer (e.canonical mode)).map fun answer => ⟨(e.canonical mode).print, answer⟩

theorem Expr.ofText_of_ofStrict {mode : AngleMode} {t : Text} {e : Expr}
    (strict : ofStrict (Text.tidy t) = .ok e) : ofText mode t = .ok (e.canonical mode) := by
  refine ofText_eq_ok_iff.mpr ⟨?_, e, strict, rfl⟩
  intro empty
  rw [empty, ofStrict, tokenize_nil] at strict
  contradiction

/-- The evaluation of a text is that of the tree that the text spells. -/
theorem Evaluator.evaluate_of_ofStrict {evaluator : Evaluator} {mode : AngleMode} {t : Text}
    {e : Expr} (strict : Expr.ofStrict (Text.tidy t) = .ok e) :
    evaluator.evaluate mode t = evaluator.evaluateTree mode e := by
  rw [evaluate, Expr.ofText_of_ofStrict strict, evaluateTree]
  change (evaluator.answer (e.canonical mode)).bind _ = _
  cases evaluator.answer (e.canonical mode) <;> rfl

namespace Expr

/-- For every tree that is read, degree mode is radian mode on the tree with its degrees written out,
in the canonical form, in the evaluation of the trees, and in that of all texts that spell them. Where
every angle holds a unit already, the modes do not differ. -/
theorem canonical_deg_eq {tokens : List Token} {e : Expr} (parsed : parse tokens = .ok e) :
    canonical .deg e = canonical .rad e.annotated ∧
      (∀ evaluator : Evaluator,
        evaluator.evaluateTree .deg e = evaluator.evaluateTree .rad e.annotated) ∧
      (∀ (evaluator : Evaluator) (s t : Text), ofStrict (Text.tidy s) = .ok e →
        ofStrict (Text.tidy t) = .ok e.annotated →
          evaluator.evaluate .deg s = evaluator.evaluate .rad t) ∧
      (e.Measured → canonical .deg e = canonical .rad e) := by
  have same := canonical_annotated (Grammar.accepted_of_parse parsed)
  have trees : ∀ evaluator : Evaluator,
      evaluator.evaluateTree .deg e = evaluator.evaluateTree .rad e.annotated := by
    intro evaluator
    rw [Evaluator.evaluateTree, Evaluator.evaluateTree, same]
  refine ⟨same.symm, trees, ?_, ?_⟩
  · intro evaluator s t first second
    rw [Evaluator.evaluate_of_ofStrict first, Evaluator.evaluate_of_ofStrict second]
    exact trees evaluator
  · intro measured
    rw [← same, measured.annotated_eq_self]

/-- The theorem applies to an angle with a unit that holds another one without. -/
theorem canonical_deg_eq_nested :
    let angle (cosine : Expr) := binary cosine .add (withUnit (constant .e) .rad)
    let tree := call .sin [angle (call .cos [constant .pi])]
    parse tree.phrase.tokens = .ok tree ∧
      canonical .deg tree =
        canonical .rad (call .sin [angle (call .cos [withUnit (constant .pi) .deg])]) := by
  intro angle tree
  have well : tree.WellFormed := by
    have accepted : Func.accepts .sin 1 = true ∧ Func.accepts .cos 1 = true := ⟨rfl, rfl⟩
    simp [tree, angle, WellFormed, RootWellFormed, accepted]
  have single : ¬ tree.StacksUnits := by
    simp [tree, angle, StacksUnits, nodes, nodesOf]
  have parsed := parse_phrase_of_fits well single (by decide)
  exact ⟨parsed, (canonical_deg_eq parsed).1⟩

end Expr

end Reckoner
