import Reckoner.Proofs.Always
import Reckoner.Proofs.Json.RoundTrip
import Reckoner.Proofs.Pipeline.Answered
import Reckoner.Proofs.Web.Request
import Reckoner.Web.Response

/-!
# What responses say

A request that can be read is answered with one JSON object, which is a document that tells the
outcome: the result with status 200, or the failure with status 400. A result is never missing. The
status is 500 only where the normalizer broke down.
-/

namespace Reckoner

namespace WebResponse

/-- The response has the status, and its body is the text of an object with exactly these
members. -/
def Carries (status : Nat) (members : List (Text × Json)) (response : WebResponse) : Prop :=
  ∃ body, response = answered status body ∧
    Json.document? .exact body.print = some (.object members)

/-- The member that tells what was evaluated, where it is not the question's text. -/
def normalizedMember : Option Text → List (Text × Json)
  | none => []
  | some t => [("normalized".toList, .string t)]

/-- The response tells an outcome, or that there is none. -/
inductive Tells : Option (Except Failure Success) → WebResponse → Prop where
  | number {done : Success} {x : Binary64} {response : WebResponse}
      (answer : done.answer = .numeric x)
      (carries : response.Carries 200
        (("result".toList, .float x) :: normalizedMember done.normalized)) :
      Tells (some (.ok done)) response
  | text {done : Success} {t : Text} {response : WebResponse}
      (answer : done.answer = .formatted t)
      (carries : response.Carries 200
        (("result".toList, .string t) :: normalizedMember done.normalized)) :
      Tells (some (.ok done)) response
  | failure {failure : Failure} {response : WebResponse}
      (carries : response.Carries 400
        (("error".toList, .string failure.error.message) ::
          ("kind".toList, .string failure.error.kind) :: normalizedMember failure.normalized)) :
      Tells (some (.error failure)) response
  | lost {response : WebResponse} {message : Text}
      (carries : response.Carries 500 [("error".toList, .string message)]) : Tells none response

theorem Carries.status_eq {status : Nat} {members : List (Text × Json)} {response : WebResponse}
    (carries : response.Carries status members) : response.status = status := by
  rcases carries with ⟨body, rfl, _⟩
  rfl

/-- The status tells results, failures and losses apart. -/
theorem Tells.status_iff {outcome : Option (Except Failure Success)} {response : WebResponse}
    (tells : response.Tells outcome) :
    (response.status = 200 ↔ ∃ done, outcome = some (.ok done)) ∧
      (response.status = 400 ↔ ∃ failure, outcome = some (.error failure)) ∧
      (response.status = 500 ↔ outcome = none) := by
  cases tells with
  | number _ carries | text _ carries => simp [carries.status_eq]
  | failure carries | lost carries => simp [carries.status_eq]

theorem withNormalized_eq (members : List (Text × Json)) (normalized : Option Text) :
    withNormalized members normalized = .object (members ++ normalizedMember normalized) := by
  cases normalized <;> rfl

theorem carries_of_fits {members : List (Text × Json)}
    (fits : ∀ entry ∈ members, ∀ budget, Json.Fits budget entry.2) (status : Nat) :
    Carries status members (answered status (.object members)) :=
  ⟨.object members, rfl, Json.document?_print_object fits⟩

theorem fits_normalizedMember (normalized : Option Text) :
    ∀ entry ∈ normalizedMember normalized, ∀ budget, Json.Fits budget entry.2 := by
  cases normalized with
  | none => nofun
  | some t => simpa [normalizedMember] using fun budget => Json.Fits.string budget t

theorem carries_ofSuccess {done : Success} {result : Json} (presented : done.answer.toJson = result)
    (fits : ∀ budget, Json.Fits budget result) :
    (ofSuccess done).Carries 200
      (("result".toList, result) :: normalizedMember done.normalized) := by
  rw [ofSuccess, withNormalized_eq, presented]
  exact carries_of_fits (List.forall_mem_cons.mpr ⟨fits, fits_normalizedMember done.normalized⟩) 200

theorem carries_ofFailure (failure : Failure) :
    (ofFailure failure).Carries 400
      (("error".toList, .string failure.error.message) ::
        ("kind".toList, .string failure.error.kind) :: normalizedMember failure.normalized) := by
  rw [ofFailure, withNormalized_eq]
  refine carries_of_fits (List.forall_mem_cons.mpr ⟨fun budget => .string budget _, ?_⟩) 400
  exact List.forall_mem_cons.mpr
    ⟨fun budget => .string budget _, fits_normalizedMember failure.normalized⟩

/-- The response to an outcome tells the outcome. -/
theorem tells_ofOutcome {outcome : Option (Except Failure Success)}
    (finite : ∀ done, outcome = some (.ok done) → done.answer.IsFinite) :
    Tells outcome (ofOutcome outcome) := by
  match outcome with
  | none =>
      exact .lost (carries_of_fits (by simpa using fun budget => Json.Fits.string budget _) 500)
  | some (.error failure) => exact .failure (carries_ofFailure failure)
  | some (.ok done) =>
      have known := finite done rfl
      cases answer : done.answer with
      | numeric x =>
          rw [answer] at known
          refine .number answer (carries_ofSuccess ?_ fun budget => .float budget known)
          rw [answer]
          rfl
      | formatted t =>
          refine .text answer (carries_ofSuccess ?_ fun budget => .string budget t)
          rw [answer]
          rfl

end WebResponse

namespace Pipeline

open Evaluator

variable {m : Type → Type} [Monad m] [LawfulMonad m]

/-- A run that is lost is lost in the normalizer. -/
theorem run_run_cases (pipeline : Pipeline (OptionT m)) (q : Question) :
    (∃ outcome : Except Failure Success,
      (∀ success, outcome = .ok success → pipeline.evaluator.Justifies q success) ∧
        (pipeline.run q).run = pure (some outcome)) ∨
    ∃ ask last, pipeline.normalizer = some ask ∧
      (pipeline.run q).run = Option.map (pipeline.evaluator.settle q last) <$> (ask q).run := by
  rw [run]
  cases found : pipeline.evaluator.attemptLocally q with
  | ok done =>
      refine .inl ⟨.ok done, ?_, rfl⟩
      rintro _ ⟨⟩
      exact justifies_of_attemptLocally found
  | error last =>
      cases asked : pipeline.normalizer with
      | none =>
          refine .inl ⟨pipeline.evaluator.withoutNormalizer q last, ?_, rfl⟩
          exact fun success answered => justifies_of_withoutNormalizer answered
      | some ask =>
          refine .inr ⟨ask, last, rfl, ?_⟩
          simp

/-- Whatever a run comes to, the response tells it. -/
theorem always_tells (pipeline : Pipeline (OptionT m)) (q : Question) :
    Always (fun outcome => (WebResponse.ofOutcome outcome).Tells outcome) (pipeline.run q).run := by
  rcases run_run_cases pipeline q with ⟨outcome, justified, same⟩ | ⟨ask, last, _, same⟩
  · rw [same]
    refine .pure (WebResponse.tells_ofOutcome ?_)
    rintro done ⟨⟩
    exact (justified done rfl).isFinite
  · rw [same]
    refine .map (.of_forall (fun reply => WebResponse.tells_ofOutcome ?_) _)
    intro done answered
    rcases Option.map_eq_some_iff.mp answered with ⟨reply, _, settled⟩
    exact (justifies_of_settle settled).isFinite

omit [LawfulMonad m] in
/-- A message whose body is one JSON value is answered as the request that the value is, and turned
away if it is none. -/
theorem respond_of_document (pipeline : Pipeline (OptionT m)) {contentType : Option Text}
    {body : Text} {j : Json}
    (isJson : (contentType.bind MediaType.ofText?).any MediaType.isJson = true)
    (document : Json.document? .strict body = some j) :
    (∀ request, WebRequest.asked? j = some request →
      pipeline.respond contentType body = pipeline.answer request) ∧
    (WebRequest.asked? j = none →
      ∃ cause, pipeline.respond contentType body = pure (.rejected cause)) := by
  have read := WebRequest.ofMessage_of_document isJson document
  constructor
  · intro request asked
    rw [asked] at read
    rw [respond, WebRequest.eq_ok_of_toOption read]
  · intro unasked
    rw [unasked] at read
    rcases WebRequest.exists_error_of_toOption read with ⟨cause, refused⟩
    exact ⟨cause, by rw [respond, refused]⟩

/-- A request that can be read is answered from the run on its expression, in its mode or the
default one, and the response tells the outcome of the run. A blank expression is not run. The
response is lost only where the normalizer is asked and gives nothing. -/
theorem respond_tells (pipeline : Pipeline (OptionT m)) {contentType : Option Text} {body : Text}
    {request : WebRequest} (accepted : WebRequest.ofMessage contentType body = .ok request) :
    (Text.trim (request.expression.getD []) = [] ∧
      ∃ response : WebResponse, pipeline.respond contentType body = pure response ∧
        response.Tells (some (.error ⟨.emptyInput, none⟩))) ∨
    ∃ q : Question, q.text = Text.trim (request.expression.getD []) ∧
      q.mode = request.mode.getD .rad ∧
      pipeline.respond contentType body = WebResponse.ofOutcome <$> (pipeline.run q).run ∧
      Always (fun outcome => (WebResponse.ofOutcome outcome).Tells outcome ∧
          ((WebResponse.ofOutcome outcome).status = 200 ↔ ∃ done, outcome = some (.ok done)) ∧
          ((WebResponse.ofOutcome outcome).status = 500 ↔ outcome = none))
        (pipeline.run q).run ∧
      ((∃ outcome, (pipeline.run q).run = pure (some outcome)) ∨
        ∃ ask last, pipeline.normalizer = some ask ∧
          (pipeline.run q).run =
            Option.map (pipeline.evaluator.settle q last) <$> (ask q).run) := by
  have read : pipeline.respond contentType body = pipeline.answer request := by
    rw [respond, accepted]
  by_cases blank : Text.trim (request.expression.getD []) = []
  · have unanswered : WebResponse.Tells (some (.error ⟨.emptyInput, none⟩))
        (.ofOutcome (some (.error ⟨.emptyInput, none⟩))) :=
      WebResponse.tells_ofOutcome (by simp)
    refine .inl ⟨blank, _, ?_, unanswered⟩
    rw [read, answer, Question.ofText, dif_pos blank]
    rfl
  · obtain ⟨q, text, mode, question⟩ : ∃ q : Question,
        q.text = Text.trim (request.expression.getD []) ∧ q.mode = request.mode.getD .rad ∧
          Question.ofText (request.mode.getD .rad) (request.expression.getD []) = .ok q :=
      ⟨⟨_, _, Text.trim_trim _, blank⟩, rfl, rfl, Question.ofText_of_nonempty _ blank⟩
    refine .inr ⟨q, text, mode, ?_, ?_, ?_⟩
    · rw [read, answer, question, ← bind_pure_comp]
    · apply (always_tells pipeline q).imp
      intro outcome tells
      exact ⟨tells, tells.status_iff.1, tells.status_iff.2.2⟩
    · rcases run_run_cases pipeline q with ⟨outcome, _, alone⟩ | asked
      · exact .inl ⟨outcome, alone⟩
      · exact .inr asked

/-- A sum is answered with its double. A request without an expression is refused. -/
theorem respond_tells_sum :
    (Id.run (respond {} (some "application/json".toList)
        "\x7b\"expression\": \"0.1 + 0.2\"\x7d".toList)).Carries 200
      [("result".toList, .float ⟨0x3fd3333333333333⟩)] ∧
    (Id.run (respond {} (some "application/json".toList) "[null]".toList)).Carries 400
      [("error".toList, .string CalcError.emptyInput.message),
        ("kind".toList, .string "empty_input".toList)] := by
  have first : WebRequest.ofMessage (some "application/json".toList)
      "\x7b\"expression\": \"0.1 + 0.2\"\x7d".toList = .ok ⟨some "0.1 + 0.2".toList, none⟩ := by
    decide +kernel
  have second : WebRequest.ofMessage (some "application/json".toList) "[null]".toList =
      .ok ⟨none, none⟩ := by
    decide +kernel
  constructor
  · rcases respond_tells (m := Id) {} first with ⟨blank, _⟩ | ⟨q, text, mode, same, tells, _⟩
    · exact absurd blank (by decide)
    · have asked : q = ⟨"0.1 + 0.2".toList, .rad, by decide, by decide⟩ :=
        Question.eq_of_text_of_mode text mode
      subst asked
      have outcome : Id.run (run (m := OptionT Id) {}
          ⟨"0.1 + 0.2".toList, .rad, by decide, by decide⟩).run =
          some (.ok ⟨.numeric ⟨0x3fd3333333333333⟩, "0.1 + 0.2".toList, .typed, none⟩) := by
        decide +kernel
      have told := (always_id.mp tells).1
      rw [same]
      change (WebResponse.ofOutcome (Id.run (run (m := OptionT Id) {} _).run)).Carries 200 _
      change (WebResponse.ofOutcome (Id.run (run (m := OptionT Id) {} _).run)).Tells
        (Id.run (run (m := OptionT Id) {} _).run) at told
      rw [outcome] at told ⊢
      cases told with
      | number answer carries =>
          cases answer
          exact carries
      | text answer => contradiction
  · rcases respond_tells (m := Id) {} second with ⟨_, response, same, tells⟩ | ⟨q, text, _⟩
    · rw [same]
      cases tells with
      | failure carries => exact carries
    · exact absurd text q.nonempty

end Pipeline

end Reckoner
