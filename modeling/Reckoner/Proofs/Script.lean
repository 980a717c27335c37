import Reckoner.Proofs.Session
import Reckoner.Proofs.Text.Lines

/-!
# Scripts and sessions

A script answers its lines as a session does in which the same lines are typed, as long as the lines
mean the same to both: they are neither blank nor comments, and none of them is a command. Both then
put the same questions to the pipeline, in the same order, and report the same results and errors.
-/

namespace Reckoner

/-! ## Lines that ask the same of both -/

/-- The line is neither blank nor a comment, and it is no command. -/
structure IsPlain (line : Text) : Prop where
  nonempty : Text.trim line ≠ []
  notComment : Script.isComment (Text.trim line) = false
  notCommand : ∀ entry ∈ Command.table, entry.1 ≠ Text.trim line

namespace IsPlain

variable {line : Text}

theorem withoutReturn (plain : IsPlain line) : IsPlain (Text.withoutReturn line) where
  nonempty := by rw [Text.trim_withoutReturn]; exact plain.nonempty
  notComment := by rw [Text.trim_withoutReturn]; exact plain.notComment
  notCommand := by rw [Text.trim_withoutReturn]; exact plain.notCommand

/-- The question that a line asks. -/
def question (mode : AngleMode) (plain : IsPlain line) : Question :=
  ⟨Text.trim line, mode, Text.trim_trim line, plain.nonempty⟩

theorem ofLine_eq (plain : IsPlain line) : Command.ofLine line = .ask (Text.trim line) :=
  Command.ofLine_eq_ask_iff.mpr ⟨rfl, plain.nonempty, plain.notCommand⟩

end IsPlain

/-- The marks of comments and the words of commands, written out. -/
theorem isPlain_iff {line : Text} :
    IsPlain line ↔ Text.trim line ≠ [] ∧
      (¬ "#".toList <+: Text.trim line ∧ ¬ "//".toList <+: Text.trim line) ∧
      Text.trim line ∉ ["exit", "quit", "help", "version", "--version", "-v", "about", "--about",
        "deg", "rad", "history clear", "history"].map String.toList := by
  have words : Command.table.map Prod.fst = ["exit", "quit", "help", "version", "--version", "-v",
      "about", "--about", "deg", "rad", "history clear", "history"].map String.toList := rfl
  have unknown : (∀ entry ∈ Command.table, entry.1 ≠ Text.trim line) ↔
      Text.trim line ∉ Command.table.map Prod.fst := by
    rw [List.mem_map, not_exists]
    exact forall_congr' fun entry => not_and.symm
  have marks : Script.isComment (Text.trim line) = false ↔
      ¬ "#".toList <+: Text.trim line ∧ ¬ "//".toList <+: Text.trim line := by
    rw [Script.isComment, Bool.or_eq_false_iff, ← List.isPrefixOf_iff_prefix,
      ← List.isPrefixOf_iff_prefix, Bool.not_eq_true, Bool.not_eq_true]
    rfl
  rw [← words, ← unknown, ← marks]
  exact ⟨fun plain => ⟨plain.nonempty, plain.notComment, plain.notCommand⟩,
    fun holds => ⟨holds.1, holds.2.1, holds.2.2⟩⟩

/-- A list of questions asks what the lines say, each in its turn and in the mode. -/
def Asks (mode : AngleMode) (lines : List Text) (questions : List Question) : Prop :=
  questions.map (·.text) = lines.map Text.trim ∧ ∀ q ∈ questions, q.mode = mode

/-- The lines and the mode leave no choice of questions. -/
theorem Asks.unique {mode : AngleMode} {lines : List Text} {first second : List Question}
    (one : Asks mode lines first) (other : Asks mode lines second) : first = second := by
  have texts : first.map (·.text) = second.map (·.text) := one.1.trans other.1.symm
  rcases one with ⟨_, modes⟩
  rcases other with ⟨_, others⟩
  clear * - texts modes others
  induction first generalizing second with
  | nil => exact (List.map_eq_nil_iff.mp texts.symm).symm
  | cons q first ih =>
      cases second with
      | nil => contradiction
      | cons p second =>
          rcases List.forall_mem_cons.mp modes with ⟨mode, modes⟩
          rcases List.forall_mem_cons.mp others with ⟨same, others⟩
          rcases List.cons_eq_cons.mp texts with ⟨text, texts⟩
          rw [ih texts modes others, Question.eq_of_text_of_mode text (mode.trans same.symm)]

theorem asks_withoutReturn {mode : AngleMode} {lines : List Text} {questions : List Question} :
    Asks mode (lines.map Text.withoutReturn) questions ↔ Asks mode lines questions := by
  have same : Text.trim ∘ Text.withoutReturn = Text.trim := funext Text.trim_withoutReturn
  rw [Asks, Asks, List.map_map, same]

namespace Script

variable {mode : AngleMode} {lines : List Text}

theorem questions_cons {line : Text} (plain : IsPlain line) (mode : AngleMode)
    (lines : List Text) :
    questions mode (line :: lines) = plain.question mode :: questions mode lines := by
  rw [questions, List.filterMap_cons, plain.notComment,
    Question.ofText_of_nonempty mode plain.nonempty]
  rfl

/-- A script asks what its plain lines say. -/
theorem asks_questions (plain : ∀ line ∈ lines, IsPlain line) :
    Asks mode lines (questions mode lines) := by
  induction lines with
  | nil => exact ⟨rfl, nofun⟩
  | cons line lines ih =>
      rcases List.forall_mem_cons.mp plain with ⟨first, others⟩
      rcases ih others with ⟨texts, modes⟩
      rw [questions_cons first]
      exact ⟨congrArg (Text.trim line :: ·) texts, List.forall_mem_cons.mpr ⟨rfl, modes⟩⟩

variable {m : Type → Type} [Monad m] [LawfulMonad m]

theorem run_eq_map (pipeline : Pipeline m) (mode : AngleMode) (lines : List Text) :
    run pipeline mode lines =
      List.zipWith Entry.mk (questions mode lines) <$>
        (questions mode lines).mapM pipeline.run := by
  rw [run]
  induction questions mode lines with
  | nil => simp
  | cons q rest ih =>
      rw [List.mapM_cons, List.mapM_cons, ih]
      simp

end Script

/-! ## Outcomes -/

/-- What is reported of an outcome: the text of the answer, or the message of the error. -/
def reported : Except Failure Success → Except Text Text
  | .ok done => .ok done.answer.text
  | .error failure => .error failure.error.message

/-- The text that was evaluated, where it is not the question's. -/
def readAs : Except Failure Success → Option Text
  | .ok done => done.normalized
  | .error failure => failure.normalized

namespace Script

open Transcript

/-- How a script puts what is reported of a line. -/
def report (line : Text) : Except Text Text → Transcript
  | .ok result => outLine (line ++ " = ".toList ++ result)
  | .error message => errLine ("Error: ".toList ++ line ++ ": ".toList ++ message)

theorem Entry.transcript_eq (q : Question) (outcome : Except Failure Success) :
    Entry.transcript ⟨q, outcome⟩ = report q.text (reported outcome) := by
  cases outcome <;> rfl

theorem flatMap_transcript {mode : AngleMode} {lines : List Text} {questions : List Question}
    (asks : Asks mode lines questions) (outcomes : List (Except Failure Success)) :
    (List.zipWith Entry.mk questions outcomes).flatMap Entry.transcript =
      (List.zipWith (fun line outcome => report (Text.trim line) (reported outcome))
        lines outcomes).flatten := by
  calc (List.zipWith Entry.mk questions outcomes).flatMap Entry.transcript
      = (List.zipWith (fun t outcome => report t (reported outcome))
          (questions.map (·.text)) outcomes).flatten := by
        rw [List.flatMap_def, List.map_zipWith, List.zipWith_map_left]
        simp only [Entry.transcript_eq]
    _ = _ := by rw [asks.1, List.zipWith_map_left]

end Script

namespace Session

open Transcript

/-- How a session puts what is reported of a line. -/
def report (readAs : Option Text) : Except Text Text → Transcript
  | .ok result => outLine ("= ".toList ++ result) ++ normalizedLine outLine readAs
  | .error message => errLine ("Error: ".toList ++ message) ++ normalizedLine errLine readAs

theorem printed_ofOutcome (outcomes : List (Except Failure Success)) :
    printed (outcomes.map Notice.ofOutcome) =
      outcomes.flatMap (fun outcome => prompt :: report (readAs outcome) (reported outcome)) ++
        [prompt] := by
  induction outcomes with
  | nil => rfl
  | cons outcome outcomes ih =>
      rw [List.map_cons, List.flatMap_cons, List.append_assoc, ← ih]
      cases outcome <;> rfl

variable {m : Type → Type} [Monad m] [LawfulMonad m]

/-- A session answers plain lines from the outcomes of the questions that a script has for them. -/
theorem notices_run (pipeline : Pipeline m) (session : Session) {lines : List Text}
    (plain : ∀ line ∈ lines, IsPlain line) :
    List.map Prod.snd <$> run pipeline session lines =
      List.map Notice.ofOutcome <$>
        (Script.questions session.mode lines).mapM pipeline.run := by
  induction lines generalizing session with
  | nil => simp [run, Script.questions]
  | cons line lines ih =>
      rcases List.forall_mem_cons.mp plain with ⟨first, others⟩
      have asked := Question.ofText_of_nonempty session.mode first.nonempty
      have stays : Command.ofLine line ≠ .leave := by simp [first.ofLine_eq]
      rw [run_of_stay stays, step_of_ask first.ofLine_eq asked,
        Script.questions_cons first, List.mapM_cons, bind_map_left, map_bind, map_bind]
      refine bind_congr fun outcome => ?_
      have rest := ih (session.conclude line outcome).1 others
      rw [mode_conclude] at rest
      calc List.map Prod.snd <$> (session.conclude line outcome :: ·) <$>
            run pipeline (session.conclude line outcome).1 lines
          = ((session.conclude line outcome).2 :: ·) <$> List.map Prod.snd <$>
              run pipeline (session.conclude line outcome).1 lines := by
            simp only [Functor.map_map, List.map_cons]
        _ = (Notice.ofOutcome outcome :: ·) <$> List.map Notice.ofOutcome <$>
              (Script.questions session.mode lines).mapM pipeline.run := by
            rw [conclude_snd, rest]
        _ = _ := by simp

end Session

namespace CommandLine

open Transcript

/-- A script and a session in which the same lines are typed put the same questions to the pipeline,
in the same order, and report the same results and errors for the same lines. -/
theorem runScript_agrees {m : Type → Type} [Monad m] [LawfulMonad m] (pipeline : Pipeline m)
    (mode : AngleMode) (path : Text) {lines : List Text} {text : Text}
    (writes : Text.Writes lines text) (single : ∀ line ∈ lines, '\n' ∉ line)
    (plain : ∀ line ∈ lines, IsPlain line) :
    ∃ questions : List Question, Asks mode lines questions ∧
      runScript pipeline mode path (.ok text) =
        (fun outcomes => ⟨0, outLine ("Running script: ".toList ++ path) ++
          (List.zipWith (fun line outcome => Script.report (Text.trim line) (reported outcome))
            lines outcomes).flatten ++ outLine "Script finished.".toList⟩) <$>
          questions.mapM pipeline.run ∧
      runSession pipeline { mode } ((Text.lines text).map some) =
        (fun outcomes => ⟨0, outcomes.flatMap (fun outcome =>
          Session.prompt :: Session.report (readAs outcome) (reported outcome)) ++
            [Session.prompt]⟩) <$>
          questions.mapM pipeline.run := by
  have read : Text.lines text = lines.map Text.withoutReturn := by
    rw [Text.lines, writes.splitLines_eq single]
  have plainRead : ∀ line ∈ lines.map Text.withoutReturn, IsPlain line := by
    simpa using fun line mem => (plain line mem).withoutReturn
  have asks : Asks mode lines (Script.questions mode (Text.lines text)) := by
    rw [← asks_withoutReturn, read]
    exact Script.asks_questions plainRead
  refine ⟨Script.questions mode (Text.lines text), asks, ?_, ?_⟩
  · rw [runScript, Script.run_eq_map]
    simp only [bind_pure_comp, Functor.map_map, Script.flatMap_transcript asks]
  · have told := Session.notices_run pipeline { mode } (read ▸ plainRead)
    calc runSession pipeline { mode } ((Text.lines text).map some)
        = (fun notices => ⟨0, Session.printed notices⟩) <$> List.map Prod.snd <$>
            Session.run pipeline { mode } (Text.lines text) := by
          rw [runSession_eq_map_run, Functor.map_map]
      _ = _ := by
          rw [told, Functor.map_map]
          simp only [Session.printed_ofOutcome]

/-- A sum and a quotient without a value. -/
theorem runScript_agrees_sums :
    (Id.run (runScript {} .rad "sums".toList (.ok "2 + 2\n 1 / 0".toList))).transcript =
      [.out "Running script: sums\n".toList, .out "2 + 2 = 4\n".toList,
        .err ("Error: 1 / 0: ".toList ++ CalcError.nonFiniteResult.message ++ ['\n']),
        .out "Script finished.\n".toList] ∧
    (Id.run (runSession {} { mode := .rad }
        ((Text.lines "2 + 2\n 1 / 0".toList).map some))).transcript =
      [.out "> ".toList, .out "= 4\n".toList, .out "> ".toList,
        .err ("Error: ".toList ++ CalcError.nonFiniteResult.message ++ ['\n']),
        .out "> ".toList] := by
  have plain : ∀ line ∈ ["2 + 2".toList, " 1 / 0".toList], IsPlain line := by
    intro line mem
    rcases List.mem_pair.mp mem with rfl | rfl
    · exact ⟨by decide, by decide, by decide⟩
    · exact ⟨by decide, by decide, by decide⟩
  rcases runScript_agrees (m := Id) {} .rad "sums".toList
    (.cons "2 + 2".toList (.last " 1 / 0".toList (by decide))) (by decide) plain
    with ⟨questions, asks, script, session⟩
  have asked : questions = [⟨"2 + 2".toList, .rad, by decide, by decide⟩,
      ⟨"1 / 0".toList, .rad, by decide, by decide⟩] :=
    asks.unique ⟨by decide, by simp⟩
  subst asked
  constructor
  · exact (congrArg RunResult.transcript script).trans (by decide +kernel)
  · exact (congrArg RunResult.transcript session).trans (by decide +kernel)

end CommandLine

end Reckoner
