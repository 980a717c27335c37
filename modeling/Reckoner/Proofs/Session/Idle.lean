import Reckoner.Proofs.Session

/-!
# What a line of a session depends on

Where a normalizer's reply depends on nothing but the question, what a line evaluates to depends on
nothing but the line and the mode in force. Lines that leave the mode alone and are not answered
change nothing about the others, so that they may be put in or left out.
-/

namespace Reckoner.Session

section Determined

variable {pipeline : Pipeline Id} {session : Session} {line : Text}

/-- What a line evaluates to in a mode, if it is a question. -/
def outcome? (pipeline : Pipeline Id) (mode : AngleMode) (line : Text) :
    Option (Except Failure Success) :=
  match Command.ofLine line, Question.ofText mode line with
  | .ask _, .ok q => some (Id.run (pipeline.run q))
  | _, _ => none

theorem step_takes (pipeline : Pipeline Id) (session : Session) (line : Text) :
    Takes session line (Id.run (session.step pipeline line)) :=
  always_id.mp (always_takes pipeline session line)

theorem outcome?_of_ask {t : Text} {q : Question} {mode : AngleMode}
    (asks : Command.ofLine line = .ask t) (question : Question.ofText mode line = .ok q) :
    outcome? pipeline mode line = some (Id.run (pipeline.run q)) := by
  rw [outcome?, asks, question]

theorem outcome?_of_command {mode : AngleMode} (command : ∀ t, Command.ofLine line ≠ .ask t) :
    outcome? pipeline mode line = none := by
  rw [outcome?]
  split
  · rename_i asks _
    exact absurd asks (command _)
  · rfl

/-- What is answered to a line depends on the line and on the mode. -/
theorem outcome?_step (pipeline : Pipeline Id) (session : Session) (line : Text) :
    (Id.run (session.step pipeline line)).2.outcome? = outcome? pipeline session.mode line := by
  cases kind : Command.ofLine line with
  | ask t =>
      rcases Command.ofLine_eq_ask_iff.mp kind with ⟨rfl, nonempty, _⟩
      have question := Question.ofText_of_nonempty session.mode nonempty
      rw [step_of_ask kind question, outcome?_of_ask kind question]
      exact (congrArg Notice.outcome? (conclude_snd session line _)).trans
        (Notice.outcome?_ofOutcome _)
  | setMode | clearHistory | leave | skip | help | version | about | showHistory =>
      rw [step, outcome?_of_command (by simp [kind]), kind]
      rfl

/-- A line that changes nothing in a session: it only shows something, or it is blank, or it asks
what cannot be answered. -/
def Idle (pipeline : Pipeline Id) (mode : AngleMode) (line : Text) : Prop :=
  Command.ofLine line ∈ Command.showing ∨
    ∃ failure, outcome? pipeline mode line = some (.error failure)

namespace Idle

variable {mode : AngleMode}

/-- An idle line is a question, or a command that only shows something. -/
theorem ne_command {command : Command} (idle : Idle pipeline mode line)
    (apart : command ∉ Command.showing) (fixed : ∀ t, command ≠ .ask t) :
    Command.ofLine line ≠ command := by
  rintro rfl
  rcases idle with shows | ⟨failure, failed⟩
  · exact apart shows
  · rw [outcome?_of_command fixed] at failed
    contradiction

theorem ne_leave (idle : Idle pipeline mode line) : Command.ofLine line ≠ .leave :=
  idle.ne_command (by decide) (by simp)

/-- An idle line leaves the session as it is. -/
theorem step_fst (idle : Idle pipeline session.mode line) :
    (Id.run (session.step pipeline line)).1 = session := by
  have takes := step_takes pipeline session line
  have told := outcome?_step pipeline session line
  generalize Id.run (session.step pipeline line) = next at takes told
  cases takes with
  | leaves | shows => rfl
  | sets mode sets => exact absurd sets (idle.ne_command (by simp [Command.showing]) (by simp))
  | clears clears => exact absurd clears (idle.ne_command (by decide) (by simp))
  | asks outcome asks =>
      rcases idle with shows | ⟨failure, failed⟩
      · rw [asks] at shows
        simp [Command.showing] at shows
      · rw [conclude_snd, Notice.outcome?_ofOutcome, failed] at told
        cases told
        rfl

end Idle

theorem run_of_stay_id (stays : Command.ofLine line ≠ .leave) (lines : List Text) :
    Id.run (run pipeline session (line :: lines)) =
      Id.run (session.step pipeline line) ::
        Id.run (run pipeline (Id.run (session.step pipeline line)).1 lines) :=
  congrArg Id.run (run_of_stay stays lines)

/-- What a line evaluates to depends on the line and on the mode in force. -/
theorem outcome?_run {lines : List Text} {k : Nat} {next : Session × Notice}
    (found : lines[k]? = some line)
    (answered : (Id.run (run pipeline session lines))[k]? = some next) :
    next.2.outcome? = outcome? pipeline (modeAfter session.mode (lines.take k)) line := by
  induction lines generalizing session k with
  | nil => contradiction
  | cons first lines ih =>
      by_cases leaves : Command.ofLine first = .leave
      · rw [run_of_leave leaves] at answered
        cases k with
        | zero =>
            cases found
            cases answered
            exact (outcome?_of_command (by rw [leaves]; nofun)).symm
        | succ k => contradiction
      · rw [run_of_stay_id leaves] at answered
        cases k with
        | zero =>
            cases found
            cases answered
            exact outcome?_step pipeline session line
        | succ k =>
            rw [ih found answered, List.take_succ_cons, modeAfter_cons,
              (step_takes pipeline session first).mode_eq]

/-- Idle lines add what is answered to them, and change nothing about what follows. -/
theorem run_idle_append {extra : List Text}
    (idle : ∀ line ∈ extra, Idle pipeline session.mode line) (after : List Text) :
    ∃ shown : List (Session × Notice), shown.length = extra.length ∧
      Id.run (run pipeline session (extra ++ after)) =
        shown ++ Id.run (run pipeline session after) := by
  induction extra with
  | nil => exact ⟨[], rfl, rfl⟩
  | cons line extra ih =>
      rcases List.forall_mem_cons.mp idle with ⟨first, others⟩
      rcases ih others with ⟨shown, count, same⟩
      refine ⟨Id.run (session.step pipeline line) :: shown, congrArg (· + 1) count, ?_⟩
      rw [List.cons_append, run_of_stay_id first.ne_leave, first.step_fst, same, List.cons_append]

/-- Idle lines that are put in between other lines change nothing about what is answered to
those. -/
theorem run_insert {before extra : List Text}
    (idle : ∀ line ∈ extra, Idle pipeline (modeAfter session.mode before) line)
    (after : List Text) :
    ∃ shown rest : List (Session × Notice),
      Id.run (run pipeline session (before ++ extra ++ after)) =
        Id.run (run pipeline session before) ++ shown ++ rest ∧
      Id.run (run pipeline session (before ++ after)) =
        Id.run (run pipeline session before) ++ rest ∧
      (shown.length = extra.length ∨
        (∃ line ∈ before, Command.ofLine line = .leave) ∧ shown = [] ∧ rest = []) := by
  induction before generalizing session with
  | nil =>
      rcases run_idle_append idle after with ⟨shown, count, same⟩
      exact ⟨shown, _, same, rfl, .inl count⟩
  | cons line before ih =>
      by_cases leaves : Command.ofLine line = .leave
      · simp only [List.cons_append, run_of_leave leaves]
        exact ⟨[], [], rfl, rfl, .inr ⟨⟨line, List.mem_cons_self, leaves⟩, rfl, rfl⟩⟩
      · rw [modeAfter_cons, ← (step_takes pipeline session line).mode_eq] at idle
        rcases ih idle with ⟨shown, rest, more, fewer, count⟩
        refine ⟨shown, rest, ?_, ?_, ?_⟩
        · simp only [List.cons_append, run_of_stay_id leaves, more]
        · simp only [List.cons_append, run_of_stay_id leaves, fewer]
        · refine count.imp_right fun ended => ⟨?_, ended.2⟩
          rcases ended.1 with ⟨last, mem, ends⟩
          exact ⟨last, List.mem_cons_of_mem line mem, ends⟩

end Determined

/-- A session keeps the mode that was set last and the newest answers since the history was cleared,
whatever normalizer there is. Where the replies depend on the questions alone, what a line evaluates
to depends on the line and the mode in force, and idle lines may be put in or left out. -/
theorem run_keeps {m : Type → Type} [Monad m] [LawfulMonad m] (pipeline : Pipeline m)
    (determined : Pipeline Id) (start : AngleMode) (lines : List Text) :
    (CommandLine.runSession pipeline { mode := start } (lines.map some) =
        (fun trace => ⟨0, printed (trace.map Prod.snd)⟩) <$> run pipeline { mode := start } lines ∧
      Always (Keeps start [] { mode := start } lines) (run pipeline { mode := start } lines)) ∧
    (∀ k line next, lines[k]? = some line →
      (Id.run (run determined { mode := start } lines))[k]? = some next →
        next.2.outcome? = outcome? determined (modeAfter start (lines.take k)) line) ∧
    (∀ before extra after, lines = before ++ extra ++ after →
      (∀ line ∈ extra, Idle determined (modeAfter start before) line) →
        ∃ shown rest : List (Session × Notice),
          Id.run (run determined { mode := start } lines) =
            Id.run (run determined { mode := start } before) ++ shown ++ rest ∧
          Id.run (run determined { mode := start } (before ++ after)) =
            Id.run (run determined { mode := start } before) ++ rest ∧
          (shown.length = extra.length ∨
            (∃ line ∈ before, Command.ofLine line = .leave) ∧ shown = [] ∧ rest = [])) := by
  refine ⟨⟨CommandLine.runSession_eq_map_run pipeline _ lines, ?_⟩, ?_, ?_⟩
  · exact always_keeps (follows_start start) pipeline lines
  · exact fun k line next found answered => outcome?_run found answered
  · rintro before extra after rfl idle
    exact run_insert idle after

/-- The lines of a session that changes its mode, forgets an answer, fails, and asks for help. -/
def sums : List Text :=
  ["deg", "1 + 1", "history clear", "1 / 0", "help", " 2 + 2 ", "exit", "3"].map String.toList

/-- The session keeps one answer, in the mode that was set. Without the line that fails and the one
that asks for help, the same is answered to the other lines. -/
theorem run_keeps_sums :
    (∃ state : Session,
      (({ mode := .rad } : Session) ::
        (Id.run (run {} { mode := .rad } sums)).map Prod.fst)[6]? = some state ∧
      state.mode = .deg ∧ state.history.entries = [⟨"2 + 2".toList, "4".toList⟩]) ∧
    (∃ next : Session × Notice,
      (Id.run (run {} { mode := .rad } sums))[3]? = some next ∧
      next.2.outcome? = some (.error ⟨.nonFiniteResult, none⟩)) ∧
    ∃ shown rest : List (Session × Notice), shown.length = 2 ∧
      Id.run (run {} { mode := .rad } sums) =
        Id.run (run {} { mode := .rad } (sums.take 3)) ++ shown ++ rest ∧
      Id.run (run {} { mode := .rad } (sums.take 3 ++ sums.drop 5)) =
        Id.run (run {} { mode := .rad } (sums.take 3)) ++ rest := by
  rcases run_keeps (m := Id) {} {} .rad sums with ⟨⟨_, kept⟩, told, between⟩
  have keeps := always_id.mp kept
  refine ⟨?_, ?_, ?_⟩
  · cases found : (({ mode := .rad } : Session) ::
        (Id.run (run {} { mode := .rad } sums)).map Prod.fst)[6]? with
    | none =>
        have present : ((({ mode := .rad } : Session) ::
          (Id.run (run {} { mode := .rad } sums)).map Prod.fst)[6]?).isSome = true := by
            decide +kernel
        rw [found] at present
        contradiction
    | some state =>
        have follows := keeps.follows 6 state found
        refine ⟨state, rfl, follows.mode_eq.trans (by decide +kernel), follows.entries_eq.trans ?_⟩
        decide +kernel
  · cases found : (Id.run (run {} { mode := .rad } sums))[3]? with
    | none =>
        have present : ((Id.run (run {} { mode := .rad } sums))[3]?).isSome = true := by
          decide +kernel
        rw [found] at present
        contradiction
    | some next =>
        refine ⟨next, rfl, (told 3 "1 / 0".toList next rfl found).trans ?_⟩
        decide +kernel
  · have idle : ∀ line ∈ ["1 / 0".toList, "help".toList],
        Idle {} (modeAfter .rad (sums.take 3)) line := by
      intro line mem
      rcases List.mem_pair.mp mem with rfl | rfl
      · exact .inr ⟨⟨.nonFiniteResult, none⟩, by decide +kernel⟩
      · exact .inl (by decide +kernel)
    rcases between (sums.take 3) _ (sums.drop 5) rfl idle with ⟨shown, rest, whole, short, count⟩
    refine ⟨shown, rest, count.resolve_right ?_, whole, short⟩
    rintro ⟨⟨line, mem, leaves⟩, _⟩
    have stay : ∀ line ∈ sums.take 3, Command.ofLine line ≠ .leave := by decide +kernel
    exact stay line mem leaves

end Reckoner.Session
