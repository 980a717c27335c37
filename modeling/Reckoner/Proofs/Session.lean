import Reckoner.CommandLine
import Reckoner.Proofs.Always

/-!
# What a session keeps

At every prompt the angle mode is the one that was set last, and the history holds the newest
answers since it was last cleared. Both are read off the record of the lines taken so far and of
what was answered to them, whatever normalizer there is.
-/

namespace Reckoner

/-! ## Lines -/

namespace Command

/-- The mode that a command sets. -/
def mode? : Command → Option AngleMode
  | setMode mode => some mode
  | _ => none

/-- The commands that only show something. -/
def showing : List Command :=
  [skip, help, version, about, showHistory]

/-- A line is blank, or it is a word of the table, or it is a question. -/
inductive Reads (line : Text) : Command → Prop where
  | skip (blank : Text.trim line = []) : Reads line skip
  | word {command : Command} (known : (Text.trim line, command) ∈ table) : Reads line command
  | ask (nonempty : Text.trim line ≠ []) (unknown : ∀ entry ∈ table, entry.1 ≠ Text.trim line) :
      Reads line (ask (Text.trim line))

/-! The words of the table are not blank, and each stands for one command, which is no question. -/

theorem ne_nil_of_mem_table : ∀ entry ∈ table, entry.1 ≠ [] := by
  decide

theorem ne_skip_of_mem_table : ∀ entry ∈ table, entry.2 ≠ skip := by
  decide

theorem ne_ask_of_mem_table {entry : Text × Command} (mem : entry ∈ table) (t : Text) :
    entry.2 ≠ ask t := by
  revert entry
  simp [table]

theorem eq_of_mem_table :
    ∀ first ∈ table, ∀ second ∈ table, first.1 = second.1 → first = second := by
  decide

variable {line t : Text} {command : Command}

theorem find?_table_eq_some_iff {entry : Text × Command} :
    table.find? (·.1 = t) = some entry ↔ entry ∈ table ∧ entry.1 = t := by
  constructor
  · intro found
    exact ⟨List.mem_of_find?_eq_some found, of_decide_eq_true (List.find?_some found :)⟩
  · rintro ⟨mem, rfl⟩
    cases found : table.find? (·.1 = entry.1) with
    | none =>
        have unknown := List.find?_eq_none.mp found entry mem
        simp at unknown
    | some other =>
        have same : other.1 = entry.1 := of_decide_eq_true (List.find?_some found :)
        rw [eq_of_mem_table other (List.mem_of_find?_eq_some found) entry mem same]

theorem ofLine_eq_iff : ofLine line = command ↔ Reads line command := by
  constructor
  · rintro rfl
    by_cases blank : Text.trim line = []
    · rw [ofLine, if_pos blank]
      exact .skip blank
    · rw [ofLine, if_neg blank]
      cases found : table.find? (·.1 = Text.trim line) with
      | none => exact .ask blank (by simpa using found)
      | some entry =>
          rcases find?_table_eq_some_iff.mp found with ⟨mem, same⟩
          exact .word (by rwa [← same])
  · intro reads
    cases reads with
    | skip blank => rw [ofLine, if_pos blank]
    | word known =>
        have nonempty : Text.trim line ≠ [] := ne_nil_of_mem_table _ known
        rw [ofLine, if_neg nonempty, find?_table_eq_some_iff.mpr ⟨known, rfl⟩]
        rfl
    | ask nonempty unknown =>
        have absent : table.find? (·.1 = Text.trim line) = none := by simpa using unknown
        rw [ofLine, if_neg nonempty, absent]
        rfl

/-- What a line asks is the line without the blanks around it. -/
theorem ofLine_eq_ask_iff :
    ofLine line = ask t ↔
      t = Text.trim line ∧ Text.trim line ≠ [] ∧ ∀ entry ∈ table, entry.1 ≠ Text.trim line := by
  rw [ofLine_eq_iff]
  constructor
  · intro reads
    cases reads with
    | word known => exact absurd rfl (ne_ask_of_mem_table known t)
    | ask nonempty unknown => exact ⟨rfl, nonempty, unknown⟩
  · rintro ⟨rfl, nonempty, unknown⟩
    exact .ask nonempty unknown

theorem ofLine_eq_skip_iff : ofLine line = skip ↔ Text.trim line = [] := by
  rw [ofLine_eq_iff]
  constructor
  · intro reads
    cases reads with
    | skip blank => exact blank
    | word known => exact absurd rfl (ne_skip_of_mem_table _ known)
  · exact .skip

/-- The other commands are the words of the table. -/
theorem ofLine_eq_iff_mem_table (command : Command) (apart : command ≠ skip)
    (fixed : ∀ t, command ≠ ask t) :
    ofLine line = command ↔ (Text.trim line, command) ∈ table := by
  rw [ofLine_eq_iff]
  constructor
  · intro reads
    cases reads with
    | skip => contradiction
    | word known => exact known
    | ask => exact absurd rfl (fixed _)
  · exact .word

theorem ofLine_eq_leave_iff :
    ofLine line = leave ↔ Text.trim line ∈ ["exit", "quit"].map String.toList := by
  rw [ofLine_eq_iff_mem_table leave (by simp) (by simp)]
  simp [table]

theorem ofLine_eq_setMode_iff {mode : AngleMode} :
    ofLine line = setMode mode ↔
      (Text.trim line, mode) ∈ [("deg".toList, AngleMode.deg), ("rad".toList, .rad)] := by
  rw [ofLine_eq_iff_mem_table (setMode mode) (by simp) (by simp)]
  simp [table]

theorem ofLine_eq_clearHistory_iff :
    ofLine line = clearHistory ↔ Text.trim line = "history clear".toList := by
  rw [ofLine_eq_iff_mem_table clearHistory (by simp) (by simp)]
  simp [table]

theorem ofLine_mem_showing_iff :
    ofLine line ∈ showing ↔ Text.trim line ∈
      ["", "help", "version", "--version", "-v", "about", "--about", "history"].map
        String.toList := by
  simp only [showing, List.mem_cons, List.not_mem_nil, or_false, ofLine_eq_skip_iff,
    ofLine_eq_iff_mem_table help (by simp) (by simp),
    ofLine_eq_iff_mem_table version (by simp) (by simp),
    ofLine_eq_iff_mem_table about (by simp) (by simp),
    ofLine_eq_iff_mem_table showHistory (by simp) (by simp)]
  simp [table, or_assoc]

end Command

namespace Notice

/-- The outcome that a notice tells. -/
def outcome? : Notice → Option (Except Failure Success)
  | answered done => some (.ok done)
  | failed failure => some (.error failure)
  | _ => none

/-- The notice that tells an outcome. -/
def ofOutcome : Except Failure Success → Notice
  | .ok done => answered done
  | .error failure => failed failure

@[simp]
theorem outcome?_ofOutcome (outcome : Except Failure Success) :
    (ofOutcome outcome).outcome? = some outcome := by
  cases outcome <;> rfl

end Notice

namespace Session

variable {m : Type → Type} [Monad m]

/-! ## Steps -/

/-- What an outcome makes of a session, and what is answered. -/
def conclude (session : Session) (line : Text) : Except Failure Success → Session × Notice
  | .ok done =>
    ({ session with history := session.history.record (Text.trim line) done.answer.text },
      .answered done)
  | .error failure => (session, .failed failure)

@[simp]
theorem conclude_snd (session : Session) (line : Text) (outcome : Except Failure Success) :
    (session.conclude line outcome).2 = .ofOutcome outcome := by
  cases outcome <;> rfl

@[simp]
theorem mode_conclude (session : Session) (line : Text) (outcome : Except Failure Success) :
    (session.conclude line outcome).1.mode = session.mode := by
  cases outcome <;> rfl

section Lawful

variable [LawfulMonad m] {pipeline : Pipeline m} {session : Session} {line : Text}

theorem step_of_ask {t : Text} {q : Question} (asks : Command.ofLine line = .ask t)
    (question : Question.ofText session.mode line = .ok q) :
    session.step pipeline line = session.conclude line <$> pipeline.run q := by
  rcases Command.ofLine_eq_ask_iff.mp asks with ⟨rfl, _, _⟩
  rw [step, asks, ← bind_pure_comp]
  change session.ask pipeline (Text.trim line) = _
  rw [ask, Question.ofText_trim, question]
  refine bind_congr fun outcome => ?_
  cases outcome <;> rfl

/-- What a step can do. -/
inductive Takes (session : Session) (line : Text) : Session × Notice → Prop where
  | asks (outcome : Except Failure Success) (asks : Command.ofLine line = .ask (Text.trim line)) :
      Takes session line (session.conclude line outcome)
  | sets (mode : AngleMode) (sets : Command.ofLine line = .setMode mode) :
      Takes session line ({ session with mode }, .modeSet mode)
  | clears (clears : Command.ofLine line = .clearHistory) :
      Takes session line ({ session with history := session.history.clear }, .historyCleared)
  | leaves (leaves : Command.ofLine line = .leave) : Takes session line (session, .farewell)
  | shows (notice : Notice) (shows : Command.ofLine line ∈ Command.showing)
      (apart : notice.outcome? = none) (stays : notice ≠ .farewell) :
      Takes session line (session, notice)

theorem always_takes (pipeline : Pipeline m) (session : Session) (line : Text) :
    Always (session.Takes line) (session.step pipeline line) := by
  cases kind : Command.ofLine line with
  | ask t =>
      rcases Command.ofLine_eq_ask_iff.mp kind with ⟨rfl, nonempty, _⟩
      rw [step_of_ask kind (Question.ofText_of_nonempty session.mode nonempty)]
      exact .map (.of_forall (fun outcome => .asks outcome kind) _)
  | setMode mode => rw [step, kind]; exact .pure (.sets mode kind)
  | clearHistory => rw [step, kind]; exact .pure (.clears kind)
  | leave => rw [step, kind]; exact .pure (.leaves kind)
  | skip | help | version | about | showHistory =>
      rw [step, kind]
      exact .pure (.shows _ (by rw [kind]; decide) rfl nofun)

end Lawful

/-! ## Records

A record lists the lines taken so far, each with what was answered to it. -/

/-- The angle mode after lines: the last one that was set. -/
def modeAfter (start : AngleMode) (lines : List Text) : AngleMode :=
  ((lines.filterMap fun line => (Command.ofLine line).mode?).getLast?).getD start

theorem modeAfter_cons (start : AngleMode) (line : Text) (lines : List Text) :
    modeAfter start (line :: lines) =
      modeAfter ((Command.ofLine line).mode?.getD start) lines := by
  cases kind : (Command.ofLine line).mode? <;> simp [modeAfter, kind, List.getLast?_cons]

/-- The pair that a line leaves in the history, if it is answered. -/
def entryOf : Text × Notice → Option HistoryEntry
  | (line, .answered done) => some ⟨Text.trim line, done.answer.text⟩
  | _ => none

/-- The answers since the history was last cleared, newest first. -/
def answersSinceClear (record : List (Text × Notice)) : List HistoryEntry :=
  (record.reverse.takeWhile (Command.ofLine ·.1 ≠ .clearHistory)).filterMap entryOf

/-- The session is in the state that its record calls for. -/
structure Follows (start : AngleMode) (record : List (Text × Notice)) (session : Session) :
    Prop where
  mode_eq : session.mode = modeAfter start (record.map Prod.fst)
  entries_eq :
    session.history.entries = (answersSinceClear record).take History.defaultLimit
  limit_eq : session.history.limit = History.defaultLimit

theorem modeAfter_concat (start : AngleMode) (lines : List Text) (line : Text) :
    modeAfter start (lines ++ [line]) =
      (Command.ofLine line).mode?.getD (modeAfter start lines) := by
  cases kind : (Command.ofLine line).mode? <;> simp [modeAfter, kind]

theorem answersSinceClear_concat (record : List (Text × Notice)) (line : Text) (notice : Notice) :
    answersSinceClear (record ++ [(line, notice)]) =
      if Command.ofLine line = .clearHistory then []
      else (entryOf (line, notice)).toList ++ answersSinceClear record := by
  by_cases clears : Command.ofLine line = .clearHistory
  · simp [answersSinceClear, clears]
  · cases left : entryOf (line, notice) <;> simp [answersSinceClear, clears, left]

/-- A session starts with an empty record. -/
theorem follows_start (start : AngleMode) : Follows start [] { mode := start } where
  mode_eq := rfl
  entries_eq := rfl
  limit_eq := rfl

/-- The history has as many entries as there are answers since it was cleared, up to twenty. -/
theorem Follows.size_eq {start : AngleMode} {record : List (Text × Notice)} {session : Session}
    (follows : Follows start record session) :
    session.history.size = min 20 (answersSinceClear record).length := by
  rw [History.size, follows.entries_eq, List.length_take, History.defaultLimit]

namespace Takes

variable {session : Session} {line : Text} {next : Session × Notice}

theorem mode_eq (takes : Takes session line next) :
    next.1.mode = (Command.ofLine line).mode?.getD session.mode := by
  cases takes with
  | asks outcome asks => rw [asks, mode_conclude]; rfl
  | sets mode sets => rw [sets]; rfl
  | clears clears => rw [clears]; rfl
  | leaves leaves => rw [leaves]; rfl
  | shows notice shows =>
      have unset : ∀ command ∈ Command.showing, command.mode? = none := by decide
      rw [unset _ shows]
      rfl

theorem limit_eq (takes : Takes session line next) :
    next.1.history.limit = session.history.limit := by
  cases takes with
  | asks outcome => cases outcome <;> rfl
  | _ => rfl

theorem entries_eq (takes : Takes session line next) :
    next.1.history.entries =
      if Command.ofLine line = .clearHistory then []
      else ((entryOf (line, next.2)).toList ++ session.history.entries).take
        session.history.limit := by
  -- a history without a new entry is within its limit as it is
  have same : session.history.entries.take session.history.limit = session.history.entries :=
    List.take_of_length_le session.history.length_le
  cases takes with
  | asks outcome asks =>
      rw [asks, if_neg nofun]
      cases outcome with
      | ok done => rfl
      | error failure => exact same.symm
  | sets mode sets => rw [sets, if_neg nofun]; exact same.symm
  | clears clears => rw [clears, if_pos rfl]; rfl
  | leaves leaves => rw [leaves, if_neg nofun]; exact same.symm
  | shows notice shows apart =>
      have keeps : ∀ command ∈ Command.showing, command ≠ .clearHistory := by decide
      have unanswered : entryOf (line, notice) = none := by
        cases notice <;> first | rfl | contradiction
      rw [if_neg (keeps _ shows), unanswered]
      exact same.symm

end Takes

/-- One step keeps the session in the state that its record calls for. -/
theorem Follows.step {start : AngleMode} {record : List (Text × Notice)} {session : Session}
    {line : Text} {next : Session × Notice} (follows : Follows start record session)
    (takes : Takes session line next) : Follows start (record ++ [(line, next.2)]) next.1 where
  mode_eq := by
    rw [takes.mode_eq, follows.mode_eq, List.map_append, List.map_singleton, modeAfter_concat]
  entries_eq := by
    rw [takes.entries_eq, follows.limit_eq, follows.entries_eq, answersSinceClear_concat]
    split
    · rfl
    · -- an entry that the record has no room for is not missed when one more is put in front
      cases entryOf (line, next.2) with
      | none =>
          rw [Option.toList_none, List.nil_append, List.nil_append, List.take_take, Nat.min_self]
      | some entry =>
          simp only [Option.toList_some, List.singleton_append, History.defaultLimit,
            List.take_succ_cons, List.take_take]
          rfl
  limit_eq := takes.limit_eq.trans follows.limit_eq

/-! ## Runs -/

section Runs

variable [LawfulMonad m] {pipeline : Pipeline m} {session : Session} {line : Text}

theorem run_of_leave (leaves : Command.ofLine line = .leave) (lines : List Text) :
    run pipeline session (line :: lines) = pure [(session, .farewell)] := by
  rw [run, step, leaves]
  exact pure_bind _ _

/-- A line that does not end the session is followed by the other lines. -/
theorem run_of_stay (stays : Command.ofLine line ≠ .leave) (lines : List Text) :
    run pipeline session (line :: lines) =
      session.step pipeline line >>= fun next => (next :: ·) <$> run pipeline next.1 lines := by
  refine (always_takes pipeline session line).bind_congr fun next takes => ?_
  rw [← bind_pure_comp]
  cases takes with
  | asks outcome => cases outcome <;> rfl
  | sets | clears => rfl
  | leaves leaves => exact absurd leaves stays
  | shows notice _ _ other => cases notice <;> first | rfl | contradiction

/-- The lines that a session takes, the last of which may end it. -/
def taken (lines : List Text) : List Text :=
  lines.take (lines.findIdx (Command.ofLine · = .leave) + 1)

theorem taken_of_leave (leaves : Command.ofLine line = .leave) (lines : List Text) :
    taken (line :: lines) = [line] := by
  simp [taken, List.findIdx_cons, leaves]

theorem taken_of_stay (stays : Command.ofLine line ≠ .leave) (lines : List Text) :
    taken (line :: lines) = line :: taken lines := by
  simp [taken, List.findIdx_cons, stays]

/-- A run over lines answers the lines that are taken, and leaves the session at every prompt in the
state that the record up to there calls for. -/
structure Keeps (start : AngleMode) (record : List (Text × Notice)) (session : Session)
    (lines : List Text) (trace : List (Session × Notice)) : Prop where
  length_eq : trace.length = (taken lines).length
  follows : ∀ k state, (session :: trace.map Prod.fst)[k]? = some state →
    Follows start (record ++ (lines.zip (trace.map Prod.snd)).take k) state

theorem Keeps.nil {start : AngleMode} {record : List (Text × Notice)}
    (follows : Follows start record session) : Keeps start record session [] [] where
  length_eq := rfl
  follows k state found := by
    cases k with
    | zero => cases found; simpa using follows
    | succ k => contradiction

/-- A run that starts with a step keeps what the step and the rest of it keep. -/
theorem Keeps.cons {start : AngleMode} {record : List (Text × Notice)} {lines others : List Text}
    {next : Session × Notice} {trace : List (Session × Notice)}
    (follows : Follows start record session) (count : (taken (line :: lines)).length =
      (taken others).length + 1)
    (rest : Keeps start (record ++ [(line, next.2)]) next.1 others trace)
    (same : others.zip (trace.map Prod.snd) = lines.zip (trace.map Prod.snd)) :
    Keeps start record session (line :: lines) (next :: trace) where
  length_eq := by rw [List.length_cons, rest.length_eq, count]
  follows k state found := by
    cases k with
    | zero => cases found; simpa using follows
    | succ k =>
        have later := rest.follows k state found
        rwa [same, List.append_assoc] at later

/-- Whatever the normalizer replies, a run keeps the mode that was set last and the newest answers
since the history was cleared. -/
theorem always_keeps {start : AngleMode} {record : List (Text × Notice)}
    (follows : Follows start record session) (pipeline : Pipeline m) (lines : List Text) :
    Always (Keeps start record session lines) (run pipeline session lines) := by
  induction lines generalizing record session with
  | nil => exact .pure (.nil follows)
  | cons line lines ih =>
      by_cases leaves : Command.ofLine line = .leave
      · rw [run_of_leave leaves]
        have left : Follows start (record ++ [(line, .farewell)]) session :=
          follows.step (.leaves leaves)
        exact .pure (.cons follows (by rw [taken_of_leave leaves]; rfl) (.nil left) (by simp))
      · rw [run_of_stay leaves]
        refine (always_takes pipeline session line).bind fun next takes => .map ?_
        refine (ih (follows.step takes)).imp fun trace rest => ?_
        exact .cons follows (by rw [taken_of_stay leaves]; rfl) rest rfl

end Runs

/-- What is printed for notices, up to the prompt that gets no line. -/
def printed : List Notice → Transcript
  | [] => [prompt]
  | .farewell :: _ => prompt :: Notice.farewell.transcript
  | notice :: notices => prompt :: notice.transcript ++ printed notices

end Session

namespace CommandLine

open Session

variable {m : Type → Type} [Monad m] [LawfulMonad m]

/-- The command line prints what a run answers, behind a prompt for every line. -/
theorem runSession_eq_map_run (pipeline : Pipeline m) (session : Session) (lines : List Text) :
    runSession pipeline session (lines.map some) =
      (fun trace => ⟨0, printed (trace.map Prod.snd)⟩) <$> Session.run pipeline session lines := by
  induction lines generalizing session with
  | nil => rw [List.map_nil, runSession, Session.run, map_pure, List.map_nil, printed]
  | cons line lines ih =>
      rw [List.map_cons, runSession, Session.run, map_bind]
      refine bind_congr fun next => ?_
      rcases next with ⟨session, notice⟩
      cases notice <;> simp only [ih, map_pure, bind_pure_comp, Functor.map_map] <;> rfl

end CommandLine

end Reckoner
