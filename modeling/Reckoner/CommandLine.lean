import Reckoner.Console.Folder
import Reckoner.Console.Report
import Reckoner.Settings.Server
import Reckoner.Settings.Service

/-!
# The command line

Reads the arguments and runs a session or a script. What is read from outside (arguments, settings,
files, lines) is given, and what is printed is returned.
-/

namespace Reckoner

open Transcript

/-- The pipeline that an environment asks for. Where a language service is configured it is asked,
and it cannot be reached from here. -/
def Pipeline.ofEnvironment {m : Type → Type} [Monad m] (localOnly : Bool) (env : Environment) :
    Pipeline m :=
  match localOnly, ServiceSettings.ofEnvironment env with
  | false, .ok _ =>
    { normalizer := some fun _ => return .error (.normalizationFailed .requestFailed) }
  | _, _ => {}

namespace CommandLine

/-- What is to be run. -/
structure Job where
  mode : AngleMode := .rad
  localOnly : Bool := false
  script : Option Text := none

/-- What the arguments ask for. -/
inductive Action where
  | help
  | version
  | about
  | start (job : Job)

/-- What the arguments ask for, `job` being what those before them ask for. An argument that is no
option names a script; the last one counts. -/
def Action.ofArguments (job : Job) : List Text → Action
  | [] => start job
  | argument :: rest =>
    if argument ∈ ["help".toList, "--help".toList, "-h".toList] then help
    else if argument ∈ ["--version".toList, "-v".toList] then version
    else if argument = "--about".toList then about
    else if argument = "--deg".toList then ofArguments { job with mode := .deg } rest
    else if argument = "--local".toList then ofArguments { job with localOnly := true } rest
    else ofArguments { job with script := some argument } rest

/-- What is printed for an error that ends the run. -/
def fatal (message : Text) (cause : Option Text) : Transcript :=
  errLine ("Error: ".toList ++ message) ++
    cause.elim [] fun t => errLine ("\nCaused by:\n    ".toList ++ t)

variable {m : Type → Type} [Monad m]

/-- Runs a script whose content is given. -/
def runScript (pipeline : Pipeline m) (mode : AngleMode) (path : Text)
    (content : Except FileError Text) : m RunResult :=
  match content with
  | .error e => pure ⟨1, fatal ("reading ".toList ++ path) (some e.message)⟩
  | .ok text => do
    let entries ← Script.run pipeline mode (Text.lines text)
    return ⟨0, outLine ("Running script: ".toList ++ path) ++
      entries.flatMap Script.Entry.transcript ++ outLine "Script finished.".toList⟩

/-- Runs a session over lines, one of which may not be text. -/
def runSession (pipeline : Pipeline m) (session : Session) : List (Option Text) → m RunResult
  | [] => pure ⟨0, [Session.prompt]⟩
  | none :: _ => pure ⟨1, Session.prompt :: fatal FileError.notText.message none⟩
  | some line :: lines => do
    let (next, notice) ← session.step pipeline line
    let printed := Session.prompt :: notice.transcript
    match notice with
    | .farewell => return ⟨0, printed⟩
    | _ =>
      let result ← runSession pipeline next lines
      return { result with transcript := printed ++ result.transcript }

/-- The banner of the command line; an environment may ask for no colours. -/
def banner (env : Environment) : Output :=
  .out (Banner.text (env "NO_COLOR".toList).isNone Banner.commandLineTitle)

/-- Runs the command line. -/
def run (arguments : List Text) (env : Environment) (file : Text → Except FileError Text)
    (input : List (Option Text)) : m RunResult :=
  match Action.ofArguments {} arguments with
  | .help => pure ⟨0, [banner env, .out Banner.help]⟩
  | .version => pure ⟨0, outLine Banner.version⟩
  | .about => pure ⟨0, outLine Banner.about⟩
  | .start job =>
    let pipeline := Pipeline.ofEnvironment job.localOnly env
    match job.script with
    | some path => runScript pipeline job.mode path (file path)
    | none => do
      let result ← runSession pipeline { mode := job.mode } input
      return { result with
        transcript := banner env :: Session.greeting job.mode ++ result.transcript }

/-- Starts the server, up to the point where it listens. -/
def startServer (env : Environment) : RunResult :=
  let banner := Output.out (Banner.text (env "NO_COLOR".toList).isNone Banner.serverTitle)
  match (ServerSettings.ofEnvironment env).bind ServerSettings.address with
  | .ok _ => ⟨0, [banner]⟩
  | .error e => ⟨1, banner :: fatal e.message none⟩

end CommandLine

end Reckoner
