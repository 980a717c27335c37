import Reckoner.CommandLine

/-!
# The program

Runs the command line on the arguments, the environment, the files and the input of the process.
-/

namespace Reckoner.Program

/-- Prints a transcript. -/
def print (transcript : Transcript) : IO Unit := do
  let out ← IO.getStdout
  let err ← IO.getStderr
  for piece in transcript do
    match piece with
    | .out t => out.putStr (String.ofList t)
    | .err t => err.putStr (String.ofList t)
  out.flush

/-- The settings that the program looks at. -/
def settingNames : List String :=
  ["NO_COLOR", "NATMATH_AI_KEY", "OPENAI_API_KEY", "NATMATH_AI_MODEL", "NATMATH_AI_ENDPOINT",
    "NATMATH_AI_TIMEOUT_SECS"]

/-- The environment of the process. -/
def environment : IO Environment := do
  let mut found : List (Text × Text) := []
  for name in settingNames do
    if let some value ← IO.getEnv name then
      found := (name.toList, value.toList) :: found
  let settings := found
  return fun name => (settings.find? (·.1 = name)).map (·.2)

/-- Why the system cannot read a file. -/
def fileError : IO.Error → FileError
  | .noFileOrDirectory .. => .notFound
  | .permissionDenied .. => .denied
  | .invalidArgument .. => .nameTooLong
  | .inappropriateType (some _) .. => .notADirectory
  | _ => .isDirectory

/-- The content of a file as text. -/
def readFile (path : Text) : IO (Except FileError Text) := do
  try
    let bytes ← IO.FS.readBinFile (String.ofList path)
    match Text.ofUtf8? bytes.toList with
    | some t => return .ok t
    | none => return .error .notText
  catch e => return .error (fileError e)

/-- Takes lines from the input until the session ends. -/
partial def converse (pipeline : Pipeline Id) (session : Session) (input : IO.FS.Stream) :
    IO UInt32 := do
  print [Session.prompt]
  let bytes ← readLine input ByteArray.empty
  match Text.linesOfUtf8 bytes.toList with
  | [] => return 0
  | none :: _ =>
    print (CommandLine.fatal FileError.notText.message none)
    return 1
  | some line :: _ =>
    let (next, notice) := Id.run (session.step pipeline line)
    print notice.transcript
    match notice with
    | .farewell => return 0
    | _ => converse pipeline next input
where
  /-- Reads bytes up to a line feed or the end of the input. -/
  readLine (input : IO.FS.Stream) (read : ByteArray) : IO ByteArray := do
    let byte ← input.read 1
    if byte.isEmpty then return read
    else if byte.toList = [10] then return read ++ byte
    else readLine input (read ++ byte)

end Reckoner.Program

open Reckoner Reckoner.Program in
/-- Runs the command line; sessions take their input line by line. -/
def main (arguments : List String) : IO UInt32 := do
  let arguments := arguments.map String.toList
  let env ← environment
  match CommandLine.Action.ofArguments {} arguments with
  | .start { mode, localOnly, script := none } =>
    print (CommandLine.banner env :: Session.greeting mode)
    converse (Pipeline.ofEnvironment localOnly env) { mode } (← IO.getStdin)
  | .start { script := some path, .. } =>
    let content ← readFile path
    let result := Id.run (CommandLine.run arguments env (fun _ => content) [])
    print result.transcript
    return .ofNat result.code
  | _ =>
    let result := Id.run (CommandLine.run arguments env (fun _ => .error .notFound) [])
    print result.transcript
    return .ofNat result.code
