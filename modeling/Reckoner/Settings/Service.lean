import Reckoner.Error
import Reckoner.Settings
import Reckoner.Text.Quoted

/-!
# Settings of the language service

Which service is asked to turn questions into expressions, and how long it may take.
-/

namespace Reckoner

/-- The settings of a language service. -/
structure ServiceSettings where
  key : Text
  model : Text
  endpoint : Text := "https://api.openai.com/v1/chat/completions".toList
  /-- How long an answer may take, in milliseconds. -/
  timeout : Nat := 20000
  deriving DecidableEq

namespace ServiceSettings

/-- The model that is asked where none is set. -/
def defaultModel : Text :=
  "gpt-4o-mini".toList

/-- The endpoint is a web address. -/
def hasWebEndpoint (settings : ServiceSettings) : Bool :=
  "http://".toList.isPrefixOf settings.endpoint || "https://".toList.isPrefixOf settings.endpoint

/-- The first thing that is wrong with the settings. -/
def fault? (settings : ServiceSettings) : Option ConfigError :=
  if (Text.trim settings.key).isEmpty then some .keyEmpty
  else if (Text.trim settings.model).isEmpty then some .modelEmpty
  else if !settings.hasWebEndpoint then some (.endpointNotHttp settings.endpoint)
  else if settings.timeout = 0 then some .timeoutZero
  else none

/-- The settings, if nothing is wrong with them. -/
def validated (settings : ServiceSettings) : Except CalcError ServiceSettings :=
  match settings.fault? with
  | some cause => .error (.configuration cause)
  | none => .ok settings

/-- The time limit that a setting asks for; it is given in seconds, and zero counts as one. -/
def timeoutOf (setting : Option Text) (default : Nat) : Except CalcError Nat :=
  match setting with
  | none => .ok default
  | some found =>
    match Settings.natural? (Nat.pow 2 64) found with
    | some seconds => .ok (1000 * max seconds 1)
    | none => .error (.configuration (.timeoutNotANumber found))

/-- The settings in an environment. -/
def ofEnvironment (env : Environment) : Except CalcError ServiceSettings :=
  match (env.setting? "NATMATH_AI_KEY").or (env.setting? "OPENAI_API_KEY") with
  | none => .error (.configuration .keyNotSet)
  | some key => do
    let settings : ServiceSettings :=
      { key, model := (env.setting? "NATMATH_AI_MODEL").getD defaultModel }
    let timeout ← timeoutOf (env.setting? "NATMATH_AI_TIMEOUT_SECS") settings.timeout
    let endpoint := (env.setting? "NATMATH_AI_ENDPOINT").getD settings.endpoint
    validated { settings with endpoint, timeout }

/-- A time in milliseconds in the largest unit, seconds with up to three places. -/
def durationText (milliseconds : Nat) : Text :=
  if milliseconds = 0 then "0ns".toList
  else if milliseconds < 1000 then decimalDigits milliseconds ++ "ms".toList
  else
    let places := decimalDigits (milliseconds % 1000 + 1000)
    let fraction := Text.dropTrailing (· == '0') (places.drop 1)
    decimalDigits (milliseconds / 1000) ++
      (if fraction.isEmpty then [] else '.' :: fraction) ++ ['s']

/-- The settings as they may be shown; the key is not. -/
def summary (settings : ServiceSettings) : Text :=
  "NormalizerConfig \x7b api_key: ".toList ++ Text.quoted "<redacted>".toList ++
    ", model: ".toList ++ Text.quoted settings.model ++
    ", endpoint: ".toList ++ Text.quoted settings.endpoint ++
    ", timeout: ".toList ++ durationText settings.timeout ++ " \x7d".toList

end ServiceSettings

end Reckoner
