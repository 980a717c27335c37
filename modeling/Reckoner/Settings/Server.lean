import Reckoner.Error
import Reckoner.Settings
import Reckoner.Settings.Address

/-!
# Settings of the server

Where the server listens, and whether it may ask a language service.
-/

namespace Reckoner

/-- The settings of the server. -/
structure ServerSettings where
  host : Text := "127.0.0.1".toList
  port : Nat := 8081
  /-- No language service is asked, even where one is configured. -/
  localOnly : Bool := false
  deriving DecidableEq

namespace ServerSettings

/-- The port that a setting asks for. -/
def portOf (setting : Option Text) : Except CalcError Nat :=
  match setting with
  | none => .ok ({} : ServerSettings).port
  | some found =>
    match Settings.natural? (Nat.pow 2 16) (Text.trim found) with
    | some port => .ok port
    | none => .error (.configuration (.badPort found))

/-- The settings in an environment. -/
def ofEnvironment (env : Environment) : Except CalcError ServerSettings := do
  let port ← portOf (env "PORT".toList)
  return {
    host := (env.setting? "HOST").getD ({} : ServerSettings).host
    port := port
    localOnly := Settings.isOn (env "NATMATH_LOCAL_ONLY".toList) }

/-- The address to listen on. -/
def address (settings : ServerSettings) : Except CalcError SocketAddress :=
  match SocketAddress.ofText? (settings.host ++ ':' :: decimalDigits settings.port) with
  | some address => .ok address
  | none => .error (.configuration .badAddress)

end ServerSettings

end Reckoner
