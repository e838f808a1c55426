import CoordinatorGateway.Settings.Check
import CoordinatorGateway.Settings.Environment
import CoordinatorGateway.Settings.File

namespace CoordinatorGateway

inductive SettingsFile where
  | unnamed
  | missing
  | text (s : String)
  deriving DecidableEq, Repr

inductive SettingsError where
  | fileMissing
  | malformed
  | badVariable (e : VariableError)
  | faults (fs : List SettingsFault)
  deriving DecidableEq, Repr

def SettingsError.message : SettingsError → String
  | .fileMissing => "No such file or directory (os error 2)"
  | .malformed => "the settings file is malformed"
  | .badVariable e => e.message
  | .faults fs =>
    "Configuration errors:\n  - " ++ "\n  - ".intercalate (fs.map SettingsFault.message)

namespace Settings

def ofFile : SettingsFile → Except SettingsError Settings
  | .unnamed => .ok {}
  | .missing => .error .fileMissing
  | .text s =>
    match (Toml.read? s).bind Settings.ofDocument with
    | some settings => .ok settings
    | none => .error .malformed

def check (s : Settings) : Except SettingsError Settings :=
  if s.faults = [] then .ok s else .error (.faults s.faults)

def load (file : SettingsFile) (env : Environment) : Except SettingsError Settings :=
  match ofFile file with
  | .error e => .error e
  | .ok s =>
    match s.override env with
    | .error e => .error (.badVariable e)
    | .ok s => s.check

end Settings

end CoordinatorGateway
