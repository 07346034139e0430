import OnfiFlash.Settings
import OnfiFlash.Workdir

/-! Loading the settings file. -/
namespace OnfiFlash

inductive LoadError where
  | unreadable (path : String) (cause : FileError)
  | invalid (path : String) (cause : SettingsError)
deriving DecidableEq, Repr

/-- What is said on settings that cannot be loaded: a line, and one more where there is something
particular to say. -/
def LoadError.message : LoadError → String
  | unreadable path cause =>
    let reason := cause.message
    s!"failed to read config file '{path}': {reason}"
  | invalid path cause =>
    let detail := match cause.detail? with
      | some text => "\n" ++ text
      | none => ""
    s!"invalid config file '{path}'{detail}"

/-- The settings of a file, or no settings where none is given. -/
def Settings.load (files : Workdir) : Option String → Except LoadError Settings
  | none => .ok {}
  | some path => do
    let text ← (files.loadText path).mapError (.unreadable path)
    (parse text).mapError (.invalid path)

end OnfiFlash
