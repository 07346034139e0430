import OnfiFlash.CommandLine.Invocation

/-! What the program says about itself: its version, and help on its verbs and options. -/
namespace OnfiFlash.CommandLine

def programName : String := "nandbridge"

def programVersion : String := "0.1.0"

def programAbout : String := "ONFI NAND programmer for the USB command bridge"

def versionText : String := programName ++ " " ++ programVersion

def Opt.placeholder? (option : Opt σ) : Option String :=
  match option.effect with
  | .value placeholder _ => some ("<" ++ placeholder ++ ">")
  | _ => none

/-- An option as it is written, the long form and the value. -/
def Opt.usage (option : Opt σ) : String :=
  let value := match option.placeholder? with
    | some placeholder => " " ++ placeholder
    | none => ""
  let again := match option.effect with
    | .count _ => "..."
    | _ => ""
  "--" ++ option.long ++ again ++ value

/-- An option with all its forms. -/
def Opt.forms (option : Opt σ) : String :=
  let short := match option.short? with
    | some c => String.ofList ['-', c, ',', ' ']
    | none => "    "
  short ++ option.usage

/-- Two columns, the second after the widest text of the first. -/
def columns (rows : List (String × String)) : List String :=
  let width := rows.foldl (fun width row => max width row.1.length) 0
  rows.map fun row => "  " ++ padRight width row.1 ++ "  " ++ row.2

def Level.optionColumns (level : Level σ) : List String :=
  columns (level.options.map fun option => (option.forms, option.about))

def Verb.usage (verb : Verb) : String :=
  let required := verb.level.options.filter (·.required)
  " ".intercalate ([programName, verb.name, "[OPTIONS]"] ++ required.map Opt.usage)

def programUsage : String := programName ++ " [OPTIONS] <COMMAND>"

def programHelp : List String :=
  let verbs := Verb.all.map fun verb => (verb.name, verb.about)
  let help := (Verb.helpName, "Print this message or the help of the given subcommand(s)")
  [programAbout, "", "Usage: " ++ programUsage, "", "Commands:"] ++ columns (verbs ++ [help])
    ++ ["", "Options:"] ++ topLevel.optionColumns

def Verb.help (verb : Verb) : List String :=
  let caution := match verb.caution? with
    | some text => ["", text]
    | none => []
  verb.about :: caution ++ ["", "Usage: " ++ verb.usage, "", "Options:"]
    ++ verb.level.optionColumns

def helpText : Option Verb → List String
  | some verb => verb.help
  | none => programHelp

end OnfiFlash.CommandLine
