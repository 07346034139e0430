import OnfiFlash.CommandLine.Help
import OnfiFlash.Program.Outcome

/-! The program that writes the manual: a page on the program and one on each of its verbs, in
the language of man pages. -/
namespace OnfiFlash.Program.Manual

open CommandLine

structure Page where
  name : String
  lines : List String
deriving DecidableEq, Repr

/-- A character as it is written in a man page. -/
def escapeChar (c : Char) : List Char :=
  if c = '-' then ['\\', '-'] else if c = '\\' then ['\\', 'e'] else [c]

/-- Text as it is written in a man page. A point or a quote in front would be a request. -/
def escape (text : String) : String :=
  let body := text.toList.flatMap escapeChar
  match body with
  | '.' :: _ => String.ofList ('\\' :: '&' :: body)
  | '\'' :: _ => String.ofList ('\\' :: '&' :: body)
  | _ => String.ofList body

def title (name : String) : String :=
  ".TH " ++ escape name ++ " 1 \"\" \"" ++ escape versionText ++ "\" \"NAND Programming Manual\""

def part (heading : String) (lines : List String) : List String := (".SH " ++ heading) :: lines

def entries (rows : List (String × String)) : List String :=
  rows.flatMap fun row => [".TP", escape row.1, escape row.2]

def optionEntries (level : Level σ) : List String :=
  entries (level.options.map fun option => (option.forms.trimAsciiStart.toString, option.about))

def pageName (verb : Verb) : String := programName ++ "-" ++ verb.name

def programPage : Page where
  name := programName
  lines :=
    [title programName]
    ++ part "NAME" [escape (programName ++ " - " ++ programAbout)]
    ++ part "SYNOPSIS" [escape programUsage]
    ++ part "OPTIONS" (optionEntries topLevel)
    ++ part "SUBCOMMANDS" (entries (Verb.all.map fun verb => (pageName verb ++ "(1)", verb.about)))

def verbPage (verb : Verb) : Page where
  name := pageName verb
  lines :=
    [title (pageName verb)]
    ++ part "NAME" [escape (verb.name ++ " - " ++ verb.about)]
    ++ part "SYNOPSIS" [escape verb.usage]
    ++ part "DESCRIPTION" ((verb.about :: verb.caution?.toList).map escape)
    ++ part "OPTIONS" (optionEntries verb.level)

def pages : List Page := programPage :: Verb.all.map verbPage

def filePath (directory file : String) : String :=
  if directory.isEmpty || directory.toList.getLast? = some '/' then directory ++ file
  else directory ++ "/" ++ file

def Page.path (directory : String) (page : Page) : String :=
  filePath directory (page.name ++ ".1")

/-- Write pages into a directory up to the first that cannot be written. -/
def writePages (directory : String) : List Page → Workdir → Workdir × Except FileError Unit
  | [], files => (files, .ok ())
  | page :: rest, files =>
    match files.save (page.path directory) (Outcome.textOf page.lines).toUTF8.toList with
    | .ok files => writePages directory rest files
    | .error e => (files, .error e)

/-- Write all pages into a directory, which is created if it is not there. -/
def write (directory : String) (files : Workdir) : Workdir × Except FileError Unit :=
  match files.makeDirectories directory with
  | (files, .ok ()) => writePages directory pages files
  | (files, .error e) => (files, .error e)

def summary (directory : String) : List String :=
  let main := programPage.path directory
  (pages.map fun page => "wrote " ++ page.path directory)
    ++ ["", "Preview with `man -l " ++ main ++ "`.",
      "Install by copying " ++ directory ++ "/*.1 into a man1 directory on MANPATH."]

/-- The directory for the pages, which is the argument of the program. -/
def directoryOf (arguments : List String) : String := arguments.head?.getD "man"

def run (arguments : List String) (files : Workdir) : Outcome :=
  let directory := directoryOf arguments
  match write directory files with
  | (files, .ok ()) => .success (Outcome.textOf (summary directory)) files
  | (files, .error e) => .failure ("Error: " ++ e.diagnostic) files

end OnfiFlash.Program.Manual
