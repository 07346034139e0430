import OnfiFlash.Program.Flash
import OnfiFlash.Program.Manual

/-! The programs as they are started. What is on disk along the paths that a run needs is looked
at before the run, and what the run changes is written after it. Run under the name
`gen-manpage`, the program writes the manual. No real bus can be reached from here, so no USB
bridge is ever connected. -/
namespace OnfiFlash.Disk

def isDirectory (path : String) : IO Bool := do
  try
    (← IO.FS.realPath path).isDir
  catch _ =>
    return false

def contents? (path : String) : IO (Option (List UInt8)) := do
  try
    let bytes ← IO.FS.readBinFile path
    return some bytes.toList
  catch _ =>
    return none

/-- Note what is on disk along the rest of a path. A part that is missing may be created by the run,
so the parts after it count too. -/
def observeFrom (dir : Workdir) (here : Place) : List String → IO Workdir
  | [] => return dir
  | part :: rest => do
    let there := here.step part
    if ← isDirectory (there.path) then
      observeFrom (dir.noteDirectory there) there rest
    else match ← contents? (there.path) with
      | some bytes => return { dir with files := Workdir.put there bytes dir.files }
      | none => observeFrom dir there rest

def observe (paths : List String) : IO Workdir :=
  paths.foldlM (fun dir path => observeFrom dir (Place.start path) (pathParts path)) {}

def update (before after : Workdir) : IO Unit := do
  for place in after.directories do
    if !before.directories.contains place then
      IO.FS.createDirAll (place.path)
  for (place, contents) in after.files do
    if before.file? place != some contents then
      IO.FS.writeBinFile (place.path) ⟨contents.toArray⟩

end OnfiFlash.Disk

namespace OnfiFlash.Program

def logLine (notice : Notice) : String :=
  let label := match notice.severity with
    | .warning => "WARN"
    | .error => "ERROR"
  s!"[{label}] " ++ notice.text

def neededPaths (manual : Bool) (arguments : List String) : List String :=
  if manual then
    Manual.pages.map (Manual.Page.path (Manual.directoryOf arguments))
  else match CommandLine.Invocation.parse arguments with
    | .ok invocation => invocation.paths
    | .error _ => []

/-- Run one of the programs with the files on disk. -/
def runOnDisk (manual : Bool) (arguments : List String) : IO UInt32 := do
  let before ← Disk.observe (neededPaths manual arguments)
  let outcome := if manual then Manual.run arguments before else run arguments before {}
  Disk.update before outcome.files
  IO.print outcome.output
  for notice in outcome.notices do
    IO.eprintln (logLine notice)
  for complaint in outcome.complaint?.toList do
    IO.eprintln complaint
  return UInt32.ofNat outcome.exitCode

end OnfiFlash.Program

def main (arguments : List String) : IO UInt32 := do
  let name? := (← IO.appPath).fileName
  OnfiFlash.Program.runOnDisk (name? == some "gen-manpage") arguments
