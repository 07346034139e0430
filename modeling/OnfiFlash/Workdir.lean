import OnfiFlash.Text.Diagnostic
import OnfiFlash.Text.Quoted
import OnfiFlash.Workdir.Place

/-! A directory of files that commands read and write. -/
namespace OnfiFlash

inductive FileError where
  | notFound
  | alreadyExists
  | notADirectory
  | isADirectory
  | nameTooLong
  /-- The contents are not text in UTF-8. -/
  | notText
deriving DecidableEq, Repr

namespace FileError

/-- The number, the kind and the wording that the system gives to an error, where the system is
the one that reports it. -/
def systemForm : FileError → Option (Nat × String × String)
  | notFound => some (2, "NotFound", "No such file or directory")
  | alreadyExists => some (17, "AlreadyExists", "File exists")
  | notADirectory => some (20, "NotADirectory", "Not a directory")
  | isADirectory => some (21, "IsADirectory", "Is a directory")
  | nameTooLong => some (36, "InvalidFilename", "File name too long")
  | notText => none

/-- What is said of contents that are not text. -/
def notTextMessage : String := "stream did not contain valid UTF-8"

def message (e : FileError) : String :=
  match e.systemForm with
  | some (code, _, words) => s!"{words} (os error {code})"
  | none => notTextMessage

/-- The structural spelling printed by a failing command. -/
def diagnostic (e : FileError) : String :=
  match e.systemForm with
  | some (code, kind, words) =>
    Diagnostic.record "Os" [("code", toString code), ("kind", kind), ("message", quoted words)]
  | none =>
    Diagnostic.record "Error" [("kind", "InvalidData"), ("message", quoted notTextMessage)]

end FileError

/-- A directory: the directories and files in it or around it, each at its place. -/
structure Workdir where
  directories : List Place := []
  files : List (Place × List UInt8) := []
deriving DecidableEq, Repr

namespace Workdir

/-- The longest part of a path, in bytes. -/
def maxNameLength : Nat := 255

/-- The longest path, in bytes. -/
def maxPathLength : Nat := 4095

/-- The directories above, and the root, are always there. -/
def isDirectory (dir : Workdir) (place : Place) : Bool :=
  place.isAbove || place == Place.root || dir.directories.contains place

def file? (dir : Workdir) (place : Place) : Option (List UInt8) := dir.files.lookup place

/-- Go into the directory named by one part of a path. -/
def descend (dir : Workdir) (here : Place) (part : String) : Except FileError Place :=
  let there := here.step part
  if maxNameLength < part.utf8ByteSize then .error .nameTooLong
  else if dir.isDirectory there then .ok there
  else if (dir.file? there).isSome then .error .notADirectory
  else .error .notFound

/-- The directory that the last of the given parts of a path is in, and that part. -/
def locate (dir : Workdir) (path : String) (parts : List String) :
    Except FileError (Place × String) :=
  if path.isEmpty then .error .notFound
  else if maxPathLength < path.utf8ByteSize then .error .nameTooLong
  else do
    let here ← parts.dropLast.foldlM dir.descend (Place.start path)
    return (here, parts.getLastD "")

/-- Does the last part of a path name the directory reached so far, or the one above? -/
def namesDirectory (last : String) : Bool := Place.stays last || last == upward

def load (dir : Workdir) (path : String) : Except FileError (List UInt8) := do
  let (here, last) ← dir.locate path (pathParts path)
  let place := here.enter last
  if namesDirectory last || dir.isDirectory place then
    .error .isADirectory
  else if maxNameLength < last.utf8ByteSize then
    .error .nameTooLong
  else match dir.file? place with
    | some contents => .ok contents
    | none => .error .notFound

def loadText (dir : Workdir) (path : String) : Except FileError String := do
  let contents ← dir.load path
  match String.fromUTF8? ⟨contents.toArray⟩ with
  | some text => .ok text
  | none => .error .notText

/-- Replace the contents of a file, or create it. -/
def put (place : Place) (contents : List UInt8) :
    List (Place × List UInt8) → List (Place × List UInt8)
  | [] => [(place, contents)]
  | (other, kept) :: rest =>
    if other = place then (place, contents) :: rest else (other, kept) :: put place contents rest

/-- Write a file, creating it if there is none. A slash at the end asks for a directory. -/
def save (dir : Workdir) (path : String) (contents : List UInt8) :
    Except FileError Workdir := do
  let parts := namedParts path
  let (here, last) ← dir.locate path parts
  let place := here.enter last
  if namesDirectory last || parts.length < (pathParts path).length || dir.isDirectory place then
    .error .isADirectory
  else if maxNameLength < last.utf8ByteSize then
    .error .nameTooLong
  else
    .ok { dir with files := put place contents dir.files }

/-- Create the directory of one part of a path unless it is there. -/
def makeDirectory (dir : Workdir) (here : Place) (part : String) :
    Except FileError (Workdir × Place) :=
  match dir.descend here part with
  | .ok there => .ok (dir, there)
  | .error .notFound =>
    let there := here.step part
    .ok ({ dir with directories := there :: dir.directories }, there)
  | .error e => .error e

/-- Create the directories that the parts of a path lead through from `here` on, unless they are
there. A directory named by a point at the end is not created: it has to be there. What is created
before a failure stays. -/
def makeParts (dir : Workdir) (here : Place) : List String → Workdir × Except FileError Unit
  | [] => (dir, .ok ())
  | part :: rest =>
    if !rest.isEmpty && rest.all Place.stays then (dir, (dir.descend here part).map fun _ => ())
    else match dir.makeDirectory here part with
      | .ok (dir, there) => makeParts dir there rest
      | .error .notADirectory => (dir, .error .alreadyExists)
      | .error e => (dir, .error e)

/-- Create a directory and those it lies in, unless they are there. A file on the way to what is
there is no directory; a file in place of what is to be created is there already. -/
def makeDirectories (dir : Workdir) (path : String) : Workdir × Except FileError Unit :=
  if maxPathLength < path.utf8ByteSize then (dir, .error .nameTooLong)
  else go (Place.start path) (namedParts path)
where
  go (here : Place) : List String → Workdir × Except FileError Unit
    | [] => (dir, .ok ())
    | part :: rest =>
      match dir.descend here part with
      | .ok there => go there rest
      | .error .notADirectory =>
        (dir, .error (if rest.isEmpty then .alreadyExists else .notADirectory))
      | .error .notFound => dir.makeParts here (part :: rest)
      | .error e => (dir, .error e)

def noteDirectory (dir : Workdir) (place : Place) : Workdir :=
  if dir.isDirectory place then dir
  else { dir with directories := place :: dir.directories }

/-- Note a file and the directories that its path runs through. -/
def noteFile (dir : Workdir) (path : String) (contents : List UInt8) : Workdir :=
  go dir (Place.start path) (namedParts path)
where
  go (dir : Workdir) (here : Place) : List String → Workdir
    | [] => dir
    | [last] => { dir with files := put (here.step last) contents dir.files }
    | part :: rest => go (dir.noteDirectory (here.step part)) (here.step part) rest

/-- A directory with the given files, each by its path. -/
def ofFiles (files : List (String × List UInt8)) : Workdir :=
  files.foldl (fun dir file => dir.noteFile file.1 file.2) {}

end Workdir
end OnfiFlash
