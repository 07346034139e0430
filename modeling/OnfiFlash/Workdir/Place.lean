import OnfiFlash.Text.Split

/-! Places of files and directories, as seen from one directory, and the paths that lead to them.
The parts of a path are divided by slashes. A path may lead out of the directory: upward, or from
the root of all directories where it begins with a slash. -/
namespace OnfiFlash

/-- The part of a path that leads to the directory above. -/
def upward : String := ".."

/-- The first part of a place that begins at the root. -/
def rootName : String := "/"

/-- A place: the names that lead to it, the last one first. It leads upward first or begins at the
root, and otherwise has only names. How many there are is known, so that places of different depths
are told apart at once. -/
structure Place where
  depth : Nat
  names : List String
  depth_eq : depth = names.length
deriving DecidableEq, Repr

namespace Place

def here : Place := ⟨0, [], rfl⟩

def root : Place := ⟨1, [rootName], rfl⟩

def enter (place : Place) (name : String) : Place :=
  ⟨place.depth + 1, name :: place.names, by simp [place.depth_eq]⟩

def leave (place : Place) : Place :=
  ⟨place.depth - 1, place.names.tail, by simp [place.depth_eq]⟩

@[simp] theorem leave_enter (place : Place) (name : String) : (place.enter name).leave = place := by
  simp [enter, leave]

def isAbove (place : Place) : Bool := place.names.all (· == upward)

/-- Does a part of a path lead nowhere? -/
def stays (part : String) : Bool := part.isEmpty || part == "."

/-- The place that one part of a path leads to. -/
def step (place : Place) (part : String) : Place :=
  if stays part then place
  else if part != upward then place.enter part
  else if place.isAbove then place.enter upward
  else if place = root then place
  else place.leave

def start (path : String) : Place := if path.toList.head? = some '/' then root else here

def toList (place : Place) : List String := place.names.reverse

def path (place : Place) : String :=
  if place.names.isEmpty then "." else "/".intercalate place.toList

end Place

def pathParts (path : String) : List String :=
  (splitAll '/' path.toList).map String.ofList

/-- The parts of a path up to the last that is not empty. -/
def namedParts (path : String) : List String :=
  ((pathParts path).reverse.dropWhile String.isEmpty).reverse

end OnfiFlash
