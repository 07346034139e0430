import OnfiFlash.Chip.Config

/-! An emulated chip. Its cells are a function from page numbers to raw page contents; what has
never been programmed reads as erased. Faults can be injected into loads and programs of single
pages. -/
namespace OnfiFlash

inductive LoadFault where
  /-- The lowest bit of the first byte reads inverted. -/
  | bitFlip
  /-- The load reports the error bit. -/
  | readError
  /-- The load advises to refresh the page. -/
  | refreshAdvised
deriving DecidableEq, Repr

inductive ProgramFault where
  /-- The confirming frame fails on the link. -/
  | transportError
  /-- The program never completes. -/
  | stuck
deriving DecidableEq, Repr

/-- A load fault with the number of loads it lasts, or none if it never clears. -/
structure InjectedFault where
  fault : LoadFault
  remaining : Option Nat
deriving DecidableEq, Repr

/-- A program that awaits its confirmation. -/
structure PendingProgram where
  column : Nat
  page : Nat
  data : List UInt8
deriving DecidableEq, Repr

structure Chip where
  config : Chip.Config
  /-- The raw contents of every page. -/
  cells : Nat → List UInt8
  loadFaults : Nat → Option InjectedFault := fun _ => none
  programFaults : Nat → Option ProgramFault := fun _ => none
  /-- The page register. -/
  register : List UInt8
  /-- The next column read from the page register. -/
  column : Nat := 0
  /-- A column and a page latched for the next load. -/
  latched : Option (Nat × Nat) := none
  program : Option PendingProgram := none
  eraseRow : Option Nat := none
  /-- The last operation failed. -/
  failed : Bool := false
  /-- The last load advises to refresh its page. -/
  refresh : Bool := false
  /-- Status reads left that report busy. -/
  busy : Nat := 0
  /-- Response bytes not read yet. -/
  pending : List UInt8 := []
  /-- Frames accepted so far. -/
  frames : Nat := 0
  /-- Blocks erased, latest first. -/
  erased : List Nat := []
  /-- Pages named by a confirmed program, latest first. -/
  programmed : List Nat := []
  eccEnabled : Bool
  /-- The number of programs after which the write-protect pin is asserted. -/
  protectAfter : Option Nat := none

namespace Chip

/-- Change a function at one place. The new value is computed once, when it is stored. -/
@[noinline] def assign (f : Nat → α) (place : Nat) (value : α) : Nat → α :=
  fun other => if other = place then value else f other

@[simp] theorem assign_same (f : Nat → α) (place : Nat) (value : α) :
    assign f place value place = value := by simp [assign]

theorem assign_other (f : Nat → α) (value : α) (different : other ≠ place) :
    assign f place value other = f other := by simp [assign, different]

/-- A chip as it leaves the factory. A bad block is marked in a spare byte; that a chip with bad
blocks but no spare bytes cannot be set up at all is not modelled, here its blocks stay unmarked. -/
def ofConfig (config : Config) : Chip where
  config := config
  cells := config.factoryPage
  register := config.erasedPage
  eccEnabled := config.internalEcc

def page (chip : Chip) (page : Nat) : List UInt8 := chip.cells page

/-- Store contents in a page directly, without programming it. Contents that are too short are
filled up with erased bytes. -/
def setPage (chip : Chip) (page : Nat) (data : List UInt8) : Chip :=
  let size := chip.config.rawPageSize
  let stored := data.take size
  { chip with
    cells := assign chip.cells page (stored ++ List.replicate (size - stored.length) 0xFF) }

/-- Make the next `loads` loads of a page misbehave, or all of them. -/
def injectFault (chip : Chip) (page : Nat) (fault : LoadFault) (loads : Option Nat) : Chip :=
  { chip with loadFaults := assign chip.loadFaults page (some ⟨fault, loads⟩) }

def injectProgramFault (chip : Chip) (page : Nat) (fault : ProgramFault) : Chip :=
  { chip with programFaults := assign chip.programFaults page (some fault) }

def protectAfterPrograms (chip : Chip) (programs : Nat) : Chip :=
  { chip with protectAfter := some programs }

def setProtected (chip : Chip) (asserted : Bool) : Chip :=
  { chip with config := { chip.config with writeProtected := asserted } }

/-- The blocks erased so far, in order. -/
def eraseLog (chip : Chip) : List Nat := chip.erased.reverse

/-- The pages named by every confirmed program, in order. -/
def programLog (chip : Chip) : List Nat := chip.programmed.reverse

end Chip
end OnfiFlash
