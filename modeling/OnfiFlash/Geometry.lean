import OnfiFlash.Bytes.Limit
import OnfiFlash.Error

/-! The layout of a flash device: pages, erase blocks and units, and how many cycles address
them. A geometry without a flaw describes a device the bridge can address. -/
namespace OnfiFlash

/-- The layout of an attached device. -/
structure Geometry where
  vendor : String := ""
  model : String := ""
  /-- Data bytes of a page. -/
  bytesPerPage : Nat
  /-- Spare bytes of a page. -/
  sparePerPage : Nat
  /-- Pages of an erase block. -/
  pagesPerBlock : Nat
  /-- Erase blocks of a logical unit. -/
  blocksPerUnit : Nat
  /-- Logical units. -/
  unitCount : Nat
  /-- Address cycles of a page number. -/
  rowCycles : Nat
  /-- Address cycles of a byte position within a page. -/
  columnCycles : Nat
deriving DecidableEq, Repr

namespace Geometry

def totalPages (g : Geometry) : Nat := g.pagesPerBlock * g.blocksPerUnit * g.unitCount

def totalBlocks (g : Geometry) : Nat := g.blocksPerUnit * g.unitCount

/-- The size of a page, spare area included. -/
def rawPageSize (g : Geometry) : Nat := g.bytesPerPage + g.sparePerPage

/-- The data bytes of an erase block. -/
def blockSize (g : Geometry) : Nat := g.bytesPerPage * g.pagesPerBlock

/-- The data bytes of the device. -/
def totalSize (g : Geometry) : Nat := g.bytesPerPage * g.totalPages

def blockOf (g : Geometry) (page : Nat) : Nat := page / g.pagesPerBlock

def firstPage (g : Geometry) (block : Nat) : Nat := block * g.pagesPerBlock

def lastPage (g : Geometry) (block : Nat) : Nat := g.firstPage block + g.pagesPerBlock - 1

def checkPage (g : Geometry) (page : Nat) : Except Error Unit :=
  if page < g.totalPages then .ok () else .error .addressOutOfRange

def checkBlock (g : Geometry) (block : Nat) : Except Error Unit :=
  if block < g.totalBlocks then .ok () else .error .addressOutOfRange

/-- What keeps a device from being addressed. -/
inductive Flaw where
  /-- A parameter page of `length` bytes is too short. -/
  | shortParameterPage (length : Nat)
  /-- Some dimension is zero. -/
  | empty
  /-- A full address does not fit one frame. -/
  | tooManyCycles (row column : Nat)
  /-- The columns of a page, spare area included, exceed a 16-bit column address. -/
  | pageTooLarge (main spare : Nat)
  /-- The pages exceed a 32-bit page number. -/
  | tooManyPages
deriving DecidableEq, Repr

def parameterPageLength : Nat := 256

def Flaw.text : Flaw → String
  | shortParameterPage length =>
    s!"parameter page is {length} bytes, expected {parameterPageLength}"
  | empty => "parameter page describes an empty device"
  | tooManyCycles row column => s!"{row} row + {column} column address bytes exceed the frame limit"
  | pageTooLarge main spare => s!"{main}+{spare} byte pages exceed a 16-bit column address"
  | tooManyPages => "device has more pages than a 32-bit page number can address"

/-- The most address cycles of a page and a column together. -/
def maxCycles : Nat := 8

/-- Every column of a page is below this bound. -/
def columnLimit : Nat := 65535

/-- There are fewer pages than this on any device. -/
def pageLimit : Nat := limit32

/-- The pages of the device, if every product on the way to them fits a 32-bit number. -/
def checkedPages (g : Geometry) : Option Nat := do
  let pages ← checked32 (g.pagesPerBlock * g.blocksPerUnit)
  checked32 (pages * g.unitCount)

/-- The first reason why the device cannot be addressed, if there is one. The counts of cycles are
bytes, and a sum of bytes wraps around at 256; that is not modelled, here they are added as numbers.
It makes a difference only where they sum to 256 or more: no parameter page states such counts, and
no address of so many cycles could be sent. -/
def flaw? (g : Geometry) : Option Flaw :=
  if g.bytesPerPage = 0 ∨ g.pagesPerBlock = 0 ∨ g.blocksPerUnit = 0 ∨ g.unitCount = 0 then
    some .empty
  else if maxCycles < g.rowCycles + g.columnCycles then
    some (.tooManyCycles g.rowCycles g.columnCycles)
  else if columnLimit < g.rawPageSize then
    some (.pageTooLarge g.bytesPerPage g.sparePerPage)
  else if g.checkedPages.isNone then
    some .tooManyPages
  else
    none

/-- The device can be addressed. -/
def Valid (g : Geometry) : Prop := g.flaw? = none

instance (g : Geometry) : Decidable g.Valid := inferInstanceAs (Decidable (_ = _))

end Geometry
end OnfiFlash
