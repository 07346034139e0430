import OnfiFlash.Opcode
import OnfiFlash.Geometry.ParameterPage

/-! The configuration of an emulated chip: its identity, its layout and its defects. -/
namespace OnfiFlash.Chip

structure Config where
  vendor : String := "MICRON"
  model : String := "MT29F2G08ABAEAWP"
  manufacturerId : UInt8 := 0x2C
  deviceId : UInt8 := 0xDA
  bytesPerPage : Nat := 2048
  sparePerPage : Nat := 64
  pagesPerBlock : Nat := 64
  blocksPerUnit : Nat := 1024
  unitCount : Nat := 1
  rowCycles : Nat := 3
  columnCycles : Nat := 2
  /-- Blocks bad from the factory: their markers are cleared and erasing them fails. -/
  badBlocks : List Nat := []
  /-- Blocks with good markers whose erase fails. -/
  eraseFailures : List Nat := []
  /-- The write-protect pin is asserted. -/
  writeProtected : Bool := false
  /-- Not-ready status reads after each operation. -/
  busyPolls : Nat := 0
  /-- The chip answers with the ONFI signature. -/
  onfi : Bool := true
  /-- On-die ECC is enabled at power-up. -/
  internalEcc : Bool := false
  /-- On-die ECC can be switched. -/
  eccSupported : Bool := true
deriving DecidableEq, Repr

namespace Config

def rawPageSize (c : Config) : Nat := c.bytesPerPage + c.sparePerPage

def totalBlocks (c : Config) : Nat := c.blocksPerUnit * c.unitCount

/-- That the product must fit a word of 32 bits is not modelled. -/
def totalPages (c : Config) : Nat := c.totalBlocks * c.pagesPerBlock

def erasedPage (c : Config) : List UInt8 := List.replicate c.rawPageSize 0xFF

/-- An erased page with a cleared bad-block marker. -/
def markedPage (c : Config) : List UInt8 := c.erasedPage.set c.bytesPerPage 0

/-- Is this the first or the last page of a block that is bad from the factory? -/
def isFactoryMarked (c : Config) (page : Nat) : Bool :=
  c.badBlocks.any fun block =>
    let first := block * c.pagesPerBlock
    page == first || page == first + c.pagesPerBlock - 1

def factoryPage (c : Config) (page : Nat) : List UInt8 :=
  if c.isFactoryMarked page then c.markedPage else c.erasedPage

/-- A name filled up with spaces to `length` bytes, or cut. -/
def identifierField (length : Nat) (name : String) : List UInt8 :=
  let bytes := name.toUTF8.toList.take length
  bytes ++ List.replicate (length - bytes.length) 0x20

def organization (c : Config) : Organization where
  bytesPerPage := c.bytesPerPage
  sparePerPage := c.sparePerPage
  bytesPerPartialPage := c.bytesPerPage / 4
  sparePerPartialPage := c.sparePerPage / 4
  pagesPerBlock := c.pagesPerBlock
  blocksPerUnit := c.blocksPerUnit
  unitCount := c.unitCount
  addressCycles := (UInt8.ofNat (c.columnCycles * 16) ||| UInt8.ofNat c.rowCycles).toNat

def parameterPage (c : Config) : List UInt8 :=
  let lead := Identification.signature
    ++ List.replicate (Geometry.vendorOffset - Identification.signature.length) 0
  let names := identifierField Geometry.vendorLength c.vendor
    ++ identifierField Geometry.modelLength c.model
  let gap := List.replicate
    (Geometry.organizationOffset - Geometry.modelOffset - Geometry.modelLength) 0
  let body := lead ++ names ++ gap ++ c.organization.encode
  body ++ List.replicate (Geometry.parameterPageLength - body.length) 0

end Config
end OnfiFlash.Chip
