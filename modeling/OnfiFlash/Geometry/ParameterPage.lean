import OnfiFlash.Geometry
import OnfiFlash.Bytes.LittleEndian

/-! The ONFI parameter page, from which a device's geometry is read. Bytes 32 to 63 name the
vendor and the model; bytes 80 to 101 hold the memory organization block. -/
namespace OnfiFlash

structure Organization where
  bytesPerPage : Nat
  sparePerPage : Nat
  bytesPerPartialPage : Nat
  sparePerPartialPage : Nat
  pagesPerBlock : Nat
  blocksPerUnit : Nat
  unitCount : Nat
  /-- Low four bits: row cycles; high four bits: column cycles. -/
  addressCycles : Nat
deriving DecidableEq, Repr

namespace Organization

/-- The block as stored in the page, each number little-endian. -/
def encode (o : Organization) : List UInt8 :=
  littleEndian 4 o.bytesPerPage ++ littleEndian 2 o.sparePerPage
    ++ littleEndian 4 o.bytesPerPartialPage ++ littleEndian 2 o.sparePerPartialPage
    ++ littleEndian 4 o.pagesPerBlock ++ littleEndian 4 o.blocksPerUnit
    ++ littleEndian 1 o.unitCount ++ littleEndian 1 o.addressCycles

/-- The number held by `width` bytes from `offset` on. -/
def field (bytes : List UInt8) (offset width : Nat) : Nat :=
  ofLittleEndian ((bytes.drop offset).take width)

/-- The block whose stored form starts at the front of `bytes`. -/
def decode (bytes : List UInt8) : Organization where
  bytesPerPage := field bytes 0 4
  sparePerPage := field bytes 4 2
  bytesPerPartialPage := field bytes 6 4
  sparePerPartialPage := field bytes 10 2
  pagesPerBlock := field bytes 12 4
  blocksPerUnit := field bytes 16 4
  unitCount := field bytes 20 1
  addressCycles := field bytes 21 1

end Organization

namespace Geometry

def vendorOffset : Nat := 32
def vendorLength : Nat := 12
def modelOffset : Nat := 44
def modelLength : Nat := 20
def organizationOffset : Nat := 80

def isPadding (byte : UInt8) : Bool := byte == 0x20 || byte == 0

/-- A printable ASCII byte as it is, any other as a question mark. -/
def identifierChar (byte : UInt8) : Char :=
  if 0x20 ≤ byte ∧ byte ≤ 0x7E then Char.ofNat byte.toNat else '?'

/-- A name without the spaces and NULs that fill it up. -/
def identifier (bytes : List UInt8) : String :=
  String.ofList (((bytes.reverse.dropWhile isPadding).reverse).map identifierChar)

/-- The geometry a parameter page states, unchecked. -/
def ofParameterPage (page : List UInt8) : Geometry :=
  let organization := Organization.decode (page.drop organizationOffset)
  { vendor := identifier ((page.drop vendorOffset).take vendorLength)
    model := identifier ((page.drop modelOffset).take modelLength)
    bytesPerPage := organization.bytesPerPage
    sparePerPage := organization.sparePerPage
    pagesPerBlock := organization.pagesPerBlock
    blocksPerUnit := organization.blocksPerUnit
    unitCount := organization.unitCount
    rowCycles := organization.addressCycles % 16
    columnCycles := organization.addressCycles / 16 }

/-- The geometry of a device from its parameter page, or why the page is refused. -/
def parse (page : List UInt8) : Except Flaw Geometry :=
  if page.length < parameterPageLength then
    .error (.shortParameterPage page.length)
  else
    let geometry := ofParameterPage page
    match geometry.flaw? with
    | some flaw => .error flaw
    | none => .ok geometry

end Geometry
end OnfiFlash
