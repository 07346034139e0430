import OnfiFlash.Session.Identify
import OnfiFlash.Geometry.Address

/-! The command sequences of a session: loading a page, reading it out, erasing a block and
programming a page. Each runs to completion and records where it left the chip. -/
namespace OnfiFlash.Operation

def readStatus : Operation Status := ofQuery Query.readStatus

def waitReady : Operation Status := do
  ofQuery (Query.pollReady (← get).config.polling)

/-- Load a page into the page register. Fails if the device reports the error bit. -/
def loadPage (page : Nat) : Operation Status := do
  let geometry ← geometry
  require (geometry.checkPage page)
  let _ ← execute (.withAddress Opcode.readMode (geometry.pageAddress page))
  enter .addressLoaded
  let _ ← execute (.simple Opcode.readStart)
  enter .idle
  let status ← waitReady
  if status.isError then
    throw (.read page)
  enter .reading
  return status

/-- The longest read that a frame can request. -/
def maxReadLength : Nat := 65535

/-- Read bytes out of the page register, beginning at column `start`. Without a size, read the
rest of the page. -/
def readData (start : Nat) (size? : Option Nat) : Operation (List UInt8) := do
  let session ← get
  if session.state ≠ .reading then
    throw .noPageLoaded
  let rawSize := session.geometry.rawPageSize
  if rawSize < start then
    throw .addressOutOfRange
  let size := size?.getD (rawSize - start)
  if maxReadLength < size then
    throw .frameTooLarge
  let readLength := UInt16.ofNat size
  if start = 0 then
    execute (.read Opcode.readMode readLength)
  else do
    let _ ← execute (.simple Opcode.readMode)
    let _ ← execute (.withAddress Opcode.changeReadColumn (littleEndian 2 start))
    execute (.read Opcode.changeReadColumnStart readLength)

/-- Load a page and read all of it, spare area included. -/
def readPage (page : Nat) : Operation (List UInt8) := do
  let _ ← loadPage page
  readData 0 none

/-- Erase a block. The error bit of the final status is left to the caller. -/
def eraseBlock (block : Nat) : Operation Status := do
  let geometry ← geometry
  require (geometry.checkBlock block)
  enter .erasing
  let _ ← execute (.withAddress Opcode.eraseSetup (geometry.rowAddress (geometry.firstPage block)))
  let _ ← execute (.simple Opcode.eraseConfirm)
  let status ← waitReady
  enter .idle
  if status.isError then
    let shown := status.text
    note (.warning s!"erase of block {block} failed, status {shown}")
  return status

/-- Program data into a page from its first column on, unless the device is write protected. -/
def programPage (page : Nat) (data : List UInt8) : Operation Status := do
  let geometry ← geometry
  require (geometry.checkPage page)
  if geometry.rawPageSize < data.length then
    throw .imageTooLarge
  if !(← readStatus).isWriteEnabled then
    throw .writeProtected
  enter .programming
  let _ ← execute (.write Opcode.programSetup (geometry.pageAddress page) data)
  let _ ← execute (.simple Opcode.programConfirm)
  let status ← waitReady
  enter .idle
  return status

/-- The first position at which `found` lacks the byte that `wanted` holds. -/
def firstDifference (found wanted : List UInt8) : Option Nat :=
  go found wanted 0
where
  go : List UInt8 → List UInt8 → Nat → Option Nat
    | _, [], _ => none
    | [], _ :: _, offset => some offset
    | f :: found, w :: wanted, offset => if f = w then go found wanted (offset + 1) else some offset

/-- Program a page and read it back. Fails if the device advises to refresh the page or if
the data differs. -/
def programVerified (page : Nat) (data : List UInt8) : Operation Status := do
  let _ ← programPage page data
  let status ← loadPage page
  if status.isRefreshAdvised then
    throw (.refreshAdvised page)
  let found ← readData 0 (some data.length)
  match firstDifference found data with
  | some offset => throw (.verifyMismatch page offset)
  | none => return status

end OnfiFlash.Operation
