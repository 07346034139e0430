import OnfiFlash.Command.Report
import OnfiFlash.Command.Task
import OnfiFlash.Image.Read
import OnfiFlash.Image.Write

/-! The commands that work on an open session. -/
namespace OnfiFlash

/-- A command for an open session. Index pages are given by an `ι`, a page number when the command
is run. -/
inductive Command (ι : Type) where
  /-- Report on the device. -/
  | info
  /-- Check every block and list the bad ones. -/
  | scan
  /-- Read one raw page into a file, or show it. -/
  | readPage (page : Nat) (output? : Option String)
  /-- Read the image that the index page lists into a file. -/
  | readImage (indexPage : ι) (output : String)
  /-- Write a file as an image and list its blocks in the index page. -/
  | writeImage (indexPage : ι) (input : String)
  /-- Erase a block and write a file into it. -/
  | writeBlock (block : Nat) (input : String)
deriving DecidableEq, Repr

namespace Command

def map (f : ι → κ) : Command ι → Command κ
  | info => info
  | scan => scan
  | readPage page output? => readPage page output?
  | readImage indexPage output => readImage (f indexPage) output
  | writeImage indexPage input => writeImage (f indexPage) input
  | writeBlock block input => writeBlock block input

def paths : Command ι → List String
  | info | scan => []
  | readPage _ output? => output?.toList
  | readImage _ output => [output]
  | writeImage _ input => [input]
  | writeBlock _ input => [input]

def runInfo : Task Unit := do
  let status ← Task.perform Operation.readStatus
  Task.printLines (Report.info (← get).session status)

/-- Scan for bad blocks, unless there is a table already. -/
def runScan : Task Unit := do
  let total := (← get).session.geometry.totalBlocks
  Task.printLine s!"Scanning {total} blocks for bad block markers..."
  let table ← Task.perform Operation.badBlockTable
  Task.printLines (Report.badBlocks table)

/-- Read a page into a file, or show it. -/
def runReadPage (page : Nat) (output? : Option String) : Task Unit := do
  let data ← Task.perform (Operation.readPage page)
  match output? with
  | some path =>
    Task.save path data
    let size := data.length
    let shown := quoted path
    Task.printLine s!"Wrote {size} bytes of page {page} to {shown}"
  | none => Task.printLines (Report.page page (← get).session.geometry.bytesPerPage data)

def runReadImage (indexPage : Nat) (output : String) : Task Unit := do
  let data ← Task.perform (Operation.readImage indexPage)
  Task.save output data
  let size := data.length
  let shown := quoted output
  Task.printLine s!"Wrote {size} bytes to {shown}"

def readInput (input : String) : Task (List UInt8) := do
  let data ← Task.load input
  let size := data.length
  let shown := quoted input
  Task.printLine s!"Read {size} bytes from {shown}"
  return data

def runWriteImage (indexPage : Nat) (input : String) : Task Unit := do
  let data ← readInput input
  if data.isEmpty then
    throw (.sentence (quoted input ++ " is empty, nothing to write"))
  let block := (← get).session.geometry.blockOf indexPage
  Task.printLine s!"Index page {indexPage} is in block {block}; that block will be erased"
  let blocks ← Task.perform (Operation.writeImage indexPage data)
  Task.printLine ("Image stored in block(s) " ++ Report.numbers blocks)

def runWriteBlock (block : Nat) (input : String) : Task Unit := do
  let data ← readInput input
  let size := data.length
  let limit := (← get).session.geometry.blockSize
  if limit < size then
    throw (.sentence s!"File size ({size} bytes) exceeds block size ({limit} bytes)")
  let _ ← Task.perform (Operation.writeBlock block data)

def run : Command Nat → Task Unit
  | info => runInfo
  | scan => runScan
  | readPage page output? => runReadPage page output?
  | readImage indexPage output => runReadImage indexPage output
  | writeImage indexPage input => runWriteImage indexPage input
  | writeBlock block input => runWriteBlock block input

end Command
end OnfiFlash
