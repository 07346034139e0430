import OnfiFlash.Bytes.Limit
import OnfiFlash.Chip.Basic
import OnfiFlash.Frame
import OnfiFlash.Geometry.Address
import OnfiFlash.Link
import OnfiFlash.Status

/-! What an emulated chip does with each command frame, and the chip as a link: a write runs a
frame and queues its response, a read takes from the queue. -/
namespace OnfiFlash.Chip

/-- The longest busy time: no status read within any bound reports ready. -/
def stuckBusy : Nat := limit32 - 1

/-- Bytes cut or filled up to `size`. -/
def resized (size : Nat) (filler : UInt8) (bytes : List UInt8) : List UInt8 :=
  let kept := bytes.take size
  kept ++ List.replicate (size - kept.length) filler

def status (chip : Chip) : Status :=
  let ready := chip.busy = 0
  .ofFlags <|
    (if chip.config.writeProtected then [] else [.writeEnabled])
      ++ (if ready then [.ready] else [])
      ++ (if ready ∧ chip.failed then [.error] else [])
      ++ (if ready ∧ chip.refresh then [.refreshAdvised] else [])

/-- Begin an operation: clear its flags and become busy. -/
def start (chip : Chip) : Chip :=
  { chip with failed := false, refresh := false, busy := chip.config.busyPolls }

def fail (chip : Chip) : Chip := { chip with failed := true }

/-- The number of address cycles that count. -/
def addressValue (cycles : List UInt8) : Nat :=
  ofLittleEndian (cycles.take Geometry.maxCycles)

def splitAddress (chip : Chip) (cycles : List UInt8) : Nat × Nat :=
  let columnCycles := cycles.take chip.config.columnCycles
  let rowCycles := cycles.drop chip.config.columnCycles
  (addressValue columnCycles, Geometry.decodeRow rowCycles)

def identifier (chip : Chip) (address : Option UInt8) : List UInt8 :=
  if address = some Identification.signatureAddress ∧ chip.config.onfi then
    Identification.signature
  else if address = some Identification.jedecAddress then
    let ecc := if chip.eccEnabled then Identification.eccBit else 0
    [chip.config.manufacturerId, chip.config.deviceId, 0x90, 0x95, 0x06 ||| ecc]
  else
    []

/-- One load less for a fault; a fault whose loads are used up is gone. -/
def InjectedFault.afterLoad (injected : InjectedFault) : Option InjectedFault :=
  match injected.remaining with
  | none => some injected
  | some loads => if loads ≤ 1 then none else some { injected with remaining := some (loads - 1) }

/-- The page register with the lowest bit of its first byte inverted. That the fault brings down a
chip whose pages have no bytes is not modelled. -/
def flipFirstBit : List UInt8 → List UInt8
  | [] => []
  | first :: rest => (first ^^^ 1) :: rest

/-- Let a fault act on a page just loaded. -/
def sufferLoad (chip : Chip) : LoadFault → Chip
  | .bitFlip => { chip with register := flipFirstBit chip.register }
  | .readError => chip.fail
  | .refreshAdvised => { chip with refresh := true }

/-- Load a page of the device into the page register. -/
def loadPage (chip : Chip) (column page : Nat) : Chip :=
  let loaded := { chip with register := chip.cells page, column }
  match chip.loadFaults page with
  | none => loaded
  | some injected =>
    { loaded.sufferLoad injected.fault with
      loadFaults := assign chip.loadFaults page (InjectedFault.afterLoad injected) }

def readStart (chip : Chip) : Chip × List Notice :=
  let begun := { chip.start with latched := none }
  match chip.latched with
  | none => (begun.fail, [.warning "dummy: READ START without an address"])
  | some (column, page) =>
    if page < chip.config.totalPages then (begun.loadPage column page, []) else (begun.fail, [])

/-- Read from the page register; past its end the bus reads as ones. That the column must fit a
machine word is not modelled. -/
def readRegister (chip : Chip) (length : Nat) : Chip × List UInt8 :=
  ({ chip with column := chip.column + length },
    resized length 0xFF (chip.register.drop chip.column))

def refusesErase (chip : Chip) (block : Nat) : Bool :=
  chip.config.writeProtected || chip.config.totalBlocks ≤ block
    || chip.config.badBlocks.contains block || chip.config.eraseFailures.contains block

def eraseCells (config : Config) (cells : Nat → List UInt8) (block : Nat) : Nat → List UInt8 :=
  fun page => if page / config.pagesPerBlock = block then config.erasedPage else cells page

/-- Erase the block of the page latched for it. -/
def eraseConfirm (chip : Chip) : Chip :=
  let begun := { chip.start with eraseRow := none }
  match chip.eraseRow with
  | none => begun.fail
  | some row =>
    let block := row / chip.config.pagesPerBlock
    if chip.refusesErase block then
      begun.fail
    else
      { begun with
        cells := eraseCells chip.config chip.cells block
        erased := block :: chip.erased }

/-- Cells can only be cleared: program data into a page from a column on. -/
def programmedCells (cells : List UInt8) (column : Nat) (data : List UInt8) : List UInt8 :=
  let changed := List.zipWith (· &&& ·) (cells.drop column) data
  cells.take column ++ changed ++ cells.drop (column + changed.length)

/-- Clear the cells of a page and assert the write-protect pin when its time has come. -/
def storeProgram (chip : Chip) (program : PendingProgram) : Chip :=
  let contents := programmedCells (chip.cells program.page) program.column program.data
  let stored := { chip with cells := assign chip.cells program.page contents }
  match chip.protectAfter with
  | some programs =>
    if programs ≤ chip.programmed.length then stored.setProtected true else stored
  | none => stored

/-- Program the page set up for it. -/
def programConfirm (chip : Chip) : Reply Chip Unit :=
  let begun := { chip.start with program := none }
  match chip.program with
  | none => ⟨.ok (), begun.fail, []⟩
  | some program =>
    let page := program.page
    let logged := { begun with programmed := page :: chip.programmed }
    match chip.programFaults page with
    | some .transportError =>
      ⟨.error .transport, logged,
        [.error s!"dummy: injected transport failure programming page {page}"]⟩
    | some .stuck => ⟨.ok (), { logged with busy := stuckBusy }, []⟩
    | none =>
      if chip.config.writeProtected ∨ chip.config.totalPages ≤ page then
        ⟨.ok (), logged.fail, []⟩
      else
        ⟨.ok (), logged.storeProgram program, []⟩

/-- Set a feature. Only the array operation mode is known. -/
def setFeatures (chip : Chip) (feature mode : Option UInt8) : Chip :=
  match feature, mode with
  | some feature, some mode =>
    if feature = Identification.arrayModeFeature ∧ chip.config.eccSupported then
      { chip.start with eccEnabled := mode &&& Identification.eccMode != 0 }
    else
      chip.start
  | _, _ => chip.start

/-- Run a frame: its response, or why it is refused. -/
def handle (chip : Chip) (frame : Frame) : Reply Chip (List UInt8) :=
  let length := frame.readLength.toNat
  if frame.opcode = Opcode.reset then
    ⟨.ok [], { chip.start with latched := none, program := none, eraseRow := none }, []⟩
  else if frame.opcode = Opcode.readId then
    ⟨.ok (resized length 0 (chip.identifier frame.address.head?)), chip, []⟩
  else if frame.opcode = Opcode.readParameterPage then
    ⟨.ok (resized length 0 chip.config.parameterPage), chip, []⟩
  else if frame.opcode = Opcode.readStatus then
    ⟨.ok (List.replicate length chip.status.bits), { chip with busy := chip.busy - 1 }, []⟩
  else if frame.opcode = Opcode.readMode then
    if frame.address.isEmpty then
      let (chip, bytes) := chip.readRegister length
      ⟨.ok bytes, chip, []⟩
    else
      ⟨.ok [], { chip with latched := some (chip.splitAddress frame.address) }, []⟩
  else if frame.opcode = Opcode.readStart then
    let (chip, notices) := chip.readStart
    ⟨.ok [], chip, notices⟩
  else if frame.opcode = Opcode.changeReadColumn then
    ⟨.ok [], { chip with column := addressValue frame.address }, []⟩
  else if frame.opcode = Opcode.changeReadColumnStart then
    let (chip, bytes) := chip.readRegister length
    ⟨.ok bytes, chip, []⟩
  else if frame.opcode = Opcode.eraseSetup then
    ⟨.ok [], { chip with eraseRow := some (Geometry.decodeRow frame.address) }, []⟩
  else if frame.opcode = Opcode.eraseConfirm then
    ⟨.ok [], chip.eraseConfirm, []⟩
  else if frame.opcode = Opcode.programSetup then
    let (column, page) := chip.splitAddress frame.address
    ⟨.ok [], { chip with program := some ⟨column, page, frame.data⟩ }, []⟩
  else if frame.opcode = Opcode.programConfirm then
    let reply := chip.programConfirm
    ⟨reply.result.map fun _ => [], reply.state, reply.notices⟩
  else if frame.opcode = Opcode.setFeatures then
    ⟨.ok [], chip.setFeatures frame.address.head? frame.data.head?, []⟩
  else
    let shown := byteHex frame.opcode
    ⟨.error .protocol, chip, [.error s!"dummy: unsupported opcode 0x{shown}"]⟩

/-- Take the bytes of one frame, run it and queue its response. -/
def accept (bytes : List UInt8) (chip : Chip) : Reply Chip Unit :=
  match Frame.decode bytes with
  | .error e => ⟨.error e, chip, []⟩
  | .ok frame =>
    let reply := { chip with frames := chip.frames + 1 }.handle frame
    match reply.result with
    | .error e => ⟨.error e, reply.state, reply.notices⟩
    | .ok response =>
      ⟨.ok (), { reply.state with pending := reply.state.pending ++ response }, reply.notices⟩

/-- Take bytes from the response queue; if there are too few, all are dropped. -/
def take (count : Nat) (chip : Chip) : Reply Chip (List UInt8) :=
  let available := chip.pending.length
  if available < count then
    ⟨.error .transport, { chip with pending := [] },
      [.error s!"dummy: read of {count} bytes with {available} pending"]⟩
  else
    ⟨.ok (chip.pending.take count), { chip with pending := chip.pending.drop count }, []⟩

instance : Link Chip where
  write := accept
  read := take

instance : LawfulLink Chip where
  length_read count chip bytes taken := by
    simp only [Link.read, take] at taken
    split at taken
    · cases taken
    · next enough =>
      cases taken
      exact List.length_take_of_le (Nat.le_of_not_lt enough)

end OnfiFlash.Chip
