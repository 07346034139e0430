import OnfiFlash.Proofs.AddressFidelity
import OnfiFlash.Proofs.Device

/-! The states a chip passes through in the command sequences of a session, and what is seen of
them: a page is latched and loaded, the column moves along the register, an erase or a program is
set up and confirmed. -/
namespace OnfiFlash

namespace Chip

theorem addressValue_zero (cycles : Nat) (few : cycles ≤ Geometry.maxCycles) :
    addressValue (littleEndian cycles 0) = 0 := by
  rw [addressValue, List.take_of_length_le (by rwa [length_littleEndian]),
    ofLittleEndian_littleEndian, Nat.zero_mod]

theorem splitAddress_pageAddress {g : Geometry} {chip : Chip} (describes : g.Describes chip.config)
    (dimensions : g.Dimensions) (covers : g.RowsCover) {page : Nat}
    (inRange : page < g.totalPages) : chip.splitAddress (g.pageAddress page) = (0, page) := by
  have few : g.columnCycles ≤ Geometry.maxCycles := by
    have cycles := dimensions.cycles
    omega
  rw [splitAddress, describes.columnCycles, Geometry.pageAddress, Geometry.pageAddressAt,
    List.take_left' (length_littleEndian _ _), List.drop_left' (length_littleEndian _ _),
    addressValue_zero _ few, covers.decodeRow dimensions inRange]

def latch (chip : Chip) (column page : Nat) : Chip := { chip with latched := some (column, page) }

theorem handle_latch (chip : Chip) {address : List UInt8} (present : address ≠ []) :
    chip.handle (.withAddress Opcode.readMode address)
      = ⟨.ok [], chip.latch (chip.splitAddress address).1 (chip.splitAddress address).2, []⟩ := by
  have given : ¬ address.isEmpty := by simpa using present
  exact if_neg given

/-- The chip while it loads the page that is latched at its first column. -/
def loading (chip : Chip) (page : Nat) (d : Device) : Chip :=
  { chip.counted.start with
    latched := none
    register := d.contents page
    column := 0
    failed := d.fault? page == some .readError
    refresh := d.fault? page == some .refreshAdvised
    loadFaults := (d.afterLoad page).loadFaults }

theorem loadPage_eq (chip : Chip) (column page : Nat) (session : Session) :
    chip.loadPage column page =
      { chip with
        register := (session.device chip).contents page
        column
        failed := chip.failed || (session.device chip).fault? page == some .readError
        refresh := chip.refresh || (session.device chip).fault? page == some .refreshAdvised
        loadFaults := ((session.device chip).afterLoad page).loadFaults } := by
  have found : (session.device chip).loadFaults page = chip.loadFaults page := rfl
  unfold loadPage Device.contents Device.fault? Device.afterLoad
  rw [found]
  cases chip.loadFaults page with
  | none => simp [Session.device, flash]
  | some injected =>
    cases fault : injected.fault <;> simp [Session.device, flash, sufferLoad, fail, fault]

@[simp] theorem flash_loading (chip : Chip) (page : Nat) (d : Device) :
    (chip.loading page d).flash = chip.flash := by
  unfold flash
  rfl

theorem device_loading (session : Session) (chip : Chip) (page : Nat) (d : Device) :
    session.device (chip.counted.loading page d) =
      { flash := chip.flash
        loadFaults := (d.afterLoad page).loadFaults
        loaded := if session.state = .reading then some (d.contents page, 0) else none } := by
  unfold Session.device
  rw [flash_loading, flash_counted]
  rfl

theorem handle_readStart (chip : Chip) (session : Session) {page : Nat}
    (inRange : page < chip.config.totalPages) :
    (chip.latch 0 page).counted.handle (.simple Opcode.readStart)
      = ⟨.ok [], chip.loading page (session.device chip), []⟩ := by
  have started : (chip.latch 0 page).counted.readStart
      = ({ (chip.latch 0 page).counted.start with latched := none }.loadPage 0 page, []) :=
    if_pos inRange
  have handled : (chip.latch 0 page).counted.handle (.simple Opcode.readStart)
      = ⟨.ok [], (chip.latch 0 page).counted.readStart.1,
        (chip.latch 0 page).counted.readStart.2⟩ := rfl
  rw [handled, started, loadPage_eq _ _ _ session]
  rfl

def seek (chip : Chip) (column : Nat) : Chip := { chip with column }

section Seek

variable (chip : Chip) (column : Nat)

@[simp] theorem flash_seek : (chip.seek column).flash = chip.flash := by
  unfold flash
  rfl

@[simp] theorem pending_seek : (chip.seek column).pending = chip.pending := rfl

@[simp] theorem loadFaults_seek : (chip.seek column).loadFaults = chip.loadFaults := rfl

@[simp] theorem register_seek : (chip.seek column).register = chip.register := rfl

end Seek

theorem device_of_register {session : Session} {chip after : Chip}
    (reading : session.state = .reading) (sameFlash : after.flash = chip.flash)
    (sameFaults : after.loadFaults = chip.loadFaults)
    (sameRegister : after.register = chip.register) :
    session.device after =
      { session.device chip with loaded := some (chip.register, after.column) } := by
  simp only [Session.device, sameFlash, sameFaults, sameRegister, reading, if_true]

theorem handle_read (chip : Chip) (length : UInt16) :
    chip.handle (.read Opcode.readMode length)
      = ⟨.ok (resized length.toNat 0xFF (chip.register.drop chip.column)),
        chip.seek (chip.column + length.toNat), []⟩ := rfl

theorem handle_simpleRead (chip : Chip) :
    chip.handle (.simple Opcode.readMode) = ⟨.ok [], chip.seek chip.column, []⟩ := rfl

theorem handle_changeReadColumn (chip : Chip) (cycles : List UInt8) :
    chip.handle (.withAddress Opcode.changeReadColumn cycles)
      = ⟨.ok [], chip.seek (addressValue cycles), []⟩ := rfl

theorem handle_readColumn (chip : Chip) (length : UInt16) :
    chip.handle (.read Opcode.changeReadColumnStart length)
      = ⟨.ok (resized length.toNat 0xFF (chip.register.drop chip.column)),
        chip.seek (chip.column + length.toNat), []⟩ := rfl

def eraseSetup (chip : Chip) (row : Nat) : Chip := { chip with eraseRow := some row }

def programSetup (chip : Chip) (pending : PendingProgram) : Chip :=
  { chip with program := some pending }

@[simp] theorem flash_eraseSetup (chip : Chip) (row : Nat) :
    (chip.eraseSetup row).flash = chip.flash := by
  unfold flash
  rfl

@[simp] theorem flash_programSetup (chip : Chip) (pending : PendingProgram) :
    (chip.programSetup pending).flash = chip.flash := by
  unfold flash
  rfl

theorem handle_eraseSetup (chip : Chip) (address : List UInt8) :
    chip.handle (.withAddress Opcode.eraseSetup address)
      = ⟨.ok [], chip.eraseSetup (Geometry.decodeRow address), []⟩ := rfl

theorem handle_eraseConfirm (chip : Chip) :
    chip.handle (.simple Opcode.eraseConfirm) = ⟨.ok [], chip.eraseConfirm, []⟩ := rfl

theorem handle_programSetup (chip : Chip) (address data : List UInt8) :
    chip.handle (.write Opcode.programSetup address data)
      = ⟨.ok [], chip.programSetup ⟨(chip.splitAddress address).1, (chip.splitAddress address).2,
        data⟩, []⟩ := rfl

theorem loadFaults_eraseConfirm (chip : Chip) :
    chip.eraseConfirm.loadFaults = chip.loadFaults := by
  unfold eraseConfirm
  split
  · rfl
  · simp only
    split <;> rfl

theorem busy_eraseConfirm (chip : Chip) : chip.eraseConfirm.busy = chip.config.busyPolls := by
  unfold eraseConfirm
  split
  · rfl
  · simp only
    split <;> rfl

theorem failed_eraseConfirm {chip : Chip} {row : Nat} (setup : chip.eraseRow = some row) :
    chip.eraseConfirm.failed = chip.flash.refuses (row / chip.config.pagesPerBlock) := by
  have same : chip.flash.refuses (row / chip.config.pagesPerBlock)
      = chip.refusesErase (row / chip.config.pagesPerBlock) := rfl
  simp only [eraseConfirm, setup, same]
  cases refused : chip.refusesErase (row / chip.config.pagesPerBlock) <;> rfl

/-- The chip once the erase of the block of a row is confirmed. -/
def erasing (chip : Chip) (row : Nat) : Chip := (chip.eraseSetup row).counted.eraseConfirm

section Erasing

variable (chip : Chip) (row : Nat)

@[simp] theorem flash_erasing :
    (chip.erasing row).flash = chip.flash.erase (row / chip.config.pagesPerBlock) := by
  rw [erasing, flash_eraseConfirm, flash_counted, flash_eraseSetup]
  rfl

@[simp] theorem pending_erasing : (chip.erasing row).pending = chip.pending :=
  pending_eraseConfirm _

@[simp] theorem loadFaults_erasing : (chip.erasing row).loadFaults = chip.loadFaults :=
  loadFaults_eraseConfirm _

theorem busy_erasing : (chip.erasing row).busy = chip.config.busyPolls := busy_eraseConfirm _

theorem device_erasing {session : Session} (elsewhere : session.state ≠ .reading) :
    session.device (chip.erasing row) =
      { flash := chip.flash.erase (row / chip.config.pagesPerBlock)
        loadFaults := chip.loadFaults
        loaded := none } := by
  unfold Session.device
  rw [flash_erasing, loadFaults_erasing, if_neg elsewhere]

theorem failed_erasing :
    (chip.erasing row).failed = chip.flash.refuses (row / chip.config.pagesPerBlock) := by
  rw [erasing, failed_eraseConfirm rfl, flash_counted, flash_eraseSetup]
  rfl

end Erasing

theorem loadFaults_storeProgram (chip : Chip) (pending : PendingProgram) :
    (chip.storeProgram pending).loadFaults = chip.loadFaults := by
  unfold storeProgram
  split
  · split <;> rfl
  · rfl

theorem busy_storeProgram (chip : Chip) (pending : PendingProgram) :
    (chip.storeProgram pending).busy = chip.busy := by
  unfold storeProgram
  split
  · split <;> rfl
  · rfl

theorem failed_storeProgram (chip : Chip) (pending : PendingProgram) :
    (chip.storeProgram pending).failed = chip.failed := by
  unfold storeProgram
  split
  · split <;> rfl
  · rfl

section ProgramConfirm

variable {chip : Chip} {pending : PendingProgram}

theorem loadFaults_programConfirm (chip : Chip) :
    chip.programConfirm.state.loadFaults = chip.loadFaults := by
  unfold programConfirm
  split
  · rfl
  · dsimp only
    split
    · rfl
    · rfl
    · split
      · rfl
      · exact loadFaults_storeProgram _ _

theorem result_programConfirm (setup : chip.program = some pending) :
    chip.programConfirm.result =
      if chip.programFaults pending.page = some .transportError then .error .transport
      else .ok () := by
  simp only [programConfirm, setup]
  cases fault : chip.programFaults pending.page with
  | none =>
    simp only [reduceCtorEq, if_false]
    split <;> rfl
  | some misbehaviour => cases misbehaviour <;> simp

theorem busy_programConfirm (setup : chip.program = some pending) :
    chip.programConfirm.state.busy = chip.flash.busyAfterProgram pending.page := by
  have found : chip.flash.programFaults pending.page = chip.programFaults pending.page := rfl
  simp only [programConfirm, setup, Flash.busyAfterProgram, found]
  cases fault : chip.programFaults pending.page with
  | none =>
    simp only [reduceCtorEq, if_false]
    split
    · rfl
    · exact busy_storeProgram _ _
  | some misbehaviour => cases misbehaviour <;> rfl

theorem failed_programConfirm (setup : chip.program = some pending)
    (writable : chip.config.writeProtected = false)
    (inRange : pending.page < chip.config.totalPages) :
    chip.programConfirm.state.failed = false := by
  have accepted : ¬ (chip.config.writeProtected ∨ chip.config.totalPages ≤ pending.page) := by
    simpa [writable] using inRange
  simp only [programConfirm, setup]
  cases chip.programFaults pending.page with
  | none =>
    simp only [if_neg accepted]
    exact failed_storeProgram _ _
  | some misbehaviour => cases misbehaviour <;> rfl

end ProgramConfirm

def programming (chip : Chip) (pending : PendingProgram) : Chip :=
  (chip.programSetup pending).counted.programConfirm.state

section Programming

variable (chip : Chip) (pending : PendingProgram)

@[simp] theorem flash_programming :
    (chip.programming pending).flash = chip.flash.program pending := by
  rw [programming, flash_programConfirm, flash_counted, flash_programSetup]
  rfl

@[simp] theorem pending_programming : (chip.programming pending).pending = chip.pending :=
  pending_programConfirm _

@[simp] theorem loadFaults_programming :
    (chip.programming pending).loadFaults = chip.loadFaults :=
  loadFaults_programConfirm _

theorem busy_programming :
    (chip.programming pending).busy = chip.flash.busyAfterProgram pending.page := by
  rw [programming, busy_programConfirm rfl, flash_counted, flash_programSetup]

theorem failed_programming (writable : chip.config.writeProtected = false)
    (inRange : pending.page < chip.config.totalPages) :
    (chip.programming pending).failed = false :=
  failed_programConfirm rfl writable inRange

theorem device_programming {session : Session} (elsewhere : session.state ≠ .reading) :
    session.device (chip.programming pending) =
      { flash := chip.flash.program pending
        loadFaults := chip.loadFaults
        loaded := none } := by
  unfold Session.device
  rw [flash_programming, loadFaults_programming, if_neg elsewhere]

theorem handle_programConfirm :
    (chip.programSetup pending).counted.handle (.simple Opcode.programConfirm) =
      ⟨if chip.flash.programFaults pending.page = some .transportError then .error .transport
        else .ok [], chip.programming pending,
        (chip.programSetup pending).counted.programConfirm.notices⟩ := by
  have handled : (chip.programSetup pending).counted.handle (.simple Opcode.programConfirm) =
      ⟨(chip.programSetup pending).counted.programConfirm.result.map fun _ => [],
        chip.programming pending, (chip.programSetup pending).counted.programConfirm.notices⟩ := rfl
  have faults : (chip.programSetup pending).counted.programFaults = chip.flash.programFaults := rfl
  rw [handled, result_programConfirm rfl, faults]
  split <;> rfl

end Programming

end Chip

end OnfiFlash
