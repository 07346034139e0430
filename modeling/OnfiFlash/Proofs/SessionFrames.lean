import OnfiFlash.Proofs.AddressFidelity
import OnfiFlash.Proofs.FrameCodec
import OnfiFlash.Proofs.FrameKinds

/-! Every frame that there is in a session. Those of the queries address nothing; those of the
operations that address the device address a page or a block that it has. All of them fit the fields
of their headers. -/
namespace OnfiFlash

/-- The commands that come with the address of a page, or may. -/
def Opcode.addressing : List UInt8 := [readMode, eraseSetup, programSetup]

namespace Frame

/-- The frames by which a session resets, examines and sets up a device and asks for its status. -/
inductive OfQuery : Frame → Prop where
  | status : OfQuery (.read Opcode.readStatus 1)
  | reset : OfQuery (.simple Opcode.reset)
  | identifier (address : UInt8) (length : UInt16) :
      OfQuery ((Frame.withAddress Opcode.readId [address]).reading length)
  | parameterPage (length : UInt16) :
      OfQuery ((Frame.withAddress Opcode.readParameterPage [0]).reading length)
  | feature (address : UInt8) (parameters : List UInt8)
      (fits : parameters.length ≤ maxDataLength) :
      OfQuery (.write Opcode.setFeatures [address] parameters)

/-- The frames of a session with a device of this layout. -/
inductive OfSession (g : Geometry) : Frame → Prop where
  | query {frame : Frame} (asks : frame.OfQuery) : OfSession g frame
  | latch (page : Nat) (inRange : page < g.totalPages) :
      OfSession g (.withAddress Opcode.readMode (g.pageAddress page))
  | load : OfSession g (.simple Opcode.readStart)
  | register : OfSession g (.simple Opcode.readMode)
  | fromStart (length : UInt16) : OfSession g (.read Opcode.readMode length)
  | column (start : Nat) :
      OfSession g (.withAddress Opcode.changeReadColumn (littleEndian 2 start))
  | fromColumn (length : UInt16) : OfSession g (.read Opcode.changeReadColumnStart length)
  | eraseSetup (page : Nat) (inRange : page < g.totalPages) :
      OfSession g (.withAddress Opcode.eraseSetup (g.rowAddress page))
  | eraseConfirm : OfSession g (.simple Opcode.eraseConfirm)
  | programSetup (page : Nat) (data : List UInt8) (inRange : page < g.totalPages)
      (fits : data.length ≤ g.rawPageSize) :
      OfSession g (.write Opcode.programSetup (g.pageAddress page) data)
  | programConfirm : OfSession g (.simple Opcode.programConfirm)

/-- Where a frame addresses a page of the device, or a block by its first page, the device has that
page. -/
structure Aims (g : Geometry) (frame : Frame) : Prop where
  page : frame.opcode = Opcode.readMode ∧ frame.address ≠ [] ∨ frame.opcode = Opcode.programSetup →
    ∃ page < g.totalPages, frame.address = g.pageAddress page
  row : frame.opcode = Opcode.eraseSetup → ∃ page < g.totalPages, frame.address = g.rowAddress page

theorem OfQuery.proper {frame : Frame} (asks : frame.OfQuery) : frame.Proper := by
  cases asks with
  | status => exact .inl (.reports Opcode.readStatus rfl (by decide))
  | reset => exact .inl (.silent Opcode.reset rfl (by decide) rfl)
  | identifier => exact .inl (.reports Opcode.readId rfl (by decide))
  | parameterPage => exact .inl (.reports Opcode.readParameterPage rfl (by decide))
  | feature => exact .inl (.silent Opcode.setFeatures rfl (by decide) rfl)

theorem OfQuery.wellFormed {frame : Frame} (asks : frame.OfQuery) : frame.WellFormed := by
  cases asks with
  | status => exact wellFormed_read _ _
  | reset => exact wellFormed_simple _
  | identifier | parameterPage =>
    exact ⟨by simp [reading, withAddress, maxAddressLength], Nat.zero_le _⟩
  | feature address parameters fits => exact ⟨by simp [write, maxAddressLength], fits⟩

/-- A frame that the link can carry and that is answered as it asks to be. -/
structure Regular (frame : Frame) : Prop where
  wellFormed : frame.WellFormed
  proper : frame.Proper
  polls : frame.opcode = Opcode.readStatus → frame.readLength ≠ 0

theorem Regular.of_other {frame : Frame} (wellFormed : frame.WellFormed) (proper : frame.Proper)
    (opcode : UInt8) (command : frame.opcode = opcode) (other : opcode ≠ Opcode.readStatus) :
    frame.Regular :=
  ⟨wellFormed, proper, fun status => absurd (command.symm.trans status) other⟩

theorem OfQuery.regular {frame : Frame} (asks : frame.OfQuery) : frame.Regular := by
  have wellFormed := asks.wellFormed
  have proper := asks.proper
  cases asks with
  | status => exact ⟨wellFormed, proper, fun _ => by decide⟩
  | reset => exact .of_other wellFormed proper Opcode.reset rfl (by decide)
  | identifier => exact .of_other wellFormed proper Opcode.readId rfl (by decide)
  | parameterPage => exact .of_other wellFormed proper Opcode.readParameterPage rfl (by decide)
  | feature => exact .of_other wellFormed proper Opcode.setFeatures rfl (by decide)

/-- A query has one of these commands. -/
theorem OfQuery.opcode_mem {frame : Frame} (asks : frame.OfQuery) :
    frame.opcode ∈ [Opcode.readStatus, Opcode.reset, Opcode.readId, Opcode.readParameterPage,
      Opcode.setFeatures] := by
  cases asks <;> simp [read, simple, withAddress, reading, write]

theorem OfQuery.addressesNothing {frame : Frame} (asks : frame.OfQuery) :
    frame.opcode ∉ Opcode.addressing := by
  have others : ∀ opcode ∈ [Opcode.readStatus, Opcode.reset, Opcode.readId,
      Opcode.readParameterPage, Opcode.setFeatures], opcode ∉ Opcode.addressing := by
    decide +kernel
  exact others _ asks.opcode_mem

variable {g : Geometry}

theorem Aims.of_other {frame : Frame} (opcode : UInt8) (command : frame.opcode = opcode)
    (other : opcode ∉ Opcode.addressing) : frame.Aims g := by
  obtain ⟨notMode, notErase, notProgram⟩ : opcode ≠ Opcode.readMode ∧ opcode ≠ Opcode.eraseSetup
      ∧ opcode ≠ Opcode.programSetup := by
    simpa [Opcode.addressing] using other
  subst command
  constructor
  · rintro (⟨mode, -⟩ | programs)
    · exact absurd mode notMode
    · exact absurd programs notProgram
  · exact fun erases => absurd erases notErase

theorem Aims.of_page {frame : Frame} (opcode : UInt8) (command : frame.opcode = opcode)
    (other : opcode ≠ Opcode.eraseSetup) {page : Nat} (inRange : page < g.totalPages)
    (address : frame.address = g.pageAddress page) : frame.Aims g where
  page _ := ⟨page, inRange, address⟩
  row erases := absurd (command.symm.trans erases) other

theorem Aims.of_row {frame : Frame} (command : frame.opcode = Opcode.eraseSetup) {page : Nat}
    (inRange : page < g.totalPages) (address : frame.address = g.rowAddress page) :
    frame.Aims g where
  page := by
    rintro (⟨mode, -⟩ | programs)
    · exact absurd (command.symm.trans mode) (by decide)
    · exact absurd (command.symm.trans programs) (by decide)
  row _ := ⟨page, inRange, address⟩

/-- Reading from the page register comes without an address. -/
theorem Aims.of_register {frame : Frame} (mode : frame.opcode = Opcode.readMode)
    (nothing : frame.address = []) : frame.Aims g where
  page := by
    rintro (⟨-, present⟩ | programs)
    · exact absurd nothing present
    · exact absurd (mode.symm.trans programs) (by decide)
  row erases := absurd (mode.symm.trans erases) (by decide)

theorem OfSession.proper {frame : Frame} (sent : frame.OfSession g) : frame.Proper := by
  cases sent with
  | query asks => exact asks.proper
  | latch => exact .inl (.silent Opcode.readMode rfl (by decide) rfl)
  | load => exact .inl (.silent Opcode.readStart rfl (by decide) rfl)
  | register => exact .inr (.inl ⟨rfl, rfl⟩)
  | fromStart => exact .inr (.inl ⟨rfl, rfl⟩)
  | column => exact .inl (.silent Opcode.changeReadColumn rfl (by decide) rfl)
  | fromColumn => exact .inr (.inr rfl)
  | eraseSetup => exact .inl (.silent Opcode.eraseSetup rfl (by decide) rfl)
  | eraseConfirm => exact .inl (.silent Opcode.eraseConfirm rfl (by decide) rfl)
  | programSetup => exact .inl (.silent Opcode.programSetup rfl (by decide) rfl)
  | programConfirm => exact .inl (.silent Opcode.programConfirm rfl (by decide) rfl)

theorem OfSession.wellFormed {frame : Frame} (valid : g.Valid) (sent : frame.OfSession g) :
    frame.WellFormed := by
  have dimensions := valid.dimensions
  cases sent with
  | query asks => exact asks.wellFormed
  | latch page => exact wellFormed_withAddress _ (dimensions.pageAddress_le page)
  | column => exact wellFormed_withAddress _ (by simp [maxAddressLength])
  | fromStart | fromColumn => exact wellFormed_read _ _
  | eraseSetup page => exact wellFormed_withAddress _ (dimensions.rowAddress_le page)
  | programSetup page data inRange fits =>
    exact ⟨dimensions.pageAddress_le page, Nat.le_trans fits dimensions.rawPageSize⟩
  | load | register | eraseConfirm | programConfirm => exact wellFormed_simple _

theorem OfSession.regular {frame : Frame} (valid : g.Valid) (sent : frame.OfSession g) :
    frame.Regular := by
  have wellFormed := sent.wellFormed valid
  have proper := sent.proper
  cases sent with
  | query asks => exact asks.regular
  | latch | register | fromStart =>
    exact .of_other wellFormed proper Opcode.readMode rfl (by decide)
  | load => exact .of_other wellFormed proper Opcode.readStart rfl (by decide)
  | column => exact .of_other wellFormed proper Opcode.changeReadColumn rfl (by decide)
  | fromColumn => exact .of_other wellFormed proper Opcode.changeReadColumnStart rfl (by decide)
  | eraseSetup => exact .of_other wellFormed proper Opcode.eraseSetup rfl (by decide)
  | eraseConfirm => exact .of_other wellFormed proper Opcode.eraseConfirm rfl (by decide)
  | programSetup => exact .of_other wellFormed proper Opcode.programSetup rfl (by decide)
  | programConfirm => exact .of_other wellFormed proper Opcode.programConfirm rfl (by decide)

theorem OfSession.aims {frame : Frame} (sent : frame.OfSession g) : frame.Aims g := by
  cases sent with
  | query asks => exact .of_other _ rfl asks.addressesNothing
  | latch page inRange => exact .of_page Opcode.readMode rfl (by decide) inRange rfl
  | load => exact .of_other Opcode.readStart rfl (by decide)
  | register | fromStart => exact .of_register rfl rfl
  | column => exact .of_other Opcode.changeReadColumn rfl (by decide)
  | fromColumn => exact .of_other Opcode.changeReadColumnStart rfl (by decide)
  | eraseSetup page inRange => exact .of_row rfl inRange rfl
  | eraseConfirm => exact .of_other Opcode.eraseConfirm rfl (by decide)
  | programSetup page data inRange =>
    exact .of_page Opcode.programSetup rfl (by decide) inRange rfl
  | programConfirm => exact .of_other Opcode.programConfirm rfl (by decide)

end Frame
end OnfiFlash
