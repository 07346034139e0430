import OnfiFlash.Frame
import OnfiFlash.Opcode

/-! The frames that a session sends. A command answers with as many bytes as it is asked for or
with none, and a session asks for bytes only where they come. What the page register answers is
set apart from what the chip reports of itself. -/
namespace OnfiFlash

namespace Opcode

/-- The commands that a chip knows. -/
def known : List UInt8 :=
  [reset, readId, readParameterPage, readStatus, readMode, readStart, changeReadColumn,
    changeReadColumnStart, eraseSetup, eraseConfirm, programSetup, programConfirm, setFeatures]

/-- The commands by which a chip reports what it is and how it fares. -/
def reporting : List UInt8 := [readId, readParameterPage, readStatus]

/-- The commands that may be asked for bytes. -/
def answering : List UInt8 := readMode :: changeReadColumnStart :: reporting

end Opcode

namespace Frame

/-- The frame has the chip read from its page register. -/
def ReadsRegister (frame : Frame) : Prop :=
  (frame.opcode = Opcode.readMode ∧ frame.address = []) ∨
    frame.opcode = Opcode.changeReadColumnStart

theorem ReadsRegister.opcode {frame : Frame} (reads : frame.ReadsRegister) :
    frame.opcode ∈ [Opcode.readMode, Opcode.changeReadColumnStart] := by
  rcases reads with ⟨mode, -⟩ | start
  · rw [mode]
    decide
  · rw [start]
    decide

/-- A known command that is asked for bytes only if it is one of those that report. -/
structure Plain (frame : Frame) : Prop where
  known : frame.opcode ∈ Opcode.known
  asks : frame.readLength = 0 ∨ frame.opcode ∈ Opcode.reporting

/-- A frame that is answered with as many bytes as it asks for. -/
def Proper (frame : Frame) : Prop := frame.Plain ∨ frame.ReadsRegister

theorem Plain.silent {frame : Frame} (opcode : UInt8) (command : frame.opcode = opcode)
    (known : opcode ∈ Opcode.known) (asks : frame.readLength = 0) : frame.Plain :=
  ⟨command ▸ known, .inl asks⟩

theorem Plain.reports {frame : Frame} (opcode : UInt8) (command : frame.opcode = opcode)
    (reporting : opcode ∈ Opcode.reporting) : frame.Plain where
  known := by
    have known : Opcode.reporting ⊆ Opcode.known := by simp [Opcode.reporting, Opcode.known]
    exact command ▸ known reporting
  asks := .inr (command ▸ reporting)

theorem Proper.known {frame : Frame} (proper : frame.Proper) : frame.opcode ∈ Opcode.known := by
  have known : [Opcode.readMode, Opcode.changeReadColumnStart] ⊆ Opcode.known := by
    simp [Opcode.known]
  rcases proper with plain | reads
  · exact plain.known
  · exact known reads.opcode

theorem Proper.silent {frame : Frame} (proper : frame.Proper) {opcode : UInt8}
    (command : frame.opcode = opcode) (unanswered : opcode ∉ Opcode.answering) :
    frame.readLength.toNat = 0 := by
  obtain ⟨notMode, notStart, notReporting⟩ :
      opcode ≠ Opcode.readMode ∧ opcode ≠ Opcode.changeReadColumnStart
        ∧ opcode ∉ Opcode.reporting := by
    simpa [Opcode.answering, not_or] using unanswered
  subst command
  rcases proper with plain | ⟨mode, -⟩ | start
  · rw [plain.asks.resolve_right notReporting]
    rfl
  · exact absurd mode notMode
  · exact absurd start notStart

/-- A frame that latches an address asks for nothing. -/
theorem Proper.latches {frame : Frame} (proper : frame.Proper)
    (mode : frame.opcode = Opcode.readMode) (present : frame.address ≠ []) :
    frame.readLength.toNat = 0 := by
  have other : Opcode.readMode ∉ Opcode.reporting ∧
      Opcode.readMode ≠ Opcode.changeReadColumnStart := by decide
  rcases proper with plain | ⟨-, absent⟩ | start
  · rw [plain.asks.resolve_right (mode ▸ other.1)]
    rfl
  · exact absurd absent present
  · exact absurd (mode.symm.trans start) other.2

end Frame
end OnfiFlash
