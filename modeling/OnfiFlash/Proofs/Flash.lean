import OnfiFlash.Chip.Step

/-! The flash array of a chip, apart from its command interface. Only two things ever change the
array: a confirmed erase and a confirmed program. -/
namespace OnfiFlash

namespace Chip.Config

/-- Two configurations that differ at most in the write-protect pin. -/
def SameLayout (c other : Config) : Prop :=
  other = { c with writeProtected := other.writeProtected }

theorem SameLayout.refl (c : Config) : c.SameLayout c := rfl

theorem SameLayout.trans {c second third : Config} (first : c.SameLayout second)
    (next : second.SameLayout third) : c.SameLayout third := by
  unfold SameLayout at *
  rw [next, first]

theorem SameLayout.symm {c other : Config} (layout : c.SameLayout other) : other.SameLayout c := by
  unfold SameLayout at *
  rw [layout]

theorem SameLayout.pagesPerBlock {c other : Config} (layout : c.SameLayout other) :
    other.pagesPerBlock = c.pagesPerBlock := by
  rw [layout]

theorem SameLayout.busyPolls {c other : Config} (layout : c.SameLayout other) :
    other.busyPolls = c.busyPolls := by
  rw [layout]

theorem SameLayout.busyPolls_lt {c other : Config} (layout : c.SameLayout other) {polls : Nat}
    (settles : c.busyPolls < polls) : other.busyPolls < polls := by
  rw [layout.busyPolls]
  exact settles

end Chip.Config

/-- The array behind a chip's command interface: its cells, its defects, and what has been erased
and programmed, latest first. -/
structure Flash where
  config : Chip.Config
  cells : Nat → List UInt8
  programFaults : Nat → Option ProgramFault
  protectAfter : Option Nat
  erased : List Nat
  programmed : List Nat

namespace Flash

def Sized (flash : Flash) : Prop :=
  ∀ page, (flash.cells page).length = flash.config.rawPageSize

def refuses (flash : Flash) (block : Nat) : Bool :=
  flash.config.writeProtected || flash.config.totalBlocks ≤ block
    || flash.config.badBlocks.contains block || flash.config.eraseFailures.contains block

/-- Erase a block, unless that fails. -/
def erase (flash : Flash) (block : Nat) : Flash :=
  if flash.refuses block then flash
  else { flash with
    cells := Chip.eraseCells flash.config flash.cells block
    erased := block :: flash.erased }

/-- Is a confirmed program of the page without effect on the cells? -/
def Ignores (flash : Flash) (page : Nat) : Prop :=
  (flash.programFaults page).isSome ∨ flash.config.writeProtected ∨ flash.config.totalPages ≤ page

instance (flash : Flash) (page : Nat) : Decidable (flash.Ignores page) :=
  inferInstanceAs (Decidable (_ ∨ _))

/-- Is the write-protect pin asserted once the latest program is done? -/
def protectionDue (flash : Flash) : Bool :=
  match flash.protectAfter with
  | some programs => programs ≤ flash.programmed.length
  | none => false

/-- Confirm a program. It is logged even if it has no effect on the cells. -/
def program (flash : Flash) (pending : PendingProgram) : Flash :=
  let logged := { flash with programmed := pending.page :: flash.programmed }
  if flash.Ignores pending.page then logged
  else { logged with
    cells := Chip.assign flash.cells pending.page
      (Chip.programmedCells (flash.cells pending.page) pending.column pending.data)
    config := { flash.config with
      writeProtected := flash.config.writeProtected || logged.protectionDue } }

/-- The status reads that report busy after a confirmed program of the page. -/
def busyAfterProgram (flash : Flash) (page : Nat) : Nat :=
  if flash.programFaults page = some .stuck then Chip.stuckBusy else flash.config.busyPolls

theorem erase_of_refuses {flash : Flash} {block : Nat} (refused : flash.refuses block = true) :
    flash.erase block = flash := if_pos refused

theorem erase_of_accepts {flash : Flash} {block : Nat} (accepted : flash.refuses block = false) :
    flash.erase block = { flash with
      cells := Chip.eraseCells flash.config flash.cells block
      erased := block :: flash.erased } :=
  if_neg (by simp [accepted])

@[simp] theorem config_erase (flash : Flash) (block : Nat) :
    (flash.erase block).config = flash.config := by
  unfold erase
  split <;> rfl

theorem sameLayout_erase (flash : Flash) (block : Nat) :
    flash.config.SameLayout (flash.erase block).config := by
  rw [config_erase]
  exact .refl _

@[simp] theorem programFaults_erase (flash : Flash) (block : Nat) :
    (flash.erase block).programFaults = flash.programFaults := by
  unfold erase
  split <;> rfl

@[simp] theorem protectAfter_erase (flash : Flash) (block : Nat) :
    (flash.erase block).protectAfter = flash.protectAfter := by
  unfold erase
  split <;> rfl

theorem sameLayout_program (flash : Flash) (pending : PendingProgram) :
    flash.config.SameLayout (flash.program pending).config := by
  unfold program
  split <;> rfl

@[simp] theorem programFaults_program (flash : Flash) (pending : PendingProgram) :
    (flash.program pending).programFaults = flash.programFaults := by
  unfold program
  split <;> rfl

@[simp] theorem protectAfter_program (flash : Flash) (pending : PendingProgram) :
    (flash.program pending).protectAfter = flash.protectAfter := by
  unfold program
  split <;> rfl

@[simp] theorem erased_program (flash : Flash) (pending : PendingProgram) :
    (flash.program pending).erased = flash.erased := by
  unfold program
  split <;> rfl

@[simp] theorem programmed_erase (flash : Flash) (block : Nat) :
    (flash.erase block).programmed = flash.programmed := by
  unfold erase
  split <;> rfl

@[simp] theorem programmed_program (flash : Flash) (pending : PendingProgram) :
    (flash.program pending).programmed = pending.page :: flash.programmed := by
  unfold program
  split <;> rfl

/-- A program that is stored asserts the write-protect pin if its time has come. -/
theorem writeProtected_program {flash : Flash} {pending : PendingProgram}
    (stored : ¬ flash.Ignores pending.page) :
    (flash.program pending).config.writeProtected = (flash.config.writeProtected
      || { flash with programmed := pending.page :: flash.programmed }.protectionDue) := by
  rw [program, if_neg stored]

theorem length_programmedCells (cells : List UInt8) (column : Nat) (data : List UInt8) :
    (Chip.programmedCells cells column data).length = cells.length := by
  simp only [Chip.programmedCells, List.length_append, List.length_take, List.length_drop,
    List.length_zipWith]
  omega

theorem Sized.erase {flash : Flash} (sized : flash.Sized) (block : Nat) :
    (flash.erase block).Sized := by
  intro page
  unfold Flash.erase
  split
  · exact sized page
  · simp only [Chip.eraseCells]
    split
    · exact List.length_replicate
    · exact sized page

theorem Sized.program {flash : Flash} (sized : flash.Sized) (pending : PendingProgram) :
    (flash.program pending).Sized := by
  intro page
  unfold Flash.program
  split
  · exact sized page
  · simp only [Chip.assign]
    split
    · next same =>
      rw [length_programmedCells, sized, Chip.Config.rawPageSize]
      rfl
    · exact sized page

end Flash

namespace Chip

def flash (chip : Chip) : Flash where
  config := chip.config
  cells := chip.cells
  programFaults := chip.programFaults
  protectAfter := chip.protectAfter
  erased := chip.erased
  programmed := chip.programmed

theorem flash_eraseConfirm (chip : Chip) : chip.eraseConfirm.flash =
    match chip.eraseRow with
    | some row => chip.flash.erase (row / chip.config.pagesPerBlock)
    | none => chip.flash := by
  unfold eraseConfirm
  cases chip.eraseRow with
  | none => rfl
  | some row =>
    by_cases refused : chip.refusesErase (row / chip.config.pagesPerBlock)
    · have same : chip.flash.refuses (row / chip.config.pagesPerBlock) = true := refused
      simp only [refused, if_true, Flash.erase_of_refuses same]
      rfl
    · have same : chip.flash.refuses (row / chip.config.pagesPerBlock) = false :=
        Bool.eq_false_iff.mpr refused
      simp only [refused, Bool.false_eq_true, if_false, Flash.erase_of_accepts same]
      rfl

theorem flash_storeProgram (chip : Chip) (pending : PendingProgram) :
    (chip.storeProgram pending).flash = { chip.flash with
      cells := assign chip.cells pending.page
        (programmedCells (chip.cells pending.page) pending.column pending.data)
      config := { chip.config with
        writeProtected := chip.config.writeProtected || chip.flash.protectionDue } } := by
  unfold storeProgram
  cases due : chip.protectAfter with
  | none => simp [Flash.protectionDue, flash, due]
  | some programs =>
    by_cases reached : programs ≤ chip.programmed.length
    · simp [Flash.protectionDue, flash, due, reached, setProtected]
    · simp [Flash.protectionDue, flash, due, reached]

theorem flash_programConfirm (chip : Chip) : chip.programConfirm.state.flash =
    match chip.program with
    | some pending => chip.flash.program pending
    | none => chip.flash := by
  unfold programConfirm
  cases chip.program with
  | none => rfl
  | some pending =>
    simp only [Flash.program]
    cases fault : chip.programFaults pending.page with
    | some misbehaviour =>
      have ignored : chip.flash.Ignores pending.page := .inl (by simp [flash, fault])
      rw [if_pos ignored]
      cases misbehaviour <;> rfl
    | none =>
      by_cases refused : chip.config.writeProtected ∨ chip.config.totalPages ≤ pending.page
      · have ignored : chip.flash.Ignores pending.page := .inr refused
        rw [if_pos ignored, if_pos refused]
        rfl
      · have stored : ¬ chip.flash.Ignores pending.page := by
          simpa [Flash.Ignores, flash, fault] using refused
        rw [if_neg stored, if_neg refused, flash_storeProgram]
        rfl

end Chip
end OnfiFlash
