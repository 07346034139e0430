import OnfiFlash.Proofs.BlockChoice
import OnfiFlash.Proofs.InUse

/-! The physics of a flash array, whatever is sent to the chip, frames or not. Programming only
clears bits; what is cleared comes back only when its whole block is erased, and nothing erases a
defective block. -/
namespace OnfiFlash

theorem and_erasedByte (byte : UInt8) : byte &&& erasedByte = byte := by
  apply UInt8.toNat_inj.mp
  rw [UInt8.toNat_and]
  exact Nat.and_two_pow_sub_one_of_lt_two_pow (n := 8) byte.toNat_lt

/-- Programming takes bits away from a cell or leaves it alone. -/
theorem Chip.getD_programmedCells (cells : List UInt8) (column : Nat) (data : List UInt8)
    (offset : Nat) : ∃ mask, (programmedCells cells column data).getD offset erasedByte
      = cells.getD offset erasedByte &&& mask := by
  simp only [List.getD_eq_getElem?_getD, programmedCells, List.getElem?_append, List.length_append,
    List.length_take, List.length_zipWith, List.length_drop, List.getElem?_take,
    List.getElem?_zipWith, List.getElem?_drop]
  split
  · next inside =>
    split
    · next before =>
      rw [if_pos (by omega)]
      exact ⟨_, (and_erasedByte _).symm⟩
    · next behind =>
      have start : min column cells.length = column := by omega
      rw [start] at inside behind ⊢
      have place : column + (offset - column) = offset := by omega
      rw [place, List.getElem?_eq_getElem (by omega : offset < cells.length),
        List.getElem?_eq_getElem (by omega : offset - column < data.length)]
      exact ⟨_, rfl⟩
  · next outside =>
    refine ⟨erasedByte, ?_⟩
    rw [and_erasedByte]
    rcases Nat.lt_or_ge offset cells.length with within | beyond
    · congr 2
      omega
    · rw [List.getElem?_eq_none beyond, List.getElem?_eq_none (by omega)]

namespace Flash

variable {start flash last : Flash}

/-- A bit of a cell; behind the end of a page cells read as erased. -/
def bit (flash : Flash) (page offset index : Nat) : Bool :=
  ((flash.cells page).getD offset erasedByte).toNat.testBit index

theorem bit_program {pending : PendingProgram} {page offset index : Nat}
    (holds : (flash.program pending).bit page offset index = true) :
    flash.bit page offset index = true := by
  unfold program at holds
  split at holds
  · exact holds
  · simp only [bit, Chip.assign] at holds
    split at holds
    · next same =>
      obtain ⟨mask, cleared⟩ := Chip.getD_programmedCells (flash.cells pending.page)
        pending.column pending.data offset
      rw [cleared, UInt8.toNat_and, Nat.testBit_and, Bool.and_eq_true] at holds
      rw [same]
      exact holds.1
    · exact holds

theorem bit_erase_of_ne {page block : Nat} (different : page / flash.config.pagesPerBlock ≠ block)
    (offset index : Nat) :
    (flash.erase block).bit page offset index = flash.bit page offset index := by
  rw [bit, cells_erase_of_ne flash different, bit]

theorem accepts_iff {block : Nat} : flash.refuses block = false ↔
    flash.config.writeProtected = false ∧ block < flash.config.totalBlocks ∧
      flash.config.failsErase block = false := by
  simp [refuses, Chip.Config.failsErase, and_assoc]

/-- What an array goes through, whatever is sent to its chip. -/
structure Endures (start last : Flash) : Prop where
  layout : start.config.SameLayout last.config
  outside : ∀ page, start.config.totalPages ≤ page → last.cells page = start.cells page
  defective : ∀ page, start.config.failsErase (page / start.config.pagesPerBlock) = true →
    ∀ offset index, last.bit page offset index = true → start.bit page offset index = true
  erased : ∃ log, last.erased = log ++ start.erased ∧
    ∀ block ∈ log, block < start.config.totalBlocks ∧ start.config.failsErase block = false
  locked : start.config.writeProtected = true →
    last.config.writeProtected = true ∧ last.cells = start.cells ∧ last.erased = start.erased

namespace Endures

theorem refl (flash : Flash) : flash.Endures flash where
  layout := .refl _
  outside _ _ := rfl
  defective _ _ _ _ holds := holds
  erased := ⟨[], rfl, nofun⟩
  locked locked := ⟨locked, rfl, rfl⟩

theorem trans (first : start.Endures flash) (next : flash.Endures last) : start.Endures last := by
  obtain ⟨layout, outside, defective, ⟨log, logged, sound⟩, locked⟩ := next
  rw [first.layout] at outside defective sound
  obtain ⟨earlier, loggedFirst, soundFirst⟩ := first.erased
  refine ⟨first.layout.trans layout, fun page beyond => ?_, fun page defect _ _ holds => ?_,
    ⟨log ++ earlier, ?_, ?_⟩, fun start => ?_⟩
  · exact (outside page beyond).trans (first.outside page beyond)
  · exact first.defective page defect _ _ (defective page defect _ _ holds)
  · rw [logged, loggedFirst, List.append_assoc]
  · intro block listed
    exact (List.mem_append.mp listed).elim (sound block) (soundFirst block)
  · obtain ⟨still, cells, erased⟩ := first.locked start
    obtain ⟨stillLast, cellsLast, erasedLast⟩ := locked still
    exact ⟨stillLast, cellsLast.trans cells, erasedLast.trans erased⟩

theorem of_erase (positive : 0 < flash.config.pagesPerBlock) (block : Nat) :
    flash.Endures (flash.erase block) := by
  cases refused : flash.refuses block with
  | true =>
    rw [erase_of_refuses refused]
    exact refl flash
  | false =>
    obtain ⟨unprotected, onDevice, sound⟩ := accepts_iff.mp refused
    refine ⟨sameLayout_erase flash block, fun page beyond => ?_, fun page defect _ _ holds => ?_,
      ⟨[block], by rw [erase_of_accepts refused]; rfl, ?_⟩, fun locked => ?_⟩
    · have behind : flash.config.totalBlocks ≤ page / flash.config.pagesPerBlock :=
        (Nat.le_div_iff_mul_le positive).mpr beyond
      exact cells_erase_of_ne flash (by omega)
    · have different : page / flash.config.pagesPerBlock ≠ block := by
        rintro rfl
        exact absurd (defect.symm.trans sound) (by decide)
      rwa [bit_erase_of_ne different] at holds
    · exact List.forall_mem_singleton.mpr ⟨onDevice, sound⟩
    · exact absurd (locked.symm.trans unprotected) (by decide)

theorem of_program (pending : PendingProgram) : flash.Endures (flash.program pending) where
  layout := sameLayout_program flash pending
  outside page beyond := by
    unfold program
    split
    · rfl
    · next stored =>
      have elsewhere : page ≠ pending.page := by
        rintro rfl
        exact stored (.inr (.inr beyond))
      exact Chip.assign_other _ _ elsewhere
  defective _ _ _ _ holds := bit_program holds
  erased := ⟨[], erased_program flash pending, nofun⟩
  locked locked := by
    have ignored : flash.Ignores pending.page := .inr (.inl locked)
    rw [program, if_pos ignored]
    exact ⟨locked, rfl, rfl⟩

end Endures

end Flash

namespace Chip

def fed (chip : Chip) (traffic : List (List UInt8)) : Chip :=
  traffic.foldl (fun chip bytes => (Link.write bytes chip).state) chip

/-- What one write does to the array: nothing, one erase or one program. -/
theorem flash_write (chip : Chip) (bytes : List UInt8) :
    (Link.write bytes chip).state.flash = chip.flash ∨
    (∃ frame row, Frame.decode bytes = .ok frame ∧ frame.opcode = Opcode.eraseConfirm ∧
      chip.eraseRow = some row ∧ (Link.write bytes chip).state.flash
        = chip.flash.erase (row / chip.config.pagesPerBlock)) ∨
    ∃ pending, (Link.write bytes chip).state.flash = chip.flash.program pending := by
  cases decoded : Frame.decode bytes with
  | error e =>
    left
    show (accept bytes chip).state.flash = chip.flash
    rw [accept, decoded]
  | ok frame =>
    have same : (Link.write bytes chip).state.flash = (chip.counted.handle frame).state.flash := by
      show (accept bytes chip).state.flash = _
      rw [accept, decoded]
      dsimp only
      split <;> rfl
    rw [same]
    rcases flash_handle chip.counted frame with kept | ⟨row, command, latched, erased⟩
      | ⟨pending, _, _, programmed⟩
    · exact .inl kept
    · exact .inr (.inl ⟨frame, row, rfl, command, latched, erased⟩)
    · exact .inr (.inr ⟨pending, programmed⟩)

theorem endures_write (chip : Chip) (positive : 0 < chip.config.pagesPerBlock)
    (bytes : List UInt8) : chip.flash.Endures (Link.write bytes chip).state.flash := by
  rcases flash_write chip bytes with same | ⟨_, row, _, _, _, erased⟩ | ⟨pending, programmed⟩
  · rw [same]
    exact .refl _
  · rw [erased]
    exact .of_erase positive _
  · rw [programmed]
    exact .of_program pending

theorem endures_fed (chip : Chip) (positive : 0 < chip.config.pagesPerBlock)
    (traffic : List (List UInt8)) : chip.flash.Endures (chip.fed traffic).flash := by
  induction traffic generalizing chip with
  | nil => exact .refl _
  | cons bytes rest ih =>
    have first := chip.endures_write positive bytes
    have kept : 0 < (Link.write bytes chip).state.config.pagesPerBlock :=
      Nat.lt_of_lt_of_eq positive first.layout.pagesPerBlock.symm
    exact first.trans (ih _ kept)

/-- Written to the chip, the bytes are the command that confirms an erase; the block latched for it
is this one, and all its pages are erased at once. -/
structure ErasesBlock (chip : Chip) (bytes : List UInt8) (block : Nat) : Prop where
  confirms : ∃ frame, Frame.decode bytes = .ok frame ∧ frame.opcode = Opcode.eraseConfirm
  latched : ∃ row, chip.eraseRow = some row ∧ row / chip.config.pagesPerBlock = block
  erased : ∀ page, page / chip.config.pagesPerBlock = block →
    (Link.write bytes chip).state.cells page = chip.config.erasedPage
  spared : ∀ page, page / chip.config.pagesPerBlock ≠ block →
    (Link.write bytes chip).state.cells page = chip.cells page
  logged : (Link.write bytes chip).state.eraseLog = chip.eraseLog ++ [block]

/-- Only a block erase sets a bit. -/
theorem erasesBlock_of_bit {chip : Chip} {bytes : List UInt8} {page offset index : Nat}
    (before : chip.flash.bit page offset index = false)
    (after : (Link.write bytes chip).state.flash.bit page offset index = true) :
    chip.ErasesBlock bytes (page / chip.config.pagesPerBlock) := by
  rcases flash_write chip bytes with same | ⟨frame, row, decoded, command, latched, erased⟩
    | ⟨pending, programmed⟩
  · rw [same, before] at after
    cases after
  · have inBlock : page / chip.config.pagesPerBlock = row / chip.config.pagesPerBlock := by
      refine Decidable.byContradiction fun elsewhere => ?_
      rw [erased, Flash.bit_erase_of_ne elsewhere, before] at after
      cases after
    have accepted : chip.flash.refuses (row / chip.config.pagesPerBlock) = false := by
      rw [← Bool.not_eq_true]
      intro refused
      rw [erased, Flash.erase_of_refuses refused, before] at after
      cases after
    have cells : (Link.write bytes chip).state.cells
        = (chip.flash.erase (row / chip.config.pagesPerBlock)).cells :=
      congrArg Flash.cells erased
    have log : (Link.write bytes chip).state.erased
        = (chip.flash.erase (row / chip.config.pagesPerBlock)).erased :=
      congrArg Flash.erased erased
    rw [inBlock]
    refine ⟨⟨frame, decoded, command⟩, ⟨row, latched, rfl⟩, fun other same => ?_,
      fun other different => ?_, ?_⟩
    · rw [cells]
      exact Flash.cells_erase accepted same
    · rw [cells]
      exact Flash.cells_erase_of_ne chip.flash different
    · rw [eraseLog, log, Flash.erase_of_accepts accepted]
      exact List.reverse_cons
  · rw [programmed] at after
    rw [Flash.bit_program after] at before
    cases before

/-- By induction on what is written: either the first write sets the bit or one of the others. -/
theorem erasesBlock_of_fed {start : Chip} (positive : 0 < start.config.pagesPerBlock)
    {traffic : List (List UInt8)} {page offset index : Nat}
    (before : start.flash.bit page offset index = false)
    (after : (start.fed traffic).flash.bit page offset index = true) :
    ∃ earlier bytes later, traffic = earlier ++ bytes :: later ∧
      (start.fed earlier).ErasesBlock bytes (page / start.config.pagesPerBlock) := by
  induction traffic generalizing start with
  | nil => exact absurd (before.symm.trans after) (by decide)
  | cons bytes rest ih =>
    have layout := (start.endures_write positive bytes).layout
    have blocks : (Link.write bytes start).state.config.pagesPerBlock
        = start.config.pagesPerBlock := layout.pagesPerBlock
    cases next : (Link.write bytes start).state.flash.bit page offset index with
    | true => exact ⟨[], bytes, rest, rfl, erasesBlock_of_bit before next⟩
    | false =>
      obtain ⟨earlier, found, later, rfl, erases⟩ := ih (blocks.symm ▸ positive) next after
      rw [blocks] at erases
      exact ⟨bytes :: earlier, found, later, rfl, erases⟩

end Chip

namespace Flash

/-- A marker is cleared when all its bits are. -/
theorem marker_eq_zero_iff {flash : Flash} {g : Geometry} {page : Nat} :
    flash.marker g page = 0 ↔ ∀ index, flash.bit page g.bytesPerPage index = false := by
  have same : flash.marker g page = (flash.cells page).getD g.bytesPerPage erasedByte := by
    rw [marker, List.headD_eq_head?_getD, List.head?_drop, List.getD_eq_getElem?_getD]
  rw [same]
  constructor
  · intro cleared index
    rw [bit, cleared]
    exact Nat.zero_testBit index
  · intro cleared
    refine UInt8.toNat_inj.mp (Nat.eq_of_testBit_eq fun index => ?_)
    exact (cleared index).trans (Nat.zero_testBit index).symm

theorem Endures.marker {start last : Flash} (endures : start.Endures last) {g : Geometry}
    {page : Nat}
    (defect : start.config.failsErase (page / start.config.pagesPerBlock) = true)
    (cleared : start.marker g page = 0) : last.marker g page = 0 := by
  rw [marker_eq_zero_iff] at cleared ⊢
  intro index
  rw [← Bool.not_eq_true]
  intro holds
  have held := endures.defective page defect _ _ holds
  exact absurd ((cleared index).symm.trans held) (by decide)

end Flash

/-- The markers of the blocks that are bad from the factory are cleared. -/
theorem Chip.marker_ofConfig {c : Config} (spare : 1 ≤ c.sparePerPage) {page : Nat}
    (marked : c.isFactoryMarked page = true) : (ofConfig c).flash.marker c.geometry page = 0 := by
  show ((c.factoryPage page).drop c.bytesPerPage).headD erasedByte = 0
  have within : c.bytesPerPage < c.erasedPage.length := by
    rw [Config.erasedPage, List.length_replicate, Config.rawPageSize]
    omega
  rw [Config.factoryPage, if_pos marked, Config.markedPage, List.headD_eq_head?_getD,
    List.head?_drop, List.getElem?_set_self within]
  rfl

/-- Whatever is written to a chip with a valid layout: a bit that is set was set by the command that
erases its whole block; nothing changes while the chip is write protected; no defective block is
erased, so the markers of bad blocks stay cleared, as they are from the factory; and what lies
behind the last page never changes. -/
theorem Chip.fed_physics {start : Chip} (valid : start.config.geometry.Valid)
    (spare : start.config.badBlocks ≠ [] → 1 ≤ start.config.sparePerPage)
    (traffic : List (List UInt8)) :
    let chip := start.fed traffic
    let g := start.config.geometry
    (∀ page offset index, start.flash.bit page offset index = false →
      chip.flash.bit page offset index = true →
      ∃ earlier bytes later, traffic = earlier ++ bytes :: later ∧
        (start.fed earlier).ErasesBlock bytes (g.blockOf page)) ∧
    (chip.config.writeProtected = true → ∀ more,
      (chip.fed more).cells = chip.cells ∧ (chip.fed more).eraseLog = chip.eraseLog) ∧
    (∃ log, chip.eraseLog = start.eraseLog ++ log ∧ ∀ block ∈ log,
      block ∉ start.config.badBlocks ∧ block ∉ start.config.eraseFailures) ∧
    (∀ block ∈ start.config.badBlocks, block < g.totalBlocks →
      ∀ page, page = g.firstPage block ∨ page = g.lastPage block →
        (ofConfig start.config).flash.marker g page = 0 ∧
        (start.flash.marker g page = 0 → chip.flash.marker g page = 0)) ∧
    ∀ page, g.totalPages ≤ page → chip.cells page = start.cells page := by
  intro chip g
  have positive : 0 < start.config.pagesPerBlock := valid.dimensions.pagesPerBlock
  have endures := start.endures_fed positive traffic
  refine ⟨fun page offset index before after => erasesBlock_of_fed positive before after,
    fun locked more => ?_, ?_, fun block bad onDevice page place => ⟨?_, ?_⟩, fun page beyond => ?_⟩
  · have kept : 0 < chip.config.pagesPerBlock :=
      Nat.lt_of_lt_of_eq positive endures.layout.pagesPerBlock.symm
    obtain ⟨-, cells, erased⟩ := (chip.endures_fed kept more).locked locked
    exact ⟨cells, congrArg List.reverse erased⟩
  · obtain ⟨log, logged, sound⟩ := endures.erased
    refine ⟨log.reverse, (congrArg List.reverse logged).trans List.reverse_append, ?_⟩
    intro block listed
    simpa [Config.failsErase, flash] using (sound block (List.mem_reverse.mp listed)).2
  · refine marker_ofConfig (spare (List.ne_nil_of_mem bad)) (List.any_eq_true.mpr ⟨block, bad, ?_⟩)
    have pages : g.pagesPerBlock = start.config.pagesPerBlock := rfl
    simpa [Geometry.firstPage, Geometry.lastPage, pages] using place
  · have inBlock : g.blockOf page = block := by
      rcases place with rfl | rfl
      · exact g.blockOf_firstPage_add block positive
      · exact valid.dimensions.blockOf_lastPage block
    have defect : start.config.failsErase (g.blockOf page) = true := by
      rw [inBlock]
      simp [Config.failsErase, bad]
    exact endures.marker defect
  · rw [Geometry.totalPages_eq] at beyond
    exact endures.outside page beyond

/-- A page is programmed; then, after bytes that are no frame, its block is erased, which sets its
bits again, while the erase of a bad block fails. -/
theorem Chip.fed_physics_small :
    let start := smallChip.fed
      [(Frame.write Opcode.programSetup [0, 4] [0]).wire, (Frame.simple Opcode.programConfirm).wire]
    let traffic := [[1, 2, 3], (Frame.withAddress Opcode.eraseSetup [4]).wire,
      (Frame.simple Opcode.eraseConfirm).wire, (Frame.withAddress Opcode.eraseSetup [2]).wire,
      (Frame.simple Opcode.eraseConfirm).wire]
    start.flash.bit 4 0 7 = false ∧ (start.fed traffic).flash.bit 4 0 7 = true ∧
    (∃ earlier bytes later, traffic = earlier ++ bytes :: later ∧
      (start.fed earlier).ErasesBlock bytes 2) ∧
    (start.fed traffic).eraseLog = [2] ∧
    (start.fed traffic).flash.marker start.config.geometry 2 = 0 := by
  intro start traffic
  have valid : start.config.geometry.Valid := by decide +kernel
  have before : start.flash.bit 4 0 7 = false := by decide +kernel
  have after : (start.fed traffic).flash.bit 4 0 7 = true := by decide +kernel
  have cleared : start.flash.marker start.config.geometry 2 = 0 := by decide +kernel
  have block : start.config.geometry.blockOf 4 = 2 := by decide +kernel
  have first : 2 = start.config.geometry.firstPage 1 := by decide +kernel
  obtain ⟨rises, -, -, marked, -⟩ := fed_physics valid (fun _ => by decide +kernel) traffic
  have erases := rises 4 0 7 before after
  rw [block] at erases
  exact ⟨before, after, erases, by decide +kernel,
    (marked 1 (by decide +kernel) (by decide +kernel) 2 (.inl first)).2 cleared⟩

end OnfiFlash
