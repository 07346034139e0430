import OnfiFlash.Proofs.ImageReading
import OnfiFlash.Proofs.InUse

/-! What reading an image returns on a chip with any contents. The index page need not have been
written by anyone: whatever blocks it lists, once or often, good or bad, all their pages are read up
to the last that holds anything. -/
namespace OnfiFlash

/-- A page holds data: its main area does not look erased, or it carries the mark, of which up to
half of the bits may have flipped. -/
def Image.Filled (g : Geometry) (cells : List UInt8) : Prop :=
  (∃ byte ∈ cells.take g.bytesPerPage, byte ≠ erasedByte) ∨
    markOffset < g.sparePerPage ∧
      ∃ found, cells[g.bytesPerPage + markOffset]? = some found ∧ bitCount found ≤ 4

instance (g : Geometry) (cells : List UInt8) : Decidable (Image.Filled g cells) :=
  inferInstanceAs (Decidable (_ ∨ _ ∧ _))

namespace ImagePage

/-- Pages are kept up to the last that is not blank. -/
theorem exists_trimBlankPages (pages : List ImagePage) :
    ∃ dropped, pages = trimBlankPages pages ++ dropped ∧
      (∀ page ∈ dropped, page.isBlank = true) ∧
      ∀ page, (trimBlankPages pages).getLast? = some page → page.isBlank = false := by
  refine ⟨(pages.reverse.takeWhile isBlank).reverse, ?_, fun page among => ?_, fun page last => ?_⟩
  · rw [trimBlankPages, ← List.reverse_append, List.takeWhile_append_dropWhile,
      List.reverse_reverse]
  · exact List.all_eq_true.mp List.all_takeWhile page (List.mem_reverse.mp among)
  · rw [trimBlankPages, List.getLast?_reverse] at last
    have stopped := List.head?_dropWhile_not isBlank pages.reverse
    rw [last] at stopped
    exact stopped

end ImagePage

namespace Geometry

variable {g : Geometry}

theorem main_readBack (g : Geometry) {cells : List UInt8} (length : cells.length = g.rawPageSize) :
    (g.readBack cells).main = cells.take g.bytesPerPage := by
  have size : Image.markedLength g ≤ cells.length := length ▸ Image.markedLength_le g
  have least : g.bytesPerPage ≤ Image.markedLength g := by
    rw [Image.markedLength]
    split <;> omega
  rw [readBack, Chip.resized_of_le size, List.take_take, Nat.min_eq_left least]

theorem isMarked_iff (g : Geometry) (raw : List UInt8) :
    Image.isMarked g raw = true ↔
      ∃ found, raw[g.bytesPerPage + Image.markOffset]? = some found ∧ bitCount found ≤ 4 := by
  have unmasked (byte : UInt8) : byte ^^^ Image.mark = byte := UInt8.xor_zero
  rw [Image.isMarked]
  cases raw[g.bytesPerPage + Image.markOffset]? with
  | none => simp
  | some byte => simp [unmasked]

theorem marked_readBack (g : Geometry) {cells : List UInt8} (length : cells.length = g.rawPageSize) :
    (g.readBack cells).marked = true ↔ Image.markOffset < g.sparePerPage ∧ ∃ found,
      cells[g.bytesPerPage + Image.markOffset]? = some found ∧ bitCount found ≤ 4 := by
  have size : Image.markedLength g ≤ cells.length := length ▸ Image.markedLength_le g
  rw [readBack, Chip.resized_of_le size, isMarked_iff]
  by_cases wide : Image.markOffset < g.sparePerPage
  · have inside : g.bytesPerPage + Image.markOffset < Image.markedLength g := by
      rw [Image.markedLength, if_pos wide]
      exact Nat.lt_succ_self _
    rw [List.getElem?_take_of_lt inside, and_iff_right wide]
  · have outside : (cells.take (Image.markedLength g)).length ≤ g.bytesPerPage + Image.markOffset := by
      rw [Image.markedLength, if_neg wide]
      exact Nat.le_trans (List.length_take_le _ _) (Nat.le_add_right _ _)
    rw [List.getElem?_eq_none outside]
    simp [wide]

/-- What is read back of a page tells whether it holds data. -/
theorem isBlank_readBack {cells : List UInt8} (length : cells.length = g.rawPageSize) :
    (g.readBack cells).isBlank = false ↔ Image.Filled g cells := by
  rw [ImagePage.isBlank, Bool.and_eq_false_iff, main_readBack g length, Image.Filled, or_comm]
  refine or_congr ?_ ?_
  · simp [Image.isErased]
  · rw [Bool.not_eq_false', marked_readBack g length]

/-- Pages as they are read back, without the blank ones at their end. -/
theorem trim_readBack (g : Geometry) {cells : Nat → List UInt8}
    (sized : ∀ page, (cells page).length = g.rawPageSize) (pages : List Nat) :
    ∃ kept dropped, pages = kept ++ dropped ∧
      (∀ page, kept.getLast? = some page → Image.Filled g (cells page)) ∧
      (∀ page ∈ dropped, ¬ Image.Filled g (cells page)) ∧
      (trimBlankPages (pages.map fun page => g.readBack (cells page))).flatMap ImagePage.main
        = kept.flatMap fun page => (cells page).take g.bytesPerPage := by
  obtain ⟨blank, split, blanks, last⟩ :=
    ImagePage.exists_trimBlankPages (pages.map fun page => g.readBack (cells page))
  obtain ⟨kept, dropped, rfl, front, rest⟩ := List.map_eq_append_iff.mp split
  refine ⟨kept, dropped, rfl, fun page isLast => ?_, fun page among filled => ?_, ?_⟩
  · have lastRead : (trimBlankPages ((kept ++ dropped).map fun page =>
        g.readBack (cells page))).getLast? = some (g.readBack (cells page)) := by
      rw [← front, List.getLast?_map, isLast]
      rfl
    exact (isBlank_readBack (sized page)).mp (last _ lastRead)
  · have dropped := blanks _ (rest ▸ List.mem_map_of_mem among)
    rw [(isBlank_readBack (sized page)).mpr filled] at dropped
    cases dropped
  · rw [← front, List.flatMap_map]
    simp only [main_readBack g (sized _)]

theorem Dimensions.lt_totalPages (dimensions : g.Dimensions) {page : Nat}
    (inRange : g.blockOf page < g.totalBlocks) : page < g.totalPages := by
  rw [Geometry.blockOf, Nat.div_lt_iff_lt_mul dimensions.pagesPerBlock] at inRange
  exact g.totalPages_eq ▸ inRange

end Geometry

namespace Session

variable {start chip : Chip} {session : Session}

/-- On a chip with a valid layout whose row cycles cover its pages and none of whose loads is
faulty, reading an image returns the main areas of the pages of all blocks that the index page
lists, up to the last page that holds data, and leaves the chip's cells and logs as they were. -/
theorem readImage_contents (sound : start.Sound) (valid : start.config.geometry.Valid)
    (units : start.config.unitCount < limit8) (covers : start.config.geometry.RowsCover)
    (addressed : 0 < start.config.columnCycles + start.config.rowCycles)
    (inUse : session.InUse start chip)
    (settles : chip.config.busyPolls < session.config.polling.polls)
    (loads : ∀ page, page < session.geometry.totalPages → chip.loadFaults page = none)
    {indexPage : Nat} (inRange : indexPage < session.geometry.totalPages) :
    let g := session.geometry
    let main := fun page => (chip.cells page).take g.bytesPerPage
    let read := ((Operation.readImage indexPage).runIn session).run chip
    (∃ kept dropped, g.pagesOf (Index.decode (main indexPage) g.totalBlocks) = kept ++ dropped ∧
      (∀ page, kept.getLast? = some page → Image.Filled g (chip.cells page)) ∧
      (∀ page ∈ dropped, ¬ Image.Filled g (chip.cells page)) ∧
      read.value.1 = .ok (kept.flatMap main)) ∧
    read.link.cells = chip.cells ∧ read.link.eraseLog = chip.eraseLog ∧
      read.link.programLog = chip.programLog := by
  intro g main read
  have fits : start.config.Fits := .of_valid valid units
  obtain ⟨serving, -⟩ := inUse.serving sound fits
  have describes := inUse.describes sound fits
  have reaches : g.Reaches :=
    ⟨session.valid, describes.rowsCover covers, describes.addressed addressed⟩
  have sized : ∀ page, (chip.cells page).length = g.rawPageSize := fun page =>
    (serving.sound.sized page).trans serving.describes.rawPageSize
  have faultless : ∀ page, page = indexPage ∨
      page ∈ g.pagesOf (Index.decode (main indexPage) g.totalBlocks) →
      chip.loadFaults page = none := by
    rintro page (rfl | listed)
    · exact loads page inRange
    · have inBlock := (session.valid.dimensions.mem_pagesOf _ _).mp listed
      exact loads page (session.valid.dimensions.lt_totalPages (Index.lt_of_mem_decode inBlock))
  obtain ⟨-, returned, same⟩ := Operation.readImage_reads (d := session.device chip) reaches inRange
    settles rfl faultless session chip serving rfl
  obtain ⟨kept, dropped, pages, last, blank, joined⟩ :=
    g.trim_readBack sized (g.pagesOf (Index.decode (main indexPage) g.totalBlocks))
  refine ⟨⟨kept, dropped, pages, last, blank, ?_⟩, congrArg Flash.cells same, ?_, ?_⟩
  · exact returned.trans (congrArg Except.ok joined)
  · exact congrArg List.reverse (congrArg Flash.erased same)
  · exact congrArg List.reverse (congrArg Flash.programmed same)

/-- An index page that was programmed by hand lists block 2 and then its own block. -/
theorem readImage_contents_small :
    let index := (Call.programPage 0 [2, 0, 0, 0, 0, 0, 0, 0]).perform smallSession
      (afterOpening {} smallChip)
    let data := (Call.programPage 4 (List.replicate 12 7)).perform index.1 index.2
    let read := ((Operation.readImage 0).runIn data.1).run data.2
    (∃ kept, kept <+: [4, 5, 0, 1] ∧ 0 ∈ kept ∧
      read.value.1 = .ok (kept.flatMap fun page => (data.2.cells page).take 12)) ∧
    read.link.cells = data.2.cells := by
  intro index data read
  have valid : smallChip.config.geometry.Valid := by decide
  have covers : smallChip.config.geometry.RowsCover := by decide
  have inUse : data.1.InUse smallChip data.2 := (smallSession_inUse.called _).called _
  have loads : ∀ page, page < data.1.geometry.totalPages → data.2.loadFaults page = none := by
    decide +kernel
  have inRange : 0 < data.1.geometry.totalPages := by decide +kernel
  obtain ⟨⟨kept, dropped, pages, -, blank, returned⟩, same, -⟩ :=
    readImage_contents (Chip.sound_ofConfig _) valid (by decide) covers (by decide) inUse
      (by decide +kernel) loads inRange
  have listed : data.1.geometry.pagesOf (Index.decode ((data.2.cells 0).take
      data.1.geometry.bytesPerPage) data.1.geometry.totalBlocks) = [4, 5, 0, 1] := by
    decide +kernel
  have filled : Image.Filled data.1.geometry (data.2.cells 0) := by decide +kernel
  have width : data.1.geometry.bytesPerPage = 12 := by decide +kernel
  rw [listed] at pages
  rw [width] at returned
  have among : 0 ∈ kept ++ dropped := pages ▸ by decide
  have inKept := (List.mem_append.mp among).resolve_right fun gone => blank 0 gone filled
  exact ⟨⟨kept, ⟨dropped, pages.symm⟩, inKept, returned⟩, same⟩

end Session

/-- A chip whose first page lists a block with data, and with responses waiting. -/
def listedOpening : Opening where
  config := bareOpening
  start := ((smallChip.setPage 0 [2, 0, 0, 0]).setPage 4 (List.replicate 12 7)).unread
  opens := by decide +kernel

namespace Session

/-- Where responses wait when the session is opened, they are taken for the index page, and the
pages of the block that it lists are not read. -/
theorem readImage_contents_stale :
    let chip := listedOpening.chip
    let g := listedOpening.session.geometry
    let read := ((Operation.readImage 0).runIn listedOpening.session).run chip
    (chip.config.geometry.Valid ∧ chip.config.geometry.RowsCover ∧
      chip.config.busyPolls < listedOpening.session.config.polling.polls ∧
      ∀ page, page < g.totalPages → chip.loadFaults page = none) ∧
    ¬ ∃ kept dropped, g.pagesOf (Index.decode ((chip.cells 0).take g.bytesPerPage) g.totalBlocks)
          = kept ++ dropped ∧
        (∀ page ∈ dropped, ¬ Image.Filled g (chip.cells page)) ∧
        read.value.1 = .ok (kept.flatMap fun page => (chip.cells page).take g.bytesPerPage) := by
  intro chip g read
  refine ⟨by decide +kernel, ?_⟩
  rintro ⟨kept, dropped, pages, blank, returned⟩
  have listed : 4 ∈ g.pagesOf (Index.decode ((chip.cells 0).take g.bytesPerPage) g.totalBlocks) := by
    decide +kernel
  have filled : Image.Filled g (chip.cells 4) := by decide +kernel
  have nothing : read.value.1 = .ok [] := by decide +kernel
  have inKept : 4 ∈ kept :=
    (List.mem_append.mp (pages ▸ listed)).resolve_right fun gone => blank 4 gone filled
  have empty := List.flatMap_eq_nil_iff.mp (Except.ok.inj (returned.symm.trans nothing)) 4 inKept
  exact absurd empty (by decide +kernel)

end Session
end OnfiFlash
