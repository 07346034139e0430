import OnfiFlash.Proofs.ImageStorage
import OnfiFlash.Proofs.ImageRoundTrip
import OnfiFlash.Proofs.InUse
import OnfiFlash.Proofs.LoadFaults
import OnfiFlash.Proofs.Unaddressed

/-! What a chip holds once an image is written to it, cell by cell: the pieces of the image in the
blocks used, the record in the index page, and everything else as it was. -/
namespace OnfiFlash

/-- Page by page, the pages of a list of blocks. -/
theorem Geometry.getElem?_pagesOf (g : Geometry) (blocks : List Nat) (place : Nat) {offset : Nat}
    (inBlock : offset < g.pagesPerBlock) :
    (g.pagesOf blocks)[place * g.pagesPerBlock + offset]?
      = blocks[place]?.map fun block => g.firstPage block + offset := by
  induction blocks generalizing place with
  | nil => simp
  | cons block rest ih =>
    rw [pagesOf_cons]
    cases place with
    | zero =>
      rw [List.getElem?_append_left (by simpa using inBlock)]
      simp [inBlock]
    | succ place =>
      rw [List.getElem?_append_right (by simp [Nat.succ_mul]; omega)]
      have left : (place + 1) * g.pagesPerBlock + offset
          - (List.range' (g.firstPage block) g.pagesPerBlock).length
            = place * g.pagesPerBlock + offset := by
        rw [List.length_range', Nat.succ_mul]
        omega
      rw [left, ih, List.getElem?_cons_succ]

namespace Image

/-- What the pages of an image hold, counted through the blocks used: a piece of the data filled up
with zeros, the mark, and erased cells; behind the last piece the pages are erased. -/
def pageCells (g : Geometry) (data : List UInt8) (number : Nat) : List UInt8 :=
  match (chunks g.bytesPerPage data)[number]? with
  | some piece => zeroPadded g.bytesPerPage piece ++ markBytes g
      ++ List.replicate (g.rawPageSize - markedLength g) erasedByte
  | none => List.replicate g.rawPageSize erasedByte

/-- What becomes of the cells of a device when an image is written to the blocks `used`. The index
page keeps what `old` holds behind the record. -/
structure Written (g : Geometry) (before after : Nat → List UInt8) (indexPage : Nat)
    (old data : List UInt8) (used : List Nat) : Prop where
  ascending : used.Pairwise (· < ·)
  range : ∀ block ∈ used, g.blockOf indexPage < block ∧ block < g.totalBlocks
  count : used.length = chunkCount g.pagesPerBlock (chunkCount g.bytesPerPage data.length)
  image : ∀ place block offset, used[place]? = some block → offset < g.pagesPerBlock →
    after (g.firstPage block + offset) = pageCells g data (place * g.pagesPerBlock + offset)
  record : after indexPage = Index.record used ++ old.drop ((used.length + 1) * Index.entrySize)
    ++ List.replicate g.sparePerPage erasedByte
  wiped : ∀ page, page ≠ indexPage → g.blockOf page = g.blockOf indexPage →
    after page = List.replicate g.rawPageSize erasedByte
  kept : ∀ page, g.blockOf page ≠ g.blockOf indexPage → g.blockOf page ∉ used →
    after page = before page

/-- The pages of a stored image one by one. -/
theorem Stored.page {g : Geometry} {flash : Flash} {indexPage : Nat} {data : List UInt8}
    {used : List Nat}
    (stored : Stored g flash indexPage (chunks g.bytesPerPage data) used)
    {place block offset : Nat} (listed : used[place]? = some block)
    (inBlock : offset < g.pagesPerBlock) :
    flash.cells (g.firstPage block + offset)
      = pageCells g data (place * g.pagesPerBlock + offset) := by
  obtain ⟨room, contents⟩ := stored.contents
  have here := congrArg (·[place * g.pagesPerBlock + offset]?) contents
  rw [List.getElem?_map, g.getElem?_pagesOf used place inBlock, listed] at here
  unfold pageCells
  cases found : (chunks g.bytesPerPage data)[place * g.pagesPerBlock + offset]? with
  | some piece =>
    obtain ⟨before, same⟩ := List.getElem?_eq_some_iff.mp found
    have short : piece.length ≤ g.bytesPerPage :=
      length_le_of_mem_chunks _ _ piece (same ▸ List.getElem_mem before)
    have length := length_pageContents short
    have fits := pageContents_fits short
    rw [List.getElem?_append_left (by simpa using before), List.getElem?_map, found] at here
    calc flash.cells (g.firstPage block + offset)
        = g.storedPage (pageContents g piece) := Option.some.inj here
      _ = pageContents g piece ++ List.replicate (g.rawPageSize - markedLength g) erasedByte := by
        rw [Geometry.storedPage_eq fits, length]
  | none =>
    have beyond := List.getElem?_eq_none_iff.mp found
    rw [List.getElem?_append_right (by simpa using beyond), List.getElem?_replicate] at here
    split at here
    · exact Option.some.inj here
    · cases here

end Image

namespace Operation

variable {base : Session} {d : Device}

theorem requireWritable_yields : requireWritable.Yields base d fun _ after => after = d := by
  apply effects_bind
  apply Effects.readStatus
  intro status _
  dsimp only
  split
  · exact effects_note_bind (effects_throw nofun)
  · exact yields_pure rfl

theorem readMainArea_yields (reaches : base.geometry.Reaches) {page : Nat}
    (inRange : page < base.geometry.totalPages) :
    (readMainArea page).Yields base d fun old after =>
      old = d.mainArea base.geometry page ∧ after.flash = d.flash := by
  refine effects_readMainArea reaches inRange ?_ ?_
  · rintro _ _ ⟨⟩
  · rintro _ loaded _ ⟨⟩
    exact ⟨rfl, rfl⟩

theorem writePieces_yields (valid : base.geometry.Valid) (covers : base.geometry.RowsCover)
    {indexPage : Nat} (inRange : indexPage < base.geometry.totalPages) (data : List UInt8) :
    (writePieces (chunks base.geometry.bytesPerPage data)
      { nextBlock := base.geometry.blockOf indexPage + 1 }).Yields base d fun last after =>
        ∃ room, room < base.geometry.pagesPerBlock ∧
          last.Reached base d.flash (base.geometry.blockOf indexPage) after
            (chunks base.geometry.bytesPerPage data) room last.used := by
  apply Effects.of_serving
  intro describes _
  apply (writePieces_reaches valid covers _ describes (length_le_of_mem_chunks _ _)
    (reached_start rfl inRange) valid.dimensions.pagesPerBlock).mono
  rintro _ after _ reached last rfl
  exact reached.2

/-- An image that is written is stored, and nothing else has changed. -/
theorem writeImage_yields (reaches : base.geometry.Reaches)
    (bounded : base.config.polling.polls ≤ Chip.stuckBusy) (indexPage : Nat) (data : List UInt8) :
    (writeImage indexPage data).Yields base d fun used after =>
      Image.Written base.geometry d.flash.cells after.flash.cells indexPage
        (d.mainArea base.geometry indexPage) data used := by
  have valid := reaches.valid
  have dimensions := valid.dimensions
  apply Effects.of_serving
  intro describes sized
  apply Effects.geometry_bind
  by_cases inRange : indexPage < base.geometry.totalPages
  · apply Effects.require_bind (Geometry.checkPage_eq inRange)
    apply Yields.bind requireWritable_yields
    rintro _ checked rfl
    apply Yields.bind (readMainArea_yields reaches inRange)
    rintro _ loaded ⟨rfl, same⟩
    apply effects_progress_bind
    apply Yields.bind (writePieces_yields valid reaches.covers inRange data)
    rintro cursor filled ⟨room, spent, reached⟩
    rw [same] at reached
    have whole : (checked.mainArea base.geometry indexPage).length = base.geometry.bytesPerPage :=
      Device.length_mainArea describes sized
    dsimp only
    cases encoded : Index.encode cursor.used.reverse
        (checked.mainArea base.geometry indexPage) with
    | error e => exact yields_require_error rfl
    | ok contents =>
      have full := (Index.length_encode encoded).trans whole
      apply Effects.require_bind rfl
      apply (writeRecord_writes valid reaches.covers inRange describes reached.grows full
        cursor.stats cursor.used.reverse).mono
      rintro result after _ ⟨-, succeeded⟩ used ended
      obtain ⟨rfl, -, here, wiped, elsewhere⟩ := succeeded bounded used ended
      have stored := reached.stored dimensions bounded whole encoded here elsewhere
      have pages : chunkCount base.geometry.bytesPerPage data.length = cursor.done := by
        rw [reached.done, length_chunks dimensions.bytesPerPage]
      refine ⟨stored.ascending, stored.range, ?_, ?_, ?_, wiped, ?_⟩
      · rw [List.length_reverse, pages, chunkCount_eq reached.placed.count spent]
      · intro place block offset listed inBlock
        exact stored.page listed inBlock
      · have fits : contents.length ≤ base.geometry.rawPageSize := by
          rw [full]
          exact Nat.le_add_right _ _
        rw [here, Geometry.storedPage_eq fits, full, (Index.of_encode encoded).2,
          Geometry.rawPageSize, Nat.add_sub_cancel_left]
      · intro page outside unused
        rw [elsewhere page outside]
        refine reached.grows.elsewhere page fun among => unused ?_
        rw [describes.pagesPerBlock] at among
        exact List.mem_reverse.mpr among
  · exact yields_require_error (Geometry.checkPage_eq_error inRange)

end Operation

/-- What an image write keeps of a page behind the record: its main area, or erased bytes if the page
fails to load. -/
def Chip.previousArea (chip : Chip) (g : Geometry) (page : Nat) : List UInt8 :=
  if (chip.loadFaults page).map (·.fault) = some .readError then
    List.replicate g.bytesPerPage erasedByte
  else
    (chip.cells page).take g.bytesPerPage

/-- The bytes behind the first are read as they are. -/
theorem Session.drop_mainArea (session : Session) (chip : Chip) (g : Geometry) (page : Nat)
    {count : Nat} (positive : 0 < count) :
    ((session.device chip).mainArea g page).drop count = (chip.previousArea g page).drop count := by
  by_cases failed : (session.device chip).fault? page = some .readError
  · have same : (chip.loadFaults page).map (·.fault) = some .readError := failed
    rw [Device.mainArea, Chip.previousArea, if_pos failed, if_pos same]
  · have other : (chip.loadFaults page).map (·.fault) ≠ some .readError := failed
    rw [Device.mainArea, Chip.previousArea, if_neg failed, if_neg other, List.drop_take,
      List.drop_take, (session.device chip).drop_contents page positive]
    rfl

theorem Image.Written.congr {g : Geometry} {before after : Nat → List UInt8} {indexPage : Nat}
    {old other data : List UInt8} {used : List Nat}
    (written : Image.Written g before after indexPage old data used)
    (same : ∀ count, 0 < count → old.drop count = other.drop count) :
    Image.Written g before after indexPage other data used :=
  { written with
    record := by
      rw [written.record, same _ (Nat.mul_pos (Nat.succ_pos _) (by decide))] }

namespace Session

variable {start chip : Chip} {session : Session}

/-- On a chip whose row cycles cover its pages, a successful image write with bounded polling leaves
exactly the image, the record with the previous bytes of the index page behind it, and everything
else as it was. -/
theorem writeImage_stores (sound : start.Sound) (fits : start.config.Fits)
    (covers : start.config.geometry.RowsCover) (inUse : session.InUse start chip) {polls : Nat}
    (bounded : session.config.polling = .atMost polls) (narrow : polls < limit32)
    (indexPage : Nat) (data : List UInt8) :
    let written := ((Operation.writeImage indexPage data).runIn session).run chip
    let g := session.geometry
    ∀ used, written.value.1 = .ok used →
      Image.Written g chip.cells written.link.cells indexPage (chip.previousArea g indexPage) data
        used := by
  intro written g used succeeded
  obtain ⟨serving, -⟩ := inUse.serving sound fits
  have covered := (inUse.describes sound fits).rowsCover covers
  have few : session.config.polling.polls ≤ Chip.stuckBusy :=
    bounded ▸ PollLimit.polls_atMost narrow
  by_cases unaddressed : g.Unaddressed
  · obtain ⟨e, failed⟩ := Operation.writeImage_unaddressed indexPage data session.valid covered
      unaddressed serving
    have ended : written.value.1 = .error e := failed
    rw [ended] at succeeded
    cases succeeded
  · have reaches : g.Reaches := ⟨session.valid, covered, Nat.pos_of_ne_zero unaddressed⟩
    obtain ⟨-, stored⟩ := Operation.writeImage_yields (d := session.device chip) reaches few
      indexPage data session chip serving rfl
    apply (stored used succeeded).congr
    intro count positive
    exact session.drop_mainArea chip g indexPage positive

/-- The last piece of the image is filled up with zeros and marked, the page behind it is erased. -/
theorem writeImage_stores_small :
    let written := ((Operation.writeImage 1 (List.replicate 30 7)).runIn smallSession).run
      (afterOpening {} smallChip)
    written.value.1 = .ok [2, 3] ∧
      written.link.cells 6 = List.replicate 6 7 ++ List.replicate 6 0 ++ [0xFF, 0xFF, 0] ∧
      written.link.cells 7 = List.replicate 15 0xFF := by
  intro written
  have sound : smallChip.Sound := Chip.sound_ofConfig _
  have fits : smallChip.config.Fits := .of_valid (by decide) (by decide)
  have covers : smallChip.config.geometry.RowsCover := by decide
  have bounded : smallSession.config.polling = .atMost 100000 := by decide +kernel
  have succeeded : written.value.1 = .ok [2, 3] := by decide +kernel
  have stores := writeImage_stores sound fits covers smallSession_inUse bounded (by decide) 1
    (List.replicate 30 7) [2, 3] succeeded
  have first : smallSession.geometry.firstPage 3 = 6 := by decide +kernel
  have last := stores.image 1 3 0 rfl (by decide +kernel)
  have behind := stores.image 1 3 1 rfl (by decide +kernel)
  rw [first] at last behind
  refine ⟨succeeded, last.trans ?_, behind.trans ?_⟩
  · decide +kernel
  · decide +kernel

end Session

/-- A chip whose column cycles do not fit their place in the parameter page, without room for a
mark. -/
def unmarkedOpening : Opening where
  start := .ofConfig {
    vendor := ""
    model := ""
    bytesPerPage := 12
    sparePerPage := 2
    pagesPerBlock := 2
    blocksPerUnit := 4
    rowCycles := 3
    columnCycles := 16 }
  opens := by decide +kernel

/-- Send frames to a chip, but leave the responses waiting. -/
def Chip.leaving (chip : Chip) (frames : List Frame) : Chip :=
  frames.foldl (fun chip frame => (accept frame.wire chip).state) chip

/-- A chip of two pages with responses waiting for all that the write of an empty image asks. -/
def answeredOpening : Opening where
  config := bareOpening
  start :=
    let readStatus := Frame.read Opcode.readStatus
    let readPage := Frame.read Opcode.readMode 8
    ((Chip.ofConfig {
      vendor := ""
      model := ""
      bytesPerPage := 8
      sparePerPage := 3
      pagesPerBlock := 1
      blocksPerUnit := 2
      rowCycles := 1
      columnCycles := 1 }).setPage 0 [0xFF, 0xFF, 0xFF, 0xFF, 0, 0, 0, 0]).unread.leaving
        [readStatus 2, readPage, readStatus 4, readPage]
  opens := by decide +kernel

namespace Session

/-- Both are needed, that all cycles fit and that no response waits: the image misses its page on one
chip, and the previous bytes of the index page are lost on the other. -/
theorem writeImage_stores_elsewhere :
    (unmarkedOpening.start.config.geometry.RowsCover ∧
      let session := unmarkedOpening.session
      let chip := unmarkedOpening.chip
      let written := ((Operation.writeImage 0 [1]).runIn session).run chip
      written.value.1 = .ok [1] ∧
        ¬ Image.Written session.geometry chip.cells written.link.cells 0
          (chip.previousArea session.geometry 0) [1] [1]) ∧
    (answeredOpening.start.config.geometry.RowsCover ∧
      let session := answeredOpening.session
      let chip := answeredOpening.chip
      let written := ((Operation.writeImage 0 []).runIn session).run chip
      written.value.1 = .ok [] ∧
        ¬ Image.Written session.geometry chip.cells written.link.cells 0
          (chip.previousArea session.geometry 0) [] []) := by
  refine ⟨⟨by decide, by decide +kernel, fun stores => ?_⟩, by decide, by decide +kernel,
    fun stores => ?_⟩
  · have first := stores.image 0 1 0 rfl (by decide +kernel)
    revert first
    decide +kernel
  · have record := stores.record
    revert record
    decide +kernel

end Session
end OnfiFlash
