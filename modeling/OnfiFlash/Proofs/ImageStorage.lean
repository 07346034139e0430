import OnfiFlash.Proofs.ImageWriting
import OnfiFlash.Proofs.IndexRecord

/-! Writing a whole image: what it does to the array wherever it ends, and what the array holds
once it has succeeded. -/
namespace OnfiFlash

namespace Image

/-- What the array holds of an image: the record of its blocks in the index page, and in these
blocks, which ascend behind the block of the index page, one piece to a page. -/
structure Stored (g : Geometry) (flash : Flash) (indexPage : Nat) (pieces : List (List UInt8))
    (used : List Nat) : Prop where
  ascending : used.Pairwise (· < ·)
  range : ∀ block ∈ used, g.blockOf indexPage < block ∧ block < g.totalBlocks
  record : ∃ old contents, old.length = g.bytesPerPage ∧ Index.encode used old = .ok contents ∧
    flash.cells indexPage = g.storedPage contents
  contents : ∃ room, (g.pagesOf used).map flash.cells
    = (pieces.map fun piece => g.storedPage (pageContents g piece))
      ++ List.replicate room (List.replicate g.rawPageSize erasedByte)

end Image

namespace Operation

variable {base : Session} {d after : Device} {indexPage : Nat} {data : List UInt8}

theorem eraseRequired_erases (valid : base.geometry.Valid) (covers : base.geometry.RowsCover)
    {block : Nat} (onDevice : block < base.geometry.totalBlocks) (stats : WriteStats) :
    (eraseRequired block stats).Effects base d fun result after said =>
      after.flash = d.flash.erase block ∧ said.countP Progress.isWritten = 0 ∧
        ∀ value, result = .ok value →
          d.flash.refuses block = false ∧ d.Settles base.config.polling := by
  refine effects_progress_bind (effects_bind (.eraseBlock valid covers onDevice (fun _ => ?_) ?_))
  · exact ⟨rfl, rfl, nofun⟩
  · intro settles status reports
    dsimp only
    split
    · exact effects_throw_bind ⟨rfl, rfl, nofun⟩
    · next fine =>
      have accepted : d.flash.refuses block = false := reports ▸ Bool.eq_false_iff.mpr fine
      exact effects_pure ⟨rfl, rfl, fun _ _ => ⟨accepted, settles⟩⟩

/-- What erasing a block that has to be erased comes to. -/
def eraseOutcome (base : Session) (flash : Flash) (block : Nat) (stats : WriteStats) :
    Except Error WriteStats :=
  if flash.config.busyPolls < base.config.polling.polls then
    if flash.refuses block then .error (.eraseFailed block)
    else .ok { stats with erased := stats.erased + 1 }
  else
    .error base.config.polling.giveUp

theorem eraseRequired_comes {block : Nat} (valid : base.geometry.Valid)
    (covers : base.geometry.RowsCover) (onDevice : block < base.geometry.totalBlocks)
    (stats : WriteStats) :
    (eraseRequired block stats).Effects base d fun result after _ =>
      result = eraseOutcome base d.flash block stats ∧ after.flash = d.flash.erase block := by
  refine effects_progress_bind (effects_bind (.eraseBlock valid covers onDevice ?_ ?_))
  · intro late
    exact ⟨(if_neg late).symm, rfl⟩
  · intro settles status reports
    have outcome : eraseOutcome base d.flash block stats
        = if status.isError then .error (.eraseFailed block)
          else .ok { stats with erased := stats.erased + 1 } := by
      rw [reports]
      exact if_pos settles
    dsimp only
    rw [outcome]
    split
    · exact effects_throw_bind ⟨rfl, rfl⟩
    · exact effects_pure ⟨rfl, rfl⟩

/-- What writing an image comes to. -/
structure WritesImage (base : Session) (indexPage : Nat) (data : List UInt8) (d : Device)
    (result : Except Error (List Nat)) (after : Device) (said : List Progress) : Prop where
  grows : ∃ fresh, Flash.Grows (base.geometry.blockOf indexPage) d.flash after.flash fresh
  /-- Unless all pieces were written, the block of the index page is not touched. -/
  spared : said.countP Progress.isWritten < chunkCount base.geometry.bytesPerPage data.length →
    ∃ fresh, Flash.Grows (base.geometry.blockOf indexPage + 1) d.flash after.flash fresh
  stored : base.config.polling.polls ≤ Chip.stuckBusy → ∀ used, result = .ok used →
    after.Settles base.config.polling ∧ Image.Stored base.geometry after.flash indexPage
      (chunks base.geometry.bytesPerPage data) used

theorem WritesImage.of_same {e : Error} {said : List Progress} (same : after.flash = d.flash) :
    WritesImage base indexPage data d (.error e) after said where
  grows := ⟨[], same ▸ .refl _ _⟩
  spared _ := ⟨[], same ▸ .refl _ _⟩
  stored := nofun

theorem WritesImage.of_finished {result : Except Error (List Nat)} {said : List Progress}
    (finished : chunkCount base.geometry.bytesPerPage data.length ≤ said.countP Progress.isWritten)
    (grows : ∃ fresh, Flash.Grows (base.geometry.blockOf indexPage) d.flash after.flash fresh)
    (stored : base.config.polling.polls ≤ Chip.stuckBusy → ∀ used, result = .ok used →
      after.Settles base.config.polling ∧ Image.Stored base.geometry after.flash indexPage
        (chunks base.geometry.bytesPerPage data) used) :
    WritesImage base indexPage data d result after said where
  grows := grows
  spared fewer := absurd fewer (Nat.not_lt.mpr finished)
  stored := stored

/-- The last part of writing an image, once all its pieces are written: the block of the index page
is erased and the record programmed. -/
def writeRecord (indexBlock indexPage : Nat) (contents : List UInt8) (stats : WriteStats)
    (used : List Nat) : Operation (List Nat) := do
  let stats ← eraseRequired indexBlock stats
  let stats ← writePage indexPage contents stats
  progress (.complete stats)
  return used

/-- The part of writing an image after the index page is read. -/
def storeImage (g : Geometry) (indexPage : Nat) (data old : List UInt8) : Operation (List Nat) := do
  progress (.writing (chunkCount g.bytesPerPage data.length))
  let indexBlock := g.blockOf indexPage
  let cursor ← writePieces (chunks g.bytesPerPage data) { nextBlock := indexBlock + 1 }
  let used := cursor.used.reverse
  let record ← require (Index.encode used old)
  writeRecord indexBlock indexPage record cursor.stats used

theorem writeImage_eq (indexPage : Nat) (data : List UInt8) :
    writeImage indexPage data = (do
      let geometry ← geometry
      require (geometry.checkPage indexPage)
      requireWritable
      let old ← readMainArea indexPage
      storeImage geometry indexPage data old) := rfl

theorem writeRecord_writes (valid : base.geometry.Valid) (covers : base.geometry.RowsCover)
    (inRange : indexPage < base.geometry.totalPages)
    {start : Flash} {fresh : List Nat}
    (describes : base.geometry.Describes start.config)
    (grows : Flash.Grows (base.geometry.blockOf indexPage + 1) start d.flash fresh)
    {contents : List UInt8} (whole : contents.length = base.geometry.bytesPerPage)
    (stats : WriteStats) (used : List Nat) :
    (writeRecord (base.geometry.blockOf indexPage) indexPage contents stats used).Effects base d
      fun result after _ =>
        (∃ fresh, Flash.Grows (base.geometry.blockOf indexPage) start after.flash fresh) ∧
        (base.config.polling.polls ≤ Chip.stuckBusy → ∀ value, result = .ok value →
          value = used ∧ after.Settles base.config.polling ∧
          after.flash.cells indexPage = base.geometry.storedPage contents ∧
          (∀ page, page ≠ indexPage → base.geometry.blockOf page = base.geometry.blockOf indexPage →
            after.flash.cells page = List.replicate base.geometry.rawPageSize erasedByte) ∧
          ∀ page, base.geometry.blockOf page ≠ base.geometry.blockOf indexPage →
            after.flash.cells page = d.flash.cells page) := by
  have onDevice := Geometry.blockOf_lt inRange
  have fits : contents.length ≤ base.geometry.rawPageSize := by
    rw [whole]
    exact Nat.le_add_right _ _
  refine .of_serving fun described _ => ?_
  refine .bind (eraseRequired_erases valid covers onDevice stats) ?_ ?_
  · rintro e mid _ ⟨erased, -, -⟩
    obtain ⟨more, grown, -⟩ := (grows.weaken (Nat.le_succ _)).erase_any (Nat.le_refl _)
    exact ⟨⟨more, erased ▸ grown⟩, fun _ _ raised => by cases raised⟩
  rintro stats mid _ ⟨erased, -, succeeded⟩
  obtain ⟨accepted, settles⟩ := succeeded stats rfl
  have opened := (grows.weaken (Nat.le_succ _)).erase (Nat.le_refl _) accepted
  have inOpened : indexPage / start.config.pagesPerBlock
      ∈ base.geometry.blockOf indexPage :: fresh := by
    rw [describes.pagesPerBlock]
    exact List.mem_cons_self
  rw [← erased] at opened
  refine .bind (writePage_writes valid covers inRange fits stats) ?_ ?_
  · rintro e last _ ⟨writes, -⟩
    exact ⟨⟨_, opened.program writes.programs inOpened⟩, fun _ _ raised => by cases raised⟩
  rintro stats last _ ⟨writes, -⟩
  refine effects_progress_bind (effects_pure ⟨⟨_, opened.program writes.programs inOpened⟩, ?_⟩)
  rintro bounded _ ⟨⟩
  have blank : ∀ page, base.geometry.blockOf page = base.geometry.blockOf indexPage →
      mid.flash.cells page = List.replicate base.geometry.rawPageSize erasedByte := by
    intro page inBlock
    rw [erased, Flash.cells_erase accepted (described.pagesPerBlock ▸ inBlock),
      described.erasedPage]
  refine ⟨rfl, ?_, ?_, ?_, ?_⟩
  · have layout := Flash.sameLayout_erase d.flash (base.geometry.blockOf indexPage)
    rw [← erased] at layout
    exact settles.of_layout (layout.trans writes.programs.layout)
  · rw [writes.stored bounded stats rfl, blank indexPage rfl]
    rfl
  · intro page different inBlock
    rw [writes.programs.elsewhere page different, blank page inBlock]
  · intro page elsewhere
    have different : page ≠ indexPage := fun same => elsewhere (same ▸ rfl)
    rw [writes.programs.elsewhere page different, erased, Flash.cells_erase_of_ne]
    rw [described.pagesPerBlock]
    exact elsewhere

theorem reached_start {start : Flash} (same : d.flash = start)
    (inRange : indexPage < base.geometry.totalPages) :
    ({ nextBlock := base.geometry.blockOf indexPage + 1 } : WriteCursor).Reached base
      start (base.geometry.blockOf indexPage) d [] 0 [] := by
  subst same
  exact ⟨.refl _ _, WriteCursor.placed_start inRange, rfl, fun _ => ⟨⟨[], rfl, rfl⟩, nofun⟩⟩

/-- The pages behind a cursor are those of the image, if the blocks used have not changed since. -/
theorem WriteCursor.Reached.stored {cursor : WriteCursor} {start after : Flash} {room : Nat}
    {written : List (List UInt8)} {fresh : List Nat} (dimensions : base.geometry.Dimensions)
    (bounded : base.config.polling.polls ≤ Chip.stuckBusy)
    (reached : cursor.Reached base start (base.geometry.blockOf indexPage) d written room fresh)
    {old contents : List UInt8} (length : old.length = base.geometry.bytesPerPage)
    (encoded : Index.encode cursor.used.reverse old = .ok contents)
    (here : after.cells indexPage = base.geometry.storedPage contents)
    (elsewhere : ∀ page, base.geometry.blockOf page ≠ base.geometry.blockOf indexPage →
      after.cells page = d.flash.cells page) :
    Image.Stored base.geometry after indexPage written cursor.used.reverse where
  ascending := reached.placed.ascending
  range block listed := by
    obtain ⟨behind, before, -⟩ := reached.placed.used block (List.mem_reverse.mp listed)
    exact ⟨behind, Nat.lt_of_lt_of_le before reached.placed.next.2⟩
  record := ⟨old, contents, length, encoded, here⟩
  contents := by
    obtain ⟨⟨full, pages, filled⟩, blank⟩ := reached.filled bounded
    have kept : (base.geometry.pagesOf cursor.used.reverse).map after.cells
        = (base.geometry.pagesOf cursor.used.reverse).map d.flash.cells := by
      refine List.map_congr_left fun page listed => elsewhere page (Nat.ne_of_gt ?_)
      rw [dimensions.mem_pagesOf] at listed
      exact (reached.placed.used _ (List.mem_reverse.mp listed)).1
    have room : (List.range' cursor.page room).map d.flash.cells
        = List.replicate room (List.replicate base.geometry.rawPageSize erasedByte) := by
      rw [List.map_congr_left blank, List.map_const', List.length_range']
    exact ⟨_, by rw [kept, pages, List.map_append, filled, room]⟩

theorem writeImage_writes (valid : base.geometry.Valid) (covers : base.geometry.RowsCover)
    (indexPage : Nat) (data : List UInt8) :
    (writeImage indexPage data).Effects base d (WritesImage base indexPage data d) := by
  have dimensions := valid.dimensions
  refine .of_serving fun describes _ => .geometry_bind ?_
  by_cases inRange : indexPage < base.geometry.totalPages
  · refine .require_bind (Geometry.checkPage_eq inRange) ?_
    refine .bind (reads_reading.requireWritable d) ?_ ?_
    · exact fun e after said reached => .of_same reached.1
    rintro _ checked said ⟨sameChecked, rfl⟩
    refine .bind (readMainArea_reads indexPage checked) ?_ ?_
    · exact fun e after said reached => .of_same (reached.1.1.trans sameChecked)
    rintro old loaded said ⟨⟨sameLoaded, rfl⟩, length⟩
    refine effects_progress_bind (.bind (writePieces_reaches valid covers _ describes
      (length_le_of_mem_chunks _ _) (reached_start (sameLoaded.trans sameChecked) inRange)
      dimensions.pagesPerBlock) ?_ ?_)
    · rintro e after said ⟨unfinished, fresh, grows⟩
      exact ⟨⟨fresh, grows.weaken (Nat.le_succ _)⟩, fun _ => ⟨fresh, grows⟩, nofun⟩
    rintro cursor written said ⟨counted, room, -, reached⟩
    rw [List.nil_append] at reached
    have finished : ∀ later, chunkCount base.geometry.bytesPerPage data.length
        ≤ (Progress.writing (chunkCount base.geometry.bytesPerPage data.length)
          :: (said ++ later)).countP Progress.isWritten := by
      intro later
      rw [List.countP_cons_of_neg (by simp [Progress.isWritten]), List.countP_append, counted,
        length_chunks dimensions.bytesPerPage]
      exact Nat.le_add_right _ _
    cases encoded : Index.encode cursor.used.reverse old with
    | error e =>
      refine effects_require_error encoded (.of_finished (finished []) ?_ nofun)
      exact ⟨cursor.used, reached.grows.weaken (Nat.le_succ _)⟩
    | ok contents =>
      have whole := (Index.length_encode encoded).trans (length old rfl)
      refine .require_bind encoded ((writeRecord_writes valid covers inRange describes reached.grows
        whole cursor.stats cursor.used.reverse).mono ?_)
      rintro result after later ⟨grows, succeeded⟩
      refine .of_finished (finished later) grows fun bounded used ended => ?_
      obtain ⟨rfl, settles, here, -, elsewhere⟩ := succeeded bounded used ended
      exact ⟨settles, reached.stored dimensions bounded (length old rfl) encoded here elsewhere⟩
  · exact effects_require_error (Geometry.checkPage_eq_error inRange) (.of_same rfl)

end Operation
end OnfiFlash
