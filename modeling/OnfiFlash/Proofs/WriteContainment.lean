import OnfiFlash.Proofs.ImageStorage
import OnfiFlash.Proofs.InUse

/-! Where an image write leaves the array alone. However it ends, it has touched nothing in front of
the block of the index page and, behind it, only blocks that it has erased; and the old index is
lost only once all data is written. -/
namespace OnfiFlash
namespace Session

variable {start chip : Chip} {session : Session}

/-- On a chip whose row cycles cover its pages, an image write leaves alone all blocks in front of
that of the index page, this one too unless every page of the data was verified, and all pages of
blocks that it has not erased. -/
theorem writeImage_spares (sound : start.Sound) (fits : start.config.Fits)
    (covers : start.config.geometry.RowsCover) (inUse : session.InUse start chip)
    (indexPage : Nat) (data : List UInt8) :
    let written := ((Operation.writeImage indexPage data).runIn session).run chip
    let g := session.geometry
    (∀ page, g.blockOf page < g.blockOf indexPage → written.link.cells page = chip.cells page) ∧
    ((Dialogue.progress written.transcript).countP Progress.isWritten
        < chunkCount g.bytesPerPage data.length →
      ∀ page, g.blockOf page = g.blockOf indexPage → written.link.cells page = chip.cells page) ∧
    ∃ fresh, written.link.erased = fresh ++ chip.erased ∧
      ∀ page, g.blockOf page ∉ fresh → written.link.cells page = chip.cells page := by
  intro written g
  obtain ⟨serving, -⟩ := inUse.serving sound fits
  have covered := (inUse.describes sound fits).rowsCover covers
  have blocks : ∀ page, page / chip.config.pagesPerBlock = g.blockOf page := fun page => by
    rw [serving.describes.pagesPerBlock, Geometry.blockOf]
  obtain ⟨-, writes⟩ := Operation.writeImage_writes (d := session.device chip)
    session.valid covered indexPage data session chip serving rfl
  have outside : ∀ {first fresh}, Flash.Grows first chip.flash written.link.flash fresh →
      ∀ page, g.blockOf page < first → written.link.cells page = chip.cells page := by
    intro first fresh grows page before
    refine grows.elsewhere page fun among => ?_
    have behind := grows.behind _ among
    rw [show page / chip.flash.config.pagesPerBlock = g.blockOf page from blocks page] at behind
    exact Nat.not_lt.mpr behind before
  obtain ⟨fresh, grows⟩ := writes.grows
  refine ⟨outside grows, fun unfinished page inBlock => ?_, fresh, grows.erased, fun page => ?_⟩
  · obtain ⟨_, spared⟩ := writes.spared unfinished
    exact outside spared page (Nat.lt_succ_of_le (Nat.le_of_eq inBlock))
  · rw [← blocks page]
    exact grows.elsewhere page

/-- An image that needs more blocks than the index page can list leaves the old index as it was. -/
theorem writeImage_spares_small :
    let written := ((Operation.writeImage 1 (List.replicate 60 7)).runIn smallSession).run
      (afterOpening {} smallChip)
    written.value.1 = .error .indexOverflow ∧
      ∀ page, smallSession.geometry.blockOf page = smallSession.geometry.blockOf 1 →
        written.link.cells page = (afterOpening {} smallChip).cells page := by
  intro written
  have fits : smallChip.config.Fits := .of_valid (by decide) (by decide)
  have covers : smallChip.config.geometry.RowsCover := by decide
  have failed : written.value.1 = .error .indexOverflow := by decide +kernel
  have unfinished : (Dialogue.progress written.transcript).countP Progress.isWritten
      < chunkCount smallSession.geometry.bytesPerPage 60 := by decide +kernel
  have spares := writeImage_spares (Chip.sound_ofConfig _) fits covers smallSession_inUse 1
    (List.replicate 60 7)
  exact ⟨failed, spares.2.1 unfinished⟩

end Session

/-- A chip whose column cycles do not fit their place in the parameter page. -/
def wideChip : Chip := .ofConfig {
  vendor := ""
  model := ""
  bytesPerPage := 12
  sparePerPage := 3
  pagesPerBlock := 1
  blocksPerUnit := 4
  rowCycles := 3
  columnCycles := 16 }

/-- A chip with responses waiting that all pass for a status without an error and for the marker of
a good block. The erase of block 2 fails. -/
def staleChip : Chip :=
  ((Chip.ofConfig {
    vendor := ""
    model := ""
    manufacturerId := 0xF6
    deviceId := 0xF6
    bytesPerPage := 256
    sparePerPage := 3
    pagesPerBlock := 1
    blocksPerUnit := 4
    rowCycles := 1
    eraseFailures := [2] }).setPage 0 (List.replicate 259 0xF6)).unread

theorem wideChip_opens : Session.Opens {} wideChip := by decide +kernel

theorem staleChip_opens : Session.Opens bareOpening staleChip := by decide +kernel

namespace Session

/-- Both are needed, that all cycles fit and that no response waits: the wide chip loses a page in
front of the index block, the stale one a page of a block that was not erased. -/
theorem writeImage_strays :
    (wideChip.config.geometry.RowsCover ∧
      let chip := afterOpening {} wideChip
      let written := ((Operation.writeImage 1 [1]).runIn (ofOpening wideChip_opens)).run chip
      written.link.cells 0 ≠ chip.cells 0) ∧
    (staleChip.config.geometry.RowsCover ∧
      let chip := afterOpening bareOpening staleChip
      let written := ((Operation.writeImage 0 [1]).runIn (ofOpening staleChip_opens)).run chip
      written.link.cells 2 ≠ chip.cells 2 ∧ 2 ∉ written.link.erased) := by
  refine ⟨⟨?_, ?_⟩, ?_, ?_, ?_⟩
  · decide
  · decide +kernel
  · decide
  · decide +kernel
  · decide +kernel

end Session
end OnfiFlash
