import OnfiFlash.Proofs.ImageReading
import OnfiFlash.Proofs.InUse

/-! The round trip of an image through a chip: whatever defects the chip has and however many
blocks and retries the write took, an image whose write succeeded is read back in the same
session. -/
namespace OnfiFlash

theorem PollLimit.polls_atMost {polls : Nat} (narrow : polls < limit32) :
    (PollLimit.atMost polls).polls ≤ Chip.stuckBusy := by
  simp only [PollLimit.polls, Chip.stuckBusy, limit32] at *
  omega

namespace Session

variable {start chip : Chip} {session : Session}

/-- On a chip whose row cycles cover its pages, reading back an image after a write that succeeded
returns the image, filled up with zeros to whole pages; if the spare area is too small for a mark,
without the pages at its end that look erased. No load of the pages involved may be disturbed. -/
theorem readImage_writeImage (sound : start.Sound) (fits : start.config.Fits)
    (covers : start.config.geometry.RowsCover)
    (addressed : 0 < start.config.columnCycles + start.config.rowCycles)
    (inUse : session.InUse start chip) {polls : Nat}
    (bounded : session.config.polling = .atMost polls) (narrow : polls < limit32)
    {indexPage : Nat} (inRange : indexPage < session.geometry.totalPages) (data : List UInt8) :
    let written := ((Operation.writeImage indexPage data).runIn session).run chip
    ∀ used, written.value.1 = .ok used →
      (∀ page ∈ indexPage :: session.geometry.pagesOf used, written.link.loadFaults page = none) →
      (((Operation.readImage indexPage).runIn written.value.2).run written.link).value.1
        = .ok (Image.returned session.geometry data) := by
  intro written used succeeded faultless
  obtain ⟨serving, -⟩ := inUse.serving sound fits
  have describes := inUse.describes sound fits
  have reaches : session.geometry.Reaches :=
    ⟨session.valid, describes.rowsCover covers, describes.addressed addressed⟩
  have few : session.config.polling.polls ≤ Chip.stuckBusy :=
    bounded ▸ PollLimit.polls_atMost narrow
  obtain ⟨servingAfter, writes⟩ := Operation.writeImage_writes (d := session.device chip)
    session.valid reaches.covers indexPage data session chip serving rfl
  obtain ⟨settles, stored⟩ := writes.stored few used succeeded
  refine (Operation.readImage_stored reaches inRange settles stored (fun page among => ?_)
    written.value.2 written.link servingAfter rfl).2
  exact faultless page (List.mem_cons.mpr among)

/-- An image of three pages, of which the last is not full, passes over the bad block. -/
theorem readImage_writeImage_small :
    let written := ((Operation.writeImage 1 (List.replicate 30 7)).runIn smallSession).run
      (afterOpening {} smallChip)
    written.value.1 = .ok [2, 3] ∧
      (((Operation.readImage 1).runIn written.value.2).run written.link).value.1
        = .ok (List.replicate 30 7 ++ List.replicate 6 0) := by
  intro written
  have sound : smallChip.Sound := Chip.sound_ofConfig _
  have fits : smallChip.config.Fits := .of_valid (by decide) (by decide)
  have covers : smallChip.config.geometry.RowsCover := by decide
  have bounded : smallSession.config.polling = .atMost 100000 := by decide +kernel
  have inRange : 1 < smallSession.geometry.totalPages := by decide +kernel
  have succeeded : written.value.1 = .ok [2, 3] := by decide +kernel
  have undisturbed : ∀ page ∈ 1 :: smallSession.geometry.pagesOf [2, 3],
      written.link.loadFaults page = none := by decide +kernel
  have returned : Image.returned smallSession.geometry (List.replicate 30 7)
      = List.replicate 30 7 ++ List.replicate 6 0 := by decide +kernel
  have read := readImage_writeImage sound fits covers (by decide) smallSession_inUse
    bounded (by decide) inRange (List.replicate 30 7) [2, 3] succeeded undisturbed
  exact ⟨succeeded, read.trans (congrArg _ returned)⟩

end Session
end OnfiFlash
