import OnfiFlash.Proofs.Foresight
import OnfiFlash.Proofs.ImageRoundTrip
import OnfiFlash.Proofs.VerifiedProgram
import OnfiFlash.Proofs.WriteContainment
import OnfiFlash.Proofs.WriteTrace

/-! Writing a block. Whatever defects the chip has and wherever the write ends, it touches no page
of another block, and none at all unless the block is erased first; where it succeeds, the block
holds the data and nothing else. -/
namespace OnfiFlash

/-- What a page of a block holds after the pieces were written to it, one to a page. -/
def Image.blockPage (g : Geometry) (pieces : List (List UInt8)) (offset : Nat) : List UInt8 :=
  match pieces[offset]? with
  | some piece => zeroPadded g.bytesPerPage piece ++ List.replicate g.sparePerPage erasedByte
  | none => List.replicate g.rawPageSize erasedByte

/-- Is this how a block write is refused, or fails to erase the block? -/
def Error.isRefusal : Error → Bool
  | .addressOutOfRange | .imageTooLarge | .eraseFailed _ => true
  | _ => false

theorem Error.of_isRefusal {e : Error} (refusal : e.isRefusal = true) :
    e.isRetryable = false ∧ e ∉ [.writeProtected, .timeout, .unsettled] ∧ ¬ e.OfLink := by
  cases e with
  | addressOutOfRange | imageTooLarge | eraseFailed => exact ⟨rfl, by simp, nofun⟩
  | _ => cases refusal

namespace Operation

variable {base : Session} {d : Device} {page : Nat} {data : List UInt8}

/-- What an operation fails with, if it does, is no refusal. -/
def Undertakes {α : Type} (result : Except Error α) : Prop :=
  ∀ e, result = .error e → e.isRefusal = false

theorem Undertakes.retype {α β : Type} {e : Error}
    (undertakes : Undertakes (.error e : Except Error α)) :
    Undertakes (.error e : Except Error β) :=
  fun _ same => undertakes _ (congrArg _ (Except.error.inj same))

/-- No page of the device is refused. -/
theorem programVerified_undertakes {session : Session}
    (inRange : page < session.geometry.totalPages)
    (fits : data.length ≤ session.geometry.rawPageSize) (chip : Chip) :
    (programVerified page data).Ensures session chip fun result _ _ _ => Undertakes result := by
  intro e failed
  let reached := ((programVerified page data).runIn session).run chip
  have verifying : Verifying session.geometry page data reached.value.1
      (Dialogue.exchanges reached.transcript) := trades_programVerified inRange fits Chip chip
  have ended : reached.value.1 = .error e := failed
  rw [ended] at verifying
  cases refusal : e.isRefusal with
  | false => rfl
  | true =>
    obtain ⟨final, other, foreign⟩ := Error.of_isRefusal refusal
    obtain ⟨frame, among⟩ := verifying.blamed final other
    exact absurd among (Chip.conforming.unraised foreign _ chip frame)

variable (valid : base.geometry.Valid) (covers : base.geometry.RowsCover)
  (inRange : page < base.geometry.totalPages) (fits : data.length ≤ base.geometry.rawPageSize)
include valid covers inRange fits

theorem tryPage_undertakes :
    (tryPage page data).Effects base d fun result _ _ => Undertakes result := by
  have once : ((fun _ => (none : Option Error)) <$> programVerified page data).Effects base d
      fun result _ _ => Undertakes result := by
    refine .map (((programVerified_writes valid covers inRange fits).and_result
      fun _ => programVerified_undertakes inRange fits).mono ?_)
    rintro result after said ⟨-, undertakes⟩
    cases result with
    | ok status => exact nofun
    | error e => exact undertakes.retype
  refine .tryCatch once (fun _ _ _ _ => nofun) fun e after said undertakes => ?_
  split
  · exact effects_pure nofun
  · exact effects_throw undertakes

/-- By induction on the attempts left. -/
theorem writeAttempt_undertakes (maxAttempts left attempt : Nat) (stats : WriteStats) :
    (writeAttempt page data maxAttempts left attempt stats).Effects base d fun result _ _ =>
      Undertakes result := by
  induction left generalizing d attempt stats with
  | zero =>
    refine .bind (tryPage_undertakes valid covers inRange fits) ?_ ?_
    · exact fun e after said undertakes => undertakes.retype
    · intro failed after said _
      cases failed with
      | none => exact effects_pure nofun
      | some e => exact effects_note_bind (effects_throw fun _ same => Except.error.inj same ▸ rfl)
  | succ left ih =>
    refine .bind (tryPage_undertakes valid covers inRange fits) ?_ ?_
    · exact fun e after said undertakes => undertakes.retype
    · intro failed after said _
      cases failed with
      | none => exact effects_pure nofun
      | some e => exact effects_note_bind (effects_progress_bind (ih _ _))

theorem writePage_undertakes (stats : WriteStats) :
    (writePage page data stats).Effects base d fun result _ _ => Undertakes result :=
  .get_bind fun _ => writeAttempt_undertakes valid covers inRange fits _ _ _ _

end Operation

namespace Flash

/-- No page of another block changes. -/
def Confined (g : Geometry) (block : Nat) (flash after : Flash) : Prop :=
  ∀ page, g.blockOf page ≠ block → after.cells page = flash.cells page

/-- The pages of the block hold the pieces, and nothing behind them. -/
def Holds (g : Geometry) (block : Nat) (pieces : List (List UInt8)) (flash : Flash) : Prop :=
  ∀ offset, offset < g.pagesPerBlock →
    flash.cells (g.firstPage block + offset) = Image.blockPage g pieces offset

variable {g : Geometry} {block : Nat} {flash mid after : Flash} {written : List (List UInt8)}
  {piece data : List UInt8}

theorem Confined.of_same (same : after = flash) : Confined g block flash after :=
  same ▸ fun _ _ => rfl

theorem Confined.trans (first : Confined g block flash mid) (second : Confined g block mid after) :
    Confined g block flash after := fun page elsewhere =>
  (second page elsewhere).trans (first page elsewhere)

theorem confined_erase (describes : g.Describes flash.config) (block : Nat) :
    Confined g block flash (flash.erase block) := by
  intro page elsewhere
  refine cells_erase_of_ne flash ?_
  rw [describes.pagesPerBlock]
  exact elsewhere

theorem Programs.confined {offset : Nat} (inBlock : offset < g.pagesPerBlock)
    (programs : flash.Programs (g.firstPage block + offset) data after) :
    Confined g block flash after := by
  intro page elsewhere
  refine programs.elsewhere page fun same => elsewhere ?_
  rw [same]
  exact g.blockOf_firstPage_add block inBlock

theorem holds_erase (describes : g.Describes flash.config)
    (accepted : flash.refuses block = false) : Holds g block [] (flash.erase block) := by
  intro offset inBlock
  have here : (g.firstPage block + offset) / flash.config.pagesPerBlock = block := by
    rw [describes.pagesPerBlock]
    exact g.blockOf_firstPage_add block inBlock
  rw [cells_erase accepted here, describes.erasedPage]
  rfl

/-- A piece programmed into the next page. -/
theorem Holds.program (holds : Holds g block written flash)
    (room : written.length < g.pagesPerBlock) (short : piece.length ≤ g.bytesPerPage)
    (programs : flash.Programs (g.firstPage block + written.length)
      (Image.zeroPadded g.bytesPerPage piece) after)
    (stored : after.cells (g.firstPage block + written.length) = Chip.programmedCells
      (flash.cells (g.firstPage block + written.length)) 0
      (Image.zeroPadded g.bytesPerPage piece)) :
    Holds g block (written ++ [piece]) after := by
  intro offset inBlock
  have length := Image.length_zeroPadded short
  by_cases last : offset = written.length
  · subst last
    have blank : flash.cells (g.firstPage block + written.length)
        = List.replicate g.rawPageSize erasedByte := by
      rw [holds _ room, Image.blockPage, List.getElem?_eq_none (Nat.le_refl _)]
    have fits : (Image.zeroPadded g.bytesPerPage piece).length ≤ g.rawPageSize := by
      rw [length]
      exact Nat.le_add_right _ _
    rw [stored, blank, Chip.programmedCells_erased fits, length, Geometry.rawPageSize,
      Nat.add_sub_cancel_left, Image.blockPage, List.getElem?_concat_length]
  · have others : (written ++ [piece])[offset]? = written[offset]? := by
      rw [List.getElem?_append]
      split
      · rfl
      · rw [List.getElem?_eq_none (by simp; omega), List.getElem?_eq_none (by omega)]
    rw [programs.elsewhere _ (by omega), holds offset inBlock, Image.blockPage, Image.blockPage,
      others]

end Flash

/-- The totals of a write that were counted from the beginning. -/
theorem WriteStats.Tallied.total {said : List Progress} {pages : Nat} {after : WriteStats}
    (tallied : ({} : WriteStats).Tallied said pages after) :
    after = {
      erased := said.countP Progress.isErasing
      skipped := after.skipped
      written := pages
      retries := said.countP Progress.isRetry } := by
  obtain ⟨erased, retries, written⟩ := tallied
  rw [Nat.zero_add] at erased retries written
  rw [← erased, ← retries, ← written]

namespace Operation

variable {base : Session} {d : Device} {block : Nat}

/-- What is known of the reports over any link may be used as well. -/
theorem Effects.and_reports {α : Type} {operation : Operation α}
    {post : Except Error α → Device → List Progress → Prop}
    {known : Except Error α → List Progress → Prop} (effects : operation.Effects base d post)
    (reports : operation.Reports base.geometry known) :
    operation.Effects base d fun result after said => post result after said ∧ known result said :=
  fun session chip serving same =>
    ⟨(effects session chip serving same).1, (effects session chip serving same).2,
      (reports Chip session chip serving.geometry).2⟩

/-- By induction on the pieces left: each goes to the next page of the block. -/
theorem writeBlockPieces_writes (valid : base.geometry.Valid) (covers : base.geometry.RowsCover)
    (onDevice : block < base.geometry.totalBlocks)
    (few : base.config.polling.polls ≤ Chip.stuckBusy) (written pieces : List (List UInt8))
    (room : written.length + pieces.length ≤ base.geometry.pagesPerBlock)
    (short : ∀ piece ∈ pieces, piece.length ≤ base.geometry.bytesPerPage) (stats : WriteStats)
    (holds : d.flash.Holds base.geometry block written) :
    (writeBlockPieces (base.geometry.firstPage block) pieces written.length stats).Effects base d
      fun result after _ => d.flash.Confined base.geometry block after.flash ∧
        (∀ stats, result = .ok stats →
          after.flash.Holds base.geometry block (written ++ pieces)) ∧
        Undertakes result := by
  induction pieces generalizing d written stats with
  | nil =>
    exact effects_pure ⟨.of_same rfl, fun _ _ => written.append_nil.symm ▸ holds, nofun⟩
  | cons piece rest ih =>
    rw [List.length_cons] at room
    have inBlock : written.length < base.geometry.pagesPerBlock := by omega
    have inRange := Geometry.firstPage_add_lt onDevice inBlock
    have fitting := short piece List.mem_cons_self
    have fits : (Image.zeroPadded base.geometry.bytesPerPage piece).length
        ≤ base.geometry.rawPageSize := by
      rw [Image.length_zeroPadded fitting]
      exact Nat.le_add_right _ _
    refine .geometry_bind (.bind ((writePage_writes valid covers inRange fits stats).and
      (writePage_undertakes valid covers inRange fits stats)) ?_ ?_)
    · rintro e after said ⟨⟨writes, -⟩, undertakes⟩
      exact ⟨writes.programs.confined inBlock, nofun, undertakes⟩
    · rintro counted after said ⟨⟨writes, -⟩, -⟩
      have continued := holds.program inBlock fitting writes.programs
        (writes.stored few counted rfl)
      have next : written.length + 1 = (written ++ [piece]).length := by simp
      rw [next]
      refine effects_progress_bind ((ih (written ++ [piece]) ?_ (fun other listed =>
        short other (List.mem_cons_of_mem _ listed)) counted continued).mono ?_)
      · rw [← next]
        omega
      rintro result last later ⟨confined, filled, undertakes⟩
      rw [List.append_assoc] at filled
      exact ⟨(writes.programs.confined inBlock).trans confined, filled, undertakes⟩

/-- What writing a block comes to on the array. -/
structure WritesBlock (g : Geometry) (block : Nat) (data : List UInt8) (flash : Flash)
    (result : Except Error WriteStats) (after : Flash) (said : List Progress) : Prop where
  confined : flash.Confined g block after
  /-- Where the write is refused, or the block not erased, nothing changes. -/
  refused : ∀ e, result = .error e →
    e.isRefusal = true ∨ e = .writeProtected ∧ .erasing block ∉ said → after = flash
  stored : ∀ stats, result = .ok stats → after.Holds g block (chunks g.bytesPerPage data)

theorem WritesBlock.of_same {g : Geometry} {data : List UInt8} {flash after : Flash} {e : Error}
    {said : List Progress} (same : after = flash) :
    WritesBlock g block data flash (.error e) after said :=
  ⟨.of_same same, fun _ _ _ => same, nofun⟩

/-- What comes of erasing the block, before anything is written to it. -/
theorem eraseRequired_clears (valid : base.geometry.Valid) (covers : base.geometry.RowsCover)
    (onDevice : block < base.geometry.totalBlocks) (stats : WriteStats) :
    (eraseRequired block stats).Effects base d fun result after said =>
      said = [.erasing block] ∧ after.flash = d.flash.erase block ∧ match result with
        | .error e => e.isRefusal = true → after.flash = d.flash
        | .ok _ => d.flash.refuses block = false := by
  refine ((eraseRequired_comes valid covers onDevice stats).and_reports
    (eraseRequired_reports block stats)).mono ?_
  rintro result after said ⟨⟨rfl, erased⟩, rfl, -⟩
  refine ⟨rfl, erased, ?_⟩
  by_cases settles : d.flash.config.busyPolls < base.config.polling.polls
  · rw [eraseOutcome, if_pos settles]
    cases refused : d.flash.refuses block with
    | true => exact fun _ => erased.trans (Flash.erase_of_refuses refused)
    | false => rfl
  · rw [eraseOutcome, if_neg settles]
    intro refusal
    rcases giveUp_cases base.config.polling with late | late <;>
    · rw [late] at refusal
      cases refusal

theorem writeBlock_writes (valid : base.geometry.Valid) (covers : base.geometry.RowsCover)
    (few : base.config.polling.polls ≤ Chip.stuckBusy) (block : Nat) (data : List UInt8) :
    (writeBlock block data).Effects base d fun result after said =>
      WritesBlock base.geometry block data d.flash result after.flash said := by
  refine .of_serving fun describes _ => .geometry_bind ?_
  by_cases onDevice : block < base.geometry.totalBlocks
  case neg => exact effects_require_error (if_neg onDevice) (.of_same rfl)
  refine .require_bind (Geometry.checkBlock_eq onDevice) ?_
  dsimp only
  split
  · exact effects_throw_bind (.of_same rfl)
  next large =>
  refine .bind (reads_reading.requireWritable d) ?_ ?_
  · exact fun e after said reached => .of_same reached.1
  rintro _ checked said ⟨sameChecked, rfl⟩
  refine .bind (eraseRequired_clears valid covers onDevice {}) ?_ ?_
  · rintro e after said ⟨rfl, erased, kept⟩
    rw [sameChecked] at erased kept
    refine ⟨erased ▸ Flash.confined_erase describes block, ?_, nofun⟩
    rintro _ ⟨⟩ (refusal | ⟨-, unsaid⟩)
    · exact kept refusal
    · exact absurd (List.mem_singleton_self _) unsaid
  · rintro stats cleared said ⟨rfl, erased, accepted⟩
    rw [sameChecked] at erased accepted
    have room : (chunks base.geometry.bytesPerPage data).length ≤ base.geometry.pagesPerBlock := by
      rw [length_chunks valid.dimensions.bytesPerPage]
      refine chunkCount_le valid.dimensions.bytesPerPage ?_
      rw [Nat.mul_comm]
      exact Nat.not_lt.mp large
    have holds : cleared.flash.Holds base.geometry block [] :=
      erased ▸ Flash.holds_erase describes accepted
    have confined : d.flash.Confined base.geometry block cleared.flash :=
      erased ▸ Flash.confined_erase describes block
    refine effects_progress_bind (.bind (writeBlockPieces_writes valid covers onDevice few []
      (chunks base.geometry.bytesPerPage data) ((Nat.zero_add _).symm ▸ room)
      (length_le_of_mem_chunks _ _) stats holds) ?_ ?_)
    · rintro e after later ⟨elsewhere, -, undertakes⟩
      refine ⟨confined.trans elsewhere, ?_, nofun⟩
      rintro _ ⟨⟩ (refusal | ⟨-, unsaid⟩)
      · cases (undertakes e rfl).symm.trans refusal
      · exact absurd List.mem_cons_self unsaid
    · rintro done after later ⟨elsewhere, filled, -⟩
      exact effects_progress_bind (effects_pure ⟨confined.trans elsewhere, nofun,
        fun _ _ => filled done rfl⟩)

variable {g : Geometry}

/-- By induction on the pieces left: nothing but page writes is counted. -/
theorem writeBlockPieces_reports (page : Nat) (pieces : List (List UInt8)) (done : Nat)
    (stats : WriteStats) :
    (writeBlockPieces page pieces done stats).Reports g fun result said =>
      ∀ after, result = .ok after → stats.Tallied said pieces.length after ∧
        after.skipped = stats.skipped ∧ said.countP Progress.isErasing = 0 := by
  induction pieces generalizing done stats with
  | nil =>
    refine reports_pure ?_
    rintro _ ⟨⟩
    exact ⟨.refl _, rfl, rfl⟩
  | cons piece rest ih =>
    refine reports_geometry_bind (.bind (writePage_reports _ _ _) (fun _ _ _ => nofun) ?_)
    rintro counted said ⟨causes, rfl, page⟩
    obtain ⟨tallied, kept⟩ := page counted rfl
    refine reports_progress_bind ((ih (done + 1) counted).mono ?_)
    intro result later others after succeeded
    obtain ⟨talliedRest, keptRest, quiet⟩ := others after succeeded
    have reported : counted.Tallied [.written (done + 1)] 0 counted := ⟨rfl, rfl, rfl⟩
    have all := tallied.trans (reported.trans talliedRest)
    rw [Nat.zero_add, Nat.add_comm 1] at all
    refine ⟨all, keptRest.trans kept, ?_⟩
    rw [List.countP_append, countP_isErasing_retries,
      List.countP_cons_of_neg (by simp [Progress.isErasing]), quiet]

/-- The totals of a block that was written. -/
theorem writeBlock_reports (dimensions : g.Dimensions) (block : Nat) (data : List UInt8) :
    (writeBlock block data).Reports g fun result said => ∀ stats, result = .ok stats →
      stats = {
        erased := 1
        skipped := 0
        written := chunkCount g.bytesPerPage data.length
        retries := said.countP Progress.isRetry } := by
  refine reports_geometry_bind (reports_require_bind (fun _ _ _ => nofun) fun _ _ => ?_)
  dsimp only
  split
  · exact reports_throw_bind fun _ => nofun
  refine (tacit_driving g).requireWritable.bind_reports (fun _ _ => nofun) fun _ => ?_
  refine .bind (eraseRequired_reports block {}) (fun _ _ _ _ => nofun) ?_
  rintro cleared said ⟨rfl, counted⟩
  obtain ⟨tallied, kept⟩ := counted cleared rfl
  refine reports_progress_bind (.bind (writeBlockPieces_reports _ _ _ _) (fun _ _ _ _ => nofun) ?_)
  intro done later counted
  obtain ⟨talliedPages, keptPages, quiet⟩ := counted done rfl
  refine reports_progress_bind (reports_pure ?_)
  rintro _ ⟨⟩
  have begun : cleared.Tallied [.writing (chunkCount g.bytesPerPage data.length)] 0 cleared :=
    ⟨rfl, rfl, rfl⟩
  have completed : done.Tallied [.complete done] 0 done := ⟨rfl, rfl, rfl⟩
  have all := tallied.trans (begun.trans (talliedPages.trans completed))
  have total := all.total
  have once : List.countP Progress.isErasing ([.erasing block]
      ++ ([.writing (chunkCount g.bytesPerPage data.length)] ++ (later ++ [.complete done]))) = 1 := by
    rw [List.countP_append, List.countP_append, List.countP_append, quiet]
    rfl
  rw [once, keptPages.trans kept, length_chunks dimensions.bytesPerPage] at total
  refine total.trans ?_
  rw [Nat.add_zero, Nat.zero_add, Nat.zero_add]
  rfl

end Operation

namespace Session

variable {start chip : Chip} {session : Session}

/-- On a chip whose row cycles cover its pages, writing a block changes no page of another block,
and none at all where it is refused or the block is not erased. Where it succeeds, the block holds
the data from its first page on and is erased behind it, and the totals say so. -/
theorem writeBlock_contained (sound : start.Sound) (fits : start.config.Fits)
    (covers : start.config.geometry.RowsCover) (inUse : session.InUse start chip) {polls : Nat}
    (bounded : session.config.polling = .atMost polls) (narrow : polls < limit32) (block : Nat)
    (data : List UInt8) :
    let written := ((Operation.writeBlock block data).runIn session).run chip
    let g := session.geometry
    let said := Dialogue.progress written.transcript
    (∀ page, g.blockOf page ≠ block → written.link.cells page = chip.cells page) ∧
    (∀ e, written.value.1 = .error e →
      e = .addressOutOfRange ∨ e = .imageTooLarge ∨ (∃ unerased, e = .eraseFailed unerased) ∨
        e = .writeProtected ∧ .erasing block ∉ said →
      written.link.cells = chip.cells) ∧
    ∀ stats, written.value.1 = .ok stats →
      (∀ offset, offset < g.pagesPerBlock → written.link.cells (g.firstPage block + offset)
        = Image.blockPage g (chunks g.bytesPerPage data) offset) ∧
      stats = {
        erased := 1
        skipped := 0
        written := chunkCount g.bytesPerPage data.length
        retries := said.countP Progress.isRetry } := by
  intro written g said
  obtain ⟨serving, -⟩ := inUse.serving sound fits
  have covered := (inUse.describes sound fits).rowsCover covers
  have few : session.config.polling.polls ≤ Chip.stuckBusy :=
    bounded ▸ PollLimit.polls_atMost narrow
  obtain ⟨-, writes⟩ := Operation.writeBlock_writes (d := session.device chip) session.valid covered
    few block data session chip serving rfl
  obtain ⟨-, totals⟩ := Operation.writeBlock_reports session.valid.dimensions block data Chip session
    chip rfl
  refine ⟨writes.confined, ?_, fun stats ended => ⟨writes.stored stats ended, totals stats ended⟩⟩
  intro e failed cause
  refine congrArg Flash.cells (writes.refused e failed ?_)
  rcases cause with rfl | rfl | ⟨_, rfl⟩ | early
  · exact .inl rfl
  · exact .inl rfl
  · exact .inl rfl
  · exact .inr early

/-- Twenty bytes fill the first page of a block and, up to its last four bytes, the second. -/
theorem writeBlock_contained_small :
    let chip := afterOpening {} smallChip
    let written := ((Operation.writeBlock 2 (List.replicate 20 7)).runIn smallSession).run chip
    (∀ page, smallSession.geometry.blockOf page ≠ 2 →
      written.link.cells page = chip.cells page) ∧
    written.link.cells 4 = List.replicate 12 7 ++ List.replicate 3 0xFF ∧
    written.link.cells 5 = List.replicate 8 7 ++ List.replicate 4 0 ++ List.replicate 3 0xFF ∧
    ∀ stats, written.value.1 = .ok stats → stats.written = 2 := by
  have fits : smallChip.config.Fits := .of_valid (by decide) (by decide)
  have covers : smallChip.config.geometry.RowsCover := by decide
  have bounded : smallSession.config.polling = .atMost 100000 := by decide +kernel
  have succeeded : (((Operation.writeBlock 2 (List.replicate 20 7)).runIn smallSession).run
      (afterOpening {} smallChip)).value.1 = .ok { erased := 1, written := 2 } := by decide +kernel
  have place : smallSession.geometry.firstPage 2 = 4 := by decide +kernel
  obtain ⟨elsewhere, -, stored⟩ := writeBlock_contained (Chip.sound_ofConfig _) fits covers
    smallSession_inUse bounded (by decide) 2 (List.replicate 20 7)
  obtain ⟨holds, -⟩ := stored _ succeeded
  rw [place] at holds
  refine ⟨elsewhere, ?_, ?_, ?_⟩
  · refine (holds 0 (by decide +kernel)).trans ?_
    decide +kernel
  · refine (holds 1 (by decide +kernel)).trans ?_
    decide +kernel
  · rintro stats ended
    obtain rfl := Except.ok.inj (succeeded.symm.trans ended)
    rfl

end Session

/-- A chip of which the response that waits passes for a failed erase. -/
def misreadOpening : Opening where
  config := bareOpening
  start := ((Chip.ofConfig {
    vendor := ""
    model := ""
    manufacturerId := 192
    deviceId := 193
    bytesPerPage := 12
    sparePerPage := 3
    pagesPerBlock := 1
    blocksPerUnit := 4
    rowCycles := 1 }).setPage 0 [0]).unread
  opens := by decide +kernel

namespace Session

/-- Both are needed, that all cycles fit and that no response waits: the wide chip loses a page of
another block, and on the other chip the block is erased though it is said not to be. -/
theorem writeBlock_strays :
    (wideChip.config.geometry.RowsCover ∧
      let chip := afterOpening {} wideChip
      let session := ofOpening wideChip_opens
      let written := ((Operation.writeBlock 1 [1]).runIn session).run chip
      session.config.polling = .atMost 100000 ∧ session.geometry.blockOf 0 ≠ 1 ∧
        written.link.cells 0 ≠ chip.cells 0) ∧
    (misreadOpening.chip.config.geometry.RowsCover ∧
      let chip := misreadOpening.chip
      let session := misreadOpening.session
      let written := ((Operation.writeBlock 0 []).runIn session).run chip
      session.config.polling = .atMost 100000 ∧ written.value.1 = .error (.eraseFailed 0) ∧
        written.link.cells 0 ≠ chip.cells 0) := by
  refine ⟨⟨?_, ?_⟩, ?_, ?_⟩
  · decide
  · decide +kernel
  · decide +kernel
  · decide +kernel

end Session
end OnfiFlash
