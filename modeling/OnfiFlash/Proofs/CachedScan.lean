import OnfiFlash.Proofs.ImageWriting
import OnfiFlash.Proofs.DeviceScan
import OnfiFlash.Proofs.InUse

/-! Writing an image with the table of a scan at hand. The write only ever changes blocks in front
of those it still has to choose from, so the table stays right about these; it takes the same blocks
as a write that reads their markers one by one. -/
namespace OnfiFlash

/-- On a device that is ready before a wait is given up, the table says of every block from `first`
on what the markers of the block say. -/
structure Reliable (base : Session) (table : BadBlockTable) (first : Nat) (flash : Flash) :
    Prop where
  describes : base.geometry.Describes flash.config
  settles : flash.config.busyPolls < base.config.polling.polls
  trusted : ∀ block, first ≤ block → block < base.geometry.totalBlocks →
    table.isBad block = flash.condemned base.geometry block

namespace Reliable

variable {base : Session} {table : BadBlockTable} {first : Nat} {flash after : Flash}

/-- The table of the array that was scanned. -/
theorem of_scan (describes : base.geometry.Describes flash.config)
    (settles : flash.config.busyPolls < base.config.polling.polls) (first : Nat) :
    Reliable base (flash.badTable base.geometry) first flash :=
  ⟨describes, settles, fun _ _ => flash.isBad_badTable⟩

theorem weaken (reliable : Reliable base table first flash) {later : Nat} (behind : first ≤ later) :
    Reliable base table later flash :=
  { reliable with trusted := fun block further =>
      reliable.trusted block (Nat.le_trans behind further) }

/-- What happens to the blocks in front does not matter. -/
theorem of_cells (reliable : Reliable base table first flash)
    (dimensions : base.geometry.Dimensions) (layout : flash.config.SameLayout after.config)
    (same : ∀ page, first ≤ base.geometry.blockOf page → after.cells page = flash.cells page) :
    Reliable base table first after where
  describes := reliable.describes.of_sameLayout layout
  settles := layout.busyPolls_lt reliable.settles
  trusted := by
    intro block behind onDevice
    rw [Flash.condemned_congr dimensions fun page inBlock => same page (inBlock ▸ behind)]
    exact reliable.trusted block behind onDevice

theorem erase (reliable : Reliable base table first flash) (dimensions : base.geometry.Dimensions) :
    Reliable base table (first + 1) (flash.erase first) := by
  apply (reliable.weaken (Nat.le_succ first)).of_cells dimensions (Flash.sameLayout_erase _ _)
  intro page behind
  refine Flash.cells_erase_of_ne _ fun same => ?_
  rw [reliable.describes.pagesPerBlock] at same
  exact Nat.not_succ_le_self first (same ▸ behind)

theorem program (reliable : Reliable base table first flash) (dimensions : base.geometry.Dimensions)
    {page : Nat} {data : List UInt8} (programs : flash.Programs page data after)
    (before : base.geometry.blockOf page < first) : Reliable base table first after := by
  apply reliable.of_cells dimensions programs.layout
  intro other behind
  refine programs.elsewhere other fun same => ?_
  exact Nat.not_lt.mpr (same ▸ behind) before

end Reliable

namespace Operation

variable {base : Session} {table : BadBlockTable} {flash : Flash} {page block first : Nat}
  {data : List UInt8}

section Writing

variable (valid : base.geometry.Valid) (covers : base.geometry.RowsCover)
include valid covers

/-- By induction on the attempts left. -/
theorem writeAttempt_foreseen (inRange : page < base.geometry.totalPages)
    (fits : data.length ≤ base.geometry.rawPageSize)
    (settles : flash.config.busyPolls < base.config.polling.polls)
    (maxAttempts left attempt : Nat) (stats : WriteStats) :
    (writeAttempt page data maxAttempts left attempt stats).Foreseen base table flash
      fun _ last _ => flash.Programs page data last := by
  induction left generalizing flash attempt stats with
  | zero =>
    apply (tryPage_foreseen valid covers inRange fits settles).bind
    · exact fun _ _ _ programs => programs
    · intro failure between _ programs
      cases failure with
      | none => exact foreseen_pure programs
      | some e => exact foreseen_note_bind (foreseen_throw programs)
  | succ left ih =>
    apply (tryPage_foreseen valid covers inRange fits settles).bind
    · exact fun _ _ _ programs => programs
    · intro failure between _ programs
      have inTime : between.config.busyPolls < base.config.polling.polls :=
        programs.layout.busyPolls_lt settles
      cases failure with
      | none => exact foreseen_pure programs
      | some e =>
        apply foreseen_note_bind
        apply foreseen_progress_bind
        apply (ih inTime _ _).mono
        exact fun _ _ _ again => programs.trans again

theorem writePage_foreseen (inRange : page < base.geometry.totalPages)
    (fits : data.length ≤ base.geometry.rawPageSize)
    (settles : flash.config.busyPolls < base.config.polling.polls) (stats : WriteStats) :
    (writePage page data stats).Foreseen base table flash fun _ last _ =>
      flash.Programs page data last := by
  apply foreseen_get_bind
  · intro session _ same
    rw [same]
  · exact writeAttempt_foreseen valid covers inRange fits settles _ _ _ _

/-- By induction on the blocks left: whether a block is passed over or taken, the table stays right
about those behind it. -/
theorem findBlock_foreseen (start count : Nat) (stats : WriteStats)
    (onDevice : block + count ≤ base.geometry.totalBlocks)
    (reliable : Reliable base table block flash) :
    (findBlock start count block stats).Foreseen base table flash fun result last _ =>
      ∀ found stats, result = .ok (found, stats) → block ≤ found ∧ found < block + count ∧
        Reliable base table (found + 1) last := by
  induction count generalizing flash block stats with
  | zero => exact foreseen_note_bind (foreseen_throw nofun)
  | succ count ih =>
    have dimensions := valid.dimensions
    have here : block < base.geometry.totalBlocks := by omega
    have behind : ∀ {flash} stats, Reliable base table (block + 1) flash →
        (findBlock start count (block + 1) stats).Foreseen base table flash fun result last _ =>
          ∀ found stats, result = .ok (found, stats) → block ≤ found ∧
            found < block + (count + 1) ∧ Reliable base table (found + 1) last := by
      intro flash stats reliable
      apply (ih stats (by omega) reliable).mono
      intro _ last _ searched found stats same
      obtain ⟨further, before, stays⟩ := searched found stats same
      exact ⟨by omega, by omega, stays⟩
    have trusted := reliable.trusted block (Nat.le_refl _) here
    apply (isKnownBad_shows valid covers reliable.settles here trusted).bind
    cases flash.condemned base.geometry block with
    | true => exact foreseen_note_bind (behind _ (reliable.weaken (Nat.le_succ _)))
    | false =>
      have erased := reliable.erase dimensions
      apply foreseen_progress_bind
      apply eraseBlock_foreseen valid covers here reliable.settles
      · intro status other same
        dsimp only
        rw [same]
      · intro status _
        dsimp only
        split
        · exact foreseen_note_bind (behind _ erased)
        · apply foreseen_pure
          rintro _ _ ⟨⟩
          exact ⟨Nat.le_refl _, by omega, erased⟩

variable {indexBlock room : Nat} {cursor : WriteCursor}

theorem advance_foreseen (placed : cursor.Placed base.geometry indexBlock cursor.used room)
    (spent : room < base.geometry.pagesPerBlock)
    (reliable : Reliable base table cursor.nextBlock flash) :
    cursor.advance.Foreseen base table flash fun result last _ => ∀ next, result = .ok next →
      Reliable base table next.nextBlock last ∧
        ∃ left, next.Placed base.geometry indexBlock next.used (left + 1) := by
  have dimensions := valid.dimensions
  apply foreseen_geometry_bind
  split
  · next due =>
    obtain rfl := (placed.due_iff dimensions spent).mp due
    dsimp only
    split
    · exact foreseen_note_bind (foreseen_throw_bind nofun)
    · have onDevice := placed.next.2
      have searched : (nextGoodBlock cursor.nextBlock cursor.stats).Foreseen base table flash _ :=
        foreseen_geometry_bind (findBlock_foreseen valid covers _ _ _ (by omega) reliable)
      apply searched.bind
      · exact fun _ _ _ _ _ => nofun
      · rintro ⟨found, stats⟩ last _ searched
        obtain ⟨behind, before, stays⟩ := searched found stats rfl
        obtain ⟨left, ppb⟩ : ∃ left, base.geometry.pagesPerBlock = left + 1 :=
          Nat.exists_eq_succ_of_ne_zero (Nat.ne_of_gt dimensions.pagesPerBlock)
        apply foreseen_pure
        rintro _ ⟨⟩
        refine ⟨stays, left, ?_⟩
        rw [← ppb]
        exact placed.onto stats behind (by omega)
  · next notDue =>
    cases room with
    | zero => exact absurd ((placed.due_iff dimensions spent).mpr rfl) notDue
    | succ left =>
      apply foreseen_pure
      rintro _ ⟨⟩
      exact ⟨reliable, left, placed⟩

/-- By induction on the pieces left: each goes into a block in front of those still to choose
from. -/
theorem writePieces_foreseen (pieces : List (List UInt8))
    (short : ∀ piece ∈ pieces, piece.length ≤ base.geometry.bytesPerPage)
    (placed : cursor.Placed base.geometry indexBlock cursor.used room)
    (spent : room < base.geometry.pagesPerBlock)
    (reliable : Reliable base table cursor.nextBlock flash) :
    (writePieces pieces cursor).Foreseen base table flash fun result last _ =>
      ∀ cursor, result = .ok cursor → Reliable base table cursor.nextBlock last := by
  have dimensions := valid.dimensions
  induction pieces generalizing cursor flash room with
  | nil =>
    apply foreseen_pure
    rintro _ ⟨⟩
    exact reliable
  | cons piece rest ih =>
    apply (advance_foreseen valid covers placed spent reliable).bind
    · exact fun _ _ _ _ => nofun
    · intro next between _ advanced
      obtain ⟨stays, left, ready⟩ := advanced next rfl
      obtain ⟨-, among, inRange⟩ := ready.page dimensions (Nat.succ_pos left)
      obtain ⟨-, before, -⟩ := ready.used _ among
      have fits := Image.pageContents_fits (short piece List.mem_cons_self)
      apply foreseen_geometry_bind
      apply (writePage_foreseen valid covers inRange fits stays.settles _).bind
      · exact fun _ _ _ _ => nofun
      · intro stats last _ programs
        have room := ready.fits
        apply foreseen_progress_bind
        exact ih (fun other listed => short other (List.mem_cons_of_mem _ listed))
          (ready.past stats) room (stays.program dimensions programs before)

theorem writeRecord_foreseen (inRange : page < base.geometry.totalPages) {contents : List UInt8}
    (fits : contents.length ≤ base.geometry.rawPageSize)
    (settles : flash.config.busyPolls < base.config.polling.polls) (stats : WriteStats)
    (used : List Nat) :
    (writeRecord (base.geometry.blockOf page) page contents stats used).Foreseen base table flash
      fun _ _ _ => True := by
  have erased : (eraseRequired (base.geometry.blockOf page) stats).Foreseen base table flash
      fun _ last _ => last = flash.erase (base.geometry.blockOf page) := by
    apply foreseen_progress_bind
    apply eraseBlock_foreseen valid covers (Geometry.blockOf_lt inRange) settles
    · intro status other same
      dsimp only
      rw [same]
    · intro status _
      dsimp only
      split
      · exact foreseen_throw_bind rfl
      · exact foreseen_pure rfl
  apply erased.bind
  · exact fun _ _ _ _ => trivial
  · rintro written _ _ rfl
    have inTime : (flash.erase (base.geometry.blockOf page)).config.busyPolls
        < base.config.polling.polls := (Flash.sameLayout_erase _ _).busyPolls_lt settles
    apply (writePage_foreseen valid covers inRange fits inTime _).bind
    · exact fun _ _ _ _ => trivial
    · exact fun _ _ _ _ => foreseen_progress_bind (foreseen_pure trivial)

theorem storeImage_foreseen {indexPage : Nat} (inRange : indexPage < base.geometry.totalPages)
    (reliable : Reliable base table (base.geometry.blockOf indexPage + 1) flash)
    {old : List UInt8} (whole : old.length ≤ base.geometry.bytesPerPage) (data : List UInt8) :
    (storeImage base.geometry indexPage data old).Foreseen base table flash fun _ _ _ => True := by
  apply foreseen_progress_bind
  apply (writePieces_foreseen valid covers _ (length_le_of_mem_chunks _ _)
    (WriteCursor.placed_start inRange) valid.dimensions.pagesPerBlock reliable).bind
  · exact fun _ _ _ _ => trivial
  · intro cursor between _ written
    have settles := (written cursor rfl).settles
    apply (foreseen_require _).bind
    · exact fun _ _ _ _ => trivial
    · rintro contents _ _ ⟨encoded, rfl, -⟩
      have fits : contents.length ≤ base.geometry.rawPageSize := by
        rw [Index.length_encode encoded.symm]
        exact Nat.le_trans whole (Nat.le_add_right _ _)
      exact writeRecord_foreseen valid covers inRange fits settles _ _

/-- A write image that finds the table of a scan goes as one that finds none. -/
theorem writeImage_foreseen (describes : base.geometry.Describes flash.config)
    (settles : flash.config.busyPolls < base.config.polling.polls) (indexPage : Nat)
    (data : List UInt8) :
    (writeImage indexPage data).Foreseen base (flash.badTable base.geometry) flash
      fun _ _ _ => True := by
  rw [writeImage_eq]
  apply foreseen_geometry_bind
  by_cases inRange : indexPage < base.geometry.totalPages
  · rw [Geometry.checkPage_eq inRange]
    apply requireWritable_foreseen.bind
    · exact fun _ _ _ _ => trivial
    · rintro _ _ _ rfl
      apply (readMainArea_foreseen valid covers inRange settles).bind
      · exact fun _ _ _ _ => trivial
      · rintro old _ _ ⟨rfl, whole⟩
        exact storeImage_foreseen valid covers inRange (.of_scan describes settles _)
          (whole old rfl) data
  · rw [Geometry.checkPage_eq_error inRange]
    exact foreseen_throw_bind trivial

end Writing

end Operation

namespace Opening

/-- An image write in the session just opened. -/
def direct (opening : Opening) (indexPage : Nat) (data : List UInt8) :
    Dialogue.Outcome Chip (Except Error (List Nat) × Session) :=
  ((Operation.writeImage indexPage data).runIn opening.session).run opening.chip

/-- The same once the session has scanned the device. -/
def cached (opening : Opening) (indexPage : Nat) (data : List UInt8) :
    Dialogue.Outcome Chip (Except Error (List Nat) × Session) :=
  let scan := (Operation.badBlockTable.runIn opening.session).run opening.chip
  ((Operation.writeImage indexPage data).runIn scan.value.2).run scan.link

end Opening

def smallOpening : Opening where
  start := smallChip
  opens := smallChip_opens

namespace Session

variable {start chip : Chip} {session : Session}

/-- On a chip whose row cycles cover its pages and none of whose loads is faulty, a scan succeeds
and is kept, and then an image write comes to the same result as it would have without the scan,
reports the same progress and leaves the same cells and the same log of erases. -/
theorem writeImage_scanned (sound : start.Sound) (fits : start.config.Fits)
    (covers : start.config.geometry.RowsCover) (inUse : session.InUse start chip)
    (uncached : session.badBlocks = none)
    (settles : chip.config.busyPolls < session.config.polling.polls)
    (loads : ∀ page, page < session.geometry.totalPages → chip.loadFaults page = none)
    (unlatched : session.geometry.Unaddressed → chip.latched = none)
    (indexPage : Nat) (data : List UInt8) :
    let scan := (Operation.badBlockTable.runIn session).run chip
    let operation := Operation.writeImage indexPage data
    let cached := (operation.runIn scan.value.2).run scan.link
    let direct := (operation.runIn session).run chip
    (∃ table, scan.value.1 = .ok table ∧ scan.value.2.badBlocks = some table) ∧
      cached.value.1 = direct.value.1 ∧
      Dialogue.progress cached.transcript = Dialogue.progress direct.transcript ∧
      cached.link.cells = direct.link.cells ∧ cached.link.erased = direct.link.erased := by
  intro scan operation cached direct
  obtain ⟨serving, -⟩ := inUse.serving sound fits
  have covered := (inUse.describes sound fits).rowsCover covers
  have same : { session with badBlocks := none } = session := by rw [← uncached]
  have legible : Legible { session with badBlocks := none } chip.flash session chip :=
    ⟨same ▸ serving, rfl, fun _ => loads, unlatched⟩
  have inTime : chip.flash.config.busyPolls < session.config.polling.polls := settles
  obtain ⟨scanned, kept, legibleAfter⟩ :=
    Operation.badBlockTable_keeps session.valid covered inTime legible
  obtain ⟨result, last, said, -, comes⟩ :=
    Operation.writeImage_foreseen session.valid covered serving.describes inTime indexPage data
  obtain ⟨endedCached, saidCached, leftCached⟩ := comes _ (.inr rfl) _ _ legibleAfter
  obtain ⟨endedDirect, saidDirect, leftDirect⟩ := comes _ (.inl rfl) _ _ legible
  have sameFlash : cached.link.flash = direct.link.flash :=
    leftCached.flash.trans leftDirect.flash.symm
  exact ⟨⟨_, scanned, kept⟩, endedCached.trans endedDirect.symm, saidCached.trans saidDirect.symm,
    congrArg Flash.cells sameFlash, congrArg Flash.erased sameFlash⟩

theorem writeImage_scanned_small :
    (smallOpening.cached 1 (List.replicate 30 7)).value.1 = .ok [2, 3] ∧
      (smallOpening.cached 1 (List.replicate 30 7)).link.erased = [0, 3, 2] := by
  have fits : smallChip.config.Fits := .of_valid (by decide) (by decide)
  have covers : smallChip.config.geometry.RowsCover := by decide
  have uncached : smallOpening.session.badBlocks = none := by decide +kernel
  have settles : smallOpening.chip.config.busyPolls
      < smallOpening.session.config.polling.polls := by decide +kernel
  have loads : ∀ page, page < smallOpening.session.geometry.totalPages →
      smallOpening.chip.loadFaults page = none := by decide +kernel
  have unlatched : smallOpening.session.geometry.Unaddressed →
      smallOpening.chip.latched = none := by decide +kernel
  have agree := writeImage_scanned (Chip.sound_ofConfig _) fits covers smallOpening.inUse uncached
    settles loads unlatched 1 (List.replicate 30 7)
  refine ⟨agree.2.1.trans ?_, agree.2.2.2.2.trans ?_⟩
  · decide +kernel
  · decide +kernel

end Session

namespace Opening

/-- Nothing is in the way of a scan in the session just opened: all rows are addressed, the device
is ready before a wait is given up, and no load is faulty. -/
structure Scannable (opening : Opening) : Prop where
  covers : opening.start.config.geometry.RowsCover
  settles : opening.chip.config.busyPolls < opening.session.config.polling.polls
  loads : ∀ page, page < opening.session.geometry.totalPages → opening.chip.loadFaults page = none

end Opening

/-- A chip whose column cycles do not fit their place in the parameter page. -/
def unfitOpening : Opening where
  start := .ofConfig {
    vendor := ""
    model := ""
    bytesPerPage := 12
    sparePerPage := 2
    pagesPerBlock := 1
    blocksPerUnit := 4
    rowCycles := 3
    columnCycles := 16 }
  opens := by decide +kernel

/-- A chip with a single page that cannot be addressed by a session, but is latched past it. -/
def latchedOpening : Opening where
  config := bareOpening
  start :=
    let chip := (Chip.ofConfig {
      vendor := ""
      model := ""
      bytesPerPage := 12
      sparePerPage := 3
      pagesPerBlock := 1
      blocksPerUnit := 1
      rowCycles := 0
      columnCycles := 0 }).setPage 0 (List.replicate 15 0)
    (Chip.accept (Frame.withAddress Opcode.readMode [0]).wire chip).state
  opens := by decide +kernel

/-- A chip with responses waiting, the first of which passes for the status of a chip that is write
enabled. -/
def unreadOpening : Opening where
  config := bareOpening
  start := (Chip.ofConfig {
    vendor := ""
    model := ""
    manufacturerId := 0xC0
    deviceId := 0x41
    bytesPerPage := 12
    sparePerPage := 3
    pagesPerBlock := 1
    blocksPerUnit := 2
    rowCycles := 1
    columnCycles := 1 }).unread
  opens := by decide +kernel

namespace Session

/-- All of these are needed: that the cycles fit, that no page is latched on a device that cannot be
addressed, and that no response waits. On the first chip the scan changes where the next write goes,
on the second it takes the page that is latched, and on the third it takes the responses. -/
theorem writeImage_scanned_varies :
    (unfitOpening.Scannable ∧
      (unfitOpening.cached 0 (List.replicate 24 0)).value.1 = .ok [1, 2] ∧
      (unfitOpening.direct 0 (List.replicate 24 0)).value.1 = .error .outOfSpace) ∧
    (latchedOpening.Scannable ∧
      (latchedOpening.cached 0 []).link.cells 0 ≠ (latchedOpening.direct 0 []).link.cells 0) ∧
    (unreadOpening.Scannable ∧
      (unreadOpening.cached 0 [1]).value.1 = .error .writeProtected ∧
      (unreadOpening.direct 0 [1]).value.1 = .error .outOfSpace) := by
  refine ⟨⟨⟨?_, ?_, ?_⟩, ?_, ?_⟩, ⟨⟨?_, ?_, ?_⟩, ?_⟩, ⟨?_, ?_, ?_⟩, ?_, ?_⟩
  all_goals decide +kernel

end Session
end OnfiFlash
