import OnfiFlash.Proofs.ChipCommands
import OnfiFlash.Session.Page

/-! What the command sequences of a session do to a device. Loading and reading never touch the
array; erasing and programming act on it as a whole step, whatever the final status says. -/
namespace OnfiFlash

/-- Every address of the device reaches the page it names. -/
structure Geometry.Reaches (g : Geometry) : Prop where
  valid : g.Valid
  covers : g.RowsCover
  addressed : 0 < g.columnCycles + g.rowCycles

namespace Geometry

variable {g : Geometry}

/-- A column of a page arrives as it is. -/
theorem Dimensions.addressValue_column (dimensions : g.Dimensions) {column : Nat}
    (within : column ≤ g.rawPageSize) : Chip.addressValue (littleEndian 2 column) = column := by
  have small : column < byteRange 2 :=
    Nat.lt_of_le_of_lt (Nat.le_trans within dimensions.rawPageSize) (by decide)
  rw [Chip.addressValue, List.take_of_length_le (by simp [maxCycles]), ofLittleEndian_littleEndian,
    Nat.mod_eq_of_lt small]

end Geometry

namespace Operation

variable {α : Type} {base session : Session} {chip : Chip} {d : Device}

theorem Leads.execute {frame : Frame} {response : List UInt8} {after : Chip}
    {notices : List Notice}
    {post : Except Error (List UInt8) → Session → Chip → List Progress → Prop}
    (clear : chip.pending = []) (wellFormed : frame.WellFormed)
    (handled : chip.counted.handle frame = ⟨.ok response, after, notices⟩)
    (complete : response.length = frame.readLength.toNat)
    (reached : post (.ok response) session after []) :
    (Operation.execute frame).Leads session chip post := by
  rw [Operation.execute, Leads, ensures_ofQuery, Query.ensures_execute,
    Chip.execute_eq clear wellFormed handled complete]
  simpa using reached

theorem Leads.execute_bind {frame : Frame} {response : List UInt8} {after : Chip}
    {notices : List Notice} {next : List UInt8 → Operation α}
    {post : Except Error α → Session → Chip → List Progress → Prop}
    (clear : chip.pending = []) (wellFormed : frame.WellFormed)
    (handled : chip.counted.handle frame = ⟨.ok response, after, notices⟩)
    (complete : response.length = frame.readLength.toNat)
    (continued : (next response).Leads session after post) :
    (Operation.execute frame >>= next).Leads session chip post := by
  refine leads_bind.mpr (.execute clear wellFormed handled complete ?_)
  simpa using continued

theorem Leads.execute_bind_error {frame : Frame} {e : Error} {after : Chip}
    {notices : List Notice} {next : List UInt8 → Operation α}
    {post : Except Error α → Session → Chip → List Progress → Prop}
    (wellFormed : frame.WellFormed)
    (handled : chip.counted.handle frame = ⟨.error e, after, notices⟩)
    (reached : post (.error e) session after []) :
    (Operation.execute frame >>= next).Leads session chip post := by
  rw [leads_bind, Operation.execute, Leads, ensures_ofQuery, Query.ensures_execute,
    Chip.execute_eq_error wellFormed handled]
  simpa using reached

theorem leads_readStatus_bind {next : Status → Operation α}
    {post : Except Error α → Session → Chip → List Progress → Prop} (clear : chip.pending = []) :
    (readStatus >>= next).Leads session chip post ↔
      (next chip.status).Leads session (chip.polled 1) post := by
  rw [leads_bind, Operation.readStatus, Leads, ensures_ofQuery, Query.ensures_readStatus clear]
  exact Iff.rfl

/-- A wait ends with the final status, or is given up. -/
theorem Leads.waitReady_bind {next : Status → Operation α}
    {post : Except Error α → Session → Chip → List Progress → Prop}
    (clear : chip.pending = [])
    (settled : chip.busy < session.config.polling.polls →
      (next (chip.polled chip.busy).status).Leads session (chip.polled (chip.busy + 1)) post)
    (unsettled : session.config.polling.polls ≤ chip.busy →
      post (.error session.config.polling.giveUp) session
        (chip.polled session.config.polling.polls) []) :
    (waitReady >>= next).Leads session chip post := by
  rw [leads_bind, Operation.waitReady, leads_get_bind, Leads, ensures_ofQuery]
  refine .pollReady _ clear (fun settles said quiet => ?_) fun late said quiet => ?_
  · simpa [quiet] using settled settles
  · simpa [quiet] using unsettled late

/-- Loading a page of a device that can be addressed. -/
theorem Effects.loadPage {page : Nat} {post : Except Error Status → Device → List Progress → Prop}
    (reaches : base.geometry.Reaches) (inRange : page < base.geometry.totalPages)
    (unsettled : ¬ d.Settles base.config.polling →
      post (.error base.config.polling.giveUp) (d.afterLoad page) [])
    (refused : d.Settles base.config.polling → d.fault? page = some .readError →
      post (.error (.read page)) (d.afterLoad page) [])
    (loaded : d.Settles base.config.polling → d.fault? page ≠ some .readError →
      ∀ status, status.isRefreshAdvised = (d.fault? page == some .refreshAdvised) →
        post (.ok status) { d.afterLoad page with loaded := some (d.contents page, 0) } []) :
    (loadPage page).Effects base d post := by
  rintro session chip serving rfl
  have clear := serving.sound.clear
  have address : base.geometry.pageAddress page ≠ [] := by
    apply List.ne_nil_of_length_pos
    rw [Geometry.length_pageAddress]
    exact reaches.addressed
  have few := reaches.valid.dimensions.pageAddress_le page
  rw [Operation.loadPage, leads_geometry_bind, serving.geometry,
    leads_require_bind (Geometry.checkPage_eq inRange)]
  have wellFormed := Frame.wellFormed_withAddress Opcode.readMode few
  refine .execute_bind clear wellFormed (Chip.handle_latch _ address) rfl ?_
  have split : chip.counted.splitAddress (base.geometry.pageAddress page) = (0, page) :=
    Chip.splitAddress_pageAddress serving.describes reaches.valid.dimensions reaches.covers inRange
  have started : (chip.counted.latch 0 page).counted.handle (.simple Opcode.readStart)
      = ⟨.ok [], chip.counted.loading page (session.device chip), []⟩ :=
    Chip.handle_readStart chip.counted session (serving.describes.totalPages ▸ inRange)
  rw [leads_enter_bind, split]
  refine .execute_bind (by exact clear) (by decide) started rfl ?_
  rw [leads_enter_bind]
  refine .waitReady_bind (by exact clear) (fun settles => ?_) fun late => ?_
  · have inTime := serving.settles_iff.mpr settles
    dsimp only
    rw [Chip.isError_polled]
    by_cases failed : (session.device chip).fault? page = some .readError
    · have raised : (chip.counted.loading page (session.device chip)).failed = true :=
        beq_iff_eq.mpr failed
      rw [if_pos raised, leads_bind, leads_throw]
      refine ⟨serving.of_keeps .idle (.of_flash (by simp)) clear, ?_⟩
      rw [Session.device_polled, Chip.device_loading]
      exact refused inTime failed
    · have fine : ¬ (chip.counted.loading page (session.device chip)).failed = true :=
        mt beq_iff_eq.mp failed
      have advised := Chip.isRefreshAdvised_polled (chip.counted.loading page (session.device chip))
      rw [if_neg fine, leads_enter_bind, leads_pure]
      refine ⟨serving.of_keeps .reading (.of_flash (by simp)) clear, ?_⟩
      rw [Session.device_polled, Chip.device_loading]
      exact loaded inTime failed _ advised
  · have tooLate := mt serving.settles_iff.mp (Nat.not_lt.mpr late)
    refine ⟨serving.of_keeps .idle (.of_flash (by simp)) clear, ?_⟩
    rw [Session.device_polled, Chip.device_loading, serving.config]
    exact unsettled tooLate

theorem Effects.readStatus {post : Except Error Status → Device → List Progress → Prop}
    (reached : ∀ status, status.isWriteEnabled = !d.flash.config.writeProtected →
      post (.ok status) d []) :
    readStatus.Effects base d post := by
  rintro session chip serving rfl
  have clear := serving.sound.clear
  rw [Operation.readStatus, Leads, ensures_ofQuery, Query.ensures_readStatus clear]
  refine ⟨serving.of_keeps session.state (.of_flash (by simp)) clear, ?_⟩
  rw [Session.device_polled]
  exact reached chip.status chip.isWriteEnabled_status

/-- Reading data out of the register. A read from the first column goes on where the last one
ended. -/
theorem Effects.readData {start size column : Nat} {size? : Option Nat} {register : List UInt8}
    {post : Except Error (List UInt8) → Device → List Progress → Prop}
    (valid : base.geometry.Valid) (loaded : d.loaded = some (register, column))
    (within : start ≤ base.geometry.rawPageSize)
    (asked : size?.getD (base.geometry.rawPageSize - start) = size) (fits : size ≤ maxReadLength)
    (reached : ∀ place, place = (if start = 0 then column else start) →
      post (.ok (Chip.resized size 0xFF (register.drop place)))
        { d with loaded := some (register, place + size) } []) :
    (readData start size?).Effects base d post := by
  rintro session chip serving rfl
  have clear := serving.sound.clear
  obtain ⟨reading, rfl, rfl⟩ := Session.loaded_eq_some.mp loaded
  have inPage : ¬ base.geometry.rawPageSize < start := Nat.not_lt.mpr within
  have length : (UInt16.ofNat size).toNat = size := by
    rw [UInt16.toNat_ofNat']
    exact Nat.mod_eq_of_lt (Nat.lt_succ_of_le fits)
  have ended : ∀ after place, after.flash = chip.flash → after.loadFaults = chip.loadFaults →
      after.register = chip.register → after.pending = [] →
      place = (if start = 0 then chip.column else start) →
      after.column = place + (UInt16.ofNat size).toNat →
      Serving base session after ∧
        post (.ok (Chip.resized (UInt16.ofNat size).toNat 0xFF (chip.register.drop place)))
          (session.device after) [] := by
    intro after place sameFlash sameFaults sameRegister clear placed moved
    refine ⟨serving.of_keeps session.state (.of_flash sameFlash) clear, ?_⟩
    rw [Chip.device_of_register reading sameFlash sameFaults sameRegister, moved, length]
    exact reached place placed
  rw [Operation.readData, leads_get_bind, serving.geometry]
  dsimp only
  rw [asked, if_neg (not_not_intro reading), if_neg inPage, if_neg (Nat.not_lt.mpr fits)]
  split
  · next fromStart =>
    refine .execute clear (Frame.wellFormed_read _ _) (Chip.handle_read _ _)
      (Chip.length_resized _ _ _) ?_
    exact ended _ _ (by simp) (by simp) (by simp) (by simpa using clear) (if_pos fromStart).symm rfl
  · next further =>
    refine .execute_bind clear (Frame.wellFormed_simple _) (Chip.handle_simpleRead _) rfl ?_
    have few : (littleEndian 2 start).length ≤ Frame.maxAddressLength := by
      simp [Frame.maxAddressLength]
    refine .execute_bind (by exact clear) (Frame.wellFormed_withAddress _ few)
      (Chip.handle_changeReadColumn _ _) rfl ?_
    rw [valid.dimensions.addressValue_column within]
    refine .execute (by exact clear) (Frame.wellFormed_read _ _) (Chip.handle_readColumn _ _)
      (Chip.length_resized _ _ _) ?_
    exact ended _ _ (by simp) (by simp) (by simp) (by simpa using clear) (if_neg further).symm rfl

/-- Erasing a block acts on the array at once; the wait afterwards decides only the result. -/
theorem Effects.eraseBlock {block : Nat}
    {post : Except Error Status → Device → List Progress → Prop}
    (valid : base.geometry.Valid) (covers : base.geometry.RowsCover)
    (onDevice : block < base.geometry.totalBlocks)
    (unsettled : ¬ d.Settles base.config.polling →
      post (.error base.config.polling.giveUp)
        { d with flash := d.flash.erase block, loaded := none } [])
    (settled : d.Settles base.config.polling → ∀ status,
      status.isError = d.flash.refuses block →
        post (.ok status) { d with flash := d.flash.erase block, loaded := none } []) :
    (eraseBlock block).Effects base d post := by
  rintro session chip serving rfl
  have clear := serving.sound.clear
  rw [Operation.eraseBlock, leads_geometry_bind, serving.geometry,
    leads_require_bind (Geometry.checkBlock_eq onDevice), leads_enter_bind]
  have few := valid.dimensions.rowAddress_le (base.geometry.firstPage block)
  have first : base.geometry.firstPage block < base.geometry.totalPages :=
    valid.dimensions.firstPage_lt onDevice
  have aimed : Geometry.decodeRow (base.geometry.rowAddress (base.geometry.firstPage block))
      = base.geometry.firstPage block := covers.decodeRow valid.dimensions first
  have target : base.geometry.firstPage block / chip.counted.config.pagesPerBlock = block := by
    rw [show chip.counted.config.pagesPerBlock = base.geometry.pagesPerBlock from
      serving.describes.pagesPerBlock]
    exact Nat.mul_div_cancel _ valid.dimensions.pagesPerBlock
  refine .execute_bind clear ⟨few, Nat.zero_le _⟩ (Chip.handle_eraseSetup _ _) rfl ?_
  rw [aimed]
  refine .execute_bind (by exact clear) (by decide) (Chip.handle_eraseConfirm _) rfl ?_
  show (waitReady >>= _).Leads _ (chip.counted.erasing (base.geometry.firstPage block)) _
  have kept : chip.Keeps (chip.counted.erasing (base.geometry.firstPage block)) :=
    .of_erase (by rw [Chip.flash_erasing, target, Chip.flash_counted])
  refine .waitReady_bind (by simpa using clear) (fun settles => ?_) fun late => ?_
  · rw [Chip.busy_erasing] at settles
    have inTime := serving.settles_iff.mpr settles
    have told : ∀ status, status.isError = (session.device chip).flash.refuses block →
        (pure status : Operation Status).Leads { session with state := .idle }
          ((chip.counted.erasing (base.geometry.firstPage block)).polled
            ((chip.counted.erasing (base.geometry.firstPage block)).busy + 1))
          fun result left after said =>
            Serving base left after ∧ post result (left.device after) said := by
      intro status reports
      rw [leads_pure]
      refine ⟨serving.of_keeps .idle (kept.trans (.of_flash (by simp))) (by simpa using clear), ?_⟩
      rw [Session.device_polled, Chip.device_erasing _ _ (by simp), target]
      exact settled inTime status reports
    have reports := Chip.isError_polled (chip.counted.erasing (base.geometry.firstPage block))
    rw [Chip.failed_erasing, target] at reports
    dsimp only
    rw [leads_enter_bind]
    split
    · rw [leads_note_bind]
      exact told _ reports
    · exact told _ reports
  · rw [Chip.busy_erasing] at late
    have tooLate := mt serving.settles_iff.mp (Nat.not_lt.mpr late)
    refine ⟨serving.of_keeps .erasing (kept.trans (.of_flash (by simp))) (by simpa using clear), ?_⟩
    rw [Session.device_polled, Chip.device_erasing _ _ (by simp), target, serving.config]
    exact unsettled tooLate

/-- Confirming a program and waiting for it, once the data is handed over. -/
theorem Leads.confirmProgram {pending : PendingProgram}
    {post : Except Error Status → Device → List Progress → Prop}
    (serving : Serving base session chip) (elsewhere : session.state ≠ .reading)
    (writable : chip.config.writeProtected = false)
    (inRange : pending.page < base.geometry.totalPages)
    (lost : chip.flash.programFaults pending.page = some .transportError →
      post (.error .transport) ⟨chip.flash.program pending, chip.loadFaults, none⟩ [])
    (unsettled : chip.flash.programFaults pending.page ≠ some .transportError →
      base.config.polling.polls ≤ chip.flash.busyAfterProgram pending.page →
      post (.error base.config.polling.giveUp)
        ⟨chip.flash.program pending, chip.loadFaults, none⟩ [])
    (settled : chip.flash.programFaults pending.page ≠ some .transportError →
      chip.flash.busyAfterProgram pending.page < base.config.polling.polls →
      ∀ status, status.isError = false →
        post (.ok status) ⟨chip.flash.program pending, chip.loadFaults, none⟩ []) :
    (do
      let _ ← Operation.execute (.simple Opcode.programConfirm)
      let status ← waitReady
      enter .idle
      return status : Operation Status).Leads session (chip.programSetup pending)
        fun result left after said =>
          Serving base left after ∧ post result (left.device after) said := by
  have clear : (chip.programming pending).pending = [] := by simpa using serving.sound.clear
  have kept : chip.Keeps (chip.programming pending) := .of_program (chip.flash_programming pending)
  have keptPolled : ∀ reads, chip.Keeps ((chip.programming pending).polled reads) :=
    fun reads => kept.trans (.of_flash (by simp))
  have confirmed := Chip.handle_programConfirm chip pending
  have busy := Chip.busy_programming chip pending
  by_cases disrupted : chip.flash.programFaults pending.page = some .transportError
  · rw [if_pos disrupted] at confirmed
    refine .execute_bind_error (Frame.wellFormed_simple _) confirmed ?_
    refine ⟨serving.of_keeps session.state kept clear, ?_⟩
    rw [Chip.device_programming _ _ elsewhere]
    exact lost disrupted
  · rw [if_neg disrupted] at confirmed
    refine .execute_bind serving.sound.clear (Frame.wellFormed_simple _) confirmed rfl ?_
    refine .waitReady_bind clear (fun settles => ?_) fun late => ?_
    · rw [busy, serving.config] at settles
      rw [leads_enter_bind, leads_pure]
      refine ⟨serving.of_keeps .idle (keptPolled _) clear, ?_⟩
      rw [Session.device_polled, Chip.device_programming _ _ (by simp)]
      have fine := Chip.failed_programming chip pending writable
        (serving.describes.totalPages ▸ inRange)
      exact settled disrupted settles _ ((Chip.isError_polled _).trans fine)
    · rw [busy, serving.config] at late
      refine ⟨serving.of_keeps session.state (keptPolled _) clear, ?_⟩
      rw [Session.device_polled, Chip.device_programming _ _ elsewhere, serving.config]
      exact unsettled disrupted late

/-- A program acts on the array even if it is reported to fail; only a write-protected device
refuses it beforehand. -/
theorem Effects.programPage {page : Nat} {data : List UInt8}
    {post : Except Error Status → Device → List Progress → Prop}
    (valid : base.geometry.Valid) (covers : base.geometry.RowsCover)
    (inRange : page < base.geometry.totalPages) (fits : data.length ≤ base.geometry.rawPageSize)
    (refused : d.flash.config.writeProtected = true → post (.error .writeProtected) d [])
    (lost : d.flash.config.writeProtected = false →
      d.flash.programFaults page = some .transportError →
      post (.error .transport)
        { d with flash := d.flash.program ⟨0, page, data⟩, loaded := none } [])
    (unsettled : d.flash.config.writeProtected = false →
      d.flash.programFaults page ≠ some .transportError →
      base.config.polling.polls ≤ d.flash.busyAfterProgram page →
      post (.error base.config.polling.giveUp)
        { d with flash := d.flash.program ⟨0, page, data⟩, loaded := none } [])
    (settled : d.flash.config.writeProtected = false →
      d.flash.programFaults page ≠ some .transportError →
      d.flash.busyAfterProgram page < base.config.polling.polls → ∀ status,
      status.isError = false →
      post (.ok status) { d with flash := d.flash.program ⟨0, page, data⟩, loaded := none } []) :
    (programPage page data).Effects base d post := by
  rintro session chip serving rfl
  have clear := serving.sound.clear
  have notTooLarge : ¬ base.geometry.rawPageSize < data.length := Nat.not_lt.mpr fits
  rw [Operation.programPage, leads_geometry_bind, serving.geometry,
    leads_require_bind (Geometry.checkPage_eq inRange)]
  dsimp only
  rw [if_neg notTooLarge, leads_readStatus_bind clear, Chip.isWriteEnabled_status, Bool.not_not]
  cases shielded : chip.config.writeProtected with
  | true =>
    rw [if_pos rfl, leads_bind, leads_throw]
    refine ⟨serving.of_keeps session.state (.of_flash (by simp)) clear, ?_⟩
    rw [Session.device_polled]
    exact refused shielded
  | false =>
    have few := valid.dimensions.pageAddress_le page
    have little : data.length ≤ Frame.maxDataLength :=
      Nat.le_trans fits valid.dimensions.rawPageSize
    have split : (chip.polled 1).counted.splitAddress (base.geometry.pageAddress page)
        = (0, page) :=
      Chip.splitAddress_pageAddress serving.describes valid.dimensions covers inRange
    have sameFlash : (chip.polled 1).counted.flash = chip.flash := by simp
    have begun : Serving base { session with state := .programming } (chip.polled 1).counted :=
      serving.of_keeps .programming (.of_flash sameFlash) clear
    rw [if_neg Bool.false_ne_true, leads_enter_bind]
    refine .execute_bind (by exact clear) ⟨few, little⟩ (Chip.handle_programSetup _ _ _) rfl ?_
    rw [split]
    apply Leads.confirmProgram begun (by simp) shielded inRange
    all_goals rw [sameFlash]
    · exact lost shielded
    · exact unsettled shielded
    · exact settled shielded

end Operation
end OnfiFlash
