import OnfiFlash.Proofs.ImageStorage
import OnfiFlash.Proofs.LoadFaults
import OnfiFlash.Proofs.Unlatched

/-! Sessions with a device whose page addresses have no cycles. Such a device has a single page and
no session can latch it: all that is ever loaded is what was latched past the session, and that only
once. So nothing that is programmed can be verified, and no record is ever written. -/
namespace OnfiFlash

/-- The addresses of the device have no cycles. -/
def Geometry.Unaddressed (g : Geometry) : Prop := g.columnCycles + g.rowCycles = 0

namespace Geometry.Unaddressed

variable {g : Geometry} (unaddressed : g.Unaddressed)
include unaddressed

theorem pageAddress (page : Nat) : g.pageAddress page = [] := by
  apply List.eq_nil_of_length_eq_zero
  rw [length_pageAddress]
  exact unaddressed

theorem totalPages_le (covers : g.RowsCover) : g.totalPages ≤ 1 := by
  have none : g.rowCycles = 0 := (Nat.add_eq_zero_iff.mp unaddressed).2
  unfold RowsCover at covers
  rw [none] at covers
  exact covers

/-- There is no block behind that of the index page. -/
theorem totalBlocks_le (dimensions : g.Dimensions) (covers : g.RowsCover) (block : Nat) :
    g.totalBlocks ≤ block + 1 :=
  calc g.totalBlocks ≤ g.totalPages := dimensions.totalBlocks_le
    _ ≤ 1 := unaddressed.totalPages_le covers
    _ ≤ block + 1 := Nat.succ_le_succ (Nat.zero_le block)

end Geometry.Unaddressed

namespace Chip

/-- What a load puts into the register, and the column it is read from: the page that is latched,
if that is one of the device and loads. -/
def stray? (chip : Chip) (d : Device) : Option (List UInt8 × Nat) :=
  match chip.latched with
  | none => none
  | some (column, page) =>
    if page < chip.config.totalPages ∧ d.fault? page ≠ some .readError then
      some (d.contents page, column)
    else
      none

/-- How a load begins. -/
structure Begins (chip : Chip) (found : Option (List UInt8 × Nat)) (after : Chip) : Prop where
  flash : after.flash = chip.flash
  pending : after.pending = chip.pending
  busy : after.busy = chip.config.busyPolls
  failed : after.failed = found.isNone
  register : ∀ contents column, found = some (contents, column) →
    after.register = contents ∧ after.column = column

theorem begins_readStart (chip : Chip) (session : Session) :
    chip.Begins (chip.stray? (session.device chip)) chip.readStart.1 := by
  unfold readStart stray?
  cases chip.latched with
  | none => exact ⟨rfl, rfl, rfl, rfl, nofun⟩
  | some place =>
    obtain ⟨column, page⟩ := place
    dsimp only
    by_cases inRange : page < chip.config.totalPages
    · rw [if_pos inRange, loadPage_eq _ _ _ session]
      have sameFault : (session.device { chip.start with latched := none }).fault? page
          = (session.device chip).fault? page := rfl
      have sameContents : (session.device { chip.start with latched := none }).contents page
          = (session.device chip).contents page := rfl
      rw [sameFault, sameContents]
      by_cases failed : (session.device chip).fault? page = some .readError
      · rw [if_neg fun loads => loads.2 failed]
        refine ⟨rfl, rfl, rfl, ?_, nofun⟩
        rw [failed]
        rfl
      · rw [if_pos ⟨inRange, failed⟩]
        refine ⟨rfl, rfl, rfl, ?_, ?_⟩
        · exact beq_false_of_ne failed
        · rintro _ _ ⟨⟩
          exact ⟨rfl, rfl⟩
    · rw [if_neg inRange, if_neg fun loads => inRange loads.1]
      exact ⟨rfl, rfl, rfl, rfl, nofun⟩

end Chip

namespace Operation

variable {α β : Type} {base : Session} {flash : Flash}

section Loading

variable {session : Session} {chip : Chip} {page : Nat}

/-- A load takes what is latched past the session, and nothing is latched afterwards. -/
theorem loadPage_unaddressed (unaddressed : base.geometry.Unaddressed)
    (inRange : page < base.geometry.totalPages) (serving : Serving base session chip) :
    (loadPage page).Leads session chip fun result left after _ =>
      Blind base chip.flash left after ∧
        if chip.config.busyPolls < base.config.polling.polls then
          match chip.stray? (session.device chip) with
          | none => result = .error (.read page)
          | some found => (∃ status, result = .ok status) ∧
            (left.device after).loaded = some found
        else
          result = .error base.config.polling.giveUp := by
  have clear := serving.sound.clear
  rw [loadPage, leads_geometry_bind, serving.geometry,
    leads_require_bind (Geometry.checkPage_eq inRange), unaddressed.pageAddress page]
  refine .execute_bind clear (by decide) (Chip.handle_simpleRead _) rfl ?_
  rw [leads_enter_bind]
  have started : ∀ waiting : Chip, waiting.handle (.simple Opcode.readStart)
      = ⟨.ok [], waiting.readStart.1, waiting.readStart.2⟩ := fun _ => rfl
  refine .execute_bind (by exact clear) (by decide) (started _) rfl ?_
  rw [leads_enter_bind]
  have strays : (chip.counted.seek chip.counted.column).counted.stray?
      (session.device (chip.counted.seek chip.counted.column).counted)
        = chip.stray? (session.device chip) := rfl
  have begins := Chip.begins_readStart (chip.counted.seek chip.counted.column).counted session
  have unlatched := Chip.latched_readStart (chip.counted.seek chip.counted.column).counted
  rw [strays] at begins
  generalize (chip.counted.seek chip.counted.column).counted.readStart.1 = begun
    at begins unlatched ⊢
  have idle : begun.pending = [] := begins.pending.trans clear
  have sameFlash : begun.flash = chip.flash := begins.flash
  have busy : begun.busy = chip.config.busyPolls := begins.busy
  have blind : ∀ state reads, Blind base chip.flash { session with state } (begun.polled reads) :=
    fun state reads =>
      ⟨serving.of_keeps state (.of_flash ((begun.flash_polled reads).trans sameFlash)) idle,
        (begun.flash_polled reads).trans sameFlash, unlatched⟩
  refine .waitReady_bind idle (fun settles => ?_) fun late => ?_
  · rw [busy, serving.config] at settles
    dsimp only
    rw [Chip.isError_polled, begins.failed]
    cases found : chip.stray? (session.device chip) with
    | none =>
      rw [if_pos Option.isNone_none, leads_bind, leads_throw]
      refine ⟨blind _ _, ?_⟩
      rw [if_pos settles]
    | some place =>
      obtain ⟨register, column⟩ := place
      obtain ⟨sameRegister, sameColumn⟩ := begins.register register column found
      rw [Option.isNone_some, if_neg Bool.false_ne_true, leads_enter_bind, leads_pure]
      refine ⟨blind _ _, ?_⟩
      rw [if_pos settles]
      refine ⟨⟨_, rfl⟩, ?_⟩
      show some (begun.register, begun.column) = some (register, column)
      rw [sameRegister, sameColumn]
  · rw [busy, serving.config] at late
    refine ⟨blind _ _, ?_⟩
    rw [if_neg (Nat.not_lt.mpr late), serving.config]

/-- With no page latched, every load fails. -/
theorem fated_loadPage (unaddressed : base.geometry.Unaddressed)
    (inRange : page < base.geometry.totalPages) :
    (loadPage page).Fated base flash fun result => ∃ e, result = .error e := by
  refine ⟨.error (if flash.config.busyPolls < base.config.polling.polls then .read page
    else base.config.polling.giveUp), flash, ⟨_, rfl⟩, ?_⟩
  rintro session chip ⟨serving, rfl, unlatched⟩
  apply (loadPage_unaddressed unaddressed inRange serving).mono
  rintro result left after _ ⟨blind, ended⟩
  refine ⟨?_, blind⟩
  rw [Chip.stray?, unlatched] at ended
  show result = .error (if chip.config.busyPolls < base.config.polling.polls then .read page
    else base.config.polling.giveUp)
  split at ended
  · next settles => rw [if_pos settles, ended]
  · next late => rw [if_neg late, ended]

/-- The main area of a page as an image write reads it from an unaddressed device. -/
def strayArea (g : Geometry) : Option (List UInt8 × Nat) → List UInt8
  | none => List.replicate g.bytesPerPage erasedByte
  | some (register, column) => Chip.resized g.bytesPerPage erasedByte (register.drop column)

theorem length_strayArea (g : Geometry) (stray : Option (List UInt8 × Nat)) :
    (strayArea g stray).length = g.bytesPerPage := by
  cases stray with
  | none => exact List.length_replicate
  | some place => exact Chip.length_resized _ _ _

theorem readMainArea_unaddressed (valid : base.geometry.Valid)
    (unaddressed : base.geometry.Unaddressed) (inRange : page < base.geometry.totalPages)
    (serving : Serving base session chip) :
    (readMainArea page).Leads session chip fun result left after _ =>
      Blind base chip.flash left after ∧
        if chip.config.busyPolls < base.config.polling.polls then
          result = .ok (strayArea base.geometry (chip.stray? (session.device chip)))
        else
          result = .error base.config.polling.giveUp := by
  rw [readMainArea, leads_geometry_bind, serving.geometry, leads_bind, leads_tryCatch]
  show (loadPage page >>= fun status => pure (some status)).Leads session chip _
  refine leads_bind.mpr ((loadPage_unaddressed unaddressed inRange serving).mono ?_)
  rintro result left after _ ⟨blind, ended⟩
  by_cases settles : chip.config.busyPolls < base.config.polling.polls
  · rw [if_pos settles] at ended
    cases found : chip.stray? (session.device chip) with
    | none =>
      rw [found] at ended
      subst ended
      refine ⟨blind, ?_⟩
      rw [if_pos settles]
      rfl
    | some place =>
      obtain ⟨register, column⟩ := place
      rw [found] at ended
      obtain ⟨⟨status, rfl⟩, loaded⟩ := ended
      have asked : (some base.geometry.bytesPerPage).getD (base.geometry.rawPageSize - 0)
          = base.geometry.bytesPerPage := rfl
      have fits : base.geometry.bytesPerPage ≤ maxReadLength :=
        Nat.le_trans (Nat.le_add_right _ _) valid.dimensions.rawPageSize
      have read : (readData 0 (some base.geometry.bytesPerPage)).Effects base (left.device after)
          fun result last _ =>
            result = .ok (strayArea base.geometry (some (register, column))) ∧
              last.flash = chip.flash := by
        refine .readData valid loaded (Nat.zero_le _) asked fits fun place front => ?_
        rw [if_pos rfl] at front
        subst front
        exact ⟨rfl, blind.flash⟩
      obtain ⟨stays, reached, same⟩ := read left after blind.serving rfl
      obtain ⟨-, unlatched⟩ :=
        unlatching_readData 0 (some base.geometry.bytesPerPage) left after blind.serving.sound.clear
          blind.unlatched
      refine ⟨⟨stays, same, unlatched⟩, ?_⟩
      rw [if_pos settles]
      exact reached
  · rw [if_neg settles] at ended
    subst ended
    rcases giveUp_cases base.config.polling with same | same <;>
    · rw [same]
      refine ⟨blind, ?_⟩
      rw [if_neg settles]

end Loading

section Writing

variable {page : Nat} {data : List UInt8}

theorem fated_verifyPage (unaddressed : base.geometry.Unaddressed)
    (inRange : page < base.geometry.totalPages) :
    (verifyPage page data).Fated base flash fun result => ∃ e, result = .error e := by
  apply Fated.bind (fated_loadPage unaddressed inRange)
  · exact fun _ failed => failed
  · rintro status _ ⟨_, ⟨⟩⟩

/-- Why programming a page fails, if it does. -/
def programOutline (flash : Flash) (polling : PollLimit) (page : Nat) : Except Error Unit :=
  if flash.config.writeProtected then .error .writeProtected
  else if flash.programFaults page = some .transportError then .error .transport
  else if polling.polls ≤ flash.busyAfterProgram page then .error polling.giveUp
  else .ok ()

theorem programPage_outline (valid : base.geometry.Valid) (covers : base.geometry.RowsCover)
    (inRange : page < base.geometry.totalPages) (fits : data.length ≤ base.geometry.rawPageSize)
    (d : Device) :
    (programPage page data).Effects base d fun result after said =>
      result.map (fun _ => ()) = programOutline d.flash base.config.polling page ∧
        (after.flash = if d.flash.config.writeProtected then d.flash
          else d.flash.program ⟨0, page, data⟩) ∧ after.loadFaults = d.loadFaults ∧ said = [] := by
  apply Effects.programPage valid covers inRange fits
  · intro shielded
    simp [programOutline, shielded, Except.map]
  · intro writable lost
    simp [programOutline, writable, lost, Except.map]
  · intro writable connected late
    simp [programOutline, writable, connected, late, Except.map]
  · intro writable connected settles status _
    simp [programOutline, writable, connected, Nat.not_le.mpr settles, Except.map]

variable (valid : base.geometry.Valid) (covers : base.geometry.RowsCover)
  (unaddressed : base.geometry.Unaddressed)
include valid covers unaddressed

/-- What is programmed is never verified. -/
theorem fated_programVerified (inRange : page < base.geometry.totalPages)
    (fits : data.length ≤ base.geometry.rawPageSize) :
    (programVerified page data).Fated base flash fun result => ∃ e, result = .error e := by
  rw [programVerified_eq]
  have programmed : (programPage page data).ComesTo base flash
      (fun result => result.map (fun _ => ()) = programOutline flash base.config.polling page)
      (if flash.config.writeProtected then flash else flash.program ⟨0, page, data⟩) := by
    apply ComesTo.of_effects (unlatching_programPage page data)
    rintro d rfl
    apply (programPage_outline valid covers inRange fits d).mono
    rintro result after _ ⟨outline, stored, -, -⟩
    exact ⟨outline, stored⟩
  apply Fated.after programmed
  · exact fun e _ => ⟨e, rfl⟩
  · exact fun _ => fated_verifyPage unaddressed inRange

theorem fated_tryPage (inRange : page < base.geometry.totalPages)
    (fits : data.length ≤ base.geometry.rawPageSize) :
    (tryPage page data).Fated base flash fun result => result ≠ .ok none := by
  have once : ((fun _ => (none : Option Error)) <$> programVerified page data).Fated base flash
      fun result => ∃ e, result = .error e := by
    apply Fated.bind (fated_programVerified valid covers unaddressed inRange fits)
    · exact fun e _ => ⟨e, rfl⟩
    · rintro status _ ⟨_, ⟨⟩⟩
  apply Fated.tryCatch once
  · rintro value ⟨_, ⟨⟩⟩
  · intro e _ _
    split
    · exact fated_pure (by simp)
    · exact fated_throw (by simp)

/-- By induction on the attempts left: each fails. -/
theorem fated_writeAttempt (inRange : page < base.geometry.totalPages)
    (fits : data.length ≤ base.geometry.rawPageSize) (maxAttempts left attempt : Nat)
    (stats : WriteStats) :
    (writeAttempt page data maxAttempts left attempt stats).Fated base flash
      fun result => ∃ e, result = .error e := by
  induction left generalizing flash attempt stats with
  | zero =>
    apply Fated.bind (fated_tryPage valid covers unaddressed inRange fits)
    · exact fun e _ => ⟨e, rfl⟩
    · intro failure _ failed
      cases failure with
      | none => exact absurd rfl failed
      | some e => exact fated_note_bind (fated_throw ⟨_, rfl⟩)
  | succ left ih =>
    apply Fated.bind (fated_tryPage valid covers unaddressed inRange fits)
    · exact fun e _ => ⟨e, rfl⟩
    · intro failure _ failed
      cases failure with
      | none => exact absurd rfl failed
      | some e => exact fated_note_bind (fated_progress_bind (ih _ _))

theorem fated_writePage (inRange : page < base.geometry.totalPages)
    (fits : data.length ≤ base.geometry.rawPageSize) (stats : WriteStats) :
    (writePage page data stats).Fated base flash fun result => ∃ e, result = .error e := by
  let maxAttempts := max 1 base.config.maxWriteRetries
  obtain ⟨result, last, failed, comes⟩ := fated_writeAttempt valid covers unaddressed inRange fits
    maxAttempts (maxAttempts - 1) 1 stats
  refine ⟨result, last, failed, fun session chip blind => ?_⟩
  rw [writePage, leads_get_bind, blind.serving.config]
  exact comes session chip blind

omit unaddressed in
theorem fated_eraseRequired {block : Nat} (onDevice : block < base.geometry.totalBlocks)
    (stats : WriteStats) : (eraseRequired block stats).Fated base flash fun _ => True := by
  refine ⟨eraseOutcome base flash block stats, flash.erase block, trivial, ?_⟩
  apply ComesTo.of_effects (unlatching_eraseRequired block stats)
  rintro d rfl
  exact eraseRequired_comes valid covers onDevice stats

/-- No record is ever written. -/
theorem fated_writeRecord {indexPage : Nat} (inRange : indexPage < base.geometry.totalPages)
    {contents : List UInt8} (fits : contents.length ≤ base.geometry.rawPageSize)
    (stats : WriteStats) (used : List Nat) :
    (writeRecord (base.geometry.blockOf indexPage) indexPage contents stats used).Fated base flash
      fun result => ∃ e, result = .error e := by
  apply Fated.bind (fated_eraseRequired valid covers (Geometry.blockOf_lt inRange) stats)
  · exact fun e _ => ⟨e, rfl⟩
  · intro stats _ _
    apply Fated.bind (fated_writePage valid covers unaddressed inRange fits stats)
    · exact fun e _ => ⟨e, rfl⟩
    · rintro _ _ ⟨_, ⟨⟩⟩

/-- There is no block to take. -/
theorem fated_advance {indexPage : Nat} :
    ({ nextBlock := base.geometry.blockOf indexPage + 1 } : WriteCursor).advance.Fated base flash
      fun result => ∃ e, result = .error e := by
  apply fated_geometry_bind
  rw [if_pos (.inl rfl)]
  dsimp only
  split
  · exact fated_note_bind (fated_throw_bind ⟨_, rfl⟩)
  · have none : base.geometry.totalBlocks - (base.geometry.blockOf indexPage + 1) = 0 :=
      Nat.sub_eq_zero_of_le
        (unaddressed.totalBlocks_le valid.dimensions covers (base.geometry.blockOf indexPage))
    have searched : (nextGoodBlock (base.geometry.blockOf indexPage + 1) {}).Fated base flash
        fun result => ∃ e, result = .error e := by
      apply fated_geometry_bind
      dsimp only
      rw [none]
      exact fated_note_bind (fated_throw ⟨_, rfl⟩)
    apply Fated.bind searched
    · exact fun e _ => ⟨e, rfl⟩
    · rintro _ _ ⟨_, ⟨⟩⟩

/-- No image is ever stored. -/
theorem fated_storeImage {indexPage : Nat} (inRange : indexPage < base.geometry.totalPages)
    {old : List UInt8} (whole : old.length = base.geometry.bytesPerPage) :
    (storeImage base.geometry indexPage data old).Fated base flash
      fun result => ∃ e, result = .error e := by
  apply fated_progress_bind
  cases chunks base.geometry.bytesPerPage data with
  | nil =>
    have written : (writePieces [] { nextBlock := base.geometry.blockOf indexPage + 1 }).Fated base
        flash (· = .ok { nextBlock := base.geometry.blockOf indexPage + 1 }) := fated_pure rfl
    apply Fated.bind written
    · rintro _ ⟨⟩
    · rintro _ after ⟨⟩
      apply Fated.bind (fated_require _)
      · exact fun e _ => ⟨e, rfl⟩
      · intro contents _ encoded
        apply fated_writeRecord valid covers unaddressed inRange
        rw [Index.length_encode encoded.symm, whole]
        exact Nat.le_add_right _ _
  | cons piece rest =>
    have written : (writePieces (piece :: rest)
        { nextBlock := base.geometry.blockOf indexPage + 1 }).Fated base flash
          fun result => ∃ e, result = .error e := by
      apply Fated.bind (fated_advance valid covers unaddressed)
      · exact fun e _ => ⟨e, rfl⟩
      · rintro _ _ ⟨_, ⟨⟩⟩
    apply Fated.bind written
    · exact fun e _ => ⟨e, rfl⟩
    · rintro _ _ ⟨_, ⟨⟩⟩

end Writing

/-- Writing an image to an unaddressed device. -/
theorem Leads.writeImage_unaddressed {session : Session} {chip : Chip} {indexPage : Nat}
    {data : List UInt8} {post : Except Error (List Nat) → Flash → Prop}
    (valid : base.geometry.Valid) (unaddressed : base.geometry.Unaddressed)
    (serving : Serving base session chip)
    (outOfRange : ¬ indexPage < base.geometry.totalPages →
      post (.error .addressOutOfRange) chip.flash)
    (shielded : chip.config.writeProtected = true → post (.error .writeProtected) chip.flash)
    (unsettled : ¬ chip.config.busyPolls < base.config.polling.polls →
      post (.error base.config.polling.giveUp) chip.flash)
    (stored : indexPage < base.geometry.totalPages → ∀ left after,
      Blind base chip.flash left after →
        (storeImage base.geometry indexPage data
          (strayArea base.geometry (chip.stray? (session.device chip)))).Leads left after
            fun result _ last _ => post result last.flash) :
    (writeImage indexPage data).Leads session chip fun result _ after _ =>
      post result after.flash := by
  have clear := serving.sound.clear
  rw [writeImage_eq, leads_geometry_bind, serving.geometry]
  by_cases inRange : indexPage < base.geometry.totalPages
  · rw [leads_require_bind (Geometry.checkPage_eq inRange), requireWritable, leads_bind,
      leads_readStatus_bind clear, Chip.isWriteEnabled_status, Bool.not_not]
    cases protection : chip.config.writeProtected with
    | true => exact shielded protection
    | false =>
      have polled : Serving base session (chip.polled 1) :=
        serving.of_keeps session.state (.of_flash (chip.flash_polled 1)) clear
      have strays : (chip.polled 1).stray? (session.device (chip.polled 1))
          = chip.stray? (session.device chip) := rfl
      have busy : (chip.polled 1).config.busyPolls = chip.config.busyPolls := rfl
      have read := readMainArea_unaddressed valid unaddressed inRange polled
      rw [strays, busy, chip.flash_polled] at read
      rw [if_neg Bool.false_ne_true, leads_pure]
      refine leads_bind.mpr (read.mono ?_)
      rintro result left after _ ⟨blind, ended⟩
      by_cases settles : chip.config.busyPolls < base.config.polling.polls
      · rw [if_pos settles] at ended
        subst ended
        exact stored inRange left after blind
      · rw [if_neg settles] at ended
        subst ended
        rw [blind.flash]
        exact unsettled settles
  · rw [Geometry.checkPage_eq_error inRange]
    exact outOfRange inRange

/-- Writing an image to an unaddressed device fails. -/
theorem writeImage_unaddressed {session : Session} {chip : Chip} (indexPage : Nat)
    (data : List UInt8) (valid : base.geometry.Valid) (covers : base.geometry.RowsCover)
    (unaddressed : base.geometry.Unaddressed) (serving : Serving base session chip) :
    (writeImage indexPage data).Leads session chip fun result _ _ _ => ∃ e, result = .error e := by
  let fails : Except Error (List Nat) → Flash → Prop := fun result _ => ∃ e, result = .error e
  show (writeImage indexPage data).Leads session chip fun result _ after _ =>
    fails result after.flash
  apply Leads.writeImage_unaddressed valid unaddressed serving
  · exact fun _ => ⟨_, rfl⟩
  · exact fun _ => ⟨_, rfl⟩
  · exact fun _ => ⟨_, rfl⟩
  · intro inRange left after blind
    obtain ⟨result, last, failed, comes⟩ :=
      fated_storeImage valid covers unaddressed inRange (length_strayArea _ _)
    apply (comes left after blind).mono
    rintro _ _ _ _ ⟨rfl, -⟩
    exact failed

end Operation
end OnfiFlash
