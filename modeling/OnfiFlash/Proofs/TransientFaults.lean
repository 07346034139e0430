import OnfiFlash.Proofs.BlockTaking
import OnfiFlash.Proofs.Coupling
import OnfiFlash.Proofs.FadingFaults
import OnfiFlash.Proofs.InUse
import OnfiFlash.Proofs.Unaddressed

/-! Transient faults while an image is written. Two writes of the same image, one on a device with
faults that fade and one without them, go hand in hand: they take the same blocks and leave the same
on every page, and differ only in how often a page is tried. -/
namespace OnfiFlash

namespace Operation

variable {base : Session} {d calm : Device} {page : Nat}

section Reading

theorem requireWritable_couples (calmed : d.Calmed base calm) :
    Couples base (Device.Calmed base) requireWritable requireWritable d calm
      fun _ _ _ => True := by
  apply Couples.of_succeeds (requireWritable_passes calmed.receptive.writable)
    (requireWritable_passes calmed.calm_receptive.writable)
  rintro _ _ _ _ rfl rfl
  exact ⟨calmed, trivial⟩

theorem readMarker_couples (reaches : base.geometry.Reaches)
    (inRange : page < base.geometry.totalPages) (calmed : d.Calmed base calm) :
    Couples base (Device.Calmed base) (readMarker page) (readMarker page) d calm
      fun marker other _ => marker = other := by
  apply Couples.of_succeeds (readMarker_settled reaches inRange calmed.receptive.settles)
    (readMarker_settled reaches inRange calmed.calm_receptive.settles)
  rintro _ after _ afterCalm ⟨rfl, same⟩ ⟨rfl, sameCalm⟩
  rw [same, sameCalm]
  exact ⟨(calmed.afterLoad page).reload _ _, (calmed.marker? inRange).symm⟩

theorem isKnownBad_couples (reaches : base.geometry.Reaches) {block : Nat}
    (onDevice : block < base.geometry.totalBlocks) (calmed : d.Calmed base calm) :
    Couples base (Device.Calmed base) (isKnownBad block) (isKnownBad block) d calm
      fun bad other _ => bad = other := by
  have dimensions := reaches.valid.dimensions
  have first := dimensions.firstPage_lt onDevice
  have last := dimensions.lastPage_lt onDevice
  apply couples_get_bind
  intro state twin
  dsimp only
  cases base.badBlocks with
  | some table => exact couples_pure calmed rfl
  | none =>
    apply couples_geometry_bind
    rw [Geometry.checkBlock_eq onDevice]
    show Couples base _ (readMarker _ >>= _) (readMarker _ >>= _) d calm _
    apply (readMarker_couples reaches first calmed).bind (fun _ _ kept => kept)
    rintro marker _ after afterCalm kept rfl
    cases condemns marker with
    | true => exact couples_pure kept rfl
    | false =>
      apply (readMarker_couples reaches last kept).bind (fun _ _ stays => stays)
      rintro other _ _ _ stays rfl
      exact couples_pure stays rfl

/-- The records that come to stand in front of what is read are the same. -/
theorem readMainArea_couples (reaches : base.geometry.Reaches)
    (inRange : page < base.geometry.totalPages) (calmed : d.Calmed base calm) :
    Couples base (Device.Calmed base) (readMainArea page) (readMainArea page) d calm
      fun old other _ => old.length = base.geometry.bytesPerPage ∧
        ∀ used, Index.encode used other = Index.encode used old := by
  apply Couples.of_serving
  intro describes sized
  have whole : (d.mainArea base.geometry page).length = base.geometry.bytesPerPage :=
    Device.length_mainArea describes sized
  have describesCalm : base.geometry.Describes calm.flash.config := calmed.alike.config ▸ describes
  have wholeCalm : (calm.mainArea base.geometry page).length = base.geometry.bytesPerPage :=
    Device.length_mainArea describesCalm (calmed.alike.sized sized)
  apply Couples.of_succeeds (readMainArea_settled reaches inRange calmed.receptive.settles)
    (readMainArea_settled reaches inRange calmed.calm_receptive.settles)
  rintro _ after _ afterCalm ⟨rfl, same⟩ ⟨rfl, sameCalm⟩
  rw [same, sameCalm]
  refine ⟨(calmed.afterLoad page).reload _ _, whole, ?_⟩
  exact Index.encode_congr (wholeCalm.trans whole.symm)
    fun _ positive => calmed.drop_mainArea inRange positive

end Reading

section Erasing

variable {block : Nat}

theorem eraseBlock_settled (reaches : base.geometry.Reaches)
    (onDevice : block < base.geometry.totalBlocks) (settles : d.Settles base.config.polling) :
    (eraseBlock block).Succeeds base d fun status after =>
      status.isError = d.flash.refuses block ∧
        after = { d with flash := d.flash.erase block, loaded := after.loaded } := by
  apply Effects.eraseBlock reaches.valid reaches.covers onDevice
  · exact fun late => absurd settles late
  · exact fun _ status reports => ⟨status, rfl, reports, rfl⟩

theorem eraseBlock_couples (reaches : base.geometry.Reaches)
    (onDevice : block < base.geometry.totalBlocks) (calmed : d.Calmed base calm) :
    Couples base (Device.Calmed base) (eraseBlock block) (eraseBlock block) d calm
      fun status other after => other.isError = status.isError ∧
        status.isError = d.flash.refuses block ∧ after.flash = d.flash.erase block := by
  apply Couples.of_succeeds (eraseBlock_settled reaches onDevice calmed.receptive.settles)
    (eraseBlock_settled reaches onDevice calmed.calm_receptive.settles)
  rintro status after other afterCalm ⟨reports, same⟩ ⟨reportsCalm, sameCalm⟩
  rw [same, sameCalm, reportsCalm, reports, calmed.alike.refuses]
  exact ⟨(calmed.erase block).reload _ _, rfl, rfl, rfl⟩

/-- By induction on the blocks left. -/
theorem findBlock_couples (reaches : base.geometry.Reaches) (start count : Nat)
    (onDevice : block + count ≤ base.geometry.totalBlocks) (calmed : d.Calmed base calm)
    (stats stats' : WriteStats) :
    Couples base (Device.Calmed base) (findBlock start count block stats)
      (findBlock start count block stats') d calm
        fun found other _ => other.1 = found.1 := by
  induction count generalizing d calm block stats stats' with
  | zero => exact couples_note_bind (couples_throw calmed)
  | succ count ih =>
    have here : block < base.geometry.totalBlocks := by omega
    apply (isKnownBad_couples reaches here calmed).bind (fun _ _ kept => kept)
    rintro bad _ after afterCalm kept rfl
    cases bad with
    | true => exact couples_note_bind (ih (by omega) kept _ _)
    | false =>
      apply couples_progress_bind kept
      apply (eraseBlock_couples reaches here kept).bind (fun _ _ stays => stays)
      rintro status other last lastCalm stays ⟨same, -, -⟩
      dsimp only
      rw [same]
      split
      · exact couples_note_bind (ih (by omega) stays _ _)
      · exact couples_pure stays rfl

theorem nextGoodBlock_couples (reaches : base.geometry.Reaches) {start : Nat}
    (onDevice : start ≤ base.geometry.totalBlocks) (calmed : d.Calmed base calm)
    (stats stats' : WriteStats) :
    Couples base (Device.Calmed base) (nextGoodBlock start stats) (nextGoodBlock start stats') d calm
      fun found other after => other.1 = found.1 ∧ start ≤ found.1 ∧
        found.1 < base.geometry.totalBlocks ∧ d.flash.refuses found.1 = false ∧
        after.flash = d.flash.erase found.1 := by
  have found : Couples base (Device.Calmed base) (nextGoodBlock start stats)
      (nextGoodBlock start stats') d calm fun found other _ => other.1 = found.1 := by
    apply couples_geometry_bind
    exact findBlock_couples reaches start _ (by omega) calmed stats stats'
  have searched : (nextGoodBlock start stats).Yields base d fun found after => start ≤ found.1 ∧
      found.1 < base.geometry.totalBlocks ∧ d.flash.refuses found.1 = false ∧
      after.flash = d.flash.erase found.1 := by
    apply (nextGoodBlock_searches reaches.valid reaches.covers stats onDevice).mono
    rintro _ after _ ⟨searched, -⟩ value rfl
    exact searched
  exact found.and_yields searched

end Erasing

section Writing

variable {data : List UInt8}

/-- A fault that both devices have fails the same attempts: by induction on those left. -/
theorem writeAttempt_couples (reaches : base.geometry.Reaches)
    (inRange : page < base.geometry.totalPages) (fits : data.length ≤ base.geometry.rawPageSize)
    (calmed : d.Calmed base calm) (shared : calm.loadFaults page = d.loadFaults page)
    (maxAttempts left attempt : Nat) (stats stats' : WriteStats) :
    Couples base (Device.Calmed base) (writeAttempt page data maxAttempts left attempt stats)
      (writeAttempt page data maxAttempts left attempt stats') d calm fun _ _ _ => True := by
  have tried : ∀ {d calm : Device}, d.Calmed base calm →
      calm.loadFaults page = d.loadFaults page →
      Couples base (fun after afterCalm => after.Calmed base afterCalm ∧
          afterCalm.loadFaults page = after.loadFaults page)
        (tryPage page data) (tryPage page data) d calm fun failure other _ => failure = other := by
    intro d calm calmed shared
    apply Couples.of_succeeds (tryPage_receptive reaches inRange fits calmed.receptive)
      (tryPage_receptive reaches inRange fits calmed.calm_receptive)
    rintro _ after _ afterCalm ⟨rfl, same⟩ ⟨rfl, sameCalm⟩
    have programmed := calmed.program page data
    have complaint : (calm.program page data).complaint? page data
        = (d.program page data).complaint? page data := programmed.complaint? shared
    rw [same, sameCalm]
    refine ⟨⟨(programmed.afterLoad page).reload _ _, ?_⟩, complaint.symm⟩
    show ((calm.program page data).afterLoad page).loadFaults page
      = ((d.program page data).afterLoad page).loadFaults page
    rw [Device.loadFaults_afterLoad, Device.loadFaults_afterLoad]
    exact congrArg (Option.bind · _) shared
  induction left generalizing d calm attempt stats stats' with
  | zero =>
    apply (tried calmed shared).bind (fun _ _ kept => kept.1)
    rintro failure _ after afterCalm ⟨kept, -⟩ rfl
    cases failure with
    | none => exact couples_pure kept trivial
    | some e => exact couples_note_bind (couples_throw kept)
  | succ left ih =>
    apply (tried calmed shared).bind (fun _ _ kept => kept.1)
    rintro failure _ after afterCalm ⟨kept, still⟩ rfl
    cases failure with
    | none => exact couples_pure kept trivial
    | some e => exact couples_note_bind (couples_progress_bind kept (ih kept still _ _ _))

/-- An erased page comes to hold the data on both devices, or on neither. -/
theorem writePage_couples (reaches : base.geometry.Reaches)
    (inRange : page < base.geometry.totalPages) (fits : data.length ≤ base.geometry.rawPageSize)
    (calmed : d.Calmed base calm)
    (blank : d.flash.cells page = List.replicate base.geometry.rawPageSize erasedByte)
    (stats stats' : WriteStats) :
    Couples base (Device.Calmed base) (writePage page data stats) (writePage page data stats') d calm
      fun _ _ after => d.flash.Programs page data after.flash := by
  have written : Couples base (Device.Calmed base) (writePage page data stats)
      (writePage page data stats') d calm fun _ _ _ => True := by
    apply couples_get_bind
    intro state twin
    dsimp only
    rcases calmed.faults page inRange with shared | ⟨quiet, fading⟩
    · exact writeAttempt_couples reaches inRange fits calmed shared _ _ _ _ _
    · have attempts : base.config.maxWriteRetries - 1 ≤ max 1 base.config.maxWriteRetries - 1 := by
        omega
      have blankCalm : calm.flash.cells page
          = List.replicate base.geometry.rawPageSize erasedByte := by
        rw [calmed.alike.cells, blank]
      apply Couples.of_succeeds
        (writeAttempt_absorbs reaches inRange fits calmed.receptive fading
          (begins_of_blank fits blank) _ _ _ attempts _)
        (writeAttempt_absorbs reaches inRange fits calmed.calm_receptive
          (quiet ▸ InjectedFault.fading_none 0) (begins_of_blank fits blankCalm) _ _ _
          (Nat.zero_le _) _)
      intro _ after _ afterCalm absorbed absorbedCalm
      exact ⟨calmed.absorbed absorbed absorbedCalm, trivial⟩
  have programs : (writePage page data stats).Yields base d fun _ after =>
      d.flash.Programs page data after.flash := by
    apply (writePage_writes reaches.valid reaches.covers inRange fits stats).mono
    rintro _ after _ ⟨writes, -⟩ _ _
    exact writes.programs
  apply (written.and_yields programs).mono (fun _ _ kept => kept)
  rintro _ _ _ ⟨-, reached⟩
  exact reached

variable {indexBlock room : Nat} {cursor : WriteCursor}

theorem advance_couples (reaches : base.geometry.Reaches) (calmed : d.Calmed base calm)
    (poised : cursor.Poised base indexBlock d room) (spent : room < base.geometry.pagesPerBlock)
    (stats : WriteStats) :
    Couples base (Device.Calmed base) cursor.advance { cursor with stats }.advance d calm
      fun next other after => other = { next with stats := other.stats } ∧
        ∃ left, left < base.geometry.pagesPerBlock ∧
          next.Poised base indexBlock after (left + 1) := by
  have dimensions := reaches.valid.dimensions
  apply Couples.of_serving
  intro describes _
  apply couples_geometry_bind
  by_cases due : cursor.done = 0 ∨ cursor.page % base.geometry.pagesPerBlock = 0
  · obtain rfl := (poised.placed.due_iff dimensions spent).mp due
    dsimp only
    rw [if_pos due, if_pos due]
    split
    · exact couples_note_bind (couples_throw_bind calmed)
    · apply (nextGoodBlock_couples reaches poised.placed.next.2 calmed _ _).bind
        (fun _ _ kept => kept)
      rintro ⟨found, first⟩ ⟨_, second⟩ after afterCalm kept
        ⟨rfl, behind, onDevice, accepted, erased⟩
      obtain ⟨left, ppb⟩ : ∃ left, base.geometry.pagesPerBlock = left + 1 :=
        Nat.exists_eq_succ_of_ne_zero (Nat.ne_of_gt dimensions.pagesPerBlock)
      have onto := poised.onto dimensions describes behind onDevice accepted after erased first
      rw [ppb] at onto
      exact couples_pure kept ⟨rfl, left, by omega, onto⟩
  · dsimp only
    rw [if_neg due, if_neg due]
    cases room with
    | zero => exact absurd ((poised.placed.due_iff dimensions spent).mpr rfl) due
    | succ left => exact couples_pure calmed ⟨rfl, left, by omega, poised⟩

/-- By induction on the pieces left. -/
theorem writePieces_couples (reaches : base.geometry.Reaches) (pieces : List (List UInt8))
    (short : ∀ piece ∈ pieces, piece.length ≤ base.geometry.bytesPerPage)
    (calmed : d.Calmed base calm) (poised : cursor.Poised base indexBlock d room)
    (spent : room < base.geometry.pagesPerBlock) (stats : WriteStats) :
    Couples base (Device.Calmed base) (writePieces pieces cursor)
      (writePieces pieces { cursor with stats }) d calm
        fun last other _ => other.used = last.used := by
  have dimensions := reaches.valid.dimensions
  induction pieces generalizing cursor d calm room stats with
  | nil => exact couples_pure calmed rfl
  | cons piece rest ih =>
    apply (advance_couples reaches calmed poised spent stats).bind (fun _ _ kept => kept)
    rintro next other after afterCalm kept ⟨same, left, more, ready⟩
    rw [same]
    obtain ⟨inRange, blank⟩ := ready.next dimensions
    have fits := Image.pageContents_fits (short piece List.mem_cons_self)
    apply couples_geometry_bind
    apply (writePage_couples reaches inRange fits kept blank _ _).bind (fun _ _ stays => stays)
    intro written copied last lastCalm stays programs
    apply couples_progress_bind stays
    exact ih (fun other listed => short other (List.mem_cons_of_mem _ listed)) stays
      (ready.past last programs written) (by omega) copied

end Writing

section Image

variable {indexPage : Nat}

theorem eraseRequired_couples (reaches : base.geometry.Reaches)
    (inRange : page < base.geometry.totalPages) (calmed : d.Calmed base calm)
    (stats stats' : WriteStats) :
    Couples base (Device.Calmed base) (eraseRequired (base.geometry.blockOf page) stats)
      (eraseRequired (base.geometry.blockOf page) stats') d calm fun _ _ after =>
        after.flash.cells page = List.replicate base.geometry.rawPageSize erasedByte := by
  apply Couples.of_serving
  intro describes _
  apply couples_progress_bind calmed
  apply (eraseBlock_couples reaches (Geometry.blockOf_lt inRange) calmed).bind (fun _ _ kept => kept)
  rintro status other after afterCalm kept ⟨same, reports, erased⟩
  dsimp only
  rw [same]
  cases failed : status.isError with
  | true => exact couples_throw_bind kept
  | false =>
    apply couples_pure kept
    rw [erased, Flash.cells_erase (reports.symm.trans failed)
      (congrArg _ describes.pagesPerBlock), describes.erasedPage]

theorem writeRecord_couples (reaches : base.geometry.Reaches)
    (inRange : indexPage < base.geometry.totalPages) (calmed : d.Calmed base calm)
    {contents : List UInt8} (fits : contents.length ≤ base.geometry.rawPageSize)
    (stats stats' : WriteStats) (used : List Nat) :
    Couples base (Device.Calmed base)
      (writeRecord (base.geometry.blockOf indexPage) indexPage contents stats used)
      (writeRecord (base.geometry.blockOf indexPage) indexPage contents stats' used) d calm
        fun listed other _ => other = listed := by
  apply (eraseRequired_couples reaches inRange calmed _ _).bind (fun _ _ kept => kept)
  intro erased other after afterCalm kept blank
  apply (writePage_couples reaches inRange fits kept blank _ _).bind (fun _ _ stays => stays)
  intro _ _ last lastCalm stays _
  exact couples_progress_bind stays (couples_pure stays rfl)

/-- Of the old contents of the index page only what is kept counts. -/
theorem storeImage_congr {old other : List UInt8}
    (same : ∀ used, Index.encode used other = Index.encode used old) (g : Geometry)
    (indexPage : Nat) (data : List UInt8) :
    storeImage g indexPage data other = storeImage g indexPage data old := by
  simp only [storeImage, same]

theorem storeImage_couples (reaches : base.geometry.Reaches)
    (inRange : indexPage < base.geometry.totalPages) (calmed : d.Calmed base calm)
    {old : List UInt8} (whole : old.length = base.geometry.bytesPerPage) (data : List UInt8) :
    Couples base (Device.Calmed base) (storeImage base.geometry indexPage data old)
      (storeImage base.geometry indexPage data old) d calm
        fun used other _ => other = used := by
  apply couples_progress_bind calmed
  apply (writePieces_couples reaches _ (length_le_of_mem_chunks _ _) calmed
    (WriteCursor.poised_start inRange d) reaches.valid.dimensions.pagesPerBlock {}).bind
      (fun _ _ kept => kept)
  intro cursor other after afterCalm kept same
  rw [same]
  apply (couples_require kept).bind (fun _ _ stays => stays)
  rintro contents _ last lastCalm stays ⟨rfl, encoded⟩
  have fits : contents.length ≤ base.geometry.rawPageSize := by
    rw [Index.length_encode encoded, whole]
    exact Nat.le_add_right _ _
  exact writeRecord_couples reaches inRange stays fits _ _ _

theorem writeImage_couples (reaches : base.geometry.Reaches) (calmed : d.Calmed base calm)
    (indexPage : Nat) (data : List UInt8) :
    Couples base (Device.Calmed base) (writeImage indexPage data) (writeImage indexPage data) d calm
      fun used other _ => other = used := by
  rw [writeImage_eq]
  apply couples_geometry_bind
  by_cases inRange : indexPage < base.geometry.totalPages
  · rw [Geometry.checkPage_eq inRange]
    show Couples base _ (requireWritable >>= _) (requireWritable >>= _) d calm _
    apply (requireWritable_couples calmed).bind (fun _ _ kept => kept)
    intro _ _ after afterCalm kept _
    apply (readMainArea_couples reaches inRange kept).bind (fun _ _ stays => stays)
    rintro old other last lastCalm stays ⟨whole, same⟩
    rw [storeImage_congr same]
    exact storeImage_couples reaches inRange stays whole data
  · rw [Geometry.checkPage_eq_error inRange]
    exact couples_throw_bind calmed

end Image

section Unaddressed

theorem drop_resized {bytes other : List UInt8} (length : other.length = bytes.length)
    (tails : ∀ count, 0 < count → other.drop count = bytes.drop count) (size : Nat)
    (filler : UInt8) {count : Nat} (positive : 0 < count) :
    (Chip.resized size filler other).drop count = (Chip.resized size filler bytes).drop count := by
  simp only [Chip.resized, List.drop_append, List.drop_take, List.length_take, length,
    tails count positive]

/-- A page latched past the session shows its fault only in its first byte, if at all. -/
theorem encode_strayArea {chip copy : Chip} (calmed : d.Calmed base calm)
    (describes : base.geometry.Describes chip.config) (config : copy.config = chip.config)
    (latched : copy.latched = chip.latched) (used : List Nat) :
    Index.encode used (strayArea base.geometry (copy.stray? calm))
      = Index.encode used (strayArea base.geometry (chip.stray? d)) := by
  apply Index.encode_congr
  · rw [length_strayArea, length_strayArea]
  intro count positive
  rw [Chip.stray?, Chip.stray?, latched, config]
  cases chip.latched with
  | none => rfl
  | some place =>
    obtain ⟨column, page⟩ := place
    dsimp only
    by_cases inRange : page < chip.config.totalPages
    · have refused : calm.fault? page = some .readError ↔ d.fault? page = some .readError :=
        calmed.refused_iff (describes.totalPages ▸ inRange)
      by_cases failed : d.fault? page = some .readError
      · rw [if_neg fun loads => loads.2 (refused.mpr failed), if_neg fun loads => loads.2 failed]
      · rw [if_pos ⟨inRange, mt refused.mp failed⟩, if_pos ⟨inRange, failed⟩]
        apply drop_resized _ _ _ _ positive
        · simp only [List.length_drop, Device.length_contents, calmed.alike.cells]
        · intro behind some
          have further : 0 < column + behind := Nat.add_pos_right column some
          rw [List.drop_drop, List.drop_drop, d.drop_contents page further,
            calm.drop_contents page further, calmed.alike.cells]
    · rw [if_neg fun loads => inRange loads.1, if_neg fun loads => inRange loads.1]

/-- On an unaddressed device that stores whatever is programmed, the array and what is kept of the
index page decide how an image write ends. -/
theorem writeImage_unaddressed_determined (valid : base.geometry.Valid)
    (covers : base.geometry.RowsCover) (unaddressed : base.geometry.Unaddressed)
    (receptive : d.Receptive base) (indexPage : Nat) (data : List UInt8)
    {old : List UInt8} (whole : old.length = base.geometry.bytesPerPage) :
    ∃ result last, ∀ session chip, Serving base session chip → chip.flash = d.flash →
      (∀ used, Index.encode used (strayArea base.geometry (chip.stray? (session.device chip)))
        = Index.encode used old) →
      (writeImage indexPage data).Leads session chip fun ended _ after _ =>
        ended = result ∧ after.flash = last := by
  by_cases inRange : indexPage < base.geometry.totalPages
  · have fated : (storeImage base.geometry indexPage data old).Fated base d.flash
        fun result => ∃ e, result = .error e :=
      fated_storeImage valid covers unaddressed inRange whole
    obtain ⟨result, last, -, comes⟩ := fated
    refine ⟨result, last, fun session chip serving array same => ?_⟩
    let post : Except Error (List Nat) → Flash → Prop := fun ended flash =>
      ended = result ∧ flash = last
    show (writeImage indexPage data).Leads session chip fun ended _ after _ =>
      post ended after.flash
    have settles : chip.flash.config.busyPolls < base.config.polling.polls :=
      array ▸ receptive.settles
    have writable : chip.flash.config.writeProtected = false := array ▸ receptive.writable
    apply Leads.writeImage_unaddressed valid unaddressed serving
    · exact fun beyond => absurd inRange beyond
    · intro shielded
      exact absurd (writable.symm.trans shielded) Bool.false_ne_true
    · exact fun late => absurd settles late
    · intro _ left after blind
      rw [storeImage_congr same]
      rw [array] at blind
      apply (comes left after blind).mono
      rintro ended _ final _ ⟨rfl, stays⟩
      exact ⟨rfl, stays.flash⟩
  · refine ⟨.error .addressOutOfRange, d.flash, fun session chip serving array _ => ?_⟩
    rw [writeImage_eq, leads_geometry_bind, serving.geometry,
      Geometry.checkPage_eq_error inRange]
    exact ⟨rfl, array⟩

end Unaddressed

end Operation

theorem Serving.withLoadFaults {base session : Session} {chip : Chip}
    (serving : Serving base session chip) (loadFaults : Nat → Option InjectedFault) :
    Serving base session { chip with loadFaults } :=
  ⟨serving.same, serving.describes, serving.sound.sized, serving.sound.clear⟩

namespace Session

variable {start chip : Chip} {session : Session}

/-- On a chip whose row cycles cover its pages and which stores whatever is programmed, flipped bits
and advice to refresh do not show in what an image write comes to, if on no page they last for as many
loads as the page is tried. -/
theorem writeImage_absorbs (sound : start.Sound) (fits : start.config.Fits)
    (covers : start.config.geometry.RowsCover) (inUse : session.InUse start chip)
    (settles : chip.config.busyPolls < session.config.polling.polls)
    (programs : ∀ page, page < session.geometry.totalPages → chip.programFaults page = none)
    (writable : chip.config.writeProtected = false) (unscheduled : chip.protectAfter = none)
    {faults calm : Nat → Option InjectedFault}
    (fading : ∀ page, page < session.geometry.totalPages →
      calm page = faults page ∨ calm page = none ∧
        InjectedFault.Fading (faults page) (session.config.maxWriteRetries - 1))
    (indexPage : Nat) (data : List UInt8) :
    let operation := (Operation.writeImage indexPage data).runIn session
    let disturbed := operation.run { chip with loadFaults := faults }
    let undisturbed := operation.run { chip with loadFaults := calm }
    disturbed.value.1 = undisturbed.value.1 ∧ disturbed.link.cells = undisturbed.link.cells := by
  intro operation disturbed undisturbed
  obtain ⟨serving, -⟩ := inUse.serving sound fits
  have covered := (inUse.describes sound fits).rowsCover covers
  have disturbs := serving.withLoadFaults faults
  have copied := serving.withLoadFaults calm
  have calmed : (session.device { chip with loadFaults := faults }).Calmed session
      (session.device { chip with loadFaults := calm }) :=
    ⟨⟨settles, programs, writable, unscheduled⟩, .refl _, fading⟩
  by_cases unaddressed : session.geometry.Unaddressed
  · obtain ⟨result, last, determined⟩ := Operation.writeImage_unaddressed_determined session.valid
      covered unaddressed calmed.receptive indexPage data (Operation.length_strayArea _ _)
    obtain ⟨ended, after⟩ := determined session _ disturbs rfl fun _ => rfl
    obtain ⟨endedCopy, afterCopy⟩ := determined session _ copied rfl
      (Operation.encode_strayArea calmed serving.describes rfl rfl)
    exact ⟨ended.trans endedCopy.symm, congrArg Flash.cells (after.trans afterCopy.symm)⟩
  · have reaches : session.geometry.Reaches :=
      ⟨session.valid, covered, Nat.pos_of_ne_zero unaddressed⟩
    obtain ⟨-, -, kept, agree⟩ := Operation.writeImage_couples reaches calmed indexPage data
      session _ session _ disturbs rfl copied rfl
    exact ⟨agree.eq, kept.alike.cells.symm⟩

/-- Faults on a page of the image and on the index page, each for as many loads as are absorbed. -/
def fadingFaults : Nat → Option InjectedFault
  | 4 => some ⟨.bitFlip, some 4⟩
  | 1 => some ⟨.refreshAdvised, some 4⟩
  | _ => none

theorem writeImage_absorbs_small :
    let chip := afterOpening {} smallChip
    let written := ((Operation.writeImage 1 (List.replicate 30 7)).runIn smallSession).run
      { chip with loadFaults := fadingFaults }
    written.value.1 = .ok [2, 3] ∧ (written.link.cells 4).take 12 = List.replicate 12 7 := by
  intro chip written
  have fits : smallChip.config.Fits := .of_valid (by decide) (by decide)
  have covers : smallChip.config.geometry.RowsCover := by decide
  have inUse : smallSession.InUse smallChip chip := smallSession_inUse
  have settles : chip.config.busyPolls < smallSession.config.polling.polls := by decide +kernel
  have programs : ∀ page, page < smallSession.geometry.totalPages →
      chip.programFaults page = none := by decide +kernel
  have writable : chip.config.writeProtected = false := by decide +kernel
  have unscheduled : chip.protectAfter = none := by decide +kernel
  have fading : ∀ page, page < smallSession.geometry.totalPages →
      none = fadingFaults page ∨ (none : Option InjectedFault) = none ∧
        InjectedFault.Fading (fadingFaults page) (smallSession.config.maxWriteRetries - 1) := by
    intro page _
    right
    refine ⟨rfl, ?_⟩
    unfold fadingFaults
    split
    · rintro _ ⟨⟩
      exact ⟨by decide, 4, rfl, by decide, by decide +kernel⟩
    · rintro _ ⟨⟩
      exact ⟨by decide, 4, rfl, by decide, by decide +kernel⟩
    · exact InjectedFault.fading_none _
  obtain ⟨same, cells⟩ := writeImage_absorbs (Chip.sound_ofConfig _) fits covers inUse settles
    programs writable unscheduled fading 1 (List.replicate 30 7)
  refine ⟨same.trans ?_, (congrArg (List.take 12) (congrFun cells 4)).trans ?_⟩
  · decide +kernel
  · decide +kernel

end Session

/-- A chip whose row cycles do not fit their place in the parameter page, with a byte programmed in
page 256. -/
def narrowedOpening : Opening where
  start := (Chip.ofConfig {
    vendor := ""
    model := ""
    bytesPerPage := 12
    sparePerPage := 1
    pagesPerBlock := 1
    blocksPerUnit := 300
    rowCycles := 19
    columnCycles := 0 }).setPage 256 [0xFE]
  opens := by decide +kernel

/-- A chip with responses waiting, all of which look like the status of a chip that is ready. -/
def delayedOpening : Opening where
  config := bareOpening
  start := ((Chip.ofConfig {
    vendor := ""
    model := ""
    manufacturerId := 0xF6
    deviceId := 0xF6
    bytesPerPage := 512
    sparePerPage := 1
    pagesPerBlock := 1
    blocksPerUnit := 2
    rowCycles := 1 }).setPage 0 (List.replicate 513 0xF6)).unread
  opens := by decide +kernel

namespace Session

/-- Both are needed, that all cycles fit and that no response waits: on one chip a flipped bit makes up
for one that is programmed in a page never erased, and on the other it is taken for a byte to keep. -/
theorem writeImage_absorbs_varies :
    (narrowedOpening.start.config.geometry.RowsCover ∧
      let chip := narrowedOpening.chip
      let operation := (Operation.writeImage 0 [1]).runIn narrowedOpening.session
      (operation.run (chip.injectFault 256 .bitFlip (some 3))).value.1 = .ok [1] ∧
        (operation.run chip).value.1 = .error (.writeExhausted 1 5)) ∧
    (delayedOpening.start.config.geometry.RowsCover ∧
      let chip := delayedOpening.chip
      let operation := (Operation.writeImage 0 []).runIn delayedOpening.session
      (operation.run (chip.injectFault 0 .bitFlip (some 1))).link.cells 0
        ≠ (operation.run chip).link.cells 0) := by
  refine ⟨⟨?_, ?_, ?_⟩, ?_, ?_⟩
  · decide
  · decide +kernel
  · decide +kernel
  · decide
  · decide +kernel

end Session
end OnfiFlash
