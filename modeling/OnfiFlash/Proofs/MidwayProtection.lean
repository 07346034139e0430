import OnfiFlash.Proofs.BlockTaking
import OnfiFlash.Proofs.ImageStorage
import OnfiFlash.Proofs.InUse
import OnfiFlash.Proofs.Unaddressed

/-! Write protection that appears while an image is written. The pages programmed before are those of
the image in order, and the index block keeps what it held; but the error tells of the protection
only if the next command is a program. -/
namespace OnfiFlash.Operation

variable {base : Session} {d : Device} {indexBlock room count : Nat} {eligible : List Nat}
  {start : Flash} {cursor : WriteCursor} {α β : Type}

namespace WriteCursor

/-- Where a cursor stands while the device is to become write protected after `count` programs. -/
structure Underway (base : Session) (start : Flash) (indexBlock count : Nat) (eligible : List Nat)
    (cursor : WriteCursor) (d : Device) (room : Nat) : Prop where
  undisturbed : d.Undisturbed base
  scheduled : d.flash.protectAfter = some count
  grows : Flash.Grows (indexBlock + 1) start d.flash cursor.used
  taking : cursor.Taking base indexBlock eligible d room
  /-- The pages programmed and those still free are the pages of the blocks taken. -/
  logged : d.flash.programmed.reverse ++ List.range' cursor.page room
    = base.geometry.pagesOf cursor.used.reverse
  protection : d.flash.config.writeProtected = decide (count ≤ cursor.done)

theorem Underway.programmed (underway : cursor.Underway base start indexBlock count eligible d room) :
    d.flash.programmed.length = cursor.done := by
  have lengths := congrArg List.length underway.logged
  have placed := underway.taking.placed.count
  rw [List.length_append, List.length_reverse, List.length_range', Geometry.length_pagesOf,
    List.length_reverse] at lengths
  omega

theorem Underway.writable (underway : cursor.Underway base start indexBlock count eligible d room)
    (more : cursor.done < count) : d.flash.config.writeProtected = false := by
  rw [underway.protection, decide_eq_false (Nat.not_le.mpr more)]

theorem Underway.shielded (underway : cursor.Underway base start indexBlock count eligible d room)
    (spent : cursor.done = count) : d.flash.config.writeProtected = true := by
  rw [underway.protection, decide_eq_true (Nat.le_of_eq spent.symm)]

/-- Before the first block is taken. -/
theorem underway_start {indexPage : Nat} (inRange : indexPage < base.geometry.totalPages)
    (undisturbed : d.Undisturbed base) (writable : d.flash.config.writeProtected = false)
    (unlogged : d.flash.programmed = []) (scheduled : d.flash.protectAfter = some count)
    (positive : 0 < count) :
    ({ nextBlock := base.geometry.blockOf indexPage + 1 } : WriteCursor).Underway base d.flash
      (base.geometry.blockOf indexPage) count
      (base.eligibleFrom d.flash (base.geometry.blockOf indexPage + 1)) d 0 where
  undisturbed := undisturbed
  scheduled := scheduled
  grows := .refl _ _
  taking := taking_start inRange d
  logged := by
    rw [unlogged]
    rfl
  protection := by
    rw [writable]
    exact (decide_eq_false (Nat.not_le.mpr positive)).symm

/-- The log, once as many pages are programmed. -/
theorem Underway.log (underway : cursor.Underway base start indexBlock count eligible d room)
    (spent : cursor.done = count) :
    d.flash.programmed.reverse = (base.geometry.pagesOf eligible).take count := by
  have whole : base.geometry.pagesOf eligible = d.flash.programmed.reverse
      ++ (List.range' cursor.page room
        ++ base.geometry.pagesOf (eligible.drop cursor.used.length)) := by
    rw [← List.append_assoc, underway.logged, underway.taking.taken, ← Geometry.pagesOf_append,
      List.take_append_drop]
  have length : d.flash.programmed.reverse.length = count := by
    rw [List.length_reverse, underway.programmed, spent]
  rw [whole, List.take_left' length]

/-- The protection comes at the end of a block exactly if no room is left. -/
theorem Underway.aligned_iff (underway : cursor.Underway base start indexBlock count eligible d room)
    (spent : room < base.geometry.pagesPerBlock) :
    cursor.done % base.geometry.pagesPerBlock = 0 ↔ room = 0 := by
  have whole : base.geometry.pagesPerBlock ∣ cursor.done + room :=
    underway.taking.placed.count ▸ Nat.dvd_mul_left _ _
  constructor
  · intro aligned
    have left := (Nat.dvd_add_right (Nat.dvd_of_mod_eq_zero aligned)).mp whole
    exact Nat.eq_zero_of_dvd_of_lt left spent
  · rintro rfl
    exact Nat.mod_eq_zero_of_dvd whole

theorem Underway.length_used
    (underway : cursor.Underway base start indexBlock count eligible d room)
    (spent : room < base.geometry.pagesPerBlock) (ended : cursor.done = count) :
    cursor.used.length = chunkCount base.geometry.pagesPerBlock count := by
  rw [← ended, chunkCount_eq underway.taking.placed.count spent]

/-- Going on to the next block. -/
theorem Underway.onto {found : Nat} {rest : List Nat} (dimensions : base.geometry.Dimensions)
    (describes : base.geometry.Describes start.config)
    (underway : cursor.Underway base start indexBlock count eligible d 0)
    (more : cursor.done < count)
    (next : base.eligibleFrom d.flash cursor.nextBlock = found :: rest) (stats : WriteStats)
    (loaded : Option (List UInt8 × Nat)) :
    (cursor.onto base.geometry found stats).Underway base start indexBlock count eligible
      { d with flash := d.flash.erase found, loaded } base.geometry.pagesPerBlock := by
  have described := describes.of_sameLayout underway.grows.layout
  have writable := underway.writable more
  obtain ⟨behind, onDevice, good, -⟩ := Session.of_eligibleFrom next
  have accepted := Session.accepts_of_eligible described writable onDevice good
  have front : indexBlock + 1 ≤ found :=
    Nat.le_trans underway.taking.placed.next.1 behind
  refine ⟨underway.undisturbed.erase found loaded, ?_, underway.grows.erase front accepted,
    underway.taking.onto dimensions described next accepted stats loaded, ?_, ?_⟩
  · show (d.flash.erase found).protectAfter = _
    rw [Flash.protectAfter_erase, underway.scheduled]
  · show (d.flash.erase found).programmed.reverse ++ List.range' _ _
      = base.geometry.pagesOf (found :: cursor.used).reverse
    rw [Flash.programmed_erase, List.reverse_cons, Geometry.pagesOf_append, ← underway.logged,
      List.range'_zero, List.append_nil, Geometry.pagesOf_cons, Geometry.pagesOf_nil,
      List.append_nil]
    rfl
  · show (d.flash.erase found).config.writeProtected = _
    rw [Flash.config_erase]
    exact underway.protection

/-- Going on to the next page, once this one is programmed. -/
theorem Underway.past (dimensions : base.geometry.Dimensions)
    (describes : base.geometry.Describes start.config)
    (underway : cursor.Underway base start indexBlock count eligible d (room + 1))
    (more : cursor.done < count) (stats : WriteStats) (data : List UInt8)
    (loaded : Option (List UInt8 × Nat)) :
    (cursor.past stats).Underway base start indexBlock count eligible
      { d with flash := d.flash.program ⟨0, cursor.page, data⟩, loaded } room := by
  obtain ⟨-, among, inRange⟩ := underway.taking.placed.page dimensions (Nat.succ_pos room)
  have described := describes.of_sameLayout underway.grows.layout
  have writable := underway.writable more
  have stored := underway.undisturbed.stores described writable inRange
  refine ⟨underway.undisturbed.program _ loaded, ?_, ?_,
    underway.taking.past dimensions stats data loaded, ?_, ?_⟩
  · show (d.flash.program _).protectAfter = _
    rw [Flash.protectAfter_program, underway.scheduled]
  · apply underway.grows.program Flash.programs_program
    rw [describes.pagesPerBlock]
    exact among
  · show (d.flash.program ⟨0, cursor.page, data⟩).programmed.reverse
      ++ List.range' (cursor.page + 1) room = base.geometry.pagesOf cursor.used.reverse
    rw [Flash.programmed_program, List.reverse_cons, List.append_assoc, ← underway.logged,
      List.range'_succ]
    rfl
  · show (d.flash.program ⟨0, cursor.page, data⟩).config.writeProtected
      = decide (count ≤ cursor.done + 1)
    rw [Flash.writeProtected_program stored, writable, Bool.false_or, Flash.protectionDue]
    simp only [underway.scheduled, List.length_cons, underway.programmed]

end WriteCursor

/-- The operation fails and leaves the device alone. -/
def Refuses (base : Session) (operation : Operation α) (d : Device) (e : Error) : Prop :=
  operation.Effects base d fun result after _ => result = .error e ∧ after.flash = d.flash

theorem Refuses.bind {first : Operation α} {next : α → Operation β} {e : Error}
    (refuses : first.Refuses base d e) : (first >>= next).Refuses base d e := by
  apply Effects.bind refuses
  · rintro _ after _ ⟨⟨⟩, same⟩
    exact ⟨rfl, same⟩
  · rintro _ _ _ ⟨⟨⟩, -⟩

/-- Writing a page to a write-protected device. -/
theorem writePage_refuses (valid : base.geometry.Valid) (covers : base.geometry.RowsCover)
    {page : Nat} (inRange : page < base.geometry.totalPages) {data : List UInt8}
    (fits : data.length ≤ base.geometry.rawPageSize)
    (shielded : d.flash.config.writeProtected = true) (stats : WriteStats) :
    (writePage page data stats).Refuses base d .writeProtected := by
  have unwritable : d.flash.config.writeProtected ≠ false := by
    rw [shielded]
    decide
  have programmed : (programPage page data).Refuses base d .writeProtected := by
    apply Effects.programPage valid covers inRange fits
    · exact fun _ => ⟨rfl, rfl⟩
    · exact fun writable => absurd writable unwritable
    · exact fun writable => absurd writable unwritable
    · exact fun writable => absurd writable unwritable
  have once : ((fun _ => (none : Option Error)) <$> programVerified page data).Refuses base d
      .writeProtected := Refuses.bind (Refuses.bind programmed)
  have tried : (tryPage page data).Refuses base d .writeProtected := by
    apply Effects.tryCatch once
    · rintro _ _ _ ⟨⟨⟩, -⟩
    · rintro _ after _ ⟨⟨⟩, same⟩
      exact effects_throw ⟨rfl, same⟩
  have attempt : ∀ maxAttempts left attempt,
      (writeAttempt page data maxAttempts left attempt stats).Refuses base d .writeProtected := by
    intro maxAttempts left attempt
    cases left <;> exact tried.bind
  exact .get_bind fun _ => attempt _ _ _

section Pieces

variable (reaches : base.geometry.Reaches) (describes : base.geometry.Describes start.config)
include reaches describes

/-- Before the protection, the next page is free or the next block is taken. -/
theorem advance_goes (underway : cursor.Underway base start indexBlock count eligible d room)
    (spent : room < base.geometry.pagesPerBlock) (more : cursor.done < count)
    (listable : room = 0 → cursor.used.length < Index.capacity base.geometry.bytesPerPage)
    (left : room = 0 → cursor.used.length < eligible.length) :
    cursor.advance.Succeeds base d fun next after => next.done = cursor.done ∧
      ∃ left, left < base.geometry.pagesPerBlock ∧
        next.Underway base start indexBlock count eligible after (left + 1) := by
  have dimensions := reaches.valid.dimensions
  have described := describes.of_sameLayout underway.grows.layout
  have placed := underway.taking.placed
  apply Effects.geometry_bind
  split
  · next due =>
    obtain rfl := (placed.due_iff dimensions spent).mp due
    dsimp only
    rw [if_neg (Nat.not_le.mpr (listable rfl))]
    have search := nextGoodBlock_finds reaches cursor.stats placed.next.2 underway.undisturbed
    rw [Session.filter_admits described (underway.writable more)] at search
    cases listed : base.eligibleFrom d.flash cursor.nextBlock with
    | nil =>
      have none : eligible.length ≤ cursor.used.length :=
        List.drop_eq_nil_iff.mp (underway.taking.others.symm.trans listed)
      exact absurd (left rfl) (Nat.not_lt.mpr none)
    | cons block rest =>
      rw [listed] at search
      obtain ⟨fewer, ppb⟩ : ∃ fewer, base.geometry.pagesPerBlock = fewer + 1 :=
        Nat.exists_eq_succ_of_ne_zero (Nat.ne_of_gt dimensions.pagesPerBlock)
      apply Effects.bind search
      · rintro e after said ⟨_, raised, -⟩
        cases raised
      · rintro _ after said ⟨stats, ⟨⟩, same⟩
        have continued := underway.onto dimensions describes more listed stats after.loaded
        rw [← same, ppb] at continued
        exact succeeds_pure ⟨rfl, fewer, by omega, continued⟩
  · next notDue =>
    cases room with
    | zero => exact absurd ((placed.due_iff dimensions spent).mpr rfl) notDue
    | succ fewer => exact succeeds_pure ⟨rfl, fewer, by omega, underway⟩

omit describes in
/-- On the protected device no block is found. -/
theorem advance_refuses (underway : cursor.Underway base start indexBlock count eligible d 0)
    (spent : cursor.done = count)
    (listable : cursor.used.length < Index.capacity base.geometry.bytesPerPage) :
    cursor.advance.Refuses base d .outOfSpace := by
  have dimensions := reaches.valid.dimensions
  have placed := underway.taking.placed
  have due := (placed.due_iff dimensions dimensions.pagesPerBlock).mpr rfl
  apply Effects.geometry_bind
  rw [if_pos due]
  dsimp only
  rw [if_neg (Nat.not_le.mpr listable)]
  have search := nextGoodBlock_finds reaches cursor.stats placed.next.2 underway.undisturbed
  rw [Session.filter_admits_protected (underway.shielded spent)] at search
  exact Refuses.bind search

/-- How an image write stops once the device is write protected. -/
structure Stopped (base : Session) (start : Flash) (indexBlock count : Nat) (eligible : List Nat)
    (result : Except Error WriteCursor) (after : Device) : Prop where
  raised : result = .error
    (if count % base.geometry.pagesPerBlock = 0 then .outOfSpace else .writeProtected)
  log : after.flash.programmed.reverse = (base.geometry.pagesOf eligible).take count
  grows : ∃ fresh, Flash.Grows (indexBlock + 1) start after.flash fresh

/-- What writing the pieces of an image of `pages` pages comes to: only if the protection appears with
the last of them, all are written. -/
def Halts (base : Session) (start : Flash) (indexBlock count : Nat) (eligible : List Nat)
    (pages : Nat) (result : Except Error WriteCursor) (after : Device) : Prop :=
  if count = pages then
    ∃ last room, result = .ok last ∧ last.done = count ∧ room < base.geometry.pagesPerBlock ∧
      last.Underway base start indexBlock count eligible after room
  else
    Stopped base start indexBlock count eligible result after

omit reaches describes in
theorem Halts.of_error {pages : Nat} {e : Error}
    (halts : Halts base start indexBlock count eligible pages (.error e) d) :
    count ≠ pages ∧ Stopped base start indexBlock count eligible (.error e) d := by
  unfold Halts at halts
  split at halts
  · obtain ⟨_, _, ⟨⟩, -⟩ := halts
  · next early => exact ⟨early, halts⟩

omit reaches describes in
theorem Halts.of_ok {pages : Nat}
    (halts : Halts base start indexBlock count eligible pages (.ok cursor) d) :
    count = pages ∧ cursor.done = count ∧ ∃ room, room < base.geometry.pagesPerBlock ∧
      cursor.Underway base start indexBlock count eligible d room := by
  unfold Halts at halts
  split at halts
  · next last =>
    obtain ⟨_, room, ⟨⟩, ended, spent, underway⟩ := halts
    exact ⟨last, ended, room, spent, underway⟩
  · cases halts.raised

omit describes in
/-- Wherever the protection appears, the next piece is not written. -/
theorem writePieces_stops (underway : cursor.Underway base start indexBlock count eligible d room)
    (spent : room < base.geometry.pagesPerBlock) (ended : cursor.done = count)
    (listable : room = 0 → cursor.used.length < Index.capacity base.geometry.bytesPerPage)
    {piece : List UInt8} (short : piece.length ≤ base.geometry.bytesPerPage)
    (rest : List (List UInt8)) :
    (writePieces (piece :: rest) cursor).Effects base d fun result after _ =>
      Stopped base start indexBlock count eligible result after := by
  have dimensions := reaches.valid.dimensions
  have aligned := underway.aligned_iff spent
  rw [ended] at aligned
  have stops : ∀ {e : Error}, (writePieces (piece :: rest) cursor).Refuses base d e →
      e = (if count % base.geometry.pagesPerBlock = 0 then .outOfSpace else .writeProtected) →
      (writePieces (piece :: rest) cursor).Effects base d fun result after _ =>
        Stopped base start indexBlock count eligible result after := by
    rintro e refuses rfl
    apply refuses.mono
    rintro result after _ ⟨raised, same⟩
    exact ⟨raised, same ▸ underway.log ended, cursor.used, same ▸ underway.grows⟩
  by_cases full : room = 0
  · subst full
    apply stops (advance_refuses reaches underway ended (listable rfl)).bind
    rw [if_pos (aligned.mpr rfl)]
  · obtain ⟨fewer, rfl⟩ := Nat.exists_eq_succ_of_ne_zero full
    obtain ⟨inRange, -⟩ := underway.taking.poised.next dimensions
    have fits := Image.pageContents_fits short
    have stays : cursor.advance.Succeeds base d fun next after => next = cursor ∧ after = d := by
      apply Effects.geometry_bind
      rw [if_neg (mt (underway.taking.placed.due_iff dimensions spent).mp full)]
      exact succeeds_pure ⟨rfl, rfl⟩
    have refuses : (writePieces (piece :: rest) cursor).Refuses base d .writeProtected := by
      apply Succeeds.bind stays
      rintro _ _ ⟨rfl, rfl⟩
      apply Effects.geometry_bind
      exact Refuses.bind (writePage_refuses reaches.valid reaches.covers inRange fits
        (underway.shielded ended) _)
    apply stops refuses
    rw [if_neg (mt aligned.mp full)]

/-- By induction on the pieces left: those before the protection are written. -/
theorem writePieces_protected (pieces : List (List UInt8))
    (short : ∀ piece ∈ pieces, piece.length ≤ base.geometry.bytesPerPage)
    (underway : cursor.Underway base start indexBlock count eligible d room)
    (spent : room < base.geometry.pagesPerBlock) (begun : cursor.done ≤ count)
    (within : count ≤ cursor.done + pieces.length)
    (enough : chunkCount base.geometry.pagesPerBlock (cursor.done + pieces.length)
      ≤ min (Index.capacity base.geometry.bytesPerPage) eligible.length) :
    (writePieces pieces cursor).Effects base d fun result after _ =>
      Halts base start indexBlock count eligible (cursor.done + pieces.length) result after := by
  have dimensions := reaches.valid.dimensions
  induction pieces generalizing cursor d room with
  | nil =>
    have ended : count = cursor.done + ([] : List (List UInt8)).length :=
      Nat.le_antisymm within begun
    apply effects_pure
    rw [Halts, if_pos ended]
    exact ⟨cursor, room, rfl, ended.symm, spent, underway⟩
  | cons piece rest ih =>
    have shortPiece := short piece List.mem_cons_self
    have left : room = 0 → cursor.used.length
        < min (Index.capacity base.geometry.bytesPerPage) eligible.length := by
      rintro rfl
      have placed := underway.taking.placed.count
      apply Nat.lt_of_lt_of_le (lt_chunkCount dimensions.pagesPerBlock ?_) enough
      rw [placed, List.length_cons]
      omega
    have listable : room = 0 → cursor.used.length < Index.capacity base.geometry.bytesPerPage :=
      fun full => Nat.lt_of_lt_of_le (left full) (Nat.min_le_left _ _)
    by_cases ended : cursor.done = count
    · apply (writePieces_stops reaches underway spent ended listable shortPiece rest).mono
      intro result after _ stopped
      rw [Halts, if_neg (by rw [List.length_cons]; omega)]
      exact stopped
    · have more : cursor.done < count := Nat.lt_of_le_of_ne begun ended
      apply Succeeds.bind (advance_goes reaches describes underway spent more listable
        fun full => Nat.lt_of_lt_of_le (left full) (Nat.min_le_right _ _))
      rintro next mid ⟨done, fewer, room, going⟩
      obtain ⟨inRange, blank⟩ := going.taking.poised.next dimensions
      have fits := Image.pageContents_fits shortPiece
      have still : next.done < count := done.symm ▸ more
      apply Effects.geometry_bind
      apply Succeeds.bind (writePage_succeeds reaches inRange fits going.undisturbed
        (going.writable still) blank _)
      intro stats after same
      have continued := going.past dimensions describes still stats
        (Image.pageContents base.geometry piece) after.loaded
      rw [← same] at continued
      have total : (next.past stats).done + rest.length
          = cursor.done + (piece :: rest).length := by
        show next.done + 1 + rest.length = _
        rw [done, List.length_cons]
        omega
      rw [← total] at within enough ⊢
      apply effects_progress_bind
      exact ih (fun other listed => short other (List.mem_cons_of_mem _ listed)) continued room
        still within enough

end Pieces

/-- Once the device is write protected, the block of the index page is not erased. -/
theorem writeRecord_refuses (valid : base.geometry.Valid) (covers : base.geometry.RowsCover)
    {block indexPage : Nat} (onDevice : block < base.geometry.totalBlocks)
    (settles : d.Settles base.config.polling) (shielded : d.flash.config.writeProtected = true)
    (contents : List UInt8) (stats : WriteStats) (used : List Nat) :
    (writeRecord block indexPage contents stats used).Refuses base d (.eraseFailed block) := by
  apply Refuses.bind
  have refused : d.flash.refuses block = true := by
    rw [Flash.refuses, shielded]
    rfl
  apply (eraseRequired_comes valid covers onDevice stats).mono
  rintro result after _ ⟨rfl, same⟩
  rw [Flash.erase_of_refuses refused] at same
  refine ⟨?_, same⟩
  have inTime : d.flash.config.busyPolls < base.config.polling.polls := settles
  rw [eraseOutcome, if_pos inTime, if_pos refused]

/-- Where the protection appears with the last page of an image, its blocks are listed but the list
is not written. -/
theorem listing_refuses (reaches : base.geometry.Reaches) {indexPage : Nat}
    (inRange : indexPage < base.geometry.totalPages)
    (underway : cursor.Underway base start indexBlock count eligible d room)
    (spent : room < base.geometry.pagesPerBlock) (ended : cursor.done = count)
    (positive : 0 < count)
    (listable : chunkCount base.geometry.pagesPerBlock count
      ≤ Index.capacity base.geometry.bytesPerPage)
    {old : List UInt8} (whole : old.length = base.geometry.bytesPerPage) :
    (do
      let record ← require (Index.encode cursor.used.reverse old)
      writeRecord (base.geometry.blockOf indexPage) indexPage record cursor.stats
        cursor.used.reverse : Operation (List Nat)).Refuses base d
      (.eraseFailed (base.geometry.blockOf indexPage)) := by
  have length := underway.length_used spent ended
  have taken := lt_chunkCount reaches.valid.dimensions.pagesPerBlock
    (show 0 * base.geometry.pagesPerBlock < count by omega)
  rw [← whole] at listable
  have entry : Index.entrySize ≤ old.length := by
    simp only [Index.capacity, Index.entrySize] at *
    omega
  rw [← length, ← List.length_reverse] at listable
  apply Effects.require_bind (Index.encode_ok (Index.listing_fits entry listable))
  exact writeRecord_refuses reaches.valid reaches.covers (Geometry.blockOf_lt inRange)
    underway.undisturbed.settles (underway.shielded ended) _ _ _

/-- The error of an image write of `pages` pages to a device that becomes write protected after
`count` programs. -/
def haltError (g : Geometry) (indexPage count pages : Nat) : Error :=
  if count = pages then .eraseFailed (g.blockOf indexPage)
  else if count % g.pagesPerBlock = 0 then .outOfSpace
  else .writeProtected

theorem writeImage_halts (reaches : base.geometry.Reaches) {indexPage : Nat}
    (inRange : indexPage < base.geometry.totalPages) (undisturbed : d.Undisturbed base)
    (writable : d.flash.config.writeProtected = false) (unlogged : d.flash.programmed = [])
    (scheduled : d.flash.protectAfter = some count) (positive : 0 < count) (data : List UInt8)
    (within : count ≤ chunkCount base.geometry.bytesPerPage data.length)
    (enough : chunkCount base.geometry.pagesPerBlock
        (chunkCount base.geometry.bytesPerPage data.length)
      ≤ min (Index.capacity base.geometry.bytesPerPage)
        (base.eligibleFrom d.flash (base.geometry.blockOf indexPage + 1)).length) :
    (writeImage indexPage data).Effects base d fun result after _ =>
      result = .error (haltError base.geometry indexPage count
        (chunkCount base.geometry.bytesPerPage data.length)) ∧
      after.flash.programmed.reverse = (base.geometry.pagesOf
        (base.eligibleFrom d.flash (base.geometry.blockOf indexPage + 1))).take count ∧
      ∃ fresh, Flash.Grows (base.geometry.blockOf indexPage + 1) d.flash after.flash fresh := by
  have dimensions := reaches.valid.dimensions
  apply Effects.of_serving
  intro describes _
  apply Effects.geometry_bind
  apply Effects.require_bind (Geometry.checkPage_eq inRange)
  apply Succeeds.bind (requireWritable_passes writable)
  rintro _ checked rfl
  apply Succeeds.bind (readMainArea_succeeds reaches inRange undisturbed)
  rintro old read ⟨whole, same⟩
  have sameFlash : read.flash = checked.flash := by rw [same]
  rw [← sameFlash] at writable unlogged scheduled enough describes ⊢
  have begun := WriteCursor.underway_start inRange (same ▸ undisturbed.reload read.loaded) writable
    unlogged scheduled positive
  have total := WriteCursor.done_start dimensions (base.geometry.blockOf indexPage + 1) data
  rw [← total] at within enough ⊢
  apply effects_progress_bind
  apply Effects.bind (writePieces_protected reaches describes _ (length_le_of_mem_chunks _ _) begun
    dimensions.pagesPerBlock (Nat.zero_le _) within enough)
  · intro e after _ halts
    obtain ⟨early, raised, log, grows⟩ := halts.of_error
    rw [haltError, if_neg early]
    exact ⟨congrArg _ (Except.error.inj raised), log, grows⟩
  · intro cursor filled _ halts
    obtain ⟨last, ended, room, spent, underway⟩ := halts.of_ok
    have listable := Nat.le_trans enough (Nat.min_le_left _ _)
    rw [← last] at listable
    apply (listing_refuses reaches inRange underway spent ended positive listable whole).mono
    rintro result after _ ⟨raised, sameAfter⟩
    rw [haltError, if_pos last]
    exact ⟨raised, sameAfter ▸ underway.log ended, cursor.used, sameAfter ▸ underway.grows⟩

end OnfiFlash.Operation

namespace OnfiFlash

theorem Serving.protectAfterPrograms {base session : Session} {chip : Chip}
    (serving : Serving base session chip) (programs : Nat) :
    Serving base session (chip.protectAfterPrograms programs) :=
  ⟨serving.same, serving.describes, serving.sound.sized, serving.sound.clear⟩

namespace Session

variable {start chip : Chip} {session : Session}

/-- On a chip whose row cycles cover its pages and that becomes write protected after `count`
programs, an image write of at least as many pages programs exactly the first `count` pages of the
image and leaves the index block alone. Its error tells of the protection only where it appears inside
a block: at the end of a block no further block is found, and after the last page it is the erase of
the index block that fails. -/
theorem writeImage_protected (sound : start.Sound) (fits : start.config.Fits)
    (covers : start.config.geometry.RowsCover) (inUse : session.InUse start chip)
    (settles : chip.config.busyPolls < session.config.polling.polls)
    (loads : ∀ page, page < session.geometry.totalPages → chip.loadFaults page = none)
    (programs : ∀ page, page < session.geometry.totalPages → chip.programFaults page = none)
    (writable : chip.config.writeProtected = false) (unlogged : chip.programLog = [])
    {count : Nat} (positive : 0 < count)
    {indexPage : Nat} (inRange : indexPage < session.geometry.totalPages) (data : List UInt8)
    (within : count ≤ chunkCount session.geometry.bytesPerPage data.length)
    (enough : chunkCount session.geometry.pagesPerBlock
        (chunkCount session.geometry.bytesPerPage data.length)
      ≤ min (Index.capacity session.geometry.bytesPerPage)
        (session.eligibleFrom chip.flash (session.geometry.blockOf indexPage + 1)).length) :
    let written := ((Operation.writeImage indexPage data).runIn session).run
      (chip.protectAfterPrograms count)
    let g := session.geometry
    written.value.1 = .error (Operation.haltError g indexPage count
        (chunkCount g.bytesPerPage data.length)) ∧
      written.link.programLog
        = (g.pagesOf (session.eligibleFrom chip.flash (g.blockOf indexPage + 1))).take count ∧
      ∀ page, g.blockOf page = g.blockOf indexPage → written.link.cells page = chip.cells page := by
  intro written g
  obtain ⟨serving, -⟩ := inUse.serving sound fits
  have covered := (inUse.describes sound fits).rowsCover covers
  have dimensions := session.valid.dimensions
  have addressed : ¬ g.Unaddressed := by
    intro unaddressed
    have single := unaddressed.totalBlocks_le dimensions covered (g.blockOf indexPage)
    have pages : 0 * g.pagesPerBlock < chunkCount g.bytesPerPage data.length := by
      rw [Nat.zero_mul]
      exact Nat.lt_of_lt_of_le positive within
    have none : session.eligibleFrom chip.flash (g.blockOf indexPage + 1) = [] := by
      rw [eligibleFrom, Nat.sub_eq_zero_of_le single]
      rfl
    rw [none, List.length_nil, Nat.min_zero] at enough
    exact Nat.not_lt.mpr enough (lt_chunkCount dimensions.pagesPerBlock pages)
  have reaches : g.Reaches := ⟨session.valid, covered, Nat.pos_of_ne_zero addressed⟩
  have undisturbed : (session.device (chip.protectAfterPrograms count)).Undisturbed session :=
    ⟨settles, loads, programs⟩
  have fresh : chip.programmed = [] := List.reverse_eq_nil_iff.mp unlogged
  obtain ⟨-, raised, log, _, grows⟩ := Operation.writeImage_halts
    (d := session.device (chip.protectAfterPrograms count)) reaches inRange undisturbed writable
    fresh rfl positive data within enough session _ (serving.protectAfterPrograms count) rfl
  refine ⟨raised, log, fun page inBlock => grows.elsewhere page fun among => ?_⟩
  have behind := grows.behind _ among
  have block : page / (session.device (chip.protectAfterPrograms count)).flash.config.pagesPerBlock
      = g.blockOf indexPage := by
    rw [← inBlock, Geometry.blockOf, ← serving.describes.pagesPerBlock]
    rfl
  rw [block] at behind
  exact Nat.not_succ_le_self _ behind

end Session

def cleanOpening : Opening where
  start := .ofConfig { smallChip.config with badBlocks := [] }
  opens := by decide +kernel

namespace Session

/-- The protection appears with the last page of the first block. -/
theorem writeImage_protected_small :
    let written := ((Operation.writeImage 0 (List.replicate 30 7)).runIn cleanOpening.session).run
      (cleanOpening.chip.protectAfterPrograms 2)
    written.value.1 = .error .outOfSpace ∧ written.link.programLog = [2, 3] := by
  intro written
  have fits : cleanOpening.start.config.Fits := .of_valid (by decide) (by decide)
  have covers : cleanOpening.start.config.geometry.RowsCover := by decide
  have positive : 0 < 2 := by decide
  have inRange : 0 < cleanOpening.session.geometry.totalPages := by decide +kernel
  have halted := writeImage_protected (Chip.sound_ofConfig _) fits covers cleanOpening.inUse
    (by decide +kernel) (by decide +kernel) (by decide +kernel) (by decide +kernel)
    (by decide +kernel) positive inRange (List.replicate 30 7) (by decide +kernel)
    (by decide +kernel)
  refine ⟨halted.1.trans ?_, halted.2.1.trans ?_⟩
  · decide +kernel
  · decide +kernel

/-- Where the protection appears at the end of a block or with the last page, the error is not that of
a write-protected device. -/
theorem writeImage_protected_unreported :
    let result := fun programs => (((Operation.writeImage 0 (List.replicate 30 7)).runIn
      cleanOpening.session).run (cleanOpening.chip.protectAfterPrograms programs)).value.1
    result 1 = .error .writeProtected ∧ result 2 = .error .outOfSpace ∧
      result 3 = .error (.eraseFailed 0) := by
  decide +kernel

end Session
end OnfiFlash
