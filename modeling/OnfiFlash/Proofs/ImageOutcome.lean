import OnfiFlash.Proofs.BlockTaking
import OnfiFlash.Proofs.ImageStorage
import OnfiFlash.Proofs.InUse

/-! What writing an image comes to on a faultless device: it takes the usable blocks behind the
index block in order, as many as the image needs, and fails exactly if there are too few of them, if
the index page cannot list as many, or if the index block cannot be erased. -/
namespace OnfiFlash

/-- The result of writing `length` bytes to a faultless device. -/
def Image.outcome (g : Geometry) (flash : Flash) (indexPage length : Nat) :
    Except Error (List Nat) :=
  let usable := flash.usableFrom g (g.blockOf indexPage + 1)
  let capacity := Index.capacity g.bytesPerPage
  let needed := chunkCount g.pagesPerBlock (chunkCount g.bytesPerPage length)
  if min capacity usable.length < needed then
    .error (if capacity ≤ usable.length then .indexOverflow else .outOfSpace)
  else if flash.config.failsErase (g.blockOf indexPage) then
    .error (.eraseFailed (g.blockOf indexPage))
  else
    .ok (usable.take needed)

namespace Operation

variable {base : Session} {d : Device} {indexBlock room : Nat} {usable : List Nat}

namespace WriteCursor

/-- Where a cursor stands on a faultless device among the usable blocks. -/
structure Allotted (base : Session) (layout : Chip.Config) (indexBlock : Nat) (usable : List Nat)
    (cursor : WriteCursor) (d : Device) (room : Nat) : Prop where
  faultless : d.Faultless base
  layout : layout.SameLayout d.flash.config
  taking : cursor.Taking base indexBlock usable d room
  listable : cursor.used.length ≤ Index.capacity base.geometry.bytesPerPage

variable {layout : Chip.Config} {cursor : WriteCursor}

/-- Going on to the next usable block. -/
theorem Allotted.onto {found : Nat} {rest : List Nat} (dimensions : base.geometry.Dimensions)
    (describes : base.geometry.Describes d.flash.config)
    (allotted : cursor.Allotted base layout indexBlock usable d 0)
    (listable : cursor.used.length < Index.capacity base.geometry.bytesPerPage)
    (next : base.eligibleFrom d.flash cursor.nextBlock = found :: rest) (stats : WriteStats)
    (loaded : Option (List UInt8 × Nat)) :
    (cursor.onto base.geometry found stats).Allotted base layout indexBlock usable
      { d with flash := d.flash.erase found, loaded } base.geometry.pagesPerBlock := by
  obtain ⟨-, onDevice, good, -⟩ := Session.of_eligibleFrom next
  have accepted := Session.accepts_of_eligible describes allotted.faultless.writable onDevice good
  exact ⟨allotted.faultless.erase found loaded,
    allotted.layout.trans (Flash.sameLayout_erase _ _),
    allotted.taking.onto dimensions describes next accepted stats loaded, listable⟩

/-- Going on to the next page, once this one is programmed. -/
theorem Allotted.past (dimensions : base.geometry.Dimensions)
    (allotted : cursor.Allotted base layout indexBlock usable d (room + 1)) (stats : WriteStats)
    (data : List UInt8) (loaded : Option (List UInt8 × Nat)) :
    (cursor.past stats).Allotted base layout indexBlock usable
      { d with flash := d.flash.program ⟨0, cursor.page, data⟩, loaded } room :=
  ⟨allotted.faultless.program _ loaded, allotted.layout.trans (Flash.sameLayout_program _ _),
    allotted.taking.past dimensions stats data loaded, allotted.listable⟩

end WriteCursor

section Pieces

variable {layout : Chip.Config} {cursor : WriteCursor}

/-- Why no further block can be taken, once all that can be are. -/
def shortage (base : Session) (usable : List Nat) : Error :=
  if Index.capacity base.geometry.bytesPerPage ≤ usable.length then .indexOverflow else .outOfSpace

theorem advance_allots (reaches : base.geometry.Reaches)
    (describes : base.geometry.Describes layout)
    (allotted : cursor.Allotted base layout indexBlock usable d room)
    (spent : room < base.geometry.pagesPerBlock) :
    cursor.advance.Effects base d fun result after _ => match result with
      | .ok next => next.done = cursor.done ∧ ∃ left, left < base.geometry.pagesPerBlock ∧
        next.Allotted base layout indexBlock usable after (left + 1)
      | .error e => room = 0 ∧ e = shortage base usable ∧
        min (Index.capacity base.geometry.bytesPerPage) usable.length = cursor.used.length := by
  have dimensions := reaches.valid.dimensions
  have placed := allotted.taking.placed
  have fewer := allotted.taking.length_le
  have listable := allotted.listable
  refine .geometry_bind ?_
  split
  · next due =>
    obtain rfl := (placed.due_iff dimensions spent).mp due
    dsimp only
    split
    · next full =>
      refine effects_note_bind (effects_throw_bind ⟨rfl, ?_, by omega⟩)
      rw [shortage, if_pos (Nat.le_trans full fewer)]
    · next more =>
      have search := nextGoodBlock_finds reaches cursor.stats placed.next.2
        allotted.faultless.undisturbed
      rw [Session.filter_admits (describes.of_sameLayout allotted.layout)
        allotted.faultless.writable] at search
      cases listed : base.eligibleFrom d.flash cursor.nextBlock with
      | nil =>
        have none : usable.length ≤ cursor.used.length :=
          List.drop_eq_nil_iff.mp (allotted.taking.others.symm.trans listed)
        rw [listed] at search
        refine .bind search ?_ ?_
        · rintro e after said ⟨⟨⟩, -⟩
          refine ⟨rfl, ?_, by omega⟩
          rw [shortage, if_neg (by omega)]
        · rintro value after said ⟨⟨⟩, -⟩
      | cons block rest =>
        rw [listed] at search
        obtain ⟨left, ppb⟩ : ∃ left, base.geometry.pagesPerBlock = left + 1 :=
          Nat.exists_eq_succ_of_ne_zero (Nat.ne_of_gt dimensions.pagesPerBlock)
        refine .bind search ?_ ?_
        · rintro e after said ⟨_, raised, -⟩
          cases raised
        · rintro _ after said ⟨stats, ⟨⟩, same⟩
          have continued := allotted.onto dimensions (describes.of_sameLayout allotted.layout)
            (Nat.lt_of_not_le more) listed stats after.loaded
          rw [← same, ppb] at continued
          exact effects_pure ⟨rfl, left, by omega, continued⟩
  · next notDue =>
    cases room with
    | zero => exact absurd ((placed.due_iff dimensions spent).mpr rfl) notDue
    | succ left => exact effects_pure ⟨rfl, left, by omega, allotted⟩

/-- What writing the pieces of an image of `pages` pages comes to. -/
def Allots (base : Session) (layout : Chip.Config) (indexBlock : Nat) (usable : List Nat)
    (pages : Nat) (after : Device) (result : Except Error WriteCursor) : Prop :=
  let needed := chunkCount base.geometry.pagesPerBlock pages
  if min (Index.capacity base.geometry.bytesPerPage) usable.length < needed then
    result = .error (shortage base usable)
  else
    ∃ last room, result = .ok last ∧ last.used.length = needed ∧
      last.Allotted base layout indexBlock usable after room

theorem writePieces_allots (reaches : base.geometry.Reaches)
    (describes : base.geometry.Describes layout) (pieces : List (List UInt8))
    (short : ∀ piece ∈ pieces, piece.length ≤ base.geometry.bytesPerPage)
    (allotted : cursor.Allotted base layout indexBlock usable d room)
    (spent : room < base.geometry.pagesPerBlock) :
    (writePieces pieces cursor).Effects base d fun result after _ =>
      Allots base layout indexBlock usable (cursor.done + pieces.length) after result := by
  have dimensions := reaches.valid.dimensions
  induction pieces generalizing cursor d room with
  | nil =>
    have needed := chunkCount_eq allotted.taking.placed.count spent
    have fewer := allotted.taking.length_le
    have listable := allotted.listable
    refine effects_pure ?_
    rw [Allots, List.length_nil, Nat.add_zero, needed, if_neg (by omega)]
    exact ⟨cursor, room, rfl, rfl, allotted⟩
  | cons piece rest ih =>
    refine .bind (advance_allots reaches describes allotted spent) ?_ ?_
    · rintro e after said ⟨rfl, rfl, all⟩
      have more : cursor.used.length < chunkCount base.geometry.pagesPerBlock
          (cursor.done + (rest.length + 1)) :=
        lt_chunkCount dimensions.pagesPerBlock (by rw [allotted.taking.placed.count]; omega)
      rw [Allots, List.length_cons, all, if_pos more]
    · rintro next mid said ⟨done, left, room, begun⟩
      obtain ⟨inRange, blank⟩ := begun.taking.poised.next dimensions
      have fits := Image.pageContents_fits (short piece List.mem_cons_self)
      refine .geometry_bind (Succeeds.bind (writePage_succeeds reaches inRange fits
        begun.faultless.undisturbed begun.faultless.writable blank _) ?_)
      intro stats after same
      have continued := begun.past dimensions stats (Image.pageContents base.geometry piece)
        after.loaded
      rw [← same] at continued
      have total : (next.past stats).done + rest.length
          = cursor.done + (piece :: rest).length := by
        show next.done + 1 + rest.length = _
        rw [done, List.length_cons]
        omega
      rw [← total]
      exact effects_progress_bind (ih (fun other listed =>
        short other (List.mem_cons_of_mem _ listed)) continued room)

end Pieces

/-- Erasing a block fails only for a defect of the block. -/
theorem eraseRequired_outcome (reaches : base.geometry.Reaches) {block : Nat}
    (onDevice : block < base.geometry.totalBlocks) (faultless : d.Faultless base)
    (stats : WriteStats) :
    (eraseRequired block stats).Effects base d fun result after _ =>
      if d.flash.config.failsErase block then result = .error (.eraseFailed block)
      else after = { d with flash := d.flash.erase block, loaded := after.loaded } ∧
        d.flash.refuses block = false ∧ ∃ stats, result = .ok stats := by
  refine .of_serving fun describes _ => effects_progress_bind (effects_bind ?_)
  have known : d.flash.refuses block = d.flash.config.failsErase block :=
    Flash.refuses_eq faultless.writable (by rwa [describes.totalBlocks])
  refine .eraseBlock reaches.valid reaches.covers onDevice
    (fun late => absurd faultless.settles late) fun _ status reports => ?_
  dsimp only
  rw [reports, known]
  cases d.flash.config.failsErase block with
  | true => exact effects_throw_bind rfl
  | false => exact effects_pure ⟨rfl, rfl, _, rfl⟩

theorem writeRecord_outcome (reaches : base.geometry.Reaches) {indexPage : Nat}
    (inRange : indexPage < base.geometry.totalPages) (faultless : d.Faultless base)
    {contents : List UInt8} (whole : contents.length = base.geometry.bytesPerPage)
    (stats : WriteStats) (used : List Nat) :
    (writeRecord (base.geometry.blockOf indexPage) indexPage contents stats used).Effects base d
      fun result _ _ => result = if d.flash.config.failsErase (base.geometry.blockOf indexPage)
        then .error (.eraseFailed (base.geometry.blockOf indexPage))
        else .ok used := by
  have fits : contents.length ≤ base.geometry.rawPageSize := by
    rw [whole]
    exact Nat.le_add_right _ _
  refine .of_serving fun describes _ => ?_
  refine .bind (eraseRequired_outcome reaches (Geometry.blockOf_lt inRange) faultless stats) ?_ ?_
  · intro e erased _ outcome
    split at outcome
    · next fails => rw [if_pos fails, Except.error.inj outcome]
    · obtain ⟨-, -, _, raised⟩ := outcome
      cases raised
  intro stats erased _ outcome
  split at outcome
  · cases outcome
  · next erasable =>
    obtain ⟨same, accepted, -⟩ := outcome
    have blank : erased.flash.cells indexPage
        = List.replicate base.geometry.rawPageSize erasedByte := by
      rw [same, Flash.cells_erase accepted (congrArg _ describes.pagesPerBlock),
        describes.erasedPage]
    have stays : erased.Faultless base := by
      rw [same]
      exact faultless.erase _ _
    refine Succeeds.bind (writePage_succeeds reaches inRange fits stays.undisturbed stays.writable
      blank _) fun _ _ _ => ?_
    rw [if_neg erasable]
    exact effects_progress_bind (effects_pure rfl)

/-- On a faultless device the outcome of a write is known in advance. -/
theorem writeImage_outcome (reaches : base.geometry.Reaches) (uncached : base.badBlocks = none)
    (entries : Index.entrySize ≤ base.geometry.bytesPerPage) {indexPage : Nat}
    (inRange : indexPage < base.geometry.totalPages) (faultless : d.Faultless base)
    (data : List UInt8) :
    (writeImage indexPage data).Effects base d fun result _ _ =>
      result = Image.outcome base.geometry d.flash indexPage data.length := by
  have dimensions := reaches.valid.dimensions
  refine .of_serving fun describes _ => .geometry_bind ?_
  refine .require_bind (Geometry.checkPage_eq inRange) ?_
  refine Succeeds.bind (requireWritable_passes faultless.writable) ?_
  rintro _ checked rfl
  refine Succeeds.bind (readMainArea_succeeds reaches inRange faultless.undisturbed) ?_
  rintro old read ⟨whole, same⟩
  have allotted : ({ nextBlock := base.geometry.blockOf indexPage + 1 } : WriteCursor).Allotted base
      checked.flash.config (base.geometry.blockOf indexPage)
      (checked.flash.usableFrom base.geometry (base.geometry.blockOf indexPage + 1)) read 0 := by
    have start := WriteCursor.taking_start inRange read
    rw [Session.eligibleFrom_of_uncached uncached] at start
    rw [same] at start ⊢
    exact ⟨faultless.reload _, .refl _, start, Nat.zero_le _⟩
  have total := WriteCursor.done_start dimensions (base.geometry.blockOf indexPage + 1) data
  refine effects_progress_bind (.bind (writePieces_allots reaches describes _
    (length_le_of_mem_chunks _ _) allotted dimensions.pagesPerBlock) ?_ ?_)
  · rintro e after _ allots
    rw [Allots, total] at allots
    split at allots
    · next few =>
      rw [Except.error.inj allots]
      exact (if_pos few).symm
    · obtain ⟨_, _, raised, -⟩ := allots
      cases raised
  rintro cursor filled _ allots
  rw [Allots, total] at allots
  split at allots
  · cases allots
  · next enough =>
    obtain ⟨_, room, ⟨⟩, length, reached⟩ := allots
    have listable : cursor.used.reverse.length ≤ Index.capacity old.length := by
      rw [List.length_reverse, whole]
      exact reached.listable
    have encoded := Index.encode_ok (Index.listing_fits (whole ▸ entries) listable)
    have defects : filled.flash.config.failsErase (base.geometry.blockOf indexPage)
        = checked.flash.config.failsErase (base.geometry.blockOf indexPage) := by
      rw [reached.layout]
      rfl
    refine .require_bind encoded ((writeRecord_outcome reaches inRange reached.faultless
      ((Index.length_encode encoded).trans whole) _ _).mono ?_)
    rintro result after _ rfl
    rw [defects, reached.taking.taken, length]
    exact (if_neg enough).symm

end Operation

namespace Session

variable {start chip : Chip} {session : Session}

/-- On a chip without faults whose row cycles cover its pages, writing an image in a session without
a bad-block table comes to its outcome. -/
theorem writeImage_result (sound : start.Sound) (fits : start.config.Fits)
    (covers : start.config.geometry.RowsCover)
    (addressed : 0 < start.config.columnCycles + start.config.rowCycles)
    (inUse : session.InUse start chip) (uncached : session.badBlocks = none)
    (settles : chip.config.busyPolls < session.config.polling.polls)
    (loads : ∀ page, page < session.geometry.totalPages → chip.loadFaults page = none)
    (programs : ∀ page, page < session.geometry.totalPages → chip.programFaults page = none)
    (writable : chip.config.writeProtected = false) (unscheduled : chip.protectAfter = none)
    (entries : Index.entrySize ≤ session.geometry.bytesPerPage)
    {indexPage : Nat} (inRange : indexPage < session.geometry.totalPages) (data : List UInt8) :
    (((Operation.writeImage indexPage data).runIn session).run chip).value.1
      = Image.outcome session.geometry chip.flash indexPage data.length := by
  obtain ⟨serving, -⟩ := inUse.serving sound fits
  have describes := inUse.describes sound fits
  have reaches : session.geometry.Reaches :=
    ⟨session.valid, describes.rowsCover covers, describes.addressed addressed⟩
  have faultless : (session.device chip).Faultless session :=
    ⟨settles, loads, programs, writable, unscheduled⟩
  exact (Operation.writeImage_outcome reaches uncached entries inRange faultless data
    session chip serving rfl).2

/-- The small chip has room for three pages, but not for five. -/
theorem writeImage_result_small :
    let chip := afterOpening {} smallChip
    (((Operation.writeImage 1 (List.replicate 30 7)).runIn smallSession).run chip).value.1
        = .ok [2, 3] ∧
      (((Operation.writeImage 1 (List.replicate 60 7)).runIn smallSession).run chip).value.1
        = .error .indexOverflow := by
  intro chip
  have fits : smallChip.config.Fits := .of_valid (by decide) (by decide)
  have covers : smallChip.config.geometry.RowsCover := by decide
  have uncached : smallSession.badBlocks = none := by decide +kernel
  have settles : chip.config.busyPolls < smallSession.config.polling.polls := by decide +kernel
  have loads : ∀ page, page < smallSession.geometry.totalPages → chip.loadFaults page = none := by
    decide +kernel
  have programs : ∀ page, page < smallSession.geometry.totalPages →
      chip.programFaults page = none := by decide +kernel
  have writable : chip.config.writeProtected = false := by decide +kernel
  have unscheduled : chip.protectAfter = none := by decide +kernel
  have entries : Index.entrySize ≤ smallSession.geometry.bytesPerPage := by decide +kernel
  have inRange : 1 < smallSession.geometry.totalPages := by decide +kernel
  have result := writeImage_result (Chip.sound_ofConfig _) fits covers (by decide)
    smallSession_inUse uncached settles loads programs writable unscheduled entries inRange
  have three : Image.outcome smallSession.geometry chip.flash 1 30 = .ok [2, 3] := by decide +kernel
  have five : Image.outcome smallSession.geometry chip.flash 1 60 = .error .indexOverflow := by
    decide +kernel
  exact ⟨(result _).trans three, (result _).trans five⟩

theorem scheduled_opens : Opens {} (smallChip.protectAfterPrograms 1) := by decide +kernel

/-- The outcome is another one where responses wait or write protection is due: a stale identifier
passes for a status, or the pin is asserted before the index block is erased. -/
theorem writeImage_result_varies :
    (let session := ofOpening unread_opens
      let chip := afterOpening bareOpening smallChip.unread
      (((Operation.writeImage 0 [1]).runIn session).run chip).value.1 = .error .writeProtected ∧
        Image.outcome session.geometry chip.flash 0 1 = .ok [2]) ∧
    (let session := ofOpening scheduled_opens
      let chip := afterOpening {} (smallChip.protectAfterPrograms 1)
      (((Operation.writeImage 0 [1]).runIn session).run chip).value.1 = .error (.eraseFailed 0) ∧
        Image.outcome session.geometry chip.flash 0 1 = .ok [2]) := by
  refine ⟨⟨?_, ?_⟩, ?_, ?_⟩ <;> decide +kernel

end Session
end OnfiFlash
