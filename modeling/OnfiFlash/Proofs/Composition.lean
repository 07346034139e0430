import OnfiFlash.Image.Read
import OnfiFlash.Image.Write
import OnfiFlash.Proofs.DialogueRun
import OnfiFlash.Proofs.FrameKinds
import OnfiFlash.Proofs.ImagePage

/-! How operations are put together. What holds of the elementary steps of a session and is kept
when steps are put together holds of everything a session does, whatever the property; and what the
reading steps have is had by everything that only reads. The steps are asked for no more than they
do: no failure is caught but those that may pass, and only a caller who names a size himself can
ask for more bytes than a frame can request. -/
namespace OnfiFlash

/-- The rest of a page is never too long for a frame. -/
theorem Session.fits_readData (session : Session) {start : Nat} {size? : Option Nat}
    (fits : ∀ size, size? = some size → size ≤ Operation.maxReadLength) :
    size?.getD (session.geometry.rawPageSize - start) ≤ Operation.maxReadLength := by
  cases size? with
  | some size => exact fits size rfl
  | none => exact Nat.le_trans (Nat.sub_le _ _) session.valid.dimensions.rawPageSize

namespace Operation

/-- The part of a verified program that checks the page. -/
def verifyPage (page : Nat) (data : List UInt8) : Operation Status := do
  let status ← loadPage page
  if status.isRefreshAdvised then
    throw (.refreshAdvised page)
  let found ← readData 0 (some data.length)
  match firstDifference found data with
  | some offset => throw (.verifyMismatch page offset)
  | none => return status

theorem programVerified_eq (page : Nat) (data : List UInt8) :
    programVerified page data = programPage page data >>= fun _ => verifyPage page data := rfl

/-- Data that no frame can request does not fit any page. -/
theorem programPage_tooLarge (page : Nat) {data : List UInt8}
    (tooLong : maxReadLength < data.length) :
    programPage page data = geometry >>= fun g => require (g.checkPage page) >>= fun _ =>
      throw .imageTooLarge := by
  funext session
  have read : ∀ next : Geometry → Operation Status,
      (geometry >>= next) session = next session.geometry session := fun _ => rfl
  have refused : session.geometry.rawPageSize < data.length :=
    Nat.lt_of_le_of_lt session.valid.dimensions.rawPageSize tooLong
  rw [programPage, read, read]
  simp only [if_pos refused]
  rfl

theorem programVerified_tooLarge (page : Nat) {data : List UInt8}
    (tooLong : maxReadLength < data.length) :
    programVerified page data = programPage page data := by
  rw [programVerified_eq, programPage_tooLarge page tooLong]
  simp only [bind_assoc]
  rfl

/-- A property that is kept when operations are put together. -/
structure Closed (property : (α : Type) → Operation α → Prop) : Prop where
  pure : ∀ {α : Type} (value : α), property α (Pure.pure value)
  throw : ∀ {α : Type} (e : Error), e ≠ .frameTooLarge → property α (MonadExcept.throw e)
  bind : ∀ {α β : Type} {first : Operation α} {next : α → Operation β},
    property α first → (∀ value, property β (next value)) → property β (first >>= next)
  tryCatch : ∀ {α : Type} {operation : Operation α} {handler : Error → Operation α},
    property α operation → (∀ e, e.isRetryable = true → property α (handler e)) →
      (∀ e, e.isRetryable = false → handler e = MonadExcept.throw e) →
      property α (MonadExcept.tryCatch operation handler)
  get : property Session MonadState.get
  note : ∀ notice, property Unit (note notice)

/-- A property that allows every error and every way to handle it. -/
theorem Closed.of_catching {property : (α : Type) → Operation α → Prop}
    (pure : ∀ {α : Type} (value : α), property α (Pure.pure value))
    (throw : ∀ {α : Type} (e : Error), property α (MonadExcept.throw e))
    (bind : ∀ {α β : Type} {first : Operation α} {next : α → Operation β},
      property α first → (∀ value, property β (next value)) → property β (first >>= next))
    (tryCatch : ∀ {α : Type} {operation : Operation α} {handler : Error → Operation α},
      property α operation → (∀ e, property α (handler e)) →
        property α (MonadExcept.tryCatch operation handler))
    (get : property Session MonadState.get)
    (note : ∀ notice, property Unit (Operation.note notice)) :
    Closed property where
  pure := pure
  throw e _ := throw e
  bind := bind
  tryCatch := by
    intro α operation handler begun caught others
    refine tryCatch begun fun e => ?_
    cases passing : e.isRetryable with
    | true => exact caught e passing
    | false =>
      rw [others e passing]
      exact throw e
  get := get
  note := note

namespace Closed

variable {property : (α : Type) → Operation α → Prop} (law : Closed property)
include law

theorem throw_bind {α β : Type} (e : Error) (other : e ≠ .frameTooLarge)
    (next : α → Operation β) : property β (MonadExcept.throw e >>= next) := law.throw e other

theorem map {α β : Type} {operation : Operation α} {change : α → β}
    (holds : property α operation) : property β (change <$> operation) :=
  law.bind holds fun value => law.pure (change value)

/-- What follows depends on the geometry of the session, which has no flaw. -/
theorem geometry_bind {α : Type} {next : Geometry → Operation α}
    (continued : ∀ g : Geometry, g.Valid → property α (next g)) :
    property α (geometry >>= next) := by
  show property α (MonadState.get >>= fun session => next session.geometry)
  exact law.bind law.get fun session => continued session.geometry session.valid

theorem require {α : Type} (checked : Except Error α) (other : checked ≠ .error .frameTooLarge) :
    property α (require checked) := by
  cases checked with
  | ok value => exact law.pure value
  | error e => exact law.throw e fun same => other (same ▸ rfl)

theorem checkPage (g : Geometry) (page : Nat) :
    property Unit (Operation.require (g.checkPage page)) :=
  law.require _ (by unfold Geometry.checkPage; split <;> simp)

theorem checkBlock (g : Geometry) (block : Nat) :
    property Unit (Operation.require (g.checkBlock block)) :=
  law.require _ (by unfold Geometry.checkBlock; split <;> simp)

theorem loadPage
    (plain : ∀ frame : Frame, frame.Plain →
      frame.opcode ∈ [Opcode.readMode, Opcode.readStart] →
      property (List UInt8) (execute frame))
    (enters : ∀ state, property Unit (enter state)) (waits : property Status waitReady)
    (page : Nat) : property Status (loadPage page) := by
  refine law.geometry_bind fun g _ => law.bind (law.checkPage g page) fun _ => ?_
  refine law.bind (plain _ (.silent Opcode.readMode rfl (by decide) rfl) (.head _)) fun _ => ?_
  refine law.bind (enters _) fun _ => ?_
  refine law.bind (plain _ (.silent Opcode.readStart rfl (by decide) rfl) (by decide)) fun _ => ?_
  refine law.bind (enters _) fun _ => law.bind waits fun status => ?_
  dsimp only
  split
  · exact law.throw_bind _ (by nofun) _
  · exact law.bind (enters _) fun _ => law.pure _

theorem readData
    (reads : ∀ frame : Frame, frame.ReadsRegister → property (List UInt8) (execute frame))
    (plain : ∀ frame : Frame, frame.Plain →
      frame.opcode ∈ [Opcode.changeReadColumn] →
      property (List UInt8) (execute frame))
    (start : Nat) (size? : Option Nat)
    (tooLarge : ∀ size, size? = some size → maxReadLength < size →
      property (List UInt8) (MonadExcept.throw .frameTooLarge)) :
    property (List UInt8) (readData start size?) := by
  refine law.bind law.get fun session => ?_
  dsimp only
  split
  · exact law.throw_bind _ (by nofun) _
  · split
    · exact law.throw_bind _ (by nofun) _
    · split
      · next exceeds =>
        cases size? with
        | some size => exact tooLarge size rfl exceeds
        | none => exact absurd exceeds (Nat.not_lt.mpr (session.fits_readData nofun))
      · split
        · exact reads _ (.inl ⟨rfl, rfl⟩)
        · refine law.bind (reads _ (.inl ⟨rfl, rfl⟩)) fun _ => ?_
          have selects : (Frame.withAddress Opcode.changeReadColumn (littleEndian 2 start)).Plain :=
            .silent Opcode.changeReadColumn rfl (by decide) rfl
          exact law.bind (plain _ selects (.head _)) fun _ => reads _ (.inr rfl)

theorem eraseBlock
    (plain : ∀ frame : Frame, frame.Plain →
      frame.opcode ∈ [Opcode.eraseSetup, Opcode.eraseConfirm] →
      property (List UInt8) (execute frame))
    (enters : ∀ state, state ≠ .reading → property Unit (enter state))
    (waits : property Status waitReady) (block : Nat) : property Status (eraseBlock block) := by
  refine law.geometry_bind fun g _ => law.bind (law.checkBlock g block) fun _ => ?_
  refine law.bind (enters _ (by decide)) fun _ => ?_
  refine law.bind (plain _ (.silent Opcode.eraseSetup rfl (by decide) rfl) (.head _)) fun _ => ?_
  refine law.bind (plain _ (.silent Opcode.eraseConfirm rfl (by decide) rfl) (by decide))
    fun _ => ?_
  refine law.bind waits fun status => law.bind (enters _ (by decide)) fun _ => ?_
  dsimp only
  split
  · exact law.bind (law.note _) fun _ => law.pure _
  · exact law.pure _

theorem programPage
    (plain : ∀ frame : Frame, frame.Plain →
      frame.opcode ∈ [Opcode.programSetup, Opcode.programConfirm] →
      property (List UInt8) (execute frame))
    (enters : ∀ state, state ≠ .reading → property Unit (enter state))
    (reads : property Status readStatus) (waits : property Status waitReady)
    (page : Nat) (data : List UInt8) : property Status (programPage page data) := by
  refine law.geometry_bind fun g _ => law.bind (law.checkPage g page) fun _ => ?_
  dsimp only
  split
  · exact law.throw_bind _ (by nofun) _
  · refine law.bind reads fun status => ?_
    split
    · exact law.throw_bind _ (by nofun) _
    · refine law.bind (enters _ (by decide)) fun _ => ?_
      refine law.bind (plain _ (.silent Opcode.programSetup rfl (by decide) rfl) (.head _))
        fun _ => ?_
      refine law.bind (plain _ (.silent Opcode.programConfirm rfl (by decide) rfl) (by decide))
        fun _ => ?_
      exact law.bind waits fun _ => law.bind (enters _ (by decide)) fun _ => law.pure _

end Closed

/-- A property that is kept when operations are put together and that the steps have by which a
session reads. -/
structure Reading (property : (α : Type) → Operation α → Prop) : Prop
    extends Closed property where
  readStatus : property Status readStatus
  loadPage : ∀ page, property Status (loadPage page)
  readData : ∀ start size?, (∀ size, size? = some size → size ≤ maxReadLength) →
    property (List UInt8) (readData start size?)

namespace Reading

variable {property : (α : Type) → Operation α → Prop} (law : Reading property)
include law

/-- Reading bytes of a page, as many as it has at most. -/
theorem readColumns {g : Geometry} (valid : g.Valid) (start : Nat) {size : Nat}
    (fits : size ≤ g.rawPageSize) : property (List UInt8) (Operation.readData start (some size)) :=
  law.readData start _ fun _ same =>
    Option.some.inj same ▸ Nat.le_trans fits valid.dimensions.rawPageSize

theorem readPage (page : Nat) : property (List UInt8) (readPage page) :=
  law.bind (law.loadPage page) fun _ => law.readData _ _ nofun

theorem verifyPage (page : Nat) {data : List UInt8} (fits : data.length ≤ maxReadLength) :
    property Status (verifyPage page data) := by
  refine law.bind (law.loadPage _) fun status => ?_
  dsimp only
  split
  · exact law.throw_bind _ (by nofun) _
  · refine law.bind (law.readData _ _ fun _ same => Option.some.inj same ▸ fits) fun found => ?_
    split
    · exact law.throw _ (by nofun)
    · exact law.pure _

/-- Loading a page, whatever is done if the device refuses to. -/
theorem tryLoad (page : Nat) (refused : Nat → Operation (Option Status))
    (passes : ∀ page, property (Option Status) (refused page)) :
    property (Option Status) (MonadExcept.tryCatch (some <$> Operation.loadPage page)
      fun e => match e with
        | .read page => refused page
        | e => MonadExcept.throw e) := by
  refine law.tryCatch (law.map (law.loadPage page)) (fun e passing => ?_) fun e final => ?_
  · cases e with
    | read page => exact passes page
    | refreshAdvised | verifyMismatch => exact law.throw _ (by nofun)
    | _ => cases passing
  · cases e with
    | read => cases final
    | _ => rfl

theorem readMarker (page : Nat) : property (Option UInt8) (readMarker page) := by
  refine law.bind (law.tryLoad page _ fun _ => law.bind (law.note _) fun _ => law.pure _)
    fun loaded => ?_
  cases loaded with
  | none => exact law.pure _
  | some _ =>
    refine law.geometry_bind fun g _ => ?_
    exact law.bind (law.readData _ _ fun _ same => Option.some.inj same ▸ by decide)
      fun _ => law.pure _

theorem isBadBlock (block : Nat) : property Bool (isBadBlock block) := by
  refine law.geometry_bind fun g _ => law.bind (law.checkBlock g block) fun _ => ?_
  refine law.bind (law.readMarker _) fun first => ?_
  split
  · exact law.pure _
  · exact law.bind (law.readMarker _) fun last => law.pure _

theorem scanFrom (count block : Nat) (bad : List Nat) :
    property (List Nat) (scanFrom count block bad) := by
  induction count generalizing block bad with
  | zero => exact law.pure _
  | succ count ih =>
    refine law.bind (law.isBadBlock block) fun found => ?_
    split
    · exact law.bind (law.note _) fun _ => ih _ _
    · exact ih _ _

theorem scanDevice : property BadBlockTable scanDevice :=
  law.geometry_bind fun _ _ => law.bind (law.scanFrom _ _ _) fun _ => law.pure _

theorem isKnownBad (block : Nat) : property Bool (isKnownBad block) := by
  refine law.bind law.get fun session => ?_
  split
  · exact law.pure _
  · exact law.isBadBlock block

theorem requireWritable : property Unit requireWritable := by
  refine law.bind law.readStatus fun status => ?_
  split
  · exact law.bind (law.note _) fun _ => law.throw _ (by nofun)
  · exact law.pure _

theorem readMainArea (page : Nat) : property (List UInt8) (readMainArea page) := by
  refine law.geometry_bind fun g valid => ?_
  refine law.bind (law.tryLoad page _ fun _ => law.bind (law.note _) fun _ => law.pure _)
    fun loaded => ?_
  cases loaded with
  | none => exact law.pure _
  | some _ => exact law.readColumns valid 0 (Nat.le_add_right _ _)

end Reading

/-- A property that is kept when operations are put together and that the steps have by which a
session reads and programs. -/
structure Programming (property : (α : Type) → Operation α → Prop) : Prop
    extends Reading property where
  programPage : ∀ page data, property Status (programPage page data)

namespace Programming

variable {property : (α : Type) → Operation α → Prop} (law : Programming property)
include law

theorem programVerified (page : Nat) (data : List UInt8) :
    property Status (programVerified page data) := by
  by_cases fits : data.length ≤ maxReadLength
  · exact law.bind (law.programPage _ _) fun _ => law.verifyPage _ fits
  · rw [programVerified_tooLarge page (Nat.lt_of_not_le fits)]
    exact law.programPage _ _

theorem tryPage (page : Nat) (data : List UInt8) : property (Option Error) (tryPage page data) := by
  refine law.tryCatch (law.map (law.programVerified page data)) (fun e passing => ?_)
    fun e final => ?_
  · rw [if_pos passing]
    exact law.pure _
  · rw [final]
    rfl

variable (reports : ∀ step, property Unit (progress step))
include reports

theorem writeAttempt (page : Nat) (data : List UInt8) (maxAttempts left attempt : Nat)
    (stats : WriteStats) :
    property WriteStats (writeAttempt page data maxAttempts left attempt stats) := by
  induction left generalizing attempt stats with
  | zero =>
    refine law.bind (law.tryPage page data) fun failed => ?_
    cases failed with
    | none => exact law.pure _
    | some e => exact law.bind (law.note _) fun _ => law.throw _ (by nofun)
  | succ left ih =>
    refine law.bind (law.tryPage page data) fun failed => ?_
    cases failed with
    | none => exact law.pure _
    | some e => exact law.bind (law.note _) fun _ => law.bind (reports _) fun _ => ih _ _

theorem writePage (page : Nat) (data : List UInt8) (stats : WriteStats) :
    property WriteStats (writePage page data stats) :=
  law.bind law.get fun _ => law.writeAttempt reports _ _ _ _ _ _

end Programming

/-- A property that is kept when operations are put together and that the steps have by which a
session drives the device. -/
structure Driving (property : (α : Type) → Operation α → Prop) : Prop
    extends Programming property where
  waitReady : property Status waitReady
  eraseBlock : ∀ block, property Status (eraseBlock block)

/-- A property that is kept when operations are put together and that the elementary steps of a
session have, those that keep a table of bad blocks apart. -/
structure Working (property : (α : Type) → Operation α → Prop) : Prop
    extends Driving property where
  progress : ∀ step, property Unit (progress step)

namespace Working

variable {property : (α : Type) → Operation α → Prop} (law : Working property)
include law

theorem writePage (page : Nat) (data : List UInt8) (stats : WriteStats) :
    property WriteStats (writePage page data stats) :=
  law.toProgramming.writePage law.progress page data stats

theorem findBlock (start count block : Nat) (stats : WriteStats) :
    property (Nat × WriteStats) (findBlock start count block stats) := by
  induction count generalizing block stats with
  | zero => exact law.bind (law.note _) fun _ => law.throw _ (by nofun)
  | succ count ih =>
    refine law.bind (law.isKnownBad block) fun bad => ?_
    split
    · exact law.bind (law.note _) fun _ => ih _ _
    · refine law.bind (law.progress _) fun _ => law.bind (law.eraseBlock block) fun status => ?_
      dsimp only
      split
      · exact law.bind (law.note _) fun _ => ih _ _
      · exact law.pure _

theorem eraseRequired (block : Nat) (stats : WriteStats) :
    property WriteStats (eraseRequired block stats) := by
  refine law.bind (law.progress _) fun _ => law.bind (law.eraseBlock block) fun status => ?_
  dsimp only
  split
  · exact law.throw_bind _ (by nofun) _
  · exact law.pure _

theorem advance (cursor : WriteCursor) : property WriteCursor cursor.advance := by
  refine law.geometry_bind fun g _ => ?_
  split
  · dsimp only
    split
    · exact law.bind (law.note _) fun _ => law.throw_bind _ (by nofun) _
    · have searched := law.geometry_bind fun g _ =>
        law.findBlock cursor.nextBlock (g.totalBlocks - cursor.nextBlock) cursor.nextBlock
          cursor.stats
      exact law.bind searched fun _ => law.pure _
  · exact law.pure _

theorem writePieces (pieces : List (List UInt8)) (cursor : WriteCursor) :
    property WriteCursor (writePieces pieces cursor) := by
  induction pieces generalizing cursor with
  | nil => exact law.pure _
  | cons piece rest ih =>
    refine law.bind (law.advance cursor) fun cursor => law.geometry_bind fun _ _ => ?_
    exact law.bind (law.writePage _ _ _) fun _ => law.bind (law.progress _) fun _ => ih _

theorem writeImage (indexPage : Nat) (data : List UInt8) :
    property (List Nat) (writeImage indexPage data) := by
  refine law.geometry_bind fun g _ => law.bind (law.checkPage g indexPage) fun _ => ?_
  refine law.bind law.requireWritable fun _ => law.bind (law.readMainArea _) fun _ => ?_
  refine law.bind (law.progress _) fun _ => law.bind (law.writePieces _ _) fun cursor => ?_
  have recorded (used : List Nat) (record : List UInt8) :
      Index.encode used record ≠ .error .frameTooLarge := by
    rw [Index.encode_eq]
    split <;> simp
  refine law.bind (law.require _ (recorded _ _)) fun _ => ?_
  refine law.bind (law.eraseRequired _ _) fun _ => ?_
  exact law.bind (law.writePage _ _ _) fun _ => law.bind (law.progress _) fun _ => law.pure _

theorem writeBlockPieces (page : Nat) (pieces : List (List UInt8)) (done : Nat)
    (stats : WriteStats) : property WriteStats (writeBlockPieces page pieces done stats) := by
  induction pieces generalizing done stats with
  | nil => exact law.pure _
  | cons piece rest ih =>
    refine law.geometry_bind fun _ _ => law.bind (law.writePage _ _ _) fun _ => ?_
    exact law.bind (law.progress _) fun _ => ih _ _

theorem writeBlock (block : Nat) (data : List UInt8) :
    property WriteStats (writeBlock block data) := by
  refine law.geometry_bind fun g _ => law.bind (law.checkBlock g block) fun _ => ?_
  dsimp only
  split
  · exact law.throw_bind _ (by nofun) _
  · refine law.bind law.requireWritable fun _ => law.bind (law.eraseRequired _ _) fun _ => ?_
    refine law.bind (law.progress _) fun _ => law.bind (law.writeBlockPieces _ _ _ _) fun _ => ?_
    exact law.bind (law.progress _) fun _ => law.pure _

theorem readPages (count page : Nat) (past : List ImagePage) (done : Nat) :
    property (List ImagePage) (readPages count page past done) := by
  induction count generalizing page past done with
  | zero => exact law.pure _
  | succ count ih =>
    refine law.geometry_bind fun g valid => law.bind (law.loadPage page) fun _ => ?_
    refine law.bind (law.readColumns valid 0 (Image.markedLength_le g)) fun _ => ?_
    exact law.bind (law.progress _) fun _ => ih _ _ _

theorem readBlocks (blocks : List Nat) (past : List ImagePage) (done : Nat) :
    property (List ImagePage) (readBlocks blocks past done) := by
  induction blocks generalizing past done with
  | nil => exact law.pure _
  | cons block rest ih =>
    exact law.geometry_bind fun _ _ => law.bind (law.readPages _ _ _ _) fun _ => ih _ _

theorem readImage (indexPage : Nat) : property (List UInt8) (readImage indexPage) := by
  refine law.geometry_bind fun g valid => law.bind (law.checkPage g indexPage) fun _ => ?_
  refine law.bind (law.loadPage _) fun _ => ?_
  refine law.bind (law.readColumns valid 0 (Nat.le_add_right _ _)) fun _ => ?_
  refine law.bind (law.progress _) fun _ => law.bind (law.readBlocks _ _ _) fun _ => ?_
  exact law.pure _

end Working

/-- A property that is kept when operations are put together and that all elementary steps of a
session have. -/
structure Hereditary (property : (α : Type) → Operation α → Prop) : Prop
    extends Working property where
  keep : ∀ table, property Unit (modify fun session => { session with badBlocks := some table })

theorem Hereditary.badBlockTable {property : (α : Type) → Operation α → Prop}
    (law : Hereditary property) : property BadBlockTable badBlockTable := by
  refine law.bind law.get fun session => ?_
  split
  · exact law.pure _
  · exact law.bind law.scanDevice fun table => law.bind (law.keep table) fun _ => law.pure _

end Operation
end OnfiFlash
