import OnfiFlash.Proofs.IndexRecord
import OnfiFlash.Proofs.LinkContract
import OnfiFlash.Proofs.Pieces
import OnfiFlash.Proofs.ReadOnly

/-! Arguments within bounds. An operation whose arguments lie on the device is never refused for the
arguments of a step it makes itself, whatever the answers are: every page and every block it comes
upon is on the device, and nothing it writes is too long. -/
namespace OnfiFlash

/-- The errors that say that an argument is out of bounds. -/
inductive Error.OutOfBounds : Error → Prop where
  | address : OutOfBounds .addressOutOfRange
  | length : OutOfBounds .imageTooLarge

/-- A link does not fail with errors about arguments, which it does not know of. -/
structure Link.Neutral (σ : Type) [Link σ] : Prop where
  write : ∀ bytes (link : σ) e, (Link.write bytes link).result = .error e → ¬ e.OutOfBounds
  read : ∀ count (link : σ) e, (Link.read count link).result = .error e → ¬ e.OutOfBounds

theorem Link.Conforming.neutral {σ : Type} [Link σ] (conforming : Link.Conforming σ) :
    Link.Neutral σ where
  write bytes link e failed := by
    cases conforming.write bytes link e failed <;> exact nofun
  read count link e failed := by
    cases conforming.read count link e failed <;> exact nofun

/-- Executing a frame fails as the link does, or because of the frame's form. -/
theorem Link.Neutral.execute {σ : Type} [Link σ] (neutral : Link.Neutral σ) (frame : Frame)
    (link : σ) (e : Error) (failed : (Link.execute frame link).result = .error e) :
    ¬ e.OutOfBounds := by
  rcases Link.execute_failed failed with ⟨-, rfl⟩ | ⟨bytes, refused⟩ | ⟨count, after, unread⟩
  · exact nofun
  · exact neutral.write bytes link e refused
  · exact neutral.read count after e unread

/-- Either the value is as it should be, or the error is not about arguments. -/
def Admits {α : Type} (post : α → Prop) : Except Error α → Prop
  | .ok value => post value
  | .error e => ¬ e.OutOfBounds

variable {α β : Type}

namespace Query

/-- Over every neutral link, the query is not refused for arguments, and yields what `post`
says. -/
def Admitted (query : Query α) (post : α → Prop) : Prop :=
  ∀ (σ : Type) [Link σ] [LawfulLink σ], Link.Neutral σ → ∀ link : σ,
    query.Ensures link fun result _ _ => Admits post result

variable {post : α → Prop}

theorem admitted_pure {value : α} (holds : post value) : (pure value : Query α).Admitted post :=
  fun _ _ _ _ _ => holds

theorem admitted_throw {e : Error} (other : ¬ e.OutOfBounds) :
    (throw e : Query α).Admitted post := fun _ _ _ _ _ => other

theorem Admitted.bind {first : Query β} {next : β → Query α} {mid : β → Prop}
    (begun : first.Admitted mid) (passed : ∀ value, mid value → (next value).Admitted post) :
    (first >>= next).Admitted post := by
  intro σ _ _ neutral link
  refine .bind (begun σ neutral link) (fun e _ _ other => other) fun value after _ holds => ?_
  exact passed value holds σ neutral after

theorem admitted_note (notice : Notice) : (note notice).Admitted fun _ => True :=
  fun _ _ _ _ _ => trivial

theorem admitted_execute (frame : Frame) :
    (execute frame).Admitted fun bytes => bytes.length = frame.readLength.toNat := by
  intro σ _ _ neutral link
  refine ensures_execute.mpr ?_
  show Admits _ (Link.execute frame link).result
  cases answered : (Link.execute frame link).result with
  | ok bytes => exact Link.length_execute frame link bytes answered
  | error e => exact neutral.execute frame link e answered

theorem admitted_readStatus : readStatus.Admitted fun _ => True := by
  refine (admitted_execute _).bind fun bytes _ => ?_
  cases bytes with
  | nil => exact admitted_throw (by nofun)
  | cons bits rest => exact admitted_pure trivial

theorem admitted_awaitReady {giveUp : Query Status} (final : giveUp.Admitted fun _ => True)
    (polls : Nat) : (awaitReady giveUp polls).Admitted fun _ => True := by
  induction polls with
  | zero => exact final
  | succ polls ih =>
    refine admitted_readStatus.bind fun status _ => ?_
    split
    · exact admitted_pure trivial
    · exact ih

theorem admitted_pollReady (polling : PollLimit) :
    (pollReady polling).Admitted fun _ => True := by
  cases polling with
  | atMost polls =>
    exact admitted_awaitReady ((admitted_note _).bind fun _ _ => admitted_throw (by nofun)) _
  | unbounded horizon => exact admitted_awaitReady (admitted_throw (by nofun)) _

end Query

namespace Operation

/-- In every session with the geometry and over every neutral link, the operation is not refused for
arguments, keeps the geometry and yields what `post` says. -/
def Admitted (g : Geometry) (operation : Operation α) (post : α → Prop) : Prop :=
  ∀ (σ : Type) [Link σ] [LawfulLink σ], Link.Neutral σ → ∀ (session : Session) (link : σ),
    session.geometry = g → operation.Ensures session link fun result left _ _ =>
      left.geometry = g ∧ Admits post result

variable {g : Geometry} {post : α → Prop}

theorem Admitted.mono {operation : Operation α} {strong : α → Prop}
    (admitted : operation.Admitted g strong) (weaker : ∀ value, strong value → post value) :
    operation.Admitted g post := fun σ _ _ neutral session link same =>
  (admitted σ neutral session link same).mono fun result _ _ _ reached =>
    ⟨reached.1, match result, reached.2 with
      | .ok value, holds => weaker value holds
      | .error _, other => other⟩

theorem admitted_pure {value : α} (holds : post value) :
    (pure value : Operation α).Admitted g post := fun _ _ _ _ _ _ same => ⟨same, holds⟩

theorem admitted_throw {e : Error} (other : ¬ e.OutOfBounds) :
    (throw e : Operation α).Admitted g post := fun _ _ _ _ _ _ same => ⟨same, other⟩

theorem Admitted.bind {first : Operation β} {next : β → Operation α} {mid : β → Prop}
    (begun : first.Admitted g mid) (passed : ∀ value, mid value → (next value).Admitted g post) :
    (first >>= next).Admitted g post := by
  intro σ _ _ neutral session link same
  refine .bind (begun σ neutral session link same) (fun e _ _ _ reached => reached) ?_
  intro value left after _ reached
  exact passed value reached.2 σ neutral left after reached.1

/-- A step of which nothing is needed. -/
theorem Admitted.then {first : Operation β} {next : β → Operation α} {mid : β → Prop}
    (begun : first.Admitted g mid) (passed : ∀ value, (next value).Admitted g post) :
    (first >>= next).Admitted g post :=
  begun.bind fun value _ => passed value

theorem Admitted.map {operation : Operation β} {change : β → α} {mid : β → Prop}
    (admitted : operation.Admitted g mid) (changed : ∀ value, mid value → post (change value)) :
    (change <$> operation).Admitted g post :=
  admitted.bind fun value holds => admitted_pure (changed value holds)

theorem Admitted.tryCatch {operation : Operation α} {handler : Error → Operation α}
    (begun : operation.Admitted g post)
    (caught : ∀ e, ¬ e.OutOfBounds → (handler e).Admitted g post) :
    (tryCatch operation handler).Admitted g post := by
  intro σ _ _ neutral session link same
  refine ensures_tryCatch.mpr ((begun σ neutral session link same).mono ?_)
  rintro (e | value) left after said reached
  · exact caught e reached.2 σ neutral left after reached.1
  · exact reached

theorem admitted_ofQuery {query : Query α} (admitted : query.Admitted post) :
    (ofQuery query).Admitted g post := fun σ _ _ neutral _ link same =>
  ensures_ofQuery.mpr ((admitted σ neutral link).mono fun _ _ _ holds => ⟨same, holds⟩)

theorem admitted_get_bind {next : Session → Operation α}
    (continued : ∀ session : Session, session.geometry = g → (next session).Admitted g post) :
    (get >>= next).Admitted g post := fun σ _ _ neutral session link same =>
  continued session same σ neutral session link same

theorem admitted_geometry_bind {next : Geometry → Operation α}
    (continued : g.Valid → (next g).Admitted g post) : (geometry >>= next).Admitted g post :=
  admitted_get_bind fun session same => same ▸ continued (same ▸ session.valid)

theorem admitted_require_bind {checked : Except Error β} {value : β} {next : β → Operation α}
    (passes : checked = .ok value) (continued : (next value).Admitted g post) :
    (require checked >>= next).Admitted g post := by
  rw [passes]
  exact continued

theorem admitted_throw_bind {e : Error} {next : β → Operation α} (other : ¬ e.OutOfBounds) :
    ((throw e : Operation β) >>= next).Admitted g post := fun _ _ _ _ _ _ same => ⟨same, other⟩

theorem admitted_enter (state : ChipState) : (enter state).Admitted g fun _ => True :=
  fun _ _ _ _ _ _ same => ⟨same, trivial⟩

theorem admitted_note (notice : Notice) : (note notice).Admitted g fun _ => True :=
  admitted_ofQuery (Query.admitted_note notice)

theorem admitted_progress (step : Progress) : (progress step).Admitted g fun _ => True :=
  admitted_ofQuery fun _ _ _ _ _ => trivial

theorem admitted_execute (frame : Frame) :
    (execute frame).Admitted g fun bytes => bytes.length = frame.readLength.toNat :=
  admitted_ofQuery (Query.admitted_execute frame)

theorem admitted_readStatus : readStatus.Admitted g fun _ => True :=
  admitted_ofQuery Query.admitted_readStatus

theorem admitted_waitReady : waitReady.Admitted g fun _ => True :=
  admitted_get_bind fun _ _ => admitted_ofQuery (Query.admitted_pollReady _)

theorem admitted_loadPage {page : Nat} (inRange : page < g.totalPages) :
    (loadPage page).Admitted g fun _ => True := by
  refine admitted_geometry_bind fun _ => admitted_require_bind (Geometry.checkPage_eq inRange) ?_
  refine (admitted_execute _).then fun _ => (admitted_enter _).then fun _ => ?_
  refine (admitted_execute _).then fun _ => (admitted_enter _).then fun _ => ?_
  refine admitted_waitReady.then fun status => ?_
  dsimp only
  split
  · exact admitted_throw_bind (by nofun)
  · exact (admitted_enter _).then fun _ => admitted_pure trivial

/-- What is known of the value in whatever session it is yielded. -/
theorem Admitted.yields {operation : Operation α} {mid : α → Prop}
    (admitted : operation.Admitted g mid)
    (yields : ∀ (σ : Type) [Link σ] [LawfulLink σ] (session : Session) (link : σ),
      session.geometry = g → operation.Ensures session link fun result _ _ _ =>
        ∀ value, result = .ok value → post value) : operation.Admitted g post := by
  intro σ _ _ neutral session link same
  have both : operation.Ensures session link fun result left _ _ =>
      (left.geometry = g ∧ Admits mid result) ∧ ∀ value, result = .ok value → post value :=
    ⟨admitted σ neutral session link same, yields σ session link same⟩
  refine both.mono ?_
  rintro (e | value) left _ _ ⟨⟨kept, admits⟩, holds⟩
  · exact ⟨kept, admits⟩
  · exact ⟨kept, holds value rfl⟩

/-- As many bytes are read as are asked for. -/
theorem admitted_readData {start : Nat} (within : start ≤ g.rawPageSize) (size? : Option Nat) :
    (readData start size?).Admitted g fun bytes =>
      bytes.length = size?.getD (g.rawPageSize - start) := by
  have read : (readData start size?).Admitted g fun _ => True := by
    refine admitted_get_bind fun session same => ?_
    dsimp only
    rw [same, if_neg (Nat.not_lt.mpr within)]
    split
    · exact admitted_throw_bind (by nofun)
    · split
      · exact admitted_throw_bind (by nofun)
      · split
        · exact (admitted_execute _).mono fun _ _ => trivial
        · refine (admitted_execute _).then fun _ => (admitted_execute _).then fun _ => ?_
          exact (admitted_execute _).mono fun _ _ => trivial
  refine read.yields fun σ _ _ session link same => ?_
  rw [← same]
  exact length_readData start size? session link

theorem admitted_readPage {page : Nat} (inRange : page < g.totalPages) :
    (readPage page).Admitted g fun _ => True :=
  (admitted_loadPage inRange).then fun _ =>
    (admitted_readData (Nat.zero_le _) none).mono fun _ _ => trivial

theorem admitted_eraseBlock {block : Nat} (onDevice : block < g.totalBlocks) :
    (eraseBlock block).Admitted g fun _ => True := by
  refine admitted_geometry_bind fun _ => admitted_require_bind (Geometry.checkBlock_eq onDevice) ?_
  refine (admitted_enter _).then fun _ => (admitted_execute _).then fun _ => ?_
  refine (admitted_execute _).then fun _ => admitted_waitReady.then fun status => ?_
  refine (admitted_enter _).then fun _ => ?_
  dsimp only
  split
  · exact (admitted_note _).then fun _ => admitted_pure trivial
  · exact admitted_pure trivial

section

variable {page : Nat} {data : List UInt8}

theorem admitted_programPage (inRange : page < g.totalPages) (fits : data.length ≤ g.rawPageSize) :
    (programPage page data).Admitted g fun _ => True := by
  refine admitted_geometry_bind fun _ => admitted_require_bind (Geometry.checkPage_eq inRange) ?_
  rw [if_neg (Nat.not_lt.mpr fits)]
  refine admitted_readStatus.then fun status => ?_
  split
  · exact admitted_throw_bind (by nofun)
  · refine (admitted_enter _).then fun _ => (admitted_execute _).then fun _ => ?_
    refine (admitted_execute _).then fun _ => admitted_waitReady.then fun status => ?_
    exact (admitted_enter _).then fun _ => admitted_pure trivial

theorem admitted_verifyPage (inRange : page < g.totalPages) :
    (verifyPage page data).Admitted g fun _ => True := by
  refine (admitted_loadPage inRange).then fun status => ?_
  dsimp only
  split
  · exact admitted_throw_bind (by nofun)
  · refine (admitted_readData (Nat.zero_le _) _).then fun found => ?_
    split
    · exact admitted_throw (by nofun)
    · exact admitted_pure trivial

theorem admitted_programVerified (inRange : page < g.totalPages)
    (fits : data.length ≤ g.rawPageSize) :
    (programVerified page data).Admitted g fun _ => True := by
  rw [programVerified_eq]
  exact (admitted_programPage inRange fits).then fun _ => admitted_verifyPage inRange

theorem admitted_tryPage (inRange : page < g.totalPages) (fits : data.length ≤ g.rawPageSize) :
    (tryPage page data).Admitted g fun _ => True := by
  refine ((admitted_programVerified inRange fits).map fun _ _ => trivial).tryCatch fun e other => ?_
  split
  · exact admitted_pure trivial
  · exact admitted_throw other

theorem admitted_writeAttempt (inRange : page < g.totalPages) (fits : data.length ≤ g.rawPageSize)
    (maxAttempts left attempt : Nat) (stats : WriteStats) :
    (writeAttempt page data maxAttempts left attempt stats).Admitted g fun _ => True := by
  induction left generalizing attempt stats with
  | zero =>
    refine (admitted_tryPage inRange fits).then fun failed => ?_
    cases failed with
    | none => exact admitted_pure trivial
    | some e => exact (admitted_note _).then fun _ => admitted_throw (by nofun)
  | succ left ih =>
    refine (admitted_tryPage inRange fits).then fun failed => ?_
    cases failed with
    | none => exact admitted_pure trivial
    | some e => exact (admitted_note _).then fun _ => (admitted_progress _).then fun _ => ih _ _

theorem admitted_writePage (inRange : page < g.totalPages) (fits : data.length ≤ g.rawPageSize)
    (stats : WriteStats) : (writePage page data stats).Admitted g fun _ => True :=
  admitted_get_bind fun _ _ => admitted_writeAttempt inRange fits _ _ _ _

end

/-- Loading a page, whatever is done if the device refuses to. -/
theorem admitted_tryLoad {page : Nat} (inRange : page < g.totalPages)
    {refused : Nat → Operation (Option Status)}
    (admitted : ∀ page, (refused page).Admitted g fun _ => True) :
    (tryCatch (some <$> loadPage page) fun e => match e with
      | .read page => refused page
      | e => throw e).Admitted g fun _ => True := by
  refine ((admitted_loadPage inRange).map fun _ _ => trivial).tryCatch fun e other => ?_
  split
  · exact admitted _
  · exact admitted_throw other

theorem admitted_readMarker {page : Nat} (inRange : page < g.totalPages) :
    (readMarker page).Admitted g fun _ => True := by
  refine (admitted_tryLoad inRange fun _ => (admitted_note _).then fun _ =>
    admitted_pure trivial).then fun loaded => ?_
  cases loaded with
  | none => exact admitted_pure trivial
  | some _ =>
    refine admitted_geometry_bind fun _ => ?_
    exact (admitted_readData (Nat.le_add_right _ _) _).then fun _ => admitted_pure trivial

theorem admitted_isBadBlock {block : Nat} (onDevice : block < g.totalBlocks) :
    (isBadBlock block).Admitted g fun _ => True := by
  refine admitted_geometry_bind fun valid => ?_
  refine admitted_require_bind (Geometry.checkBlock_eq onDevice) ?_
  refine (admitted_readMarker (valid.dimensions.firstPage_lt onDevice)).then fun first => ?_
  split
  · exact admitted_pure trivial
  · refine (admitted_readMarker (valid.dimensions.lastPage_lt onDevice)).then fun last => ?_
    exact admitted_pure trivial

theorem admitted_scanFrom (count block : Nat) (bad : List Nat)
    (within : block + count ≤ g.totalBlocks) :
    (scanFrom count block bad).Admitted g fun _ => True := by
  induction count generalizing block bad with
  | zero => exact admitted_pure trivial
  | succ count ih =>
    refine (admitted_isBadBlock (by omega)).then fun found => ?_
    split
    · exact (admitted_note _).then fun _ => ih _ _ (by omega)
    · exact ih _ _ (by omega)

theorem admitted_scanDevice : scanDevice.Admitted g fun _ => True := by
  refine admitted_geometry_bind fun _ => ?_
  refine (admitted_scanFrom _ _ _ (Nat.le_of_eq (Nat.zero_add _))).then fun _ => ?_
  exact admitted_pure trivial

theorem admitted_badBlockTable : badBlockTable.Admitted g fun _ => True := by
  refine admitted_get_bind fun session _ => ?_
  split
  · exact admitted_pure trivial
  · refine admitted_scanDevice.then fun table => ?_
    intro σ _ _ _ session link same
    exact ⟨same, trivial⟩

theorem admitted_isKnownBad {block : Nat} (onDevice : block < g.totalBlocks) :
    (isKnownBad block).Admitted g fun _ => True := by
  refine admitted_get_bind fun session _ => ?_
  split
  · exact admitted_pure trivial
  · exact admitted_isBadBlock onDevice

theorem admitted_requireWritable : requireWritable.Admitted g fun _ => True := by
  refine admitted_readStatus.then fun status => ?_
  split
  · exact (admitted_note _).then fun _ => admitted_throw (by nofun)
  · exact admitted_pure trivial

/-- Every block that is tried is on the device, and so is the one that is found. -/
theorem admitted_findBlock (start count block : Nat) (stats : WriteStats)
    (within : ∀ other, block ≤ other → other < block + count → other < g.totalBlocks) :
    (findBlock start count block stats).Admitted g fun found => found.1 < g.totalBlocks := by
  induction count generalizing block stats with
  | zero => exact (admitted_note _).then fun _ => admitted_throw (by nofun)
  | succ count ih =>
    have onDevice : block < g.totalBlocks := within block (Nat.le_refl _) (by omega)
    have later : ∀ other, block + 1 ≤ other → other < block + 1 + count → other < g.totalBlocks :=
      fun other behind before => within other (by omega) (by omega)
    refine (admitted_isKnownBad onDevice).then fun bad => ?_
    split
    · exact (admitted_note _).then fun _ => ih _ _ later
    · refine (admitted_progress _).then fun _ => ?_
      refine (admitted_eraseBlock onDevice).then fun status => ?_
      dsimp only
      split
      · exact (admitted_note _).then fun _ => ih _ _ later
      · exact admitted_pure onDevice

theorem admitted_eraseRequired {block : Nat} (onDevice : block < g.totalBlocks)
    (stats : WriteStats) : (eraseRequired block stats).Admitted g fun _ => True := by
  refine (admitted_progress _).then fun _ => (admitted_eraseBlock onDevice).then fun status => ?_
  dsimp only
  split
  · exact admitted_throw_bind (by nofun)
  · exact admitted_pure trivial

/-- The page of the cursor is on the device, or a fresh block is due. -/
def WriteCursor.Bounded (g : Geometry) (cursor : WriteCursor) : Prop :=
  cursor.done = 0 ∨ cursor.page % g.pagesPerBlock = 0 ∨ cursor.page < g.totalPages

/-- Behind a page of the device there is another, or the start of a block. -/
theorem succ_bounded {page : Nat} (inRange : page < g.totalPages) :
    (page + 1) % g.pagesPerBlock = 0 ∨ page + 1 < g.totalPages := by
  rcases Nat.lt_or_eq_of_le (Nat.succ_le_of_lt inRange) with more | last
  · exact .inr more
  · left
    have whole : page + 1 = g.totalBlocks * g.pagesPerBlock := last.trans g.totalPages_eq
    rw [whole, Nat.mul_mod_left]

theorem admitted_advance {cursor : WriteCursor} (bounded : cursor.Bounded g) :
    cursor.advance.Admitted g fun cursor => cursor.page < g.totalPages := by
  refine admitted_geometry_bind fun valid => ?_
  split
  · dsimp only
    split
    · exact (admitted_note _).then fun _ => admitted_throw_bind (by nofun)
    · have searched : (nextGoodBlock cursor.nextBlock cursor.stats).Admitted g fun found =>
          found.1 < g.totalBlocks :=
        admitted_geometry_bind fun _ => admitted_findBlock _ _ _ _ fun other _ before => by omega
      refine searched.bind fun found onDevice => ?_
      exact admitted_pure (valid.dimensions.firstPage_lt onDevice)
  · next inBlock =>
    obtain ⟨begun, midway⟩ := not_or.mp inBlock
    exact admitted_pure ((bounded.resolve_left begun).resolve_left midway)

theorem admitted_writePieces (pieces : List (List UInt8))
    (short : ∀ piece ∈ pieces, piece.length ≤ g.bytesPerPage) (cursor : WriteCursor)
    (bounded : cursor.Bounded g) : (writePieces pieces cursor).Admitted g fun _ => True := by
  induction pieces generalizing cursor with
  | nil => exact admitted_pure trivial
  | cons piece rest ih =>
    obtain ⟨fits, others⟩ := List.forall_mem_cons.mp short
    refine (admitted_advance bounded).bind fun cursor inRange => admitted_geometry_bind fun _ => ?_
    refine (admitted_writePage inRange (Image.pageContents_fits fits) _).then fun stats => ?_
    exact (admitted_progress _).then fun _ => ih others _ (.inr (succ_bounded inRange))

theorem admitted_readMainArea {page : Nat} (inRange : page < g.totalPages) :
    (readMainArea page).Admitted g fun bytes => bytes.length = g.bytesPerPage := by
  have read : (readMainArea page).Admitted g fun _ => True := by
    refine admitted_geometry_bind fun _ => ?_
    refine (admitted_tryLoad inRange fun _ => (admitted_note _).then fun _ =>
      admitted_pure trivial).then fun loaded => ?_
    cases loaded with
    | none => exact admitted_pure trivial
    | some _ => exact (admitted_readData (Nat.zero_le _) _).mono fun _ _ => trivial
  refine read.yields fun σ _ _ session link same => ?_
  rw [← same]
  exact length_readMainArea page session link

theorem admitted_writeImage {indexPage : Nat} (inRange : indexPage < g.totalPages)
    (data : List UInt8) : (writeImage indexPage data).Admitted g fun _ => True := by
  refine admitted_geometry_bind fun valid => ?_
  refine admitted_require_bind (Geometry.checkPage_eq inRange) ?_
  refine admitted_requireWritable.then fun _ => ?_
  refine (admitted_readMainArea inRange).bind fun record length => ?_
  refine (admitted_progress _).then fun _ => ?_
  refine (admitted_writePieces _ (length_le_of_mem_chunks _ _) _ (.inl rfl)).then fun cursor => ?_
  dsimp only
  cases encoded : Index.encode cursor.used.reverse record with
  | error e =>
    refine admitted_throw_bind ?_
    rw [Index.encode_eq] at encoded
    split at encoded
    · cases encoded
      exact nofun
    · cases encoded
  | ok contents =>
    refine admitted_require_bind rfl ?_
    refine (admitted_eraseRequired (Geometry.blockOf_lt inRange) _).then fun stats => ?_
    have fits : contents.length ≤ g.rawPageSize := by
      rw [Index.length_encode encoded, length]
      exact Nat.le_add_right _ _
    refine (admitted_writePage inRange fits _).then fun stats => ?_
    exact (admitted_progress _).then fun _ => admitted_pure trivial

/-- Every piece has its page in the block. -/
theorem admitted_writeBlockPieces {block : Nat} (onDevice : block < g.totalBlocks)
    (pieces : List (List UInt8)) (done : Nat) (stats : WriteStats)
    (short : ∀ piece ∈ pieces, piece.length ≤ g.bytesPerPage)
    (room : done + pieces.length ≤ g.pagesPerBlock) :
    (writeBlockPieces (g.firstPage block) pieces done stats).Admitted g fun _ => True := by
  induction pieces generalizing done stats with
  | nil => exact admitted_pure trivial
  | cons piece rest ih =>
    obtain ⟨fits, others⟩ := List.forall_mem_cons.mp short
    rw [List.length_cons] at room
    have inRange : g.firstPage block + done < g.totalPages :=
      Geometry.firstPage_add_lt onDevice (by omega)
    have padded : (Image.zeroPadded g.bytesPerPage piece).length ≤ g.rawPageSize := by
      rw [Image.length_zeroPadded fits]
      exact Nat.le_add_right _ _
    refine admitted_geometry_bind fun _ => (admitted_writePage inRange padded _).then fun _ => ?_
    exact (admitted_progress _).then fun _ => ih _ _ others (by omega)

theorem admitted_writeBlock {block : Nat} {data : List UInt8} (onDevice : block < g.totalBlocks)
    (fits : data.length ≤ g.blockSize) : (writeBlock block data).Admitted g fun _ => True := by
  refine admitted_geometry_bind fun valid => ?_
  refine admitted_require_bind (Geometry.checkBlock_eq onDevice) ?_
  rw [if_neg (Nat.not_lt.mpr fits)]
  refine admitted_requireWritable.then fun _ => (admitted_eraseRequired onDevice _).then fun _ => ?_
  have room : 0 + (chunks g.bytesPerPage data).length ≤ g.pagesPerBlock := by
    rw [Nat.zero_add, length_chunks valid.dimensions.bytesPerPage]
    exact chunkCount_le valid.dimensions.bytesPerPage (by rwa [Nat.mul_comm])
  refine (admitted_progress _).then fun _ => ?_
  refine (admitted_writeBlockPieces onDevice _ _ _ (length_le_of_mem_chunks _ _) room).then ?_
  exact fun _ => (admitted_progress _).then fun _ => admitted_pure trivial

theorem admitted_readPages (count page : Nat) (past : List ImagePage) (done : Nat)
    (within : page + count ≤ g.totalPages) :
    (readPages count page past done).Admitted g fun _ => True := by
  induction count generalizing page past done with
  | zero => exact admitted_pure trivial
  | succ count ih =>
    refine admitted_geometry_bind fun _ => (admitted_loadPage (by omega)).then fun _ => ?_
    refine (admitted_readData (Nat.zero_le _) _).then fun _ => ?_
    exact (admitted_progress _).then fun _ => ih _ _ _ (by omega)

theorem admitted_readBlocks (blocks : List Nat) (past : List ImagePage) (done : Nat)
    (onDevice : ∀ block ∈ blocks, block < g.totalBlocks) :
    (readBlocks blocks past done).Admitted g fun _ => True := by
  induction blocks generalizing past done with
  | nil => exact admitted_pure trivial
  | cons block rest ih =>
    obtain ⟨here, others⟩ := List.forall_mem_cons.mp onDevice
    have within : g.firstPage block + g.pagesPerBlock ≤ g.totalPages := by
      rw [Geometry.totalPages_eq, Geometry.firstPage, ← Nat.succ_mul]
      exact Nat.mul_le_mul_right _ here
    exact admitted_geometry_bind fun _ => (admitted_readPages _ _ _ _ within).then fun _ =>
      ih _ _ others

/-- An index lists no block beyond the device. -/
theorem admitted_readImage {indexPage : Nat} (inRange : indexPage < g.totalPages) :
    (readImage indexPage).Admitted g fun _ => True := by
  refine admitted_geometry_bind fun _ => ?_
  refine admitted_require_bind (Geometry.checkPage_eq inRange) ?_
  refine (admitted_loadPage inRange).then fun _ => ?_
  refine (admitted_readData (Nat.zero_le _) _).then fun record => ?_
  refine (admitted_progress _).then fun _ => ?_
  refine (admitted_readBlocks _ _ _ fun _ listed => Index.lt_of_mem_decode listed).then fun _ => ?_
  exact admitted_pure trivial

end Operation
end OnfiFlash
