import OnfiFlash.Link.Scripted
import OnfiFlash.Proofs.InUse
import OnfiFlash.Proofs.IndexRecord
import OnfiFlash.Proofs.Pieces
import OnfiFlash.Proofs.ReadOnly
import OnfiFlash.Proofs.SessionCalls

/-! Page and block numbers fit their words. A session computes them without looking back, on the
strength of the one check its geometry has passed. Here the searching, writing and reading of a
session are put beside versions that check every number they compute, and break off at the first
that does not fit; neither ever does. -/
namespace OnfiFlash

namespace Geometry

variable {g : Geometry}

/-- What is computed from a geometry alone. Each product and sum fits its word, also those on the
way to a result. -/
structure FitsWords (g : Geometry) : Prop where
  unitPages : g.pagesPerBlock * g.blocksPerUnit < limit32
  totalPages : g.totalPages < limit32
  totalBlocks : g.totalBlocks < limit32
  rawPageSize : g.rawPageSize < limit32
  blockSize : g.blockSize < limit64
  totalSize : g.totalSize < limit64
  firstPage : ∀ block < g.totalBlocks, g.firstPage block < limit32
  pagesUpTo : ∀ block < g.totalBlocks, g.firstPage block + g.pagesPerBlock < limit32
  lastPage : ∀ block < g.totalBlocks, g.lastPage block < limit32
  nextBlock : ∀ block < g.totalBlocks, block + 1 < limit32
  blockAfter : ∀ page < g.totalPages, g.blockOf page + 1 < limit32

theorem Dimensions.pagesUpTo_le (dimensions : g.Dimensions) {block : Nat}
    (onDevice : block < g.totalBlocks) : g.firstPage block + g.pagesPerBlock ≤ g.totalPages := by
  obtain ⟨offset, inBlock, same⟩ := dimensions.lastPage_eq block
  have last := dimensions.lastPage_lt onDevice
  rw [lastPage] at last
  omega

/-- A page holds fewer bytes than a 16-bit number counts, so a product with it needs 48 bits. -/
theorem Dimensions.bytesPerPage_mul_lt (dimensions : g.Dimensions)
    {pages : Nat} (few : pages ≤ g.totalPages) : g.bytesPerPage * pages < limit16 * limit32 := by
  have page : g.bytesPerPage ≤ columnLimit :=
    Nat.le_trans (Nat.le_add_right _ _) dimensions.rawPageSize
  have limited : pages < limit32 := Nat.lt_of_le_of_lt few dimensions.totalPages
  calc g.bytesPerPage * pages ≤ columnLimit * pages := Nat.mul_le_mul_right _ page
    _ ≤ columnLimit * limit32 := Nat.mul_le_mul_left _ (Nat.le_of_lt limited)
    _ < limit16 * limit32 := by decide

theorem Dimensions.blockSize_lt (dimensions : g.Dimensions) :
    g.blockSize < limit16 * limit32 := by
  have unit : g.pagesPerBlock ≤ g.pagesPerBlock * g.blocksPerUnit :=
    Nat.le_mul_of_pos_right _ dimensions.blocksPerUnit
  exact dimensions.bytesPerPage_mul_lt
    (Nat.le_trans unit (Nat.le_mul_of_pos_right _ dimensions.unitCount))

theorem Dimensions.fitsWords (dimensions : g.Dimensions) : g.FitsWords := by
  have pages : g.totalPages < limit32 := dimensions.totalPages
  have blocks := dimensions.totalBlocks_le
  have unit : g.pagesPerBlock * g.blocksPerUnit ≤ g.totalPages :=
    Nat.le_mul_of_pos_right _ dimensions.unitCount
  have product : limit16 * limit32 < limit64 := by decide
  constructor
  · omega
  · exact pages
  · omega
  · exact Nat.lt_of_le_of_lt dimensions.rawPageSize (by decide)
  · exact Nat.lt_trans dimensions.blockSize_lt product
  · exact Nat.lt_trans (dimensions.bytesPerPage_mul_lt (Nat.le_refl _)) product
  · intro block onDevice
    have first := dimensions.firstPage_lt onDevice
    omega
  · intro block onDevice
    have upTo := dimensions.pagesUpTo_le onDevice
    omega
  · intro block onDevice
    have last := dimensions.lastPage_lt onDevice
    omega
  · intro block onDevice
    omega
  · intro page inRange
    have inBlock := blockOf_lt inRange
    omega

end Geometry

/-- A step of a session that breaks off where a number does not fit its word. -/
abbrev Checked (α : Type) : Type := OptionT Operation α

namespace Checked

open Operation (geometry require note progress WriteCursor)

variable {α β : Type}

/-- A step that computes no page or block number. -/
def step (operation : Operation α) : Checked α := OptionT.lift operation

def word (value : Nat) : Checked Nat := OptionT.mk (pure (checked32 value))

def long (value : Nat) : Checked Nat :=
  OptionT.mk (pure (if value < limit64 then some value else none))

/-- The search for a usable block; it may come to the number after the last block. -/
def findBlock (start : Nat) : (count block : Nat) → WriteStats → Checked (Nat × WriteStats)
  | 0, _, _ => do
    step (note (.error s!"ran out of good blocks searching from block {start}"))
    step (throw .outOfSpace)
  | count + 1, block, stats => do
    if ← step (Operation.isKnownBad block) then
      step (note (.warning s!"skipping bad block {block}"))
      let next ← word (block + 1)
      findBlock start count next { stats with skipped := stats.skipped + 1 }
    else
      step (progress (.erasing block))
      let status ← step (Operation.eraseBlock block)
      let stats := { stats with erased := stats.erased + 1 }
      if status.isError then
        step (note (.warning s!"skipping block {block} after failed erase"))
        let next ← word (block + 1)
        findBlock start count next { stats with skipped := stats.skipped + 1 }
      else
        return (block, stats)

def nextGoodBlock (start : Nat) (stats : WriteStats) : Checked (Nat × WriteStats) := do
  let total ← word (← step geometry).totalBlocks
  findBlock start (total - start) start stats

/-- The move to a fresh block: its first page, and the block to search from after it. -/
def advance (cursor : WriteCursor) : Checked WriteCursor := do
  let geometry ← step geometry
  if cursor.done = 0 ∨ cursor.page % geometry.pagesPerBlock = 0 then
    let capacity := Index.capacity geometry.bytesPerPage
    if capacity ≤ cursor.used.length then
      step (note (.error s!"index page holds at most {capacity} blocks"))
      step (throw .indexOverflow)
    let (block, stats) ← nextGoodBlock cursor.nextBlock cursor.stats
    let nextBlock ← word (block + 1)
    let page ← word (geometry.firstPage block)
    return { cursor with page, nextBlock, used := block :: cursor.used, stats }
  else
    return cursor

def writePieces : List (List UInt8) → WriteCursor → Checked WriteCursor
  | [], cursor => return cursor
  | piece :: rest, cursor => do
    let cursor ← advance cursor
    let geometry ← step geometry
    let stats ← step
      (Operation.writePage cursor.page (Image.pageContents geometry piece) cursor.stats)
    let done := cursor.done + 1
    step (progress (.written done))
    let page ← word (cursor.page + 1)
    writePieces rest { cursor with page, done, stats }

def writeImage (indexPage : Nat) (data : List UInt8) : Checked (List Nat) := do
  let geometry ← step geometry
  step (require (geometry.checkPage indexPage))
  step Operation.requireWritable
  let record ← step (Operation.readMainArea indexPage)
  step (progress (.writing (chunkCount geometry.bytesPerPage data.length)))
  let indexBlock ← word (geometry.blockOf indexPage)
  let nextBlock ← word (indexBlock + 1)
  let cursor ← writePieces (chunks geometry.bytesPerPage data) { nextBlock }
  let used := cursor.used.reverse
  let record ← step (require (Index.encode used record))
  let stats ← step (Operation.eraseRequired indexBlock cursor.stats)
  let stats ← step (Operation.writePage indexPage record stats)
  step (progress (.complete stats))
  return used

/-- The pages of a block, each by its distance from the first. -/
def writeBlockPieces (first : Nat) : List (List UInt8) → (done : Nat) → WriteStats →
    Checked WriteStats
  | [], _, stats => return stats
  | piece :: rest, done, stats => do
    let size := (← step geometry).bytesPerPage
    let distance ← word done
    let page ← word (first + distance)
    let stats ← step (Operation.writePage page (Image.zeroPadded size piece) stats)
    step (progress (.written (done + 1)))
    writeBlockPieces first rest (done + 1) stats

def writeBlock (block : Nat) (data : List UInt8) : Checked WriteStats := do
  let geometry ← step geometry
  step (require (geometry.checkBlock block))
  let room ← long geometry.blockSize
  if room < data.length then
    step (throw .imageTooLarge)
  let first ← word (geometry.firstPage block)
  step Operation.requireWritable
  let stats ← step (Operation.eraseRequired block {})
  step (progress (.writing (chunkCount geometry.bytesPerPage data.length)))
  let stats ← writeBlockPieces first (chunks geometry.bytesPerPage data) 0 stats
  step (progress (.complete stats))
  return stats

/-- The pages of a block, up to the number after the last. -/
def readPages : (count page : Nat) → (past : List ImagePage) → (done : Nat) →
    Checked (List ImagePage)
  | 0, _, past, _ => return past
  | count + 1, page, past, done => do
    let geometry ← step geometry
    let _ ← step (Operation.loadPage page)
    let raw ← step (Operation.readData 0 (some (Image.markedLength geometry)))
    let read : ImagePage := ⟨raw.take geometry.bytesPerPage, Image.isMarked geometry raw⟩
    step (progress (.read (done + 1)))
    let next ← word (page + 1)
    readPages count next (read :: past) (done + 1)

def readBlocks : List Nat → (past : List ImagePage) → (done : Nat) → Checked (List ImagePage)
  | [], past, _ => return past.reverse
  | block :: rest, past, done => do
    let geometry ← step geometry
    let first ← word (geometry.firstPage block)
    let last ← word (first + geometry.pagesPerBlock)
    let past ← readPages (last - first) first past done
    readBlocks rest past (done + geometry.pagesPerBlock)

def readImage (indexPage : Nat) : Checked (List UInt8) := do
  let geometry ← step geometry
  step (require (geometry.checkPage indexPage))
  let _ ← step (Operation.loadPage indexPage)
  let record ← step (Operation.readData 0 (some geometry.bytesPerPage))
  let blocks := Index.decode record geometry.totalBlocks
  let pages ← long (blocks.length * geometry.pagesPerBlock)
  step (progress (.reading pages))
  let size ← long geometry.blockSize
  let _ ← long (blocks.length * size)
  let pages ← readBlocks blocks [] 0
  return (trimBlankPages pages).flatMap ImagePage.main

/-- In every session with the geometry and over every lawful link, the checked version does not
break off: it does what the plain one does, step by step, and comes to the same. The geometry stays,
and what is yielded is as `post` says. -/
def Follows (g : Geometry) (checked : Checked α) (plain : Operation α) (post : α → Prop) : Prop :=
  ∀ (σ : Type) [Link σ] [LawfulLink σ] (session : Session) (link : σ), session.geometry = g →
    plain.Ensures session link fun result left after said =>
      (checked.run.Ensures session link fun ended leftChecked afterChecked saidChecked =>
        ended = result.map some ∧ leftChecked = left ∧ afterChecked = after ∧ saidChecked = said) ∧
      left.geometry = g ∧ ∀ value, result = .ok value → post value

section Rules

variable {g : Geometry} {post : β → Prop} {next : α → Checked β} {next' : α → Operation β}

theorem run_bind (first : Checked α) (next : α → Checked β) :
    (first >>= next).run = first.run >>= fun found => match found with
      | some value => (next value).run
      | none => pure none := rfl

theorem word_bind {value : Nat} (fits : value < limit32) (next : Nat → Checked β) :
    word value >>= next = next value := by
  have found : checked32 value = some value := if_pos fits
  rw [word, found]
  rfl

theorem long_bind {value : Nat} (fits : value < limit64) (next : Nat → Checked β) :
    long value >>= next = next value := by
  rw [long, if_pos fits]
  rfl

theorem follows_pure {value : β} (holds : post value) :
    Follows g (pure value) (pure value) post := by
  intro σ _ _ session link same
  refine ⟨⟨rfl, rfl, rfl, rfl⟩, same, ?_⟩
  rintro _ ⟨⟩
  exact holds

theorem follows_throw_bind {e : Error} :
    Follows g (step (throw e) >>= next) (throw e >>= next') post :=
  fun _ _ _ _ _ same => ⟨⟨rfl, rfl, rfl, rfl⟩, same, nofun⟩

theorem follows_throw {e : Error} : Follows g (step (throw e)) (throw e) post :=
  fun _ _ _ _ _ same => ⟨⟨rfl, rfl, rfl, rfl⟩, same, nofun⟩

/-- An unchecked step does what it does. -/
theorem follows_step {operation : Operation β} (kept : operation.Fixes Session.geometry)
    (yields : ∀ (σ : Type) [Link σ] [LawfulLink σ] (session : Session) (link : σ),
      session.geometry = g → operation.Ensures session link fun result _ _ _ =>
        ∀ value, result = .ok value → post value) :
    Follows g (step operation) operation post := by
  intro σ _ _ session link same
  refine ⟨?_, (kept σ session link).trans same, yields σ session link same⟩
  have run : (step operation).run = operation >>= fun value => pure (some value) := rfl
  rw [run, Operation.ensures_bind]
  unfold Operation.Ensures
  dsimp only
  cases ((operation.runIn session).run link).value.1 with
  | error e => exact ⟨rfl, rfl, rfl, rfl⟩
  | ok value => exact ⟨rfl, rfl, rfl, List.append_nil _⟩

theorem Follows.bind {first : Checked α} {first' : Operation α} {mid : α → Prop}
    (begun : Follows g first first' mid)
    (continued : ∀ value, mid value → Follows g (next value) (next' value) post) :
    Follows g (first >>= next) (first' >>= next') post := by
  intro σ _ _ session link same
  refine .bind (begun σ session link same) ?_ ?_
  · rintro e left after said ⟨checked, kept, -⟩
    refine ⟨?_, kept, nofun⟩
    rw [run_bind, Operation.ensures_bind]
    refine checked.mono ?_
    rintro _ _ _ _ ⟨rfl, rfl, rfl, rfl⟩
    exact ⟨rfl, rfl, rfl, rfl⟩
  · rintro value left after said ⟨checked, kept, holds⟩
    refine (continued value (holds value rfl) σ left after kept).mono ?_
    rintro result leftLast afterLast later ⟨checkedLast, keptLast, holdsLast⟩
    refine ⟨?_, keptLast, holdsLast⟩
    rw [run_bind, Operation.ensures_bind]
    refine checked.mono ?_
    rintro _ _ _ _ ⟨rfl, rfl, rfl, rfl⟩
    refine checkedLast.mono ?_
    rintro _ _ _ _ ⟨rfl, rfl, rfl, rfl⟩
    exact ⟨rfl, rfl, rfl, rfl⟩

theorem follows_step_bind {operation : Operation α} (kept : operation.Fixes Session.geometry)
    (continued : ∀ value, Follows g (next value) (next' value) post) :
    Follows g (step operation >>= next) (operation >>= next') post := by
  have begun : Follows g (step operation) operation fun _ => True :=
    follows_step kept fun _ _ _ _ _ _ _ _ => trivial
  exact begun.bind fun value _ => continued value

theorem follows_note_bind {notice : Notice} {next : Unit → Checked β} {next' : Unit → Operation β}
    (continued : Follows g (next ()) (next' ()) post) :
    Follows g (step (note notice) >>= next) (note notice >>= next') post :=
  follows_step_bind (Operation.fixes_ofQuery _) fun _ => continued

theorem follows_progress_bind {said : Progress} {next : Unit → Checked β}
    {next' : Unit → Operation β} (continued : Follows g (next ()) (next' ()) post) :
    Follows g (step (progress said) >>= next) (progress said >>= next') post :=
  follows_step_bind (Operation.fixes_ofQuery _) fun _ => continued

theorem follows_geometry_bind {next : Geometry → Checked β} {next' : Geometry → Operation β}
    (continued : g.Valid → Follows g (next g) (next' g) post) :
    Follows g (step geometry >>= next) (geometry >>= next') post := by
  intro σ _ _ session link same
  subst same
  exact continued session.valid σ session link rfl

theorem follows_require_bind {checked : Except Error α}
    (continued : ∀ value, checked = .ok value → Follows g (next value) (next' value) post) :
    Follows g (step (require checked) >>= next) (require checked >>= next') post := by
  cases checked with
  | error e => exact follows_throw_bind
  | ok value => exact continued value rfl

theorem follows_ite {condition : Prop} [Decidable condition] {first second : Checked β}
    {first' second' : Operation β} (yes : condition → Follows g first first' post)
    (no : ¬ condition → Follows g second second' post) :
    Follows g (if condition then first else second) (if condition then first' else second')
      post := by
  split
  · next holds => exact yes holds
  · next fails => exact no fails

end Rules

/-- No step changes the geometry. -/
theorem keeping : Operation.Working fun _ operation => operation.Fixes Session.geometry :=
  Operation.fixes_working fun _ _ => rfl

variable {g : Geometry}

/-- By induction on how many blocks are left: they are all on the device. -/
theorem findBlock_follows (valid : g.Valid) (start : Nat) {count block : Nat} (stats : WriteStats)
    (left : block + count ≤ g.totalBlocks) :
    Follows g (findBlock start count block stats) (Operation.findBlock start count block stats)
      fun found => found.1 < g.totalBlocks := by
  induction count generalizing block stats with
  | zero => exact follows_note_bind follows_throw
  | succ count ih =>
    have fits := valid.dimensions.fitsWords.nextBlock block (by omega)
    have later (stats : WriteStats) : Follows g (findBlock start count (block + 1) stats)
        (Operation.findBlock start count (block + 1) stats) fun found => found.1 < g.totalBlocks :=
      ih stats (by omega)
    refine follows_step_bind (keeping.isKnownBad block) fun bad => ?_
    refine follows_ite (fun _ => ?_) fun _ => ?_
    · refine follows_note_bind ?_
      rw [word_bind fits]
      exact later _
    · refine follows_progress_bind ?_
      refine follows_step_bind (keeping.eraseBlock block) fun status => ?_
      refine follows_ite (fun _ => ?_) fun _ => ?_
      · refine follows_note_bind ?_
        rw [word_bind fits]
        exact later _
      · refine follows_pure ?_
        show block < g.totalBlocks
        omega

theorem nextGoodBlock_follows {start : Nat} (stats : WriteStats)
    (onDevice : start ≤ g.totalBlocks) :
    Follows g (nextGoodBlock start stats) (Operation.nextGoodBlock start stats)
      fun found => found.1 < g.totalBlocks := by
  refine follows_geometry_bind fun valid => ?_
  rw [word_bind valid.dimensions.fitsWords.totalBlocks]
  exact findBlock_follows valid start stats (by omega)

/-- The next page and the next block are at most one past the last. -/
structure Within (g : Geometry) (cursor : WriteCursor) : Prop where
  page : cursor.page ≤ g.totalPages
  nextBlock : cursor.nextBlock ≤ g.totalBlocks

/-- Where a block is full a fresh one is taken, so there is always a page to write. -/
theorem advance_follows {cursor : WriteCursor} (within : Within g cursor) :
    Follows g (advance cursor) cursor.advance fun after =>
      Within g after ∧ after.page < g.totalPages := by
  refine follows_geometry_bind fun valid => ?_
  refine follows_ite (fun _ => ?_) fun inBlock => ?_
  · refine follows_ite (fun _ => ?_) fun _ => ?_
    · exact follows_note_bind follows_throw_bind
    · refine (nextGoodBlock_follows cursor.stats within.nextBlock).bind fun found onDevice => ?_
      obtain ⟨block, stats⟩ := found
      have fits := valid.dimensions.fitsWords
      dsimp only at onDevice ⊢
      rw [word_bind (fits.nextBlock block onDevice), word_bind (fits.firstPage block onDevice)]
      have first := valid.dimensions.firstPage_lt onDevice
      exact follows_pure ⟨⟨Nat.le_of_lt first, onDevice⟩, first⟩
  · refine follows_pure ⟨within, Nat.lt_of_le_of_ne within.page fun full => inBlock (.inr ?_)⟩
    rw [full, Geometry.totalPages_eq, Nat.mul_mod_left]

/-- By induction on the pieces. -/
theorem writePieces_follows (pieces : List (List UInt8)) {cursor : WriteCursor}
    (within : Within g cursor) :
    Follows g (writePieces pieces cursor) (Operation.writePieces pieces cursor) fun _ => True := by
  induction pieces generalizing cursor with
  | nil => exact follows_pure trivial
  | cons piece rest ih =>
    refine (advance_follows within).bind fun cursor reached => ?_
    refine follows_geometry_bind fun valid => ?_
    refine follows_step_bind (keeping.writePage _ _ _) fun stats => ?_
    refine follows_progress_bind ?_
    have fits : cursor.page + 1 < limit32 := by
      have pages := valid.dimensions.fitsWords.totalPages
      have inRange := reached.2
      omega
    rw [word_bind fits]
    exact ih ⟨reached.2, reached.1.nextBlock⟩

theorem writeImage_follows (indexPage : Nat) (data : List UInt8) :
    Follows g (writeImage indexPage data) (Operation.writeImage indexPage data) fun _ => True := by
  refine follows_geometry_bind fun valid => ?_
  refine follows_require_bind fun _ passed => ?_
  have fits := valid.dimensions.fitsWords
  have onDevice := Geometry.blockOf_lt (Geometry.lt_of_checkPage passed)
  have small : g.blockOf indexPage < limit32 := Nat.lt_trans onDevice fits.totalBlocks
  refine follows_step_bind keeping.requireWritable fun _ => ?_
  refine follows_step_bind (keeping.readMainArea indexPage) fun record => ?_
  refine follows_progress_bind ?_
  rw [word_bind small, word_bind (fits.nextBlock _ onDevice)]
  have within : Within g { nextBlock := g.blockOf indexPage + 1 } := ⟨Nat.zero_le _, onDevice⟩
  refine (writePieces_follows _ within).bind fun cursor _ => ?_
  refine follows_require_bind fun encoded _ => ?_
  refine follows_step_bind (keeping.eraseRequired _ _) fun stats => ?_
  refine follows_step_bind (keeping.writePage _ _ _) fun stats => ?_
  exact follows_progress_bind (follows_pure trivial)

/-- By induction on the pieces: there are no more of them than pages of the block. -/
theorem writeBlockPieces_follows {first : Nat} (pieces : List (List UInt8)) {done : Nat}
    (stats : WriteStats) (room : first + (done + pieces.length) < limit32) :
    Follows g (writeBlockPieces first pieces done stats)
      (Operation.writeBlockPieces first pieces done stats) fun _ => True := by
  induction pieces generalizing done stats with
  | nil => exact follows_pure trivial
  | cons piece rest ih =>
    rw [List.length_cons] at room
    have small : done < limit32 := by omega
    have fits : first + done < limit32 := by omega
    refine follows_geometry_bind fun _ => ?_
    rw [word_bind small, word_bind fits]
    refine follows_step_bind (keeping.writePage _ _ _) fun stats => ?_
    exact follows_progress_bind (ih stats (by omega))

theorem writeBlock_follows (block : Nat) (data : List UInt8) :
    Follows g (writeBlock block data) (Operation.writeBlock block data) fun _ => True := by
  refine follows_geometry_bind fun valid => ?_
  refine follows_require_bind fun _ passed => ?_
  have fits := valid.dimensions.fitsWords
  have onDevice := Geometry.lt_of_checkBlock passed
  rw [long_bind fits.blockSize]
  refine follows_ite (fun _ => follows_throw_bind) fun short => ?_
  have room : g.firstPage block + (0 + (chunks g.bytesPerPage data).length) < limit32 := by
    have pages : (chunks g.bytesPerPage data).length ≤ g.pagesPerBlock := by
      rw [length_chunks valid.dimensions.bytesPerPage]
      refine chunkCount_le valid.dimensions.bytesPerPage ?_
      rw [Nat.mul_comm]
      exact Nat.le_of_not_lt short
    have upTo := fits.pagesUpTo block onDevice
    omega
  dsimp only
  rw [word_bind (fits.firstPage block onDevice)]
  refine follows_step_bind keeping.requireWritable fun _ => ?_
  refine follows_step_bind (keeping.eraseRequired _ _) fun stats => ?_
  refine follows_progress_bind ?_
  refine (writeBlockPieces_follows _ stats room).bind fun stats _ => ?_
  exact follows_progress_bind (follows_pure trivial)

/-- By induction on how many pages are left. -/
theorem readPages_follows {count page : Nat} (past : List ImagePage) (done : Nat)
    (room : page + count < limit32) :
    Follows g (readPages count page past done) (Operation.readPages count page past done)
      fun _ => True := by
  induction count generalizing page past done with
  | zero => exact follows_pure trivial
  | succ count ih =>
    have fits : page + 1 < limit32 := by omega
    refine follows_geometry_bind fun _ => ?_
    refine follows_step_bind (keeping.loadPage page) fun _ => ?_
    refine follows_step_bind (Operation.fixes_readData _ _) fun raw => ?_
    refine follows_progress_bind ?_
    rw [word_bind fits]
    exact ih _ _ (by omega)

/-- By induction on the blocks, which all are on the device. -/
theorem readBlocks_follows (blocks : List Nat) (past : List ImagePage) (done : Nat)
    (onDevice : ∀ block ∈ blocks, block < g.totalBlocks) :
    Follows g (readBlocks blocks past done) (Operation.readBlocks blocks past done)
      fun _ => True := by
  induction blocks generalizing past done with
  | nil => exact follows_pure trivial
  | cons block rest ih =>
    obtain ⟨here, later⟩ := List.forall_mem_cons.mp onDevice
    refine follows_geometry_bind fun valid => ?_
    have fits := valid.dimensions.fitsWords
    rw [word_bind (fits.firstPage block here), word_bind (fits.pagesUpTo block here),
      Nat.add_sub_cancel_left]
    exact (readPages_follows past done (fits.pagesUpTo block here)).bind fun past _ =>
      ih past _ later

/-- However many blocks a page lists, and whatever their numbers, they hold no more bytes than a
64-bit number counts. -/
theorem listed_fits (valid : g.Valid) {record : List UInt8}
    (size : record.length = g.bytesPerPage) :
    let listed := (Index.decode record g.totalBlocks).length
    listed * g.pagesPerBlock < limit64 ∧ listed * g.blockSize < limit64 := by
  intro listed
  have dimensions := valid.dimensions
  have few : listed ≤ Geometry.columnLimit := by
    have entries : listed ≤ (Index.entries record).length := (List.takeWhile_prefix _).length_le
    rw [Index.length_entries, size] at entries
    have page : g.bytesPerPage ≤ g.rawPageSize := Nat.le_add_right _ _
    have raw := dimensions.rawPageSize
    have quarter := Nat.div_le_self g.bytesPerPage Index.entrySize
    omega
  have bytes : listed * g.blockSize < limit64 := by
    calc listed * g.blockSize ≤ Geometry.columnLimit * g.blockSize := Nat.mul_le_mul_right _ few
      _ ≤ Geometry.columnLimit * (limit16 * limit32) :=
        Nat.mul_le_mul_left _ (Nat.le_of_lt dimensions.blockSize_lt)
      _ < limit64 := by decide
  have pages : g.pagesPerBlock ≤ g.blockSize := Nat.le_mul_of_pos_left _ dimensions.bytesPerPage
  exact ⟨Nat.lt_of_le_of_lt (Nat.mul_le_mul_left _ pages) bytes, bytes⟩

theorem readImage_follows (indexPage : Nat) :
    Follows g (readImage indexPage) (Operation.readImage indexPage) fun _ => True := by
  refine follows_geometry_bind fun valid => ?_
  refine follows_require_bind fun _ passed => ?_
  refine follows_step_bind (keeping.loadPage indexPage) fun _ => ?_
  have fits := valid.dimensions.fitsWords
  have whole : Follows g (step (Operation.readData 0 (some g.bytesPerPage)))
      (Operation.readData 0 (some g.bytesPerPage)) fun record => record.length = g.bytesPerPage :=
    follows_step (Operation.fixes_readData _ _) fun σ _ _ session link _ =>
      Operation.length_readData 0 (some g.bytesPerPage) session link
  refine whole.bind fun record size => ?_
  obtain ⟨pages, bytes⟩ := listed_fits valid size
  dsimp only
  rw [long_bind pages]
  refine follows_progress_bind ?_
  rw [long_bind fits.blockSize, long_bind bytes]
  refine (readBlocks_follows _ [] 0 fun block => Index.lt_of_mem_decode).bind fun pages _ => ?_
  exact follows_pure trivial

/-- The checked version does not break off: it ends as the plain one does, in the same session, on
the same link and by the same transcript. -/
def Completes {σ : Type} [Link σ] (checked : Checked α) (plain : Operation α) (session : Session)
    (link : σ) : Prop :=
  let outcome := (plain.runIn session).run link
  (checked.run.runIn session).run link
    = ⟨(outcome.value.1.map some, outcome.value.2), outcome.link, outcome.transcript⟩

theorem Follows.completes {σ : Type} [Link σ] [LawfulLink σ] {checked : Checked α}
    {plain : Operation α} {post : α → Prop} (follows : Follows g checked plain post)
    {session : Session} (same : session.geometry = g) (link : σ) :
    checked.Completes plain session link := by
  have alike := (follows σ session link same).1
  unfold Completes
  unfold Operation.Ensures at alike
  generalize (checked.run.runIn session).run link = reached at alike ⊢
  obtain ⟨⟨ended, left⟩, after, said⟩ := reached
  obtain ⟨rfl, rfl, rfl, rfl⟩ := alike
  rfl

end Checked

/-- No page or block number of a device without a flaw is too large for its word. That goes for what
its geometry alone gives and for all that is computed on the way when a usable block is searched, an
image or a block is written or an image is read: whatever the arguments, the answers of the device
and the blocks that an index page lists, the versions that check each number they compute never
break off. -/
theorem Session.numbers_fit_words {σ : Type} [Link σ] [LawfulLink σ] {g : Geometry}
    (valid : g.Valid) :
    g.FitsWords ∧ ∀ (session : Session) (link : σ), session.geometry = g →
      (∀ start ≤ g.totalBlocks, ∀ stats, (Checked.nextGoodBlock start stats).Completes
        (Operation.nextGoodBlock start stats) session link) ∧
      (∀ indexPage data, (Checked.writeImage indexPage data).Completes
        (Operation.writeImage indexPage data) session link) ∧
      (∀ block data, (Checked.writeBlock block data).Completes
        (Operation.writeBlock block data) session link) ∧
      ∀ indexPage, (Checked.readImage indexPage).Completes
        (Operation.readImage indexPage) session link := by
  refine ⟨valid.dimensions.fitsWords, fun session link same => ⟨?_, ?_, ?_, ?_⟩⟩
  · intro start onDevice stats
    exact (Checked.nextGoodBlock_follows stats onDevice).completes same link
  · intro indexPage data
    exact (Checked.writeImage_follows indexPage data).completes same link
  · intro block data
    exact (Checked.writeBlock_follows block data).completes same link
  · intro indexPage
    exact (Checked.readImage_follows indexPage).completes same link

/-- Two devices with as many pages as any. On the one the last block fails to be erased; on the
other it is written up to the last page. -/
theorem Session.numbers_fit_words_largest :
    let g : Geometry :=
      { bytesPerPage := 65535, sparePerPage := 0, pagesPerBlock := 65537, blocksPerUnit := 65535
        unitCount := 1, rowCycles := 4, columnCycles := 2 }
    let narrow : Geometry :=
      { bytesPerPage := 1, sparePerPage := 0, pagesPerBlock := 3, blocksPerUnit := 1431655765
        unitCount := 1, rowCycles := 4, columnCycles := 2 }
    let writable : Script := { cues := [(⟨Opcode.readStatus, false⟩, [.answer [0xC0]])] }
    (∃ valid : g.Valid, g.totalPages + 1 = limit32 ∧
      g.firstPage 65534 + g.pagesPerBlock < limit32 ∧
      (Checked.writeBlock 65534 [1]).Completes (Operation.writeBlock 65534 [1])
        { geometry := g, config := {}, valid } ({} : Script)) ∧
    ∃ valid : narrow.Valid, narrow.totalPages + 1 = limit32 ∧
      let session : Session := { geometry := narrow, config := {}, valid }
      let written := ((Checked.writeBlock 1431655764 [0xFF, 0xFF, 0xFF]).run.runIn session).run
        writable
      written.value.1 = .ok (some { erased := 1, written := 3 }) ∧
        .write Opcode.programSetup (narrow.pageAddress (limit32 - 2)) [0xFF]
          ∈ Dialogue.frames written.transcript := by
  intro g narrow writable
  constructor
  · have valid : g.Valid := by decide
    obtain ⟨fits, completes⟩ := @numbers_fit_words Script _ _ g valid
    have pages : g.totalPages + 1 = limit32 := by decide
    have block : 65534 < g.totalBlocks := by decide
    refine ⟨valid, pages, fits.pagesUpTo 65534 block, ?_⟩
    exact (completes { geometry := g, config := {}, valid } {} rfl).2.2.1 65534 [1]
  · refine ⟨by decide, by decide, ?_⟩
    intro session written
    obtain ⟨-, completes⟩ := @numbers_fit_words Script _ _ narrow session.valid
    have completed : written = _ :=
      (completes session writable rfl).2.2.1 1431655764 [0xFF, 0xFF, 0xFF]
    rw [completed]
    decide +kernel

end OnfiFlash
