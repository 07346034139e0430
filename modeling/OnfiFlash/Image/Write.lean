import OnfiFlash.Image.Index
import OnfiFlash.Image.Page

/-! Writing: one page with retries, one block, and a whole image. An image goes page by page
into the good blocks after the block of the index page; then the block of the index page is
erased and the index page lists the blocks used. -/
namespace OnfiFlash.Operation

/-- Stop early on a write-protected device instead of failing every erase. -/
def requireWritable : Operation Unit := do
  if !(← readStatus).isWriteEnabled then
    note (.error "device is write protected")
    throw .writeProtected

/-- Program and verify a page once. Yields the failure if it may pass. -/
def tryPage (page : Nat) (data : List UInt8) : Operation (Option Error) :=
  tryCatch ((fun _ => none) <$> programVerified page data) fun e =>
    if e.isRetryable then return some e else throw e

/-- Program and verify a page, again after each failure that may pass, with `left` attempts
remaining after this one. -/
def writeAttempt (page : Nat) (data : List UInt8) (maxAttempts : Nat) :
    (left attempt : Nat) → WriteStats → Operation WriteStats
  | 0, attempt, stats => do
    match ← tryPage page data with
    | none => return { stats with written := stats.written + 1 }
    | some e => do
      let cause := e.message
      note (.error s!"page {page}: {cause} after {attempt} attempts")
      throw (.writeExhausted page attempt)
  | left + 1, attempt, stats => do
    match ← tryPage page data with
    | none => return { stats with written := stats.written + 1 }
    | some e => do
      let cause := e.message
      note (.warning s!"page {page}: {cause}, retrying ({attempt}/{maxAttempts})")
      progress (.retry page attempt e)
      writeAttempt page data maxAttempts left (attempt + 1)
        { stats with retries := stats.retries + 1 }

/-- Program and verify a page within the session's budget of attempts. -/
def writePage (page : Nat) (data : List UInt8) (stats : WriteStats) : Operation WriteStats := do
  let maxAttempts := max 1 (← get).config.maxWriteRetries
  writeAttempt page data maxAttempts (maxAttempts - 1) 1 stats

/-- Find and erase the first usable block among `count` blocks from `block` on. Bad blocks and
blocks that fail to erase are passed over. -/
def findBlock (start : Nat) : (count block : Nat) → WriteStats → Operation (Nat × WriteStats)
  | 0, _, _ => do
    note (.error s!"ran out of good blocks searching from block {start}")
    throw .outOfSpace
  | count + 1, block, stats => do
    if ← isKnownBad block then
      note (.warning s!"skipping bad block {block}")
      findBlock start count (block + 1) { stats with skipped := stats.skipped + 1 }
    else
      progress (.erasing block)
      let status ← eraseBlock block
      let stats := { stats with erased := stats.erased + 1 }
      if status.isError then
        note (.warning s!"skipping block {block} after failed erase")
        findBlock start count (block + 1) { stats with skipped := stats.skipped + 1 }
      else
        return (block, stats)

/-- Find and erase the first usable block from `start` on. -/
def nextGoodBlock (start : Nat) (stats : WriteStats) : Operation (Nat × WriteStats) := do
  let total := (← geometry).totalBlocks
  findBlock start (total - start) start stats

/-- Erase a block that has to be erased. -/
def eraseRequired (block : Nat) (stats : WriteStats) : Operation WriteStats := do
  progress (.erasing block)
  let status ← eraseBlock block
  if status.isError then
    throw (.eraseFailed block)
  return { stats with erased := stats.erased + 1 }

/-- Read the main area of a page; a page that fails to load counts as erased. -/
def readMainArea (page : Nat) : Operation (List UInt8) := do
  let size := (← geometry).bytesPerPage
  let loaded ← tryCatch (some <$> loadPage page) fun e => match e with
    | .read _ => do
      note (.warning s!"index page {page} unreadable, previous contents not kept")
      return none
    | e => throw e
  match loaded with
  | none => return List.replicate size erasedByte
  | some _ => readData 0 (some size)

/-- Where an image write stands. -/
structure WriteCursor where
  /-- The page to write next. -/
  page : Nat := 0
  /-- The block to search from when the current one is full. -/
  nextBlock : Nat
  /-- The blocks used so far, latest first. -/
  used : List Nat := []
  /-- The pages written so far. -/
  done : Nat := 0
  stats : WriteStats := {}

/-- Move to the start of a fresh block where the image begins or the current block is full. -/
def WriteCursor.advance (cursor : WriteCursor) : Operation WriteCursor := do
  let geometry ← geometry
  if cursor.done = 0 ∨ cursor.page % geometry.pagesPerBlock = 0 then
    let capacity := Index.capacity geometry.bytesPerPage
    if capacity ≤ cursor.used.length then
      note (.error s!"index page holds at most {capacity} blocks")
      throw .indexOverflow
    let (block, stats) ← nextGoodBlock cursor.nextBlock cursor.stats
    return { cursor with
      page := geometry.firstPage block
      nextBlock := block + 1
      used := block :: cursor.used
      stats }
  else
    return cursor

def writePieces : List (List UInt8) → WriteCursor → Operation WriteCursor
  | [], cursor => return cursor
  | piece :: rest, cursor => do
    let cursor ← cursor.advance
    let stats ← writePage cursor.page (Image.pageContents (← geometry) piece) cursor.stats
    let done := cursor.done + 1
    progress (.written done)
    writePieces rest { cursor with page := cursor.page + 1, done, stats }

/-- Write an image after the block of the index page and list the blocks used in the index
page, whose remaining contents are kept. Yields those blocks. -/
def writeImage (indexPage : Nat) (data : List UInt8) : Operation (List Nat) := do
  let geometry ← geometry
  require (geometry.checkPage indexPage)
  requireWritable
  let record ← readMainArea indexPage
  progress (.writing (chunkCount geometry.bytesPerPage data.length))
  let indexBlock := geometry.blockOf indexPage
  let cursor ← writePieces (chunks geometry.bytesPerPage data) { nextBlock := indexBlock + 1 }
  let used := cursor.used.reverse
  let record ← require (Index.encode used record)
  let stats ← eraseRequired indexBlock cursor.stats
  let stats ← writePage indexPage record stats
  progress (.complete stats)
  return used

/-- Program and verify the pieces of a block, one to a page from `page` on. -/
def writeBlockPieces (page : Nat) : List (List UInt8) → (done : Nat) → WriteStats →
    Operation WriteStats
  | [], _, stats => return stats
  | piece :: rest, done, stats => do
    let size := (← geometry).bytesPerPage
    let stats ← writePage (page + done) (Image.zeroPadded size piece) stats
    progress (.written (done + 1))
    writeBlockPieces page rest (done + 1) stats

/-- Erase a block and program data into it from its first page on. The last page is filled up
with zeros. -/
def writeBlock (block : Nat) (data : List UInt8) : Operation WriteStats := do
  let geometry ← geometry
  require (geometry.checkBlock block)
  if geometry.blockSize < data.length then
    throw .imageTooLarge
  requireWritable
  let stats ← eraseRequired block {}
  progress (.writing (chunkCount geometry.bytesPerPage data.length))
  let stats ← writeBlockPieces (geometry.firstPage block) (chunks geometry.bytesPerPage data) 0
    stats
  progress (.complete stats)
  return stats

end OnfiFlash.Operation
