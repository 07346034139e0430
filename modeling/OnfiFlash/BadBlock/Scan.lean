import OnfiFlash.Session.Page

/-! Bad-block detection. A good block carries a marker with most bits set in the first spare
byte of its first and of its last page. -/
namespace OnfiFlash

def bitCount (byte : UInt8) : Nat :=
  (List.range 8).countP fun i => byte.toNat.testBit i

/-- A marker with this many set bits or fewer marks its block as bad. -/
def markerThreshold : Nat := 4

/-- Does a marker, or its absence, condemn the block? -/
def condemns : Option UInt8 → Bool
  | some marker => bitCount marker ≤ markerThreshold
  | none => true

namespace Operation

/-- The marker of a page, or nothing if the device refuses to load the page. -/
def readMarker (page : Nat) : Operation (Option UInt8) := do
  let loaded ← tryCatch (some <$> loadPage page) fun e => match e with
    | .read page => do
      note (.warning s!"page {page} failed to load while reading bad block marker")
      return none
    | e => throw e
  match loaded with
  | none => return none
  | some _ =>
    let column := (← geometry).bytesPerPage
    return (← readData column (some 1)).head?

/-- Do the markers of the block, or a page that fails to load, condemn it? -/
def isBadBlock (block : Nat) : Operation Bool := do
  let geometry ← geometry
  require (geometry.checkBlock block)
  if condemns (← readMarker (geometry.firstPage block)) then
    return true
  return condemns (← readMarker (geometry.lastPage block))

/-- Check `count` blocks from `block` on; `bad` holds those found so far, latest first. -/
def scanFrom : (count block : Nat) → (bad : List Nat) → Operation (List Nat)
  | 0, _, bad => return bad.reverse
  | count + 1, block, bad => do
    if ← isBadBlock block then
      note (.warning s!"bad block {block}")
      scanFrom count (block + 1) (block :: bad)
    else
      scanFrom count (block + 1) bad

def scanDevice : Operation BadBlockTable := do
  let total := (← geometry).totalBlocks
  return .ofList (← scanFrom total 0 []) total

/-- The table of bad blocks, from a scan the first time and kept afterwards. -/
def badBlockTable : Operation BadBlockTable := do
  match (← get).badBlocks with
  | some table => return table
  | none =>
    let table ← scanDevice
    modify fun session => { session with badBlocks := some table }
    return table

/-- Is the block bad, by the table if there is one, else by its markers? -/
def isKnownBad (block : Nat) : Operation Bool := do
  match (← get).badBlocks with
  | some table => return table.isBad block
  | none => isBadBlock block

end Operation
end OnfiFlash
