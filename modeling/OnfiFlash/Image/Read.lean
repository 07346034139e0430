import OnfiFlash.Image.Index
import OnfiFlash.Image.Page

/-! Reading an image back: every page of every block the index lists, without the trailing pages
that look erased and carry no mark. -/
namespace OnfiFlash

/-- A page of an image as read back. -/
structure ImagePage where
  main : List UInt8
  marked : Bool
deriving DecidableEq, Repr

/-- Is the page no part of an image? -/
def ImagePage.isBlank (page : ImagePage) : Bool := !page.marked && Image.isErased page.main

def trimBlankPages (pages : List ImagePage) : List ImagePage :=
  (pages.reverse.dropWhile ImagePage.isBlank).reverse

namespace Operation

/-- Read `count` pages from `page` on. `past` holds the pages read before, latest first. -/
def readPages : (count page : Nat) → (past : List ImagePage) → (done : Nat) →
    Operation (List ImagePage)
  | 0, _, past, _ => return past
  | count + 1, page, past, done => do
    let geometry ← geometry
    let _ ← loadPage page
    let raw ← readData 0 (some (Image.markedLength geometry))
    let read : ImagePage := ⟨raw.take geometry.bytesPerPage, Image.isMarked geometry raw⟩
    progress (.read (done + 1))
    readPages count (page + 1) (read :: past) (done + 1)

def readBlocks : List Nat → (past : List ImagePage) → (done : Nat) → Operation (List ImagePage)
  | [], past, _ => return past.reverse
  | block :: rest, past, done => do
    let geometry ← geometry
    let past ← readPages geometry.pagesPerBlock (geometry.firstPage block) past done
    readBlocks rest past (done + geometry.pagesPerBlock)

/-- Read back the image that the index page lists. -/
def readImage (indexPage : Nat) : Operation (List UInt8) := do
  let geometry ← geometry
  require (geometry.checkPage indexPage)
  let _ ← loadPage indexPage
  let record ← readData 0 (some geometry.bytesPerPage)
  let blocks := Index.decode record geometry.totalBlocks
  progress (.reading (blocks.length * geometry.pagesPerBlock))
  let pages ← readBlocks blocks [] 0
  return (trimBlankPages pages).flatMap ImagePage.main

end Operation
end OnfiFlash
