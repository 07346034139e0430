import OnfiFlash.Image.Read
import OnfiFlash.Proofs.ImagePage
import OnfiFlash.Proofs.PageWriting
import OnfiFlash.Proofs.Pieces

/-! Image pages read back. What was programmed into an erased page comes back as it was, with its
mark; an erased page comes back blank, and blank pages behind an image are dropped. -/
namespace OnfiFlash

theorem erasedByte_and (byte : UInt8) : erasedByte &&& byte = byte :=
  UInt8.neg_one_and

/-- Programming an erased page stores the data itself. -/
theorem Chip.programmedCells_erased {size : Nat} {data : List UInt8} (fits : data.length ≤ size) :
    programmedCells (List.replicate size erasedByte) 0 data
      = data ++ List.replicate (size - data.length) erasedByte := by
  rw [programmedCells_front, List.drop_replicate]
  congr 1
  induction data generalizing size with
  | nil => simp
  | cons byte rest ih =>
    obtain ⟨fewer, rfl⟩ : ∃ fewer, size = fewer + 1 :=
      Nat.exists_eq_succ_of_ne_zero (Nat.ne_of_gt (Nat.lt_of_lt_of_le (Nat.succ_pos _) fits))
    rw [List.replicate_succ, List.zipWith_cons_cons, erasedByte_and,
      ih (Nat.le_of_succ_le_succ fits)]

theorem Geometry.storedPage_eq {g : Geometry} {data : List UInt8}
    (fits : data.length ≤ g.rawPageSize) :
    g.storedPage data = data ++ List.replicate (g.rawPageSize - data.length) erasedByte :=
  Chip.programmedCells_erased fits

/-- A page of an image as its cells are read back. -/
def Geometry.readBack (g : Geometry) (cells : List UInt8) : ImagePage :=
  let raw := Chip.resized (Image.markedLength g) erasedByte cells
  ⟨raw.take g.bytesPerPage, Image.isMarked g raw⟩

namespace Image

variable {g : Geometry}

theorem isMarked_pageContents {piece : List UInt8} (short : piece.length ≤ g.bytesPerPage) :
    isMarked g (pageContents g piece) = decide (markOffset < g.sparePerPage) := by
  have found : (pageContents g piece)[g.bytesPerPage + markOffset]?
      = (markBytes g)[markOffset]? := by
    rw [pageContents, List.getElem?_append_right (by rw [length_zeroPadded short]; omega),
      length_zeroPadded short, Nat.add_sub_cancel_left]
  rw [isMarked, found, markBytes]
  by_cases wide : markOffset < g.sparePerPage
  · rw [if_pos wide, decide_eq_true wide]
    decide
  · rw [if_neg wide, decide_eq_false wide]
    rfl

theorem readBack_storedPage {piece : List UInt8} (short : piece.length ≤ g.bytesPerPage) :
    g.readBack (g.storedPage (pageContents g piece))
      = ⟨zeroPadded g.bytesPerPage piece, decide (markOffset < g.sparePerPage)⟩ := by
  have length := length_pageContents short
  have fits := pageContents_fits short
  have raw : Chip.resized (markedLength g) erasedByte (g.storedPage (pageContents g piece))
      = pageContents g piece := by
    rw [Geometry.storedPage_eq fits, Chip.resized_of_le (by rw [List.length_append]; omega),
      List.take_left' length]
  simp only [Geometry.readBack, raw, isMarked_pageContents short]
  rw [pageContents, List.take_left' (length_zeroPadded short)]

theorem readBack_erased :
    g.readBack (List.replicate g.rawPageSize erasedByte)
      = ⟨List.replicate g.bytesPerPage erasedByte, false⟩ := by
  have least : g.bytesPerPage ≤ markedLength g := by
    rw [markedLength]
    split <;> omega
  have raw : Chip.resized (markedLength g) erasedByte (List.replicate g.rawPageSize erasedByte)
      = List.replicate (markedLength g) erasedByte := by
    rw [Chip.resized_of_le (by rw [List.length_replicate]; exact markedLength_le g),
      List.take_replicate, Nat.min_eq_left (markedLength_le g)]
  have unmarked : isMarked g (List.replicate (markedLength g) erasedByte) = false := by
    rw [isMarked, List.getElem?_replicate]
    split
    · next byte found =>
      split at found
      · cases found
        decide
      · cases found
    · rfl
  simp only [Geometry.readBack, raw, unmarked, List.take_replicate, Nat.min_eq_left least]

def padded (size : Nat) (data : List UInt8) : List UInt8 :=
  zeroPadded (chunkCount size data.length * size) data

/-- Data without the pages at its end that look erased. -/
def withoutErasedTail (size : Nat) (data : List UInt8) : List UInt8 :=
  ((chunks size data).reverse.dropWhile isErased).reverse.flatten

/-- What reading an image back returns: with a mark on its pages all of it, filled up to whole
pages. -/
def returned (g : Geometry) (data : List UInt8) : List UInt8 :=
  if markOffset < g.sparePerPage then padded g.bytesPerPage data
  else withoutErasedTail g.bytesPerPage (padded g.bytesPerPage data)

theorem padded_cut {size : Nat} (positive : 0 < size) {data : List UInt8} (nonempty : data ≠ []) :
    padded size data = zeroPadded size (data.take size) ++ padded size (data.drop size) := by
  have some := List.length_pos_iff.mpr nonempty
  simp only [padded, zeroPadded, List.length_drop, List.length_take, chunkCount_succ positive some,
    Nat.succ_mul]
  rcases Nat.le_total data.length size with short | long
  · rw [List.take_of_length_le short, List.drop_of_length_le short, Nat.sub_eq_zero_of_le short,
      chunkCount_zero positive, Nat.min_eq_right short]
    simp
  · have left : chunkCount size (data.length - size) * size + size - data.length
        = chunkCount size (data.length - size) * size - (data.length - size) := by omega
    rw [Nat.min_eq_left long, Nat.sub_self, List.replicate_zero, List.append_nil, left,
      ← List.append_assoc, List.take_append_drop]

/-- Filling up the whole is filling up each piece. -/
theorem chunks_padded {size : Nat} (positive : 0 < size) (data : List UInt8) :
    chunks size (padded size data) = (chunks size data).map (zeroPadded size) := by
  induction length : data.length using Nat.strongRecOn generalizing data with
  | ind length ih =>
    subst length
    by_cases empty : data = []
    · subst empty
      simp [padded, chunkCount_zero positive, zeroPadded, chunks]
    · have some := List.length_pos_iff.mpr empty
      have full : (zeroPadded size (data.take size)).length = size :=
        length_zeroPadded (List.length_take_le _ _)
      rw [padded_cut positive empty, chunks_append positive full, chunks_cons positive empty,
        List.map_cons, ih _ (by rw [List.length_drop]; omega) _ rfl]

end Image

theorem trimBlankPages_append {pages blank : List ImagePage}
    (erased : ∀ page ∈ blank, page.isBlank = true) :
    trimBlankPages (pages ++ blank) = trimBlankPages pages := by
  rw [trimBlankPages, List.reverse_append, List.dropWhile_append_of_pos]
  · rfl
  · exact fun page listed => erased page (List.mem_reverse.mp listed)

theorem trimBlankPages_marked (mains : List (List UInt8)) :
    trimBlankPages (mains.map fun main => ⟨main, true⟩) = mains.map fun main => ⟨main, true⟩ := by
  rw [trimBlankPages, ← List.map_reverse, List.dropWhile_map]
  have none : mains.reverse.dropWhile (ImagePage.isBlank ∘ fun main => ⟨main, true⟩)
      = mains.reverse := by
    cases mains.reverse with
    | nil => rfl
    | cons last earlier => exact List.dropWhile_cons_of_neg Bool.false_ne_true
  rw [none, ← List.map_reverse, List.reverse_reverse]

theorem trimBlankPages_unmarked (mains : List (List UInt8)) :
    trimBlankPages (mains.map fun main => ⟨main, false⟩)
      = ((mains.reverse.dropWhile Image.isErased).reverse).map fun main => ⟨main, false⟩ := by
  rw [trimBlankPages, ← List.map_reverse, List.dropWhile_map, List.map_reverse]
  rfl

/-- The pages of an image and erased ones behind them, read back and joined. -/
theorem Image.joined_readBack {g : Geometry} (positive : 0 < g.bytesPerPage) (data : List UInt8)
    (room : Nat) :
    (trimBlankPages ((((chunks g.bytesPerPage data).map fun piece =>
        g.storedPage (pageContents g piece))
      ++ List.replicate room (List.replicate g.rawPageSize erasedByte)).map g.readBack)).flatMap
        ImagePage.main = returned g data := by
  have blank : ∀ page ∈ List.replicate room (g.readBack (List.replicate g.rawPageSize erasedByte)),
      page.isBlank = true := by
    intro page listed
    rw [List.eq_of_mem_replicate listed, readBack_erased]
    simp [ImagePage.isBlank, isErased]
  have pieces : ((chunks g.bytesPerPage data).map fun piece =>
      g.storedPage (pageContents g piece)).map g.readBack
        = (chunks g.bytesPerPage (padded g.bytesPerPage data)).map fun main =>
          ⟨main, decide (markOffset < g.sparePerPage)⟩ := by
    rw [chunks_padded positive, List.map_map, List.map_map]
    exact List.map_congr_left fun piece listed =>
      readBack_storedPage (length_le_of_mem_chunks _ _ piece listed)
  rw [List.map_append, List.map_replicate, trimBlankPages_append blank, pieces, returned]
  by_cases wide : markOffset < g.sparePerPage
  · rw [if_pos wide, decide_eq_true wide, trimBlankPages_marked, List.flatMap_map, List.flatMap_id']
    exact flatten_chunks positive _
  · rw [if_neg wide, decide_eq_false wide, trimBlankPages_unmarked, List.flatMap_map,
      List.flatMap_id']
    rfl

end OnfiFlash
