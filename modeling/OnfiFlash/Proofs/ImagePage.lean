import OnfiFlash.Chip.Step
import OnfiFlash.Image.Page
import OnfiFlash.Proofs.GeometryLayout

/-! What a page of an image is programmed to, and what it holds afterwards. -/
namespace OnfiFlash

/-- What a page holds that was programmed once since it was erased. -/
def Geometry.storedPage (g : Geometry) (data : List UInt8) : List UInt8 :=
  Chip.programmedCells (List.replicate g.rawPageSize erasedByte) 0 data

namespace Image

theorem length_zeroPadded {size : Nat} {data : List UInt8} (short : data.length ≤ size) :
    (zeroPadded size data).length = size := by
  simp only [zeroPadded, List.length_append, List.length_replicate]
  omega

theorem length_pageContents {g : Geometry} {piece : List UInt8}
    (short : piece.length ≤ g.bytesPerPage) :
    (pageContents g piece).length = markedLength g := by
  rw [pageContents, List.length_append, length_zeroPadded short, markBytes, markedLength]
  split <;> simp [Nat.add_assoc]

theorem markedLength_le (g : Geometry) : markedLength g ≤ g.rawPageSize := by
  rw [markedLength, Geometry.rawPageSize]
  split <;> simp only [markOffset] at * <;> omega

theorem pageContents_fits {g : Geometry} {piece : List UInt8}
    (short : piece.length ≤ g.bytesPerPage) : (pageContents g piece).length ≤ g.rawPageSize :=
  length_pageContents short ▸ markedLength_le g

end Image
end OnfiFlash
