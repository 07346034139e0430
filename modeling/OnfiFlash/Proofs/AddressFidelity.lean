import OnfiFlash.Frame
import OnfiFlash.Geometry.Address
import OnfiFlash.Proofs.GeometryLayout

/-! Which pages the address cycles of a device can tell apart. A flawless geometry does not
bound its pages by its row cycles; where it does, and only there, every page keeps its own
address. -/
namespace OnfiFlash

theorem byteRange_pos (width : Nat) : 0 < byteRange width := by
  induction width with
  | zero => exact Nat.zero_lt_one
  | succ width ih => simp only [byteRange]; omega

namespace Geometry

/-- The row cycles can count all pages of the device. -/
def RowsCover (g : Geometry) : Prop := g.totalPages ≤ byteRange g.rowCycles

instance (g : Geometry) : Decidable g.RowsCover := inferInstanceAs (Decidable (_ ≤ _))

@[simp] theorem length_rowAddress (g : Geometry) (page : Nat) :
    (g.rowAddress page).length = g.rowCycles := length_littleEndian _ _

@[simp] theorem length_pageAddress (g : Geometry) (page : Nat) :
    (g.pageAddress page).length = g.columnCycles + g.rowCycles := by
  simp [pageAddress, pageAddressAt]

/-- Every address of a page fits into a frame. -/
theorem Dimensions.pageAddress_le {g : Geometry} (dimensions : g.Dimensions) (page : Nat) :
    (g.pageAddress page).length ≤ Frame.maxAddressLength := by
  rw [length_pageAddress, Nat.add_comm]
  exact dimensions.cycles

theorem Dimensions.rowAddress_le {g : Geometry} (dimensions : g.Dimensions) (page : Nat) :
    (g.rowAddress page).length ≤ Frame.maxAddressLength := by
  rw [length_rowAddress]
  exact Nat.le_trans (Nat.le_add_right _ _) dimensions.cycles

theorem decodeRow_rowAddress {g : Geometry} (dimensions : g.Dimensions) {page : Nat}
    (inRange : page < g.totalPages) :
    decodeRow (g.rowAddress page) = page % byteRange g.rowCycles := by
  have short : (g.rowAddress page).length ≤ maxCycles := by
    have cycles := dimensions.cycles
    rw [length_rowAddress]
    omega
  have bounded : page % byteRange g.rowCycles < pageLimit :=
    Nat.lt_of_le_of_lt (Nat.mod_le _ _) (Nat.lt_trans inRange dimensions.totalPages)
  rw [decodeRow, List.take_of_length_le short, rowAddress, ofLittleEndian_littleEndian,
    Nat.mod_eq_of_lt bounded]

theorem RowsCover.decodeRow {g : Geometry} (covers : g.RowsCover) (dimensions : g.Dimensions)
    {page : Nat} (inRange : page < g.totalPages) :
    Geometry.decodeRow (g.rowAddress page) = page := by
  rw [decodeRow_rowAddress dimensions inRange, Nat.mod_eq_of_lt (Nat.lt_of_lt_of_le inRange covers)]

/-- Wider devices wrap around: the page just past the row cycles answers to the address of
page 0. -/
theorem decodeRow_wraps {g : Geometry} (dimensions : g.Dimensions) (narrow : ¬ g.RowsCover) :
    decodeRow (g.rowAddress (byteRange g.rowCycles)) = 0 := by
  have inRange : byteRange g.rowCycles < g.totalPages := Nat.lt_of_not_le narrow
  rw [decodeRow_rowAddress dimensions inRange, Nat.mod_self]

/-- A flawless geometry addresses each of its pages faithfully exactly if its row cycles cover
them: then every row address reads back as its page, and different pages have different row
addresses and different full addresses. -/
theorem addresses_faithful_iff (g : Geometry) (valid : g.Valid) :
    (∀ page, page < g.totalPages →
      decodeRow (g.rowAddress page) = page ∧
      ∀ other, other < g.totalPages → page ≠ other →
        g.rowAddress page ≠ g.rowAddress other ∧ g.pageAddress page ≠ g.pageAddress other) ↔
    g.RowsCover := by
  have dimensions := valid.dimensions
  constructor
  · intro faithful
    refine Decidable.byContradiction fun narrow => ?_
    have inRange : byteRange g.rowCycles < g.totalPages := Nat.lt_of_not_le narrow
    have kept := (faithful _ inRange).1
    rw [decodeRow_wraps dimensions narrow] at kept
    exact Nat.ne_of_lt (byteRange_pos g.rowCycles) kept
  · intro covers page inRange
    refine ⟨covers.decodeRow dimensions inRange, fun other otherInRange different => ?_⟩
    have rows : g.rowAddress page ≠ g.rowAddress other := by
      intro same
      apply different
      rw [← covers.decodeRow dimensions inRange, same, covers.decodeRow dimensions otherInRange]
    refine ⟨rows, fun same => rows ?_⟩
    simpa [pageAddress, pageAddressAt] using same

/-- A device of 512 pages that is addressed with the given number of row cycles. -/
def smallDevice (rowCycles : Nat) : Geometry where
  bytesPerPage := 512
  sparePerPage := 16
  pagesPerBlock := 32
  blocksPerUnit := 16
  unitCount := 1
  rowCycles
  columnCycles := 1

theorem addresses_faithful_two_rows :
    (smallDevice 2).Valid ∧ (smallDevice 2).RowsCover ∧
      Geometry.decodeRow ((smallDevice 2).rowAddress 256) = 256 ∧
      (smallDevice 2).pageAddress 256 ≠ (smallDevice 2).pageAddress 0 := by
  have faithful := (addresses_faithful_iff (smallDevice 2) (by decide)).mpr (by decide)
  obtain ⟨decoded, apart⟩ := faithful 256 (by decide)
  exact ⟨by decide, by decide, decoded, (apart 0 (by decide) (by decide)).2⟩

/-- With one row cycle nothing in the geometry counts as a flaw, but pages 0 and 256 share their
addresses. -/
theorem addresses_collide_one_row :
    (smallDevice 1).Valid ∧ 256 < (smallDevice 1).totalPages ∧
      Geometry.decodeRow ((smallDevice 1).rowAddress 256) = 0 ∧
      (smallDevice 1).rowAddress 256 = (smallDevice 1).rowAddress 0 ∧
      (smallDevice 1).pageAddress 256 = (smallDevice 1).pageAddress 0 := by
  decide

end Geometry
end OnfiFlash
