import OnfiFlash.Geometry

/-! What a geometry without a flaw says, and where the pages of a block lie. -/
namespace OnfiFlash.Geometry

/-- All that a geometry without a flaw promises. -/
structure Dimensions (g : Geometry) : Prop where
  bytesPerPage : 0 < g.bytesPerPage
  pagesPerBlock : 0 < g.pagesPerBlock
  blocksPerUnit : 0 < g.blocksPerUnit
  unitCount : 0 < g.unitCount
  cycles : g.rowCycles + g.columnCycles ≤ maxCycles
  rawPageSize : g.rawPageSize ≤ columnLimit
  totalPages : g.totalPages < pageLimit

/-- A product that does not fit is none of a device with fewer pages than the limit. -/
theorem checkedPages_isNone_iff {g : Geometry} (some : 0 < g.unitCount) :
    g.checkedPages.isNone ↔ pageLimit ≤ g.totalPages := by
  have grows : g.pagesPerBlock * g.blocksPerUnit ≤ g.totalPages := Nat.le_mul_of_pos_right _ some
  by_cases fits : g.pagesPerBlock * g.blocksPerUnit < limit32
  · have product : g.checkedPages = checked32 g.totalPages := by
      rw [checkedPages, checked32, if_pos fits]
      rfl
    rw [product, checked32, pageLimit, ← Nat.not_lt]
    by_cases few : g.totalPages < limit32 <;> simp [few]
  · have none : g.checkedPages = none := by
      rw [checkedPages, checked32, if_neg fits]
      rfl
    have many : pageLimit ≤ g.totalPages := Nat.le_trans (Nat.le_of_not_lt fits) grows
    simp [none, many]

/-- A geometry is without a flaw just if it keeps all its promises. -/
theorem valid_iff {g : Geometry} : g.Valid ↔ g.Dimensions := by
  unfold Valid flaw?
  constructor
  · intro valid
    split at valid
    · cases valid
    · next nonempty =>
      split at valid
      · cases valid
      · next fewCycles =>
        split at valid
        · cases valid
        · next smallPage =>
          split at valid
          · cases valid
          · next fewPages =>
            rw [checkedPages_isNone_iff (by omega)] at fewPages
            constructor <;> omega
  · rintro ⟨somePage, somePages, someBlocks, someUnits, cycles, page, pages⟩
    rw [if_neg (by omega), if_neg (by omega), if_neg (by omega), if_neg]
    rw [checkedPages_isNone_iff someUnits]
    omega

theorem Valid.dimensions {g : Geometry} (valid : g.Valid) : g.Dimensions := valid_iff.mp valid

theorem checkPage_eq {g : Geometry} {page : Nat} (inRange : page < g.totalPages) :
    g.checkPage page = .ok () := if_pos inRange

theorem checkPage_eq_error {g : Geometry} {page : Nat} (beyond : ¬ page < g.totalPages) :
    g.checkPage page = .error .addressOutOfRange := if_neg beyond

theorem checkBlock_eq {g : Geometry} {block : Nat} (onDevice : block < g.totalBlocks) :
    g.checkBlock block = .ok () := if_pos onDevice

theorem checkBlock_eq_error {g : Geometry} {block : Nat} (beyond : ¬ block < g.totalBlocks) :
    g.checkBlock block = .error .addressOutOfRange := if_neg beyond

theorem lt_of_checkPage {g : Geometry} {page : Nat} (passed : g.checkPage page = .ok ()) :
    page < g.totalPages := by
  by_cases inRange : page < g.totalPages
  · exact inRange
  · rw [checkPage_eq_error inRange] at passed
    cases passed

theorem lt_of_checkBlock {g : Geometry} {block : Nat} (passed : g.checkBlock block = .ok ()) :
    block < g.totalBlocks := by
  by_cases onDevice : block < g.totalBlocks
  · exact onDevice
  · rw [checkBlock_eq_error onDevice] at passed
    cases passed

theorem totalPages_eq (g : Geometry) : g.totalPages = g.totalBlocks * g.pagesPerBlock := by
  simp only [totalPages, totalBlocks]
  ac_rfl

theorem Dimensions.totalBlocks_le {g : Geometry} (dimensions : g.Dimensions) :
    g.totalBlocks ≤ g.totalPages := by
  rw [totalPages_eq]
  exact Nat.le_mul_of_pos_right _ dimensions.pagesPerBlock

theorem blockOf_lt {g : Geometry} {page : Nat} (inRange : page < g.totalPages) :
    g.blockOf page < g.totalBlocks := by
  rw [totalPages_eq] at inRange
  exact Nat.div_lt_of_lt_mul (by rwa [Nat.mul_comm] at inRange)

theorem blockOf_firstPage_add (g : Geometry) (block : Nat) {offset : Nat}
    (inBlock : offset < g.pagesPerBlock) : g.blockOf (g.firstPage block + offset) = block := by
  rw [blockOf, firstPage, Nat.mul_comm, Nat.mul_add_div (by omega), Nat.div_eq_of_lt inBlock]
  rfl

theorem firstPage_add_lt {g : Geometry} {block offset : Nat} (onDevice : block < g.totalBlocks)
    (inBlock : offset < g.pagesPerBlock) : g.firstPage block + offset < g.totalPages := by
  rw [totalPages_eq]
  calc g.firstPage block + offset < g.firstPage block + g.pagesPerBlock := by omega
    _ = (block + 1) * g.pagesPerBlock := by rw [firstPage, Nat.succ_mul]
    _ ≤ g.totalBlocks * g.pagesPerBlock := Nat.mul_le_mul_right _ onDevice

theorem Dimensions.firstPage_lt {g : Geometry} (dimensions : g.Dimensions) {block : Nat}
    (onDevice : block < g.totalBlocks) : g.firstPage block < g.totalPages :=
  firstPage_add_lt onDevice dimensions.pagesPerBlock

theorem Dimensions.lastPage_eq {g : Geometry} (dimensions : g.Dimensions) (block : Nat) :
    ∃ offset, offset < g.pagesPerBlock ∧ g.lastPage block = g.firstPage block + offset := by
  have positive := dimensions.pagesPerBlock
  refine ⟨g.pagesPerBlock - 1, by omega, ?_⟩
  rw [lastPage, Nat.add_sub_assoc positive]

theorem Dimensions.lastPage_lt {g : Geometry} (dimensions : g.Dimensions) {block : Nat}
    (onDevice : block < g.totalBlocks) : g.lastPage block < g.totalPages := by
  obtain ⟨offset, inBlock, same⟩ := dimensions.lastPage_eq block
  rw [same]
  exact firstPage_add_lt onDevice inBlock

theorem Dimensions.blockOf_lastPage {g : Geometry} (dimensions : g.Dimensions) (block : Nat) :
    g.blockOf (g.lastPage block) = block := by
  obtain ⟨offset, inBlock, same⟩ := dimensions.lastPage_eq block
  rw [same]
  exact g.blockOf_firstPage_add block inBlock

end OnfiFlash.Geometry
