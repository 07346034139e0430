import OnfiFlash.Chip.Config
import OnfiFlash.Proofs.AddressFidelity
import OnfiFlash.Proofs.Device
import OnfiFlash.Proofs.GeometryAcceptance

/-! The parameter page of a chip states its layout: what a session reads from it is the layout
itself, as long as every number fits its place in the page. -/
namespace OnfiFlash

namespace Organization

theorem field_front (width value : Nat) (rest : List UInt8) :
    field (littleEndian width value ++ rest) 0 width = value % byteRange width := by
  rw [field, List.drop_zero, List.take_left' (length_littleEndian _ _), ofLittleEndian_littleEndian]

theorem field_behind {front rest : List UInt8} {offset width : Nat}
    (behind : front.length ≤ offset) :
    field (front ++ rest) offset width = field rest (offset - front.length) width := by
  rw [field, field, List.drop_append, List.drop_of_length_le behind, List.nil_append]

/-- What is read back of a stored block: each number cut to its place. -/
theorem decode_encode (o : Organization) (rest : List UInt8) :
    decode (o.encode ++ rest) = {
      bytesPerPage := o.bytesPerPage % limit32
      sparePerPage := o.sparePerPage % limit16
      bytesPerPartialPage := o.bytesPerPartialPage % limit32
      sparePerPartialPage := o.sparePerPartialPage % limit16
      pagesPerBlock := o.pagesPerBlock % limit32
      blocksPerUnit := o.blocksPerUnit % limit32
      unitCount := o.unitCount % limit8
      addressCycles := o.addressCycles % limit8 } := by
  simp [decode, encode, field_behind, field_front, byteRange, limit8, limit16, limit32]

@[simp] theorem length_encode (o : Organization) : o.encode.length = 22 := by
  simp only [encode, List.length_append, length_littleEndian]

end Organization

namespace Chip.Config

/-- Every number of the configuration fits its place in the parameter page. -/
structure Fits (c : Config) : Prop where
  bytesPerPage : c.bytesPerPage < limit32
  sparePerPage : c.sparePerPage < limit16
  pagesPerBlock : c.pagesPerBlock < limit32
  blocksPerUnit : c.blocksPerUnit < limit32
  unitCount : c.unitCount < limit8
  rowCycles : c.rowCycles < 16
  columnCycles : c.columnCycles < 16

def geometry (c : Config) : Geometry where
  bytesPerPage := c.bytesPerPage
  sparePerPage := c.sparePerPage
  pagesPerBlock := c.pagesPerBlock
  blocksPerUnit := c.blocksPerUnit
  unitCount := c.unitCount
  rowCycles := c.rowCycles
  columnCycles := c.columnCycles

/-- What a session can tell of a chip from its parameter page: its layout, and its names as far as
there is room for them. -/
def statement (c : Config) : Geometry := { c.geometry with
  vendor := Geometry.identifier (c.vendor.toUTF8.toList.take 12)
  model := Geometry.identifier (c.model.toUTF8.toList.take 20) }

/-- The numbers of a layout that can be addressed fit, if the units can be counted in one byte. -/
theorem Fits.of_valid {c : Config} (valid : c.geometry.Valid) (units : c.unitCount < limit8) :
    c.Fits := by
  obtain ⟨_, somePages, someBlocks, someUnits, cycles, page, pages⟩ := valid.dimensions
  simp only [Geometry.rawPageSize, Geometry.totalPages, geometry, Geometry.maxCycles,
    Geometry.columnLimit, Geometry.pageLimit] at *
  have blocks : c.pagesPerBlock * c.blocksPerUnit < limit32 :=
    Nat.lt_of_le_of_lt (Nat.le_mul_of_pos_right _ someUnits) pages
  constructor
  · simp only [limit32]
    omega
  · simp only [limit16]
    omega
  · exact Nat.lt_of_le_of_lt (Nat.le_mul_of_pos_right _ someBlocks) blocks
  · exact Nat.lt_of_le_of_lt (Nat.le_mul_of_pos_left _ somePages) blocks
  · exact units
  · omega
  · omega

@[simp] theorem length_identifierField (length : Nat) (name : String) :
    (identifierField length name).length = length := by
  simp only [identifierField, List.length_append, List.length_take, List.length_replicate]
  omega

/-- The sections of a parameter page, one behind the other. -/
theorem parameterPage_eq (c : Config) : ∃ lead gap rest, c.parameterPage
      = lead ++ (identifierField Geometry.vendorLength c.vendor
        ++ (identifierField Geometry.modelLength c.model
        ++ (gap ++ (c.organization.encode ++ rest)))) ∧
    lead.length = Geometry.vendorOffset ∧ gap.length = 16 ∧ rest.length = 154 := by
  have sections (lead gap : List UInt8) (leads : lead.length = Geometry.vendorOffset)
      (gaps : gap.length = 16) :
      let stated := lead ++ (identifierField Geometry.vendorLength c.vendor
        ++ identifierField Geometry.modelLength c.model) ++ gap ++ c.organization.encode
      ∃ rest, stated ++ List.replicate (Geometry.parameterPageLength - stated.length) 0
          = lead ++ (identifierField Geometry.vendorLength c.vendor
            ++ (identifierField Geometry.modelLength c.model
            ++ (gap ++ (c.organization.encode ++ rest)))) ∧
        rest.length = 154 := by
    intro stated
    refine ⟨List.replicate (Geometry.parameterPageLength - stated.length) 0, ?_, ?_⟩
    · simp only [stated, List.append_assoc]
    · simp [stated, leads, gaps, Geometry.parameterPageLength, Geometry.vendorOffset,
        Geometry.vendorLength, Geometry.modelLength]
  obtain ⟨rest, page, length⟩ := sections (Identification.signature ++ List.replicate 28 0)
    (List.replicate 16 0) rfl rfl
  exact ⟨_, _, rest, page, rfl, rfl, length⟩

theorem length_parameterPage (c : Config) :
    c.parameterPage.length = Geometry.parameterPageLength := by
  obtain ⟨lead, gap, rest, page, leads, gaps, length⟩ := c.parameterPage_eq
  simp [page, leads, gaps, length, Geometry.parameterPageLength, Geometry.vendorOffset,
    Geometry.vendorLength, Geometry.modelLength]

theorem SameLayout.statement {c other : Config} (layout : c.SameLayout other) :
    other.statement = c.statement := by
  rw [layout]
  rfl

theorem SameLayout.fits {c other : Config} (layout : c.SameLayout other) (fits : c.Fits) :
    other.Fits := by
  rw [layout]
  exact ⟨fits.bytesPerPage, fits.sparePerPage, fits.pagesPerBlock, fits.blocksPerUnit,
    fits.unitCount, fits.rowCycles, fits.columnCycles⟩

/-- Two counts of cycles share one byte. -/
theorem addressCycles_eq {row column : Nat} (lowRow : row < 16) (lowColumn : column < 16) :
    (UInt8.ofNat (column * 16) ||| UInt8.ofNat row).toNat = column * 16 + row := by
  rw [UInt8.toNat_or, UInt8.toNat_ofNat', UInt8.toNat_ofNat', Nat.mod_eq_of_lt (by omega),
    Nat.mod_eq_of_lt (by omega), Nat.mul_comm]
  exact (Nat.two_pow_add_eq_or_of_lt (i := 4) lowRow column).symm

end Chip.Config

namespace Geometry

/-- Spaces that fill up a name are no part of it. -/
theorem identifier_padded (name : List UInt8) (filler : Nat) :
    identifier (name ++ List.replicate filler 0x20) = identifier name := by
  induction filler with
  | zero => rw [List.replicate_zero, List.append_nil]
  | succ filler ih =>
    have last : name ++ List.replicate (filler + 1) (0x20 : UInt8)
        = name ++ List.replicate filler 0x20 ++ [0x20] := by
      rw [List.replicate_succ', List.append_assoc]
    rw [last, ← ih, identifier, identifier, List.reverse_concat]
    rfl

/-- A parameter page is read as it was written, as long as every number fits its place. -/
theorem ofParameterPage_parameterPage {c : Chip.Config} (fits : c.Fits) :
    ofParameterPage c.parameterPage = c.statement := by
  obtain ⟨lead, gap, rest, page, leads, gaps, -⟩ := c.parameterPage_eq
  have vendor : (c.parameterPage.drop vendorOffset).take vendorLength
      = Chip.Config.identifierField vendorLength c.vendor := by
    rw [page, List.drop_left' leads, List.take_left' (Chip.Config.length_identifierField _ _)]
  have model : (c.parameterPage.drop modelOffset).take modelLength
      = Chip.Config.identifierField modelLength c.model := by
    have place : (lead ++ Chip.Config.identifierField vendorLength c.vendor).length
        = modelOffset := by
      simp [leads, vendorOffset, vendorLength, modelOffset]
    rw [page, ← List.append_assoc, List.drop_left' place,
      List.take_left' (Chip.Config.length_identifierField _ _)]
  have block : c.parameterPage.drop organizationOffset = c.organization.encode ++ rest := by
    have place : (lead ++ (Chip.Config.identifierField vendorLength c.vendor
        ++ (Chip.Config.identifierField modelLength c.model ++ gap))).length
          = organizationOffset := by
      simp [leads, gaps, vendorOffset, vendorLength, modelLength, organizationOffset]
    have front : c.parameterPage = lead ++ (Chip.Config.identifierField vendorLength c.vendor
        ++ (Chip.Config.identifierField modelLength c.model ++ gap))
        ++ (c.organization.encode ++ rest) := by
      rw [page]
      simp only [List.append_assoc]
    rw [front, List.drop_left' place]
  have cycles := Chip.Config.addressCycles_eq fits.rowCycles fits.columnCycles
  obtain ⟨fitsPage, fitsSpare, fitsPages, fitsBlocks, fitsUnits, fewRow, fewColumn⟩ := fits
  have both : (c.columnCycles * 16 + c.rowCycles) % limit8 = c.columnCycles * 16 + c.rowCycles := by
    refine Nat.mod_eq_of_lt ?_
    simp only [limit8]
    omega
  have row : (c.columnCycles * 16 + c.rowCycles) % 16 = c.rowCycles := by omega
  have column : (c.columnCycles * 16 + c.rowCycles) / 16 = c.columnCycles := by omega
  rw [ofParameterPage, vendor, model, block, Organization.decode_encode]
  simp only [Chip.Config.organization, Chip.Config.identifierField, identifier_padded, cycles, both,
    row, column, Nat.mod_eq_of_lt, fitsPage, fitsSpare, fitsPages, fitsBlocks, fitsUnits]
  rfl

/-- What a chip states is its layout. -/
theorem statement_describes (c : Chip.Config) : c.statement.Describes c :=
  ⟨rfl, rfl, rfl, rfl, rfl, rfl, rfl⟩

end Geometry

namespace Geometry.Describes

variable {g : Geometry} {c : Chip.Config} (describes : g.Describes c)
include describes

theorem rowsCover (covers : c.geometry.RowsCover) : g.RowsCover := by
  have pages : c.geometry.totalPages = g.totalPages := by
    show c.pagesPerBlock * c.blocksPerUnit * c.unitCount = _
    rw [describes.pagesPerBlock, describes.blocksPerUnit, describes.unitCount, Geometry.totalPages]
  have cycles : c.geometry.rowCycles = g.rowCycles := describes.rowCycles
  rwa [RowsCover, pages, cycles] at covers

theorem addressed (some : 0 < c.columnCycles + c.rowCycles) : 0 < g.columnCycles + g.rowCycles := by
  rwa [describes.columnCycles, describes.rowCycles] at some

end Geometry.Describes

end OnfiFlash
