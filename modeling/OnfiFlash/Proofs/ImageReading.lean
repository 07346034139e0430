import OnfiFlash.Proofs.ImageStorage
import OnfiFlash.Proofs.ReadBack
import OnfiFlash.Proofs.Undisturbed

/-! Reading an image. Unless a load is disturbed, all pages of the blocks that the index page lists
are read as they are; of an image that is stored, this gives back the image. -/
namespace OnfiFlash

namespace Operation

variable {base : Session} {d : Device}

theorem readPages_reads (reaches : base.geometry.Reaches) {count page : Nat}
    (past : List ImagePage) (done : Nat) (settles : d.Settles base.config.polling)
    (onDevice : page + count ≤ base.geometry.totalPages)
    (faultless : ∀ other ∈ List.range' page count, d.loadFaults other = none) :
    (readPages count page past done).Succeeds base d fun pages after =>
      pages = ((List.range' page count).map fun other =>
        base.geometry.readBack (d.flash.cells other)).reverse ++ past ∧
      after = { d with loaded := after.loaded } := by
  induction count generalizing d page past done with
  | zero => exact succeeds_pure ⟨rfl, rfl⟩
  | succ count ih =>
    rw [List.range'_succ] at faultless
    refine .of_serving fun describes sized => .geometry_bind ?_
    refine Succeeds.bind (loadPage_settled reaches (by omega) settles
      (faultless page List.mem_cons_self)) ?_
    rintro status _ ⟨-, rfl⟩
    have size : Image.markedLength base.geometry ≤ (d.flash.cells page).length := by
      rw [sized page, describes.rawPageSize]
      exact Image.markedLength_le _
    have fits : Image.markedLength base.geometry ≤ maxReadLength :=
      Nat.le_trans (Image.markedLength_le _) reaches.valid.dimensions.rawPageSize
    refine Succeeds.bind (readFront reaches.valid rfl fits size) ?_
    rintro _ _ ⟨rfl, rfl⟩
    refine effects_progress_bind ?_
    refine (ih (d := { d with loaded := some (d.flash.cells page, _) }) _ _ settles (by omega)
      fun other listed => faultless other (List.mem_cons_of_mem _ listed)).mono ?_
    rintro result after _ ⟨_, rfl, rfl, same⟩
    refine ⟨_, rfl, ?_, same⟩
    rw [List.range'_succ, List.map_cons, List.reverse_cons, List.append_assoc, Geometry.readBack,
      Chip.resized_of_le size]
    rfl

theorem readBlocks_reads (reaches : base.geometry.Reaches) {blocks : List Nat}
    (past : List ImagePage) (done : Nat) (settles : d.Settles base.config.polling)
    (onDevice : ∀ block ∈ blocks, block < base.geometry.totalBlocks)
    (faultless : ∀ page ∈ base.geometry.pagesOf blocks, d.loadFaults page = none) :
    (readBlocks blocks past done).Succeeds base d fun pages after =>
      pages = past.reverse ++ (base.geometry.pagesOf blocks).map (fun page =>
        base.geometry.readBack (d.flash.cells page)) ∧
      after = { d with loaded := after.loaded } := by
  induction blocks generalizing d past done with
  | nil => exact succeeds_pure ⟨by simp, rfl⟩
  | cons block rest ih =>
    rw [Geometry.pagesOf_cons] at faultless
    have inBlock : base.geometry.firstPage block + base.geometry.pagesPerBlock
        ≤ base.geometry.totalPages := by
      rw [Geometry.totalPages_eq, Geometry.firstPage, ← Nat.succ_mul]
      exact Nat.mul_le_mul_right _ (onDevice block List.mem_cons_self)
    refine .geometry_bind (Succeeds.bind (readPages_reads reaches past done settles inBlock
      fun page listed => faultless page (List.mem_append_left _ listed)) ?_)
    rintro _ after ⟨rfl, same⟩
    rw [same]
    refine (ih (d := { d with loaded := after.loaded }) _ _ settles
      (fun other listed => onDevice other (List.mem_cons_of_mem _ listed))
      fun page listed => faultless page (List.mem_append_right _ listed)).mono ?_
    rintro result last _ ⟨_, rfl, rfl, sameLast⟩
    refine ⟨_, rfl, ?_, sameLast⟩
    rw [Geometry.pagesOf_cons, List.map_append, List.reverse_append, List.reverse_reverse,
      List.append_assoc]

/-- The pages that reading an image runs through are those of the blocks that the index page
lists; the array stays as it is. -/
theorem readImage_reads (reaches : base.geometry.Reaches) {indexPage : Nat}
    (inRange : indexPage < base.geometry.totalPages) (settles : d.Settles base.config.polling)
    {blocks : List Nat}
    (listed : Index.decode ((d.flash.cells indexPage).take base.geometry.bytesPerPage)
      base.geometry.totalBlocks = blocks)
    (faultless : ∀ page, page = indexPage ∨ page ∈ base.geometry.pagesOf blocks →
      d.loadFaults page = none) :
    (readImage indexPage).Effects base d fun result after _ =>
      result = .ok ((trimBlankPages ((base.geometry.pagesOf blocks).map fun page =>
        base.geometry.readBack (d.flash.cells page))).flatMap ImagePage.main) ∧
      after.flash = d.flash := by
  refine .of_serving fun describes sized => .geometry_bind ?_
  refine .require_bind (Geometry.checkPage_eq inRange) ?_
  refine Succeeds.bind (loadPage_settled reaches inRange settles (faultless _ (.inl rfl))) ?_
  rintro status _ ⟨-, rfl⟩
  have size : base.geometry.bytesPerPage ≤ (d.flash.cells indexPage).length := by
    rw [sized indexPage, describes.rawPageSize]
    exact Nat.le_add_right _ _
  have fits : base.geometry.bytesPerPage ≤ maxReadLength :=
    Nat.le_trans (Nat.le_add_right _ _) reaches.valid.dimensions.rawPageSize
  refine Succeeds.bind (readFront reaches.valid rfl fits size) ?_
  rintro _ _ ⟨rfl, rfl⟩
  rw [listed]
  have onDevice : ∀ block ∈ blocks, block < base.geometry.totalBlocks :=
    fun block inList => Index.lt_of_mem_decode (listed ▸ inList)
  refine effects_progress_bind (Succeeds.bind (readBlocks_reads reaches [] 0 settles onDevice
    fun page inList => faultless page (.inr inList)) ?_)
  rintro _ after ⟨rfl, same⟩
  exact effects_pure ⟨rfl, by rw [same]⟩

end Operation

/-- The record of a stored image lists its blocks. -/
theorem Image.Stored.decode {g : Geometry} {flash : Flash} {indexPage : Nat}
    {pieces : List (List UInt8)} {used : List Nat} (dimensions : g.Dimensions)
    (stored : Image.Stored g flash indexPage pieces used) :
    Index.decode ((flash.cells indexPage).take g.bytesPerPage) g.totalBlocks = used := by
  obtain ⟨old, contents, length, encoded, here⟩ := stored.record
  have whole : contents.length = g.bytesPerPage := (Index.length_encode encoded).trans length
  have fits : contents.length ≤ g.rawPageSize := by
    rw [whole]
    exact Nat.le_add_right _ _
  have small : g.totalBlocks ≤ Index.sentinel := by
    have few := Nat.lt_of_le_of_lt dimensions.totalBlocks_le dimensions.totalPages
    exact Nat.le_of_lt_succ few
  rw [here, Geometry.storedPage_eq fits, List.take_left' whole]
  exact Index.decode_encode encoded small fun block listed => (stored.range block listed).2

namespace Operation

variable {base : Session} {d : Device}

/-- A stored image is read back, if its pages and the index page load. -/
theorem readImage_stored (reaches : base.geometry.Reaches) {indexPage : Nat}
    (inRange : indexPage < base.geometry.totalPages) (settles : d.Settles base.config.polling)
    {data : List UInt8} {used : List Nat}
    (stored : Image.Stored base.geometry d.flash indexPage
      (chunks base.geometry.bytesPerPage data) used)
    (faultless : ∀ page, page = indexPage ∨ page ∈ base.geometry.pagesOf used →
      d.loadFaults page = none) :
    (readImage indexPage).Effects base d fun result _ _ =>
      result = .ok (Image.returned base.geometry data) := by
  have dimensions := reaches.valid.dimensions
  refine (readImage_reads reaches inRange settles (stored.decode dimensions) faultless).mono ?_
  rintro result after said ⟨rfl, -⟩
  obtain ⟨room, contents⟩ := stored.contents
  rw [← Image.joined_readBack dimensions.bytesPerPage data room, ← contents, List.map_map]
  rfl

end Operation
end OnfiFlash
