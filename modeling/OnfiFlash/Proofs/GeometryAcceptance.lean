import OnfiFlash.Chip.Step
import OnfiFlash.Proofs.Ensures
import OnfiFlash.Proofs.GeometryLayout
import OnfiFlash.Session.Identify

/-! Which parameter pages are accepted. A page speaks for itself through the bytes that name the
device and the numbers of its memory organization block; nothing else in it counts. -/
namespace OnfiFlash

/-- Bytes that agree at every place of a range are the same range. -/
theorem take_drop_congr {bytes other : List UInt8} {offset width : Nat}
    (same : ∀ place, offset ≤ place → place < offset + width → bytes[place]? = other[place]?) :
    (bytes.drop offset).take width = (other.drop offset).take width := by
  refine List.ext_getElem? fun place => ?_
  rw [List.getElem?_take, List.getElem?_take]
  split
  · next inside =>
    rw [List.getElem?_drop, List.getElem?_drop]
    exact same _ (Nat.le_add_right _ _) (Nat.add_lt_add_left inside _)
  · rfl

namespace Organization

theorem field_drop (bytes : List UInt8) (start offset width : Nat) :
    field (bytes.drop start) offset width = field bytes (start + offset) width := by
  rw [field, field, List.drop_drop]

theorem field_congr {bytes other : List UInt8} {offset width : Nat}
    (same : ∀ place, offset ≤ place → place < offset + width → bytes[place]? = other[place]?) :
    field bytes offset width = field other offset width :=
  congrArg ofLittleEndian (take_drop_congr same)

end Organization

namespace Geometry

theorem ofParameterPage_eq (page : List UInt8) : ofParameterPage page = {
    vendor := identifier ((page.drop 32).take 12)
    model := identifier ((page.drop 44).take 20)
    bytesPerPage := Organization.field page 80 4
    sparePerPage := Organization.field page 84 2
    pagesPerBlock := Organization.field page 92 4
    blocksPerUnit := Organization.field page 96 4
    unitCount := Organization.field page 100 1
    rowCycles := Organization.field page 101 1 % 16
    columnCycles := Organization.field page 101 1 / 16 } := by
  simp only [ofParameterPage, Organization.decode, Organization.field_drop]
  rfl

theorem parse_eq_ok_iff {page : List UInt8} {g : Geometry} :
    parse page = .ok g ↔
      parameterPageLength ≤ page.length ∧ (ofParameterPage page).Valid ∧
        ofParameterPage page = g := by
  unfold parse Valid
  by_cases short : page.length < parameterPageLength
  · simp [short, Nat.not_le_of_lt short]
  · simp only [short, if_false, Nat.le_of_not_lt short, true_and]
    cases (ofParameterPage page).flaw? <;> simp

/-- The places of a parameter page that say something about the device. -/
def States (place : Nat) : Prop :=
  32 ≤ place ∧ place < 64 ∨ 80 ≤ place ∧ place < 86 ∨ 92 ≤ place ∧ place < 102

instance (place : Nat) : Decidable (States place) := inferInstanceAs (Decidable (_ ∨ _))

/-- Nothing else in a page counts. -/
theorem ofParameterPage_congr {page other : List UInt8}
    (same : ∀ place, States place → page[place]? = other[place]?) :
    ofParameterPage page = ofParameterPage other := by
  have name {offset width : Nat}
      (within : ∀ place, offset ≤ place → place < offset + width → States place) :
      identifier ((page.drop offset).take width) = identifier ((other.drop offset).take width) :=
    congrArg identifier
      (take_drop_congr fun place past before => same place (within place past before))
  have number {offset width : Nat}
      (within : ∀ place, offset ≤ place → place < offset + width → States place) :
      Organization.field page offset width = Organization.field other offset width :=
    Organization.field_congr fun place past before => same place (within place past before)
  rw [ofParameterPage_eq, ofParameterPage_eq, name, name, number, number, number, number, number,
    number]
  all_goals
    intro place past before
    unfold States
    omega

end Geometry

namespace Query

variable {σ : Type} [Link σ]

/-- A page is accepted for what it states, or refused. -/
theorem ensures_parseGeometry (page : List UInt8) (link : σ) :
    (parseGeometry page).Ensures link fun result after said =>
      after = link ∧ Dialogue.frames said = [] ∧
      result =
        if Geometry.parameterPageLength ≤ page.length ∧ (Geometry.ofParameterPage page).Valid then
          .ok (Geometry.ofParameterPage page)
        else
          .error .protocol := by
  unfold parseGeometry
  by_cases accepted :
      Geometry.parameterPageLength ≤ page.length ∧ (Geometry.ofParameterPage page).Valid
  · rw [Geometry.parse_eq_ok_iff.mpr ⟨accepted.1, accepted.2, rfl⟩, if_pos accepted]
    exact ⟨rfl, rfl, rfl⟩
  · rw [if_neg accepted]
    cases parsed : Geometry.parse page with
    | ok g =>
      obtain ⟨long, valid, -⟩ := Geometry.parse_eq_ok_iff.mp parsed
      exact absurd ⟨long, valid⟩ accepted
    | error flaw => exact ⟨rfl, rfl, rfl⟩

/-- A parameter page is accepted exactly if it is long enough, no dimension is zero, a page fits a
column address, a full address fits a frame, and the pages can be counted in 32 bits; it is then
accepted for just the numbers and names it states. No other byte of it makes a difference. -/
theorem parseGeometry_accepts (page : List UInt8) (link : σ) :
    let number := Organization.field page
    ((parseGeometry page).Ensures link fun result after said =>
      after = link ∧ Dialogue.frames said = [] ∧
      result =
        if 256 ≤ page.length ∧ 0 < number 80 4 ∧ 0 < number 92 4 ∧ 0 < number 96 4 ∧
            0 < number 100 1 ∧ number 80 4 + number 84 2 ≤ 65535 ∧
            number 101 1 % 16 + number 101 1 / 16 ≤ 8 ∧
            number 92 4 * number 96 4 * number 100 1 < limit32 then
          .ok {
            vendor := Geometry.identifier ((page.drop 32).take 12)
            model := Geometry.identifier ((page.drop 44).take 20)
            bytesPerPage := number 80 4
            sparePerPage := number 84 2
            pagesPerBlock := number 92 4
            blocksPerUnit := number 96 4
            unitCount := number 100 1
            rowCycles := number 101 1 % 16
            columnCycles := number 101 1 / 16 }
        else
          .error .protocol) ∧
    ∀ other : List UInt8, (256 ≤ page.length ↔ 256 ≤ other.length) →
      (∀ place, Geometry.States place → page[place]? = other[place]?) →
        ((parseGeometry other).run.run link).value = ((parseGeometry page).run.run link).value := by
  intro number
  have accepts (page : List UInt8) := ensures_parseGeometry page link
  refine ⟨?_, fun other long same => ?_⟩
  · have valid : (Geometry.ofParameterPage page).Valid ↔
        0 < number 80 4 ∧ 0 < number 92 4 ∧ 0 < number 96 4 ∧ 0 < number 100 1 ∧
          number 80 4 + number 84 2 ≤ 65535 ∧ number 101 1 % 16 + number 101 1 / 16 ≤ 8 ∧
          number 92 4 * number 96 4 * number 100 1 < limit32 := by
      rw [Geometry.valid_iff, Geometry.ofParameterPage_eq]
      constructor
      · intro dimensions
        exact ⟨dimensions.bytesPerPage, dimensions.pagesPerBlock, dimensions.blocksPerUnit,
          dimensions.unitCount, dimensions.rawPageSize, dimensions.cycles, dimensions.totalPages⟩
      · rintro ⟨somePage, somePages, someBlocks, someUnits, columns, cycles, pages⟩
        exact ⟨somePage, somePages, someBlocks, someUnits, cycles, columns, pages⟩
    refine (accepts page).mono fun result after said ⟨same, silent, found⟩ => ?_
    refine ⟨same, silent, found.trans ?_⟩
    have stated := Geometry.ofParameterPage_eq page
    exact ite_congr (propext (and_congr_right fun _ => valid)) (fun _ => congrArg _ stated)
      fun _ => rfl
  · have alike : Geometry.ofParameterPage page = Geometry.ofParameterPage other :=
      Geometry.ofParameterPage_congr same
    refine (accepts other).2.2.trans (Eq.trans ?_ (accepts page).2.2.symm)
    rw [alike]
    exact ite_congr (propext (and_congr_left fun _ => long.symm)) (fun _ => rfl) fun _ => rfl

/-- The parameter page of a chip is accepted, also with other bytes behind what it states and with
one byte more. -/
theorem parseGeometry_accepts_longer :
    let page := Chip.Config.parameterPage {}
    let other := page.set 200 0x5A ++ [0xA5]
    (256 ≤ page.length ↔ 256 ≤ other.length) ∧
    (∀ place, Geometry.States place → page[place]? = other[place]?) ∧ page ≠ other ∧
    ((parseGeometry other).run.run (Chip.ofConfig {})).value
      = .ok (Geometry.ofParameterPage page) := by
  intro page other
  have length : page.length = 256 := by decide +kernel
  have long : 256 ≤ page.length ↔ 256 ≤ other.length := by
    simp only [other, List.length_append, List.length_set, length]
    decide
  have same (place : Nat) (states : Geometry.States place) : page[place]? = other[place]? := by
    have early : place < 200 := by
      unfold Geometry.States at states
      omega
    have within : place < (page.set 200 0x5A).length := by
      rw [List.length_set, length]
      omega
    rw [List.getElem?_append_left within, List.getElem?_set_ne (Nat.ne_of_gt early)]
  obtain ⟨accepted, alike⟩ := parseGeometry_accepts page (Chip.ofConfig {})
  refine ⟨long, same, fun equal => ?_, (alike other long same).trans (accepted.2.2.trans ?_)⟩
  · exact absurd (congrArg List.length equal) (by simp [other])
  · rw [if_pos (by decide +kernel), Geometry.ofParameterPage_eq]

end Query
end OnfiFlash
