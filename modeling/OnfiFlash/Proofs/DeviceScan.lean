import OnfiFlash.Proofs.BadBlockSet
import OnfiFlash.Proofs.BlockChoice
import OnfiFlash.Proofs.Foresight

/-! A scan of all blocks. The table it yields says of every block what the markers of the block say
themselves, and looking a block up is as good as reading them. -/
namespace OnfiFlash

namespace Flash

/-- The marker of a page as a session reads it: no page loads that cannot be addressed. -/
def marker? (flash : Flash) (g : Geometry) (page : Nat) : Option UInt8 :=
  if g.Unaddressed then none else some (flash.marker g page)

/-- Do the markers of the block condemn it, or that they cannot be read? -/
def condemned (flash : Flash) (g : Geometry) (block : Nat) : Bool :=
  condemns (flash.marker? g (g.firstPage block)) || condemns (flash.marker? g (g.lastPage block))

def badTable (flash : Flash) (g : Geometry) : BadBlockTable :=
  .ofList ((List.range' 0 g.totalBlocks).filter (flash.condemned g)) g.totalBlocks

variable {g : Geometry} {flash after : Flash} {block : Nat}

/-- The markers of a block are on its own pages. -/
theorem condemned_congr (dimensions : g.Dimensions)
    (same : ∀ page, g.blockOf page = block → after.cells page = flash.cells page) :
    after.condemned g block = flash.condemned g block := by
  have first := same _ (g.blockOf_firstPage_add block dimensions.pagesPerBlock)
  have last := same _ (dimensions.blockOf_lastPage block)
  rw [Nat.add_zero] at first
  simp only [condemned, marker?, marker, first, last]

theorem isBad_badTable (flash : Flash) (onDevice : block < g.totalBlocks) :
    (flash.badTable g).isBad block = flash.condemned g block := by
  have among : block ∈ List.range' 0 g.totalBlocks :=
    List.mem_range'_1.mpr ⟨Nat.zero_le _, by omega⟩
  rw [badTable, BadBlockTable.isBad_ofList]
  simp [List.mem_filter, among]

end Flash

namespace Operation

variable {base : Session} {table : BadBlockTable} {flash : Flash} {page block : Nat}

section Markers

variable (valid : base.geometry.Valid) (covers : base.geometry.RowsCover)
  (settles : flash.config.busyPolls < base.config.polling.polls)
include valid covers settles

theorem readMarker_shows (inRange : page < base.geometry.totalPages) :
    (readMarker page).Shows base table flash (flash.marker? base.geometry page) := by
  unfold Flash.marker?
  by_cases unaddressed : base.geometry.Unaddressed
  · rw [if_pos unaddressed]
    apply (tryLoad_shows unaddressed inRange settles rfl).bind
    exact shows_pure none
  · rw [if_neg unaddressed]
    have reaches := reaches_of_addressed valid covers unaddressed
    apply Foreseen.of_reads _ unaddressed fun _ => reads_reading.readMarker page
    rintro badBlocks d rfl loads
    have quiet := loads page inRange
    refine Effects.mono (readMarker_settled reaches inRange settles) ?_
    rintro _ after _ ⟨_, rfl, rfl, same⟩
    rw [same, Device.marker?, Device.fault?_eq_none quiet, Device.afterLoad_of_quiet quiet]
    exact ⟨rfl, rfl⟩

theorem isBadBlock_shows (onDevice : block < base.geometry.totalBlocks) :
    (isBadBlock block).Shows base table flash (flash.condemned base.geometry block) := by
  have dimensions := valid.dimensions
  apply foreseen_geometry_bind
  rw [Geometry.checkBlock_eq onDevice]
  apply (readMarker_shows valid covers settles (dimensions.firstPage_lt onDevice)).bind
  rw [Flash.condemned]
  cases condemns (flash.marker? base.geometry (base.geometry.firstPage block)) with
  | true => exact shows_pure true
  | false =>
    apply (readMarker_shows valid covers settles (dimensions.lastPage_lt onDevice)).bind
    exact shows_pure _

/-- By induction on the blocks left: those found so far stay in front. -/
theorem scanFrom_shows (count : Nat) (bad : List Nat)
    (onDevice : block + count ≤ base.geometry.totalBlocks) :
    (scanFrom count block bad).Shows base table flash
      (bad.reverse ++ (List.range' block count).filter (flash.condemned base.geometry)) := by
  induction count generalizing block bad with
  | zero =>
    rw [List.range'_zero, List.filter_nil, List.append_nil]
    exact shows_pure bad.reverse
  | succ count ih =>
    have here : block < base.geometry.totalBlocks := by omega
    apply (isBadBlock_shows valid covers settles here).bind
    rw [List.range'_succ, List.filter_cons]
    cases flash.condemned base.geometry block with
    | true =>
      have found : (scanFrom count (block + 1) (block :: bad)).Shows base table flash _ :=
        ih (block :: bad) (by omega)
      rw [List.reverse_cons, List.append_assoc] at found
      exact foreseen_note_bind found
    | false => exact ih bad (by omega)

theorem scanDevice_shows :
    scanDevice.Shows base table flash (flash.badTable base.geometry) := by
  apply foreseen_geometry_bind
  have onDevice : 0 + base.geometry.totalBlocks ≤ base.geometry.totalBlocks := by omega
  exact (scanFrom_shows valid covers settles _ [] onDevice).bind (shows_pure _)

/-- A table that says of the block what its markers say makes no difference. -/
theorem isKnownBad_shows (onDevice : block < base.geometry.totalBlocks)
    (trusted : table.isBad block = flash.condemned base.geometry block) :
    (isKnownBad block).Shows base table flash (flash.condemned base.geometry block) := by
  have read : (isBadBlock block).Shows base table flash _ :=
    isBadBlock_shows valid covers settles onDevice
  obtain ⟨_, _, _, ⟨rfl, rfl, rfl⟩, comes⟩ := read
  refine ⟨_, _, _, ⟨rfl, rfl, rfl⟩, fun badBlocks known session chip legible => ?_⟩
  have kept : session.badBlocks = badBlocks := by rw [legible.serving.same]
  rw [isKnownBad, leads_get_bind, kept]
  rcases known with rfl | rfl
  · exact comes none (.inl rfl) session chip legible
  · exact ⟨congrArg Except.ok trusted, rfl, legible⟩

/-- A scan leaves its table with the session. -/
theorem badBlockTable_keeps {session : Session} {chip : Chip}
    (legible : Legible { base with badBlocks := none } flash session chip) :
    let table := flash.badTable base.geometry
    badBlockTable.Leads session chip fun result left after _ =>
      result = .ok table ∧ left.badBlocks = some table ∧
        Legible { base with badBlocks := some table } flash left after := by
  intro table
  have scanned : scanDevice.Shows base table flash table := scanDevice_shows valid covers settles
  obtain ⟨_, _, _, ⟨rfl, rfl, rfl⟩, comes⟩ := scanned
  have uncached : session.badBlocks = none := by rw [legible.serving.same]
  rw [badBlockTable, leads_get_bind, uncached]
  apply leads_bind.mpr
  apply (comes none (.inl rfl) session chip legible).mono
  rintro _ left after _ ⟨rfl, -, stays⟩
  have same := congrArg (fun kept : Session => { kept with badBlocks := some table })
    stays.serving.same
  exact ⟨rfl, rfl, ⟨same, stays.serving.describes, stays.serving.sound⟩, stays.flash, stays.loads,
    stays.unlatched⟩

end Markers

end Operation
end OnfiFlash
