import OnfiFlash.Proofs.BlockSearch
import OnfiFlash.Proofs.Undisturbed

/-! Which blocks an image is written to. On a faultless device a search finds the first block whose
markers are good and whose erase does not fail; blocks behind it stay as usable as they were. -/
namespace OnfiFlash

/-- Erasing the block fails for a defect of the chip. -/
def Chip.Config.failsErase (c : Config) (block : Nat) : Bool :=
  c.badBlocks.contains block || c.eraseFailures.contains block

/-- What the first number with a property says about the others below a bound. -/
theorem of_filter_range' {property : Nat → Bool} {first last found : Nat} {rest : List Nat}
    (listed : (List.range' first (last - first)).filter property = found :: rest) :
    first ≤ found ∧ found < last ∧ property found = true ∧
      (List.range' (found + 1) (last - (found + 1))).filter property = rest := by
  induction count : last - first generalizing first with
  | zero =>
    rw [count] at listed
    cases listed
  | succ fewer ih =>
    rw [count, List.range'_succ, List.filter_cons] at listed
    split at listed
    · next here =>
      obtain ⟨rfl, rfl⟩ := List.cons.inj listed
      have left : last - (first + 1) = fewer := by omega
      exact ⟨Nat.le_refl _, by omega, here, by rw [left]⟩
    · have left : last - (first + 1) = fewer := by omega
      obtain ⟨behind, rest⟩ := ih (left.symm ▸ listed) left
      exact ⟨by omega, rest⟩

namespace Flash

/-- The bad-block marker of a page; a page without spare area reads as erased there. -/
def marker (flash : Flash) (g : Geometry) (page : Nat) : UInt8 :=
  ((flash.cells page).drop g.bytesPerPage).headD erasedByte

/-- Are the markers of the first and the last page of a block good? -/
def goodMarkers (flash : Flash) (g : Geometry) (block : Nat) : Bool :=
  markerThreshold < bitCount (flash.marker g (g.firstPage block))
    && markerThreshold < bitCount (flash.marker g (g.lastPage block))

/-- Can an image be written to the block? -/
def usable (flash : Flash) (g : Geometry) (block : Nat) : Bool :=
  flash.goodMarkers g block && !flash.config.failsErase block

/-- The usable blocks among `count` blocks from `first` on, in order. -/
def usableAmong (flash : Flash) (g : Geometry) (first count : Nat) : List Nat :=
  (List.range' first count).filter (flash.usable g)

/-- The usable blocks of a device from `first` on, in order. -/
def usableFrom (flash : Flash) (g : Geometry) (first : Nat) : List Nat :=
  flash.usableAmong g first (g.totalBlocks - first)

variable {g : Geometry} {flash after : Flash}

theorem refuses_eq {block : Nat} (writable : flash.config.writeProtected = false)
    (onDevice : block < flash.config.totalBlocks) :
    flash.refuses block = flash.config.failsErase block := by
  have within : ¬ flash.config.totalBlocks ≤ block := Nat.not_le.mpr onDevice
  rw [refuses, writable, decide_eq_false within, Bool.false_or, Bool.false_or,
    Chip.Config.failsErase]

theorem goodMarkers_congr {block : Nat} (dimensions : g.Dimensions)
    (same : ∀ page, g.blockOf page = block → after.cells page = flash.cells page) :
    after.goodMarkers g block = flash.goodMarkers g block := by
  have first : g.blockOf (g.firstPage block) = block :=
    g.blockOf_firstPage_add block dimensions.pagesPerBlock
  have last : g.blockOf (g.lastPage block) = block := dimensions.blockOf_lastPage block
  rw [goodMarkers, goodMarkers, marker, marker, marker, marker, same _ first, same _ last]

end Flash

namespace Session

/-- Does the session take a block for bad, by its table if there is one, else by the markers? -/
def shuns (session : Session) (flash : Flash) (block : Nat) : Bool :=
  match session.badBlocks with
  | some table => table.isBad block
  | none => !flash.goodMarkers session.geometry block

/-- Does a search of the session end at the block? -/
def admits (session : Session) (flash : Flash) (block : Nat) : Bool :=
  !session.shuns flash block && !flash.refuses block

/-- Can the session write an image to the block, unless the device is write protected? -/
def eligible (session : Session) (flash : Flash) (block : Nat) : Bool :=
  !session.shuns flash block && !flash.config.failsErase block

/-- The blocks from `first` on that the session can write an image to, in order. -/
def eligibleFrom (session : Session) (flash : Flash) (first : Nat) : List Nat :=
  (List.range' first (session.geometry.totalBlocks - first)).filter (session.eligible flash)

variable {session : Session} {flash after : Flash}

theorem eligible_of_uncached (uncached : session.badBlocks = none) :
    session.eligible flash = flash.usable session.geometry := by
  funext block
  rw [eligible, shuns, uncached, Bool.not_not, Flash.usable]

theorem eligibleFrom_of_uncached (uncached : session.badBlocks = none) (first : Nat) :
    session.eligibleFrom flash first = flash.usableFrom session.geometry first := by
  rw [eligibleFrom, eligible_of_uncached uncached]
  rfl

theorem of_eligibleFrom {first found : Nat} {rest : List Nat}
    (listed : session.eligibleFrom flash first = found :: rest) :
    first ≤ found ∧ found < session.geometry.totalBlocks ∧ session.eligible flash found = true ∧
      session.eligibleFrom flash (found + 1) = rest :=
  of_filter_range' listed

theorem accepts_of_eligible {block : Nat} (describes : session.geometry.Describes flash.config)
    (writable : flash.config.writeProtected = false)
    (onDevice : block < session.geometry.totalBlocks)
    (eligible : session.eligible flash block = true) : flash.refuses block = false := by
  rw [Flash.refuses_eq writable (by rwa [describes.totalBlocks])]
  unfold Session.eligible at eligible
  simp only [Bool.and_eq_true, Bool.not_eq_true'] at eligible
  exact eligible.2

/-- What happens to the blocks in front does not matter to the search. -/
theorem eligibleFrom_congr {start : Nat} (dimensions : session.geometry.Dimensions)
    (layout : flash.config.SameLayout after.config)
    (same : ∀ page, start ≤ session.geometry.blockOf page → after.cells page = flash.cells page) :
    session.eligibleFrom after start = session.eligibleFrom flash start := by
  refine List.filter_congr fun block listed => ?_
  have here : ∀ page, session.geometry.blockOf page = block →
      after.cells page = flash.cells page := by
    rintro page rfl
    exact same page (List.mem_range'_1.mp listed).1
  have defects : after.config.failsErase block = flash.config.failsErase block := by
    rw [layout]
    rfl
  unfold eligible shuns
  cases session.badBlocks with
  | some table => rw [defects]
  | none => rw [Flash.goodMarkers_congr dimensions here, defects]

/-- On a device that is not write protected, a search ends at the first block that an image can be
written to. -/
theorem filter_admits {first : Nat} (describes : session.geometry.Describes flash.config)
    (writable : flash.config.writeProtected = false) :
    (List.range' first (session.geometry.totalBlocks - first)).filter (session.admits flash)
      = session.eligibleFrom flash first := by
  refine List.filter_congr fun block listed => ?_
  obtain ⟨behind, before⟩ := List.mem_range'_1.mp listed
  have onDevice : block < flash.config.totalBlocks := by
    rw [describes.totalBlocks]
    omega
  rw [admits, eligible, Flash.refuses_eq writable onDevice]

/-- On a write-protected device, a search finds no block. -/
theorem filter_admits_protected {blocks : List Nat}
    (shielded : flash.config.writeProtected = true) :
    blocks.filter (session.admits flash) = [] := by
  refine List.filter_eq_nil_iff.mpr fun block _ => ?_
  simp [admits, Flash.refuses, shielded]

end Session

theorem condemns_some (marker : UInt8) :
    condemns (some marker) = !decide (markerThreshold < bitCount marker) := by
  rw [condemns, ← decide_not]
  exact decide_eq_decide.mpr Nat.not_lt.symm

namespace Operation

variable {base : Session} {d : Device}

/-- The marker of a page that loads. -/
theorem readMarker_reads (reaches : base.geometry.Reaches) {page : Nat}
    (inRange : page < base.geometry.totalPages) (undisturbed : d.Undisturbed base) :
    (readMarker page).Succeeds base d fun marker after =>
      marker = some (d.flash.marker base.geometry page) ∧
        after = { d with loaded := after.loaded } := by
  have quiet := undisturbed.loads page inRange
  have settled := readMarker_settled reaches inRange undisturbed.settles
  rw [Device.marker?, Device.fault?_eq_none quiet, Device.afterLoad_of_quiet quiet] at settled
  exact settled

theorem isKnownBad_reads (reaches : base.geometry.Reaches) {block : Nat}
    (onDevice : block < base.geometry.totalBlocks) (undisturbed : d.Undisturbed base) :
    (isKnownBad block).Succeeds base d fun bad after =>
      bad = base.shuns d.flash block ∧ after = { d with loaded := after.loaded } := by
  have dimensions := reaches.valid.dimensions
  have first := dimensions.firstPage_lt onDevice
  have last := dimensions.lastPage_lt onDevice
  refine .get_bind fun state => ?_
  dsimp only
  unfold Session.shuns
  cases base.badBlocks with
  | some table => exact succeeds_pure ⟨rfl, rfl⟩
  | none =>
    refine .geometry_bind (.require_bind (Geometry.checkBlock_eq onDevice) ?_)
    refine Succeeds.bind (readMarker_reads reaches first undisturbed) ?_
    rintro _ after ⟨rfl, same⟩
    rw [condemns_some, Flash.goodMarkers]
    cases decide (markerThreshold
      < bitCount (d.flash.marker base.geometry (base.geometry.firstPage block))) with
    | false => exact succeeds_pure ⟨rfl, same⟩
    | true =>
      rw [same]
      refine Succeeds.bind (readMarker_reads reaches last (undisturbed.reload after.loaded)) ?_
      rintro _ other ⟨rfl, sameOther⟩
      refine succeeds_pure ⟨?_, sameOther⟩
      rw [condemns_some, Bool.true_and]

/-- What a search among the listed blocks comes to: the first of them is erased, and no other. -/
def Finds (d : Device) (listed : List Nat) (result : Except Error (Nat × WriteStats))
    (after : Device) : Prop :=
  match listed with
  | [] => result = .error .outOfSpace ∧ after.flash = d.flash
  | found :: _ => ∃ stats, result = .ok (found, stats) ∧
    after = { d with flash := d.flash.erase found, loaded := after.loaded }

/-- By induction on the blocks left: a block that is passed over leaves the array as it was. -/
theorem findBlock_finds (reaches : base.geometry.Reaches)
    (start count block : Nat) (stats : WriteStats)
    (onDevice : block + count ≤ base.geometry.totalBlocks) (undisturbed : d.Undisturbed base) :
    (findBlock start count block stats).Effects base d fun result after _ =>
      Finds d ((List.range' block count).filter (base.admits d.flash)) result after := by
  induction count generalizing d block stats with
  | zero => exact effects_note_bind (effects_throw ⟨rfl, rfl⟩)
  | succ count ih =>
    have here : block < base.geometry.totalBlocks := by omega
    have skip : ∀ stats (loaded : Option (List UInt8 × Nat)), base.admits d.flash block = false →
        (findBlock start count (block + 1) stats).Effects base { d with loaded }
          fun result after _ => Finds d
            ((List.range' block (count + 1)).filter (base.admits d.flash)) result after := by
      intro stats loaded passed
      rw [List.range'_succ, List.filter_cons_of_neg (by simp [passed])]
      exact ih (d := { d with loaded }) (block + 1) stats (by omega) (undisturbed.reload loaded)
    refine Succeeds.bind (isKnownBad_reads reaches here undisturbed) ?_
    rintro bad after ⟨rfl, same⟩
    rw [same]
    cases bad : base.shuns d.flash block with
    | true =>
      refine effects_note_bind (skip _ _ ?_)
      rw [Session.admits, bad]
      rfl
    | false =>
      have stays := undisturbed.reload after.loaded
      refine effects_progress_bind (effects_bind ?_)
      refine .eraseBlock reaches.valid reaches.covers here
        (fun late => absurd stays.settles late) fun _ status reports => ?_
      dsimp only at reports ⊢
      rw [reports]
      cases refused : d.flash.refuses block with
      | true =>
        rw [if_pos rfl, Flash.erase_of_refuses refused]
        refine effects_note_bind (skip _ _ ?_)
        rw [Session.admits, refused, Bool.not_true, Bool.and_false]
      | false =>
        have admitted : base.admits d.flash block = true := by
          rw [Session.admits, bad, refused]
          rfl
        rw [if_neg Bool.false_ne_true, List.range'_succ, List.filter_cons_of_pos admitted]
        exact effects_pure ⟨_, rfl, rfl⟩

theorem nextGoodBlock_finds (reaches : base.geometry.Reaches)
    {start : Nat} (stats : WriteStats) (onDevice : start ≤ base.geometry.totalBlocks)
    (undisturbed : d.Undisturbed base) :
    (nextGoodBlock start stats).Effects base d fun result after _ =>
      Finds d ((List.range' start (base.geometry.totalBlocks - start)).filter
        (base.admits d.flash)) result after :=
  .geometry_bind (findBlock_finds reaches start _ start stats (by omega) undisturbed)

end Operation
end OnfiFlash
