import OnfiFlash.Proofs.Undisturbed

/-! Load faults that fade. Flipped bits and advice to refresh a page last for some loads only: they
are noticed when a page just written is checked, and cost no more than further attempts. Elsewhere
they do not show, so a device looks as it would without them. -/
namespace OnfiFlash

namespace InjectedFault

/-- The load does not fail, and misbehaves no more than `loads` times. -/
def Passes (injected : InjectedFault) (loads : Nat) : Prop :=
  injected.fault ≠ .readError ∧ ∃ left, injected.remaining = some left ∧ 0 < left ∧ left ≤ loads

/-- If there is a fault, it passes. -/
def Fading (fault? : Option InjectedFault) (loads : Nat) : Prop :=
  ∀ injected, fault? = some injected → injected.Passes loads

variable {fault? : Option InjectedFault} {loads : Nat}

theorem fading_none (loads : Nat) : Fading none loads := nofun

theorem Fading.mono {more : Nat} (fading : Fading fault? loads) (least : loads ≤ more) :
    Fading fault? more := by
  intro injected found
  obtain ⟨loadable, left, remaining, positive, bounded⟩ := fading injected found
  exact ⟨loadable, left, remaining, positive, Nat.le_trans bounded least⟩

/-- A fault that lasts for no load is none. -/
theorem Fading.quiet (fading : Fading fault? 0) : fault? = none := by
  cases fault? with
  | none => rfl
  | some injected =>
    obtain ⟨-, left, -, positive, bounded⟩ := fading injected rfl
    exact absurd positive (Nat.not_lt.mpr bounded)

theorem Fading.loadable (fading : Fading fault? loads) :
    fault?.map (·.fault) ≠ some .readError := by
  intro failed
  obtain ⟨injected, found, fault⟩ := Option.map_eq_some_iff.mp failed
  exact (fading injected found).1 fault

/-- After a load, one load less is left. -/
theorem Fading.afterLoad (fading : Fading fault? loads) :
    Fading (fault?.bind Chip.InjectedFault.afterLoad) (loads - 1) := by
  intro rest found
  obtain ⟨injected, rfl, remains⟩ := Option.bind_eq_some_iff.mp found
  obtain ⟨loadable, left, remaining, positive, bounded⟩ := fading injected rfl
  rw [Chip.InjectedFault.afterLoad, remaining] at remains
  dsimp only at remains
  split at remains
  · cases remains
  · cases remains
    exact ⟨loadable, left - 1, rfl, by omega, by omega⟩

end InjectedFault

namespace Flash

/-- The arrays are the same but for the log of programs. -/
def Alike (flash other : Flash) : Prop := other = { flash with programmed := other.programmed }

namespace Alike

variable {flash other third : Flash}

theorem refl (flash : Flash) : flash.Alike flash := rfl

theorem symm (alike : flash.Alike other) : other.Alike flash := by
  unfold Alike at *
  rw [alike]

theorem trans (first : flash.Alike other) (next : other.Alike third) : flash.Alike third := by
  unfold Alike at *
  rw [next, first]

theorem cells (alike : flash.Alike other) : other.cells = flash.cells := by
  rw [alike]

theorem config (alike : flash.Alike other) : other.config = flash.config := by
  rw [alike]

theorem sized (alike : flash.Alike other) (sized : flash.Sized) : other.Sized := by
  intro page
  rw [alike.cells, alike.config]
  exact sized page

theorem refuses (alike : flash.Alike other) (block : Nat) :
    other.refuses block = flash.refuses block := by
  rw [alike]
  rfl

theorem erase (alike : flash.Alike other) (block : Nat) :
    (flash.erase block).Alike (other.erase block) := by
  cases refused : flash.refuses block with
  | true =>
    rw [erase_of_refuses refused, erase_of_refuses ((alike.refuses block).trans refused)]
    exact alike
  | false =>
    rw [erase_of_accepts refused, erase_of_accepts ((alike.refuses block).trans refused)]
    unfold Alike at *
    rw [alike]

end Alike

/-- A program that is ignored is only logged. -/
theorem program_of_ignores {flash : Flash} {pending : PendingProgram}
    (ignores : flash.Ignores pending.page) :
    flash.program pending = { flash with programmed := pending.page :: flash.programmed } :=
  if_pos ignores

/-- A program that is stored changes nothing but the cells, unless write protection is due. -/
theorem program_of_stores {flash : Flash} {pending : PendingProgram}
    (stored : ¬ flash.Ignores pending.page) (unscheduled : flash.protectAfter = none) :
    flash.program pending = { flash with
      programmed := pending.page :: flash.programmed
      cells := Chip.assign flash.cells pending.page
        (Chip.programmedCells (flash.cells pending.page) pending.column pending.data) } := by
  rw [program, if_neg stored]
  simp only [protectionDue, unscheduled, Bool.or_false]

theorem Alike.program {flash other : Flash} (alike : flash.Alike other)
    (unscheduled : flash.protectAfter = none) (pending : PendingProgram) :
    (flash.program pending).Alike (other.program pending) := by
  have same : other = { flash with programmed := other.programmed } := alike
  have ignored : other.Ignores pending.page ↔ flash.Ignores pending.page := by
    rw [same]
    exact Iff.rfl
  have unscheduledOther : other.protectAfter = none := by rw [same, unscheduled]
  by_cases ignores : flash.Ignores pending.page
  · rw [program_of_ignores ignores, program_of_ignores (ignored.mpr ignores)]
    rw [same]
    rfl
  · rw [program_of_stores ignores unscheduled,
      program_of_stores (mt ignored.mp ignores) unscheduledOther]
    rw [same]
    rfl

/-- Programming a page once more with the same data is only logged. -/
theorem alike_program_twice {flash : Flash} (unscheduled : flash.protectAfter = none) (page : Nat)
    (data : List UInt8) :
    (flash.program ⟨0, page, data⟩).Alike
      ((flash.program ⟨0, page, data⟩).program ⟨0, page, data⟩) := by
  by_cases ignores : flash.Ignores page
  · have once : flash.program ⟨0, page, data⟩ = _ := program_of_ignores ignores
    rw [once, program_of_ignores ignores]
    rfl
  · have stays : ¬ (flash.program ⟨0, page, data⟩).Ignores page := by
      rw [program_of_stores ignores unscheduled]
      exact ignores
    have later : (flash.program ⟨0, page, data⟩).protectAfter = none :=
      (protectAfter_program _ _).trans unscheduled
    have same : Chip.assign (flash.program ⟨0, page, data⟩).cells page
        (Chip.programmedCells ((flash.program ⟨0, page, data⟩).cells page) 0 data)
          = (flash.program ⟨0, page, data⟩).cells := by
      funext other
      by_cases here : other = page
      · subst here
        rw [Chip.assign_same, cells_program ignores, Chip.programmedCells_twice]
      · exact Chip.assign_other _ _ here
    rw [program_of_stores stays later]
    unfold Alike
    dsimp only
    rw [same]

end Flash

namespace Device

variable {base : Session} {d calm : Device} {page : Nat}

theorem loadFaults_afterLoad (d : Device) (page : Nat) :
    (d.afterLoad page).loadFaults page
      = (d.loadFaults page).bind Chip.InjectedFault.afterLoad := by
  cases fault : d.loadFaults page with
  | none =>
    rw [afterLoad_of_quiet fault]
    exact fault
  | some injected =>
    simp only [afterLoad, fault, Option.bind_some]
    exact Chip.assign_same _ _ _

theorem loadFaults_afterLoad_other (d : Device) {other : Nat} (different : other ≠ page) :
    (d.afterLoad page).loadFaults other = d.loadFaults other := by
  cases fault : d.loadFaults page with
  | none => rw [afterLoad_of_quiet fault]
  | some injected =>
    simp only [afterLoad, fault]
    exact Chip.assign_other _ _ different

theorem Receptive.of_alike {after : Device} (receptive : d.Receptive base)
    (alike : d.flash.Alike after.flash) : after.Receptive base := by
  obtain ⟨settles, programs, writable, unscheduled⟩ := receptive
  have same : after.flash = { d.flash with programmed := after.flash.programmed } := alike
  refine ⟨?_, ?_, ?_, ?_⟩
  · show after.flash.config.busyPolls < _
    rw [same]
    exact settles
  · rw [same]
    exact programs
  · rw [same]
    exact writable
  · rw [same]
    exact unscheduled

/-- A device on which whatever is programmed is stored, and the same device without some of the
faults that fade while a page is written. -/
structure Calmed (base : Session) (d calm : Device) : Prop where
  receptive : d.Receptive base
  alike : d.flash.Alike calm.flash
  faults : ∀ page, page < base.geometry.totalPages →
    calm.loadFaults page = d.loadFaults page ∨ calm.loadFaults page = none ∧
      InjectedFault.Fading (d.loadFaults page) (base.config.maxWriteRetries - 1)

namespace Calmed

variable (calmed : d.Calmed base calm)
include calmed

theorem calm_receptive : calm.Receptive base := calmed.receptive.of_alike calmed.alike

theorem reload (loaded copied : Option (List UInt8 × Nat)) :
    { d with loaded }.Calmed base { calm with loaded := copied } :=
  ⟨calmed.receptive.of_alike (.refl _), calmed.alike, calmed.faults⟩

theorem erase (block : Nat) : { d with flash := d.flash.erase block }.Calmed base
    { calm with flash := calm.flash.erase block } :=
  ⟨calmed.receptive.erase block, calmed.alike.erase block, calmed.faults⟩

theorem program (page : Nat) (data : List UInt8) :
    (d.program page data).Calmed base (calm.program page data) :=
  ⟨calmed.receptive.program _, calmed.alike.program calmed.receptive.unscheduled _, calmed.faults⟩

theorem afterLoad (page : Nat) : (d.afterLoad page).Calmed base (calm.afterLoad page) := by
  refine ⟨calmed.receptive.of_alike (.refl _), calmed.alike, fun other inRange => ?_⟩
  by_cases here : other = page
  · subst here
    rw [loadFaults_afterLoad, loadFaults_afterLoad]
    rcases calmed.faults other inRange with same | ⟨quiet, fading⟩
    · left
      rw [same]
    · right
      rw [quiet]
      exact ⟨rfl, fading.afterLoad.mono (Nat.sub_le _ _)⟩
  · rw [loadFaults_afterLoad_other _ here, loadFaults_afterLoad_other _ here]
    exact calmed.faults other inRange

/-- The same loads fail. -/
theorem refused_iff (inRange : page < base.geometry.totalPages) :
    calm.fault? page = some .readError ↔ d.fault? page = some .readError := by
  rcases calmed.faults page inRange with same | ⟨quiet, fading⟩
  · rw [fault?, fault?, same]
  · constructor
    · intro failed
      rw [fault?_eq_none quiet] at failed
      cases failed
    · exact fun failed => absurd failed fading.loadable

/-- Markers are read as they are. -/
theorem marker? (inRange : page < base.geometry.totalPages) :
    calm.marker? base.geometry page = d.marker? base.geometry page := by
  rw [Device.marker?, Device.marker?, calmed.alike.cells]
  by_cases failed : d.fault? page = some .readError
  · rw [if_pos failed, if_pos ((calmed.refused_iff inRange).mpr failed)]
  · rw [if_neg failed, if_neg (mt (calmed.refused_iff inRange).mp failed)]

/-- The bytes behind the first are read as they are. -/
theorem drop_mainArea (inRange : page < base.geometry.totalPages) {count : Nat}
    (positive : 0 < count) : (calm.mainArea base.geometry page).drop count
      = (d.mainArea base.geometry page).drop count := by
  rw [Device.mainArea, Device.mainArea]
  by_cases failed : d.fault? page = some .readError
  · rw [if_pos failed, if_pos ((calmed.refused_iff inRange).mpr failed)]
  · rw [if_neg failed, if_neg (mt (calmed.refused_iff inRange).mp failed), List.drop_take,
      List.drop_take, d.drop_contents page positive, calm.drop_contents page positive,
      calmed.alike.cells]

/-- A fault that both devices have shows in the same way. -/
theorem complaint? {data : List UInt8} (shared : calm.loadFaults page = d.loadFaults page) :
    calm.complaint? page data = d.complaint? page data := by
  have fault : calm.fault? page = d.fault? page := by
    rw [fault?, fault?, shared]
  have contents : calm.contents page = d.contents page := by
    rw [Device.contents, Device.contents, fault, calmed.alike.cells]
  rw [Device.complaint?, Device.complaint?, fault, contents]

end Calmed

/-- What is left of a device once a page is written whose fault fades after at most `loads` loads. -/
structure Absorbed (d : Device) (page : Nat) (data : List UInt8) (loads : Nat) (after : Device) :
    Prop where
  alike : (d.flash.program ⟨0, page, data⟩).Alike after.flash
  elsewhere : ∀ other, other ≠ page → after.loadFaults other = d.loadFaults other
  fading : InjectedFault.Fading (after.loadFaults page) loads

variable {after afterCalm mid : Device} {data : List UInt8} {loads : Nat}

/-- One attempt. -/
theorem absorbed_once (fading : InjectedFault.Fading (d.loadFaults page) loads)
    (same : after = { (d.program page data).afterLoad page with loaded := after.loaded }) :
    d.Absorbed page data (loads - 1) after := by
  rw [same]
  refine ⟨.refl _, fun other different => ?_, ?_⟩
  · exact loadFaults_afterLoad_other (d.program page data) different
  · show InjectedFault.Fading (((d.program page data).afterLoad page).loadFaults page) _
    rw [loadFaults_afterLoad]
    exact fading.afterLoad

theorem Absorbed.mono {more : Nat} (absorbed : d.Absorbed page data loads after)
    (least : loads ≤ more) : d.Absorbed page data more after :=
  { absorbed with fading := absorbed.fading.mono least }

/-- Once programmed, a page is not changed by further attempts. -/
theorem Absorbed.again {fewer : Nat} (unscheduled : d.flash.protectAfter = none)
    (first : d.Absorbed page data fewer mid) (next : mid.Absorbed page data loads after) :
    d.Absorbed page data loads after where
  alike := by
    have unscheduledOnce : (d.flash.program ⟨0, page, data⟩).protectAfter = none :=
      (Flash.protectAfter_program _ _).trans unscheduled
    exact (Flash.alike_program_twice unscheduled page data).trans
      ((first.alike.program unscheduledOnce _).trans next.alike)
  elsewhere other different :=
    (next.elsewhere other different).trans (first.elsewhere other different)
  fading := next.fading

/-- A page is written on the one device after attempts that fail, on the other at once. -/
theorem Calmed.absorbed (calmed : d.Calmed base calm)
    (disturbed : d.Absorbed page data (base.config.maxWriteRetries - 1) after)
    (undisturbed : calm.Absorbed page data 0 afterCalm) : after.Calmed base afterCalm := by
  refine ⟨?_, ?_, fun other inRange => ?_⟩
  · exact (calmed.receptive.program ⟨0, page, data⟩).of_alike disturbed.alike
  · exact disturbed.alike.symm.trans
      ((calmed.alike.program calmed.receptive.unscheduled _).trans undisturbed.alike)
  · by_cases here : other = page
    · subst here
      exact .inr ⟨undisturbed.fading.quiet, disturbed.fading⟩
    · rw [disturbed.elsewhere other here, undisturbed.elsewhere other here]
      exact calmed.faults other inRange

end Device

namespace Operation

variable {base : Session} {d : Device} {page : Nat} {data : List UInt8}

theorem tryPage_receptive (reaches : base.geometry.Reaches)
    (inRange : page < base.geometry.totalPages) (fits : data.length ≤ base.geometry.rawPageSize)
    (receptive : d.Receptive base) :
    (tryPage page data).Succeeds base d fun failure after =>
      failure = (d.program page data).complaint? page data ∧
        after = { (d.program page data).afterLoad page with loaded := after.loaded } :=
  tryPage_checks reaches inRange fits receptive.settles receptive.writable
    (receptive.programs page inRange)

/-- By induction on the attempts left: they outlast the fault of a page that can hold the data. -/
theorem writeAttempt_absorbs (reaches : base.geometry.Reaches)
    (inRange : page < base.geometry.totalPages) (fits : data.length ≤ base.geometry.rawPageSize)
    (receptive : d.Receptive base) {loads : Nat}
    (fading : InjectedFault.Fading (d.loadFaults page) loads)
    (begins : (Chip.programmedCells (d.flash.cells page) 0 data).take data.length = data)
    (maxAttempts left attempt : Nat) (enough : loads ≤ left) (stats : WriteStats) :
    (writeAttempt page data maxAttempts left attempt stats).Succeeds base d fun _ after =>
      d.Absorbed page data loads after := by
  induction left generalizing d loads attempt stats with
  | zero =>
    apply Effects.of_serving
    intro describes _
    obtain rfl := Nat.le_zero.mp enough
    have stored := receptive.stores describes inRange
    apply Succeeds.bind (tryPage_receptive reaches inRange fits receptive)
    rintro _ after ⟨rfl, same⟩
    rw [complaint?_of_begins fading.quiet stored begins]
    exact succeeds_pure (Device.absorbed_once fading same)
  | succ left ih =>
    apply Effects.of_serving
    intro describes _
    have stored := receptive.stores describes inRange
    apply Succeeds.bind (tryPage_receptive reaches inRange fits receptive)
    rintro _ after ⟨rfl, same⟩
    have once := Device.absorbed_once fading same
    cases complaint : (d.program page data).complaint? page data with
    | none => exact succeeds_pure (once.mono (Nat.sub_le _ _))
    | some e =>
      have receptiveOnce : after.Receptive base :=
        (receptive.program ⟨0, page, data⟩).of_alike once.alike
      have beginsOnce : (Chip.programmedCells (after.flash.cells page) 0 data).take data.length
          = data := by
        rw [once.alike.cells, Flash.cells_program stored, Chip.programmedCells_twice, begins]
      apply effects_note_bind
      apply effects_progress_bind
      apply (ih receptiveOnce once.fading beginsOnce _ (by omega) _).mono
      rintro result last _ ⟨stats, rfl, absorbed⟩
      exact ⟨stats, rfl, (once.again receptive.unscheduled absorbed).mono (Nat.sub_le _ _)⟩

end Operation
end OnfiFlash
