import OnfiFlash.Proofs.LoadFaults

/-! Commands that nothing disturbs. On a device that settles in time, a page without a fault is
loaded as it is; where no write protection is in the way either, an erased page takes the data at
the first attempt. -/
namespace OnfiFlash

/-- Nothing disturbs the loads and programs of a session; the device may be write protected. -/
structure Device.Undisturbed (d : Device) (base : Session) : Prop where
  settles : d.Settles base.config.polling
  loads : ∀ page, page < base.geometry.totalPages → d.loadFaults page = none
  programs : ∀ page, page < base.geometry.totalPages → d.flash.programFaults page = none

/-- Whatever a session programs is stored, however its loads misbehave. -/
structure Device.Receptive (d : Device) (base : Session) : Prop where
  settles : d.Settles base.config.polling
  programs : ∀ page, page < base.geometry.totalPages → d.flash.programFaults page = none
  writable : d.flash.config.writeProtected = false
  unscheduled : d.flash.protectAfter = none

/-- Nothing disturbs what a session does with the device. -/
structure Device.Faultless (d : Device) (base : Session) : Prop where
  settles : d.Settles base.config.polling
  loads : ∀ page, page < base.geometry.totalPages → d.loadFaults page = none
  programs : ∀ page, page < base.geometry.totalPages → d.flash.programFaults page = none
  writable : d.flash.config.writeProtected = false
  unscheduled : d.flash.protectAfter = none

namespace Device.Undisturbed

variable {d : Device} {base : Session} (undisturbed : d.Undisturbed base)
include undisturbed

theorem reload (loaded : Option (List UInt8 × Nat)) : { d with loaded }.Undisturbed base :=
  { undisturbed with }

theorem erase (block : Nat) (loaded : Option (List UInt8 × Nat)) :
    { d with flash := d.flash.erase block, loaded }.Undisturbed base where
  settles := undisturbed.settles.of_layout (Flash.sameLayout_erase _ _)
  loads := undisturbed.loads
  programs page inRange := by
    rw [Flash.programFaults_erase]
    exact undisturbed.programs page inRange

theorem program (pending : PendingProgram) (loaded : Option (List UInt8 × Nat)) :
    { d with flash := d.flash.program pending, loaded }.Undisturbed base where
  settles := undisturbed.settles.of_layout (Flash.sameLayout_program _ _)
  loads := undisturbed.loads
  programs page inRange := by
    rw [Flash.programFaults_program]
    exact undisturbed.programs page inRange

/-- What is programmed reaches the cells, unless the device is write protected. -/
theorem stores (describes : base.geometry.Describes d.flash.config)
    (writable : d.flash.config.writeProtected = false) {page : Nat}
    (inRange : page < base.geometry.totalPages) : ¬ d.flash.Ignores page :=
  Flash.stores (undisturbed.programs page inRange) writable (describes.totalPages ▸ inRange)

end Device.Undisturbed

namespace Device.Receptive

variable {d : Device} {base : Session} (receptive : d.Receptive base)
include receptive

theorem stores (describes : base.geometry.Describes d.flash.config) {page : Nat}
    (inRange : page < base.geometry.totalPages) : ¬ d.flash.Ignores page :=
  Flash.stores (receptive.programs page inRange) receptive.writable
    (describes.totalPages ▸ inRange)

theorem erase (block : Nat) : { d with flash := d.flash.erase block }.Receptive base where
  settles := receptive.settles.of_layout (Flash.sameLayout_erase _ _)
  programs page inRange := by
    rw [Flash.programFaults_erase]
    exact receptive.programs page inRange
  writable := by
    rw [Flash.config_erase]
    exact receptive.writable
  unscheduled := by
    rw [Flash.protectAfter_erase]
    exact receptive.unscheduled

theorem program (pending : PendingProgram) :
    { d with flash := d.flash.program pending }.Receptive base where
  settles := receptive.settles.of_layout (Flash.sameLayout_program _ _)
  programs page inRange := by
    rw [Flash.programFaults_program]
    exact receptive.programs page inRange
  writable := by
    show (d.flash.program pending).config.writeProtected = false
    unfold Flash.program
    split
    · exact receptive.writable
    · simp only [Flash.protectionDue, receptive.unscheduled, receptive.writable, Bool.or_self]
  unscheduled := by
    rw [Flash.protectAfter_program]
    exact receptive.unscheduled

end Device.Receptive

namespace Device.Faultless

variable {d : Device} {base : Session} (faultless : d.Faultless base)
include faultless

theorem undisturbed : d.Undisturbed base :=
  ⟨faultless.settles, faultless.loads, faultless.programs⟩

theorem receptive : d.Receptive base := { faultless with }

theorem reload (loaded : Option (List UInt8 × Nat)) : { d with loaded }.Faultless base :=
  { faultless with }

theorem erase (block : Nat) (loaded : Option (List UInt8 × Nat)) :
    { d with flash := d.flash.erase block, loaded }.Faultless base :=
  { faultless.receptive.erase block with loads := faultless.loads }

theorem program (pending : PendingProgram) (loaded : Option (List UInt8 × Nat)) :
    { d with flash := d.flash.program pending, loaded }.Faultless base :=
  { faultless.receptive.program pending with loads := faultless.loads }

end Device.Faultless

namespace Operation

variable {base : Session} {d : Device} {page : Nat}

/-- Loading a page that has no fault. -/
theorem loadPage_settled (reaches : base.geometry.Reaches)
    (inRange : page < base.geometry.totalPages) (settles : d.Settles base.config.polling)
    (quiet : d.loadFaults page = none) :
    (loadPage page).Succeeds base d fun status after =>
      status.isRefreshAdvised = false ∧
        after = { d with loaded := some (d.flash.cells page, 0) } := by
  have fault := Device.fault?_eq_none quiet
  refine .loadPage reaches inRange ?_ ?_ ?_
  · exact fun late => absurd settles late
  · intro _ refused
    rw [fault] at refused
    cases refused
  · intro _ _ status advised
    rw [fault] at advised
    rw [Device.afterLoad_of_quiet quiet, Device.contents_of_quiet quiet]
    exact ⟨status, rfl, advised, rfl⟩

theorem requireWritable_passes (writable : d.flash.config.writeProtected = false) :
    requireWritable.Succeeds base d fun _ after => after = d := by
  refine effects_bind (.readStatus fun status enabled => ?_)
  dsimp only
  rw [enabled, writable]
  exact succeeds_pure rfl

theorem readMainArea_succeeds (reaches : base.geometry.Reaches)
    (inRange : page < base.geometry.totalPages) (undisturbed : d.Undisturbed base) :
    (readMainArea page).Succeeds base d fun old after =>
      old.length = base.geometry.bytesPerPage ∧ after = { d with loaded := after.loaded } := by
  refine .of_serving fun describes sized => ?_
  have quiet := undisturbed.loads page inRange
  have settled := readMainArea_settled reaches inRange undisturbed.settles
  rw [Device.afterLoad_of_quiet quiet] at settled
  apply settled.mono
  rintro _ after _ ⟨old, rfl, rfl, same⟩
  exact ⟨_, rfl, Device.length_mainArea describes sized, same⟩

variable {data : List UInt8}

/-- A page that begins with the data once it is programmed shows nothing wrong. -/
theorem complaint?_of_begins (quiet : d.loadFaults page = none) (stored : ¬ d.flash.Ignores page)
    (begins : (Chip.programmedCells (d.flash.cells page) 0 data).take data.length = data) :
    (d.program page data).complaint? page data = none := by
  have calm : (d.program page data).loadFaults page = none := quiet
  have fault := Device.fault?_eq_none calm
  have contents : (d.program page data).contents page
      = Chip.programmedCells (d.flash.cells page) 0 data := by
    rw [Device.contents_of_quiet calm, Device.program, Flash.cells_program stored]
  rw [Device.complaint?_of_loaded (by simp [fault]) (by simp [fault]), contents, begins,
    firstDifference_self]
  rfl

/-- An erased page takes all data that fits. -/
theorem begins_of_blank (fits : data.length ≤ base.geometry.rawPageSize)
    (blank : d.flash.cells page = List.replicate base.geometry.rawPageSize erasedByte) :
    (Chip.programmedCells (d.flash.cells page) 0 data).take data.length = data := by
  rw [blank, Chip.programmedCells_erased fits, List.take_left' rfl]

/-- An erased page of an undisturbed device takes the data at once. -/
theorem writePage_succeeds (reaches : base.geometry.Reaches)
    (inRange : page < base.geometry.totalPages) (fits : data.length ≤ base.geometry.rawPageSize)
    (undisturbed : d.Undisturbed base) (writable : d.flash.config.writeProtected = false)
    (blank : d.flash.cells page = List.replicate base.geometry.rawPageSize erasedByte)
    (stats : WriteStats) :
    (writePage page data stats).Succeeds base d fun _ after =>
      after = { d with flash := d.flash.program ⟨0, page, data⟩, loaded := after.loaded } := by
  apply Effects.of_serving
  intro describes _
  have quiet := undisturbed.loads page inRange
  have faultless := undisturbed.programs page inRange
  have stored := undisturbed.stores describes writable inRange
  have first : (tryPage page data).Succeeds base d fun failure after => failure = none ∧
      after = { d with flash := d.flash.program ⟨0, page, data⟩, loaded := after.loaded } := by
    have checks : (tryPage page data).Succeeds base d _ :=
      tryPage_checks reaches inRange fits undisturbed.settles writable faultless
    have calm : (d.program page data).loadFaults page = none := quiet
    rw [complaint?_of_begins quiet stored (begins_of_blank fits blank),
      Device.afterLoad_of_quiet calm] at checks
    exact checks
  have attempt : ∀ maxAttempts left attempt,
      (writeAttempt page data maxAttempts left attempt stats).Succeeds base d fun _ after =>
        after = { d with flash := d.flash.program ⟨0, page, data⟩, loaded := after.loaded } := by
    intro maxAttempts left attempt
    cases left <;>
    · refine Succeeds.bind first ?_
      rintro _ after ⟨rfl, same⟩
      exact succeeds_pure same
  exact .get_bind fun _ => attempt _ _ _

end Operation
end OnfiFlash
