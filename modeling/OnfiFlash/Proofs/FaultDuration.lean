import OnfiFlash.Proofs.ChipCommands
import OnfiFlash.Proofs.FlashPhysics
import OnfiFlash.Proofs.Polling

/-! How long an injected load fault lasts. Whatever is written to a chip, the fault of a page is
used up by the loads of this page and by nothing else; and what a chip holds and is asked to do
never depends on its load faults, which show in the page register and in the status only. -/
namespace OnfiFlash

namespace InjectedFault

def afterLoads (injected? : Option InjectedFault) : Nat → Option InjectedFault
  | 0 => injected?
  | loads + 1 => afterLoads (injected?.bind Chip.InjectedFault.afterLoad) loads

theorem afterLoads_none (loads : Nat) : afterLoads none loads = none := by
  induction loads with
  | zero => rfl
  | succ loads ih => exact ih

/-- A fault with a count lasts for that many loads, but never for none. -/
theorem afterLoads_counted (fault : LoadFault) (count loads : Nat) :
    afterLoads (some ⟨fault, some count⟩) loads
      = if loads < max 1 count then some ⟨fault, some (count - loads)⟩ else none := by
  induction loads generalizing count with
  | zero => exact (if_pos (Nat.lt_of_lt_of_le Nat.one_pos (Nat.le_max_left 1 count))).symm
  | succ loads ih =>
    rw [afterLoads, Option.bind_some, Chip.InjectedFault.afterLoad]
    by_cases last : count ≤ 1
    · have spent : ¬ loads + 1 < max 1 count := by omega
      simp only [if_pos last, if_neg spent, afterLoads_none]
    · have one : loads < max 1 (count - 1) ↔ loads + 1 < max 1 count := by omega
      have rest : count - 1 - loads = count - (loads + 1) := by omega
      simp only [if_neg last, ih, one, rest]

end InjectedFault

namespace Chip

/-- The column and the page that bytes written to the chip load from, if they load a page. -/
def load? (chip : Chip) (bytes : List UInt8) : Option (Nat × Nat) :=
  match Frame.decode bytes with
  | .ok frame =>
    if frame.opcode = Opcode.readStart then
      chip.latched.filter fun place => place.2 < chip.config.totalPages
    else none
  | .error _ => none

/-- The loads of a page among writes to the chip. -/
def loads (page : Nat) (chip : Chip) : List (List UInt8) → Nat
  | [] => 0
  | bytes :: rest =>
    let later := loads page (Link.write bytes chip).state rest
    if (chip.load? bytes).map Prod.snd = some page then later + 1 else later

def fault? (chip : Chip) (page : Nat) : Option LoadFault := (chip.loadFaults page).map (·.fault)

/-- A page is loaded, well or with a fault: what the register gets, and what the status shows once
the chip is ready. -/
structure LoadsAs (chip : Chip) (column page : Nat) (fault : Option LoadFault) (after : Chip) :
    Prop where
  register : after.register =
    if fault = some .bitFlip then flipFirstBit (chip.cells page) else chip.cells page
  column : after.column = column
  error : (after.polled after.busy).status.isError = (fault == some .readError)
  refresh : (after.polled after.busy).status.isRefreshAdvised = (fault == some .refreshAdvised)
  cells : after.cells = chip.cells

section Load

variable {chip : Chip} {bytes : List UInt8} {column page : Nat}

theorem load?_eq_some_iff : chip.load? bytes = some (column, page) ↔
    (∃ frame, Frame.decode bytes = .ok frame ∧ frame.opcode = Opcode.readStart) ∧
      chip.latched = some (column, page) ∧ page < chip.config.totalPages := by
  unfold load?
  cases Frame.decode bytes with
  | error e => simp
  | ok frame => by_cases begins : frame.opcode = Opcode.readStart <;> simp [begins]

theorem loadPage_eq_of_fault (chip : Chip) (column page : Nat) :
    chip.loadPage column page = { chip with
      register :=
        if chip.fault? page = some .bitFlip then flipFirstBit (chip.cells page)
        else chip.cells page
      column
      failed := chip.failed || chip.fault? page == some .readError
      refresh := chip.refresh || chip.fault? page == some .refreshAdvised
      loadFaults :=
        assign chip.loadFaults page ((chip.loadFaults page).bind InjectedFault.afterLoad) } := by
  unfold loadPage fault?
  cases found : chip.loadFaults page with
  | none =>
    have same : assign chip.loadFaults page none = chip.loadFaults := by
      funext place
      by_cases here : place = page
      · rw [here, assign_same, found]
      · exact assign_other _ _ here
    simp [same]
  | some injected => cases fault : injected.fault <;> simp [sufferLoad, fail, fault]

theorem handle_of_readStart {frame : Frame} (begins : frame.opcode = Opcode.readStart)
    (chip : Chip) : chip.handle frame = ⟨.ok [], chip.readStart.1, chip.readStart.2⟩ := by
  unfold handle
  rw [begins]
  rfl

theorem state_write_of_load (loads : chip.load? bytes = some (column, page)) :
    (Link.write bytes chip).state
      = { chip.counted.start with latched := none }.loadPage column page := by
  obtain ⟨⟨frame, decoded, begins⟩, latched, onDevice⟩ := load?_eq_some_iff.mp loads
  have started : chip.counted.readStart
      = ({ chip.counted.start with latched := none }.loadPage column page, []) := by
    have same : chip.counted.latched = some (column, page) := latched
    rw [readStart, same]
    exact if_pos onDevice
  show (accept bytes chip).state = _
  rw [accept, decoded]
  have handled := handle_of_readStart begins chip.counted
  rw [started] at handled
  unfold counted at handled
  simp only [handled, List.append_nil]
  rfl

theorem loadsAs_write (loads : chip.load? bytes = some (column, page)) :
    chip.LoadsAs column page (chip.fault? page) (Link.write bytes chip).state := by
  rw [state_write_of_load loads, loadPage_eq_of_fault]
  exact ⟨rfl, rfl, isError_polled _, isRefreshAdvised_polled _, rfl⟩

/-- A frame that is taken leaves the chip as its command does, but for the response it queues. -/
theorem state_write_of_decoded {frame : Frame} (decoded : Frame.decode bytes = .ok frame)
    (chip : Chip) : ∃ pending, (Link.write bytes chip).state
      = { (chip.counted.handle frame).state with pending } := by
  show ∃ pending, (accept bytes chip).state = _
  rw [accept, decoded]
  dsimp only
  split <;> exact ⟨_, rfl⟩

theorem loadFaults_readStart_of_none (nothing : chip.latched.filter
    (fun place => place.2 < chip.config.totalPages) = none) :
    chip.readStart.1.loadFaults = chip.loadFaults := by
  unfold readStart
  cases latched : chip.latched with
  | none => rfl
  | some place =>
    have beyond : ¬ place.2 < chip.config.totalPages := by
      simpa [latched] using nothing
    dsimp only
    rw [if_neg beyond]
    rfl

theorem loadFaults_setFeatures (chip : Chip) (feature mode : Option UInt8) :
    (chip.setFeatures feature mode).loadFaults = chip.loadFaults := by
  unfold setFeatures
  split
  · split <;> rfl
  · rfl

/-- Only a load acts on the load faults. -/
theorem loadFaults_write_of_none (nothing : chip.load? bytes = none) :
    (Link.write bytes chip).state.loadFaults = chip.loadFaults := by
  unfold load? at nothing
  cases decoded : Frame.decode bytes with
  | error e =>
    show (accept bytes chip).state.loadFaults = _
    rw [accept, decoded]
  | ok frame =>
    obtain ⟨pending, left⟩ := state_write_of_decoded decoded chip
    rw [left]
    show (chip.counted.handle frame).state.loadFaults = chip.counted.loadFaults
    refine handle_cases (motive := fun handle =>
        (handle chip.counted).state.loadFaults = chip.counted.loadFaults) frame
      ?_ ?_ ?_ ?_ ?_ ?_ ?load ?_ ?_ ?_ ?erase ?_ ?program ?features ?_
    case load =>
      intro begins
      rw [decoded] at nothing
      exact loadFaults_readStart_of_none ((if_pos begins).symm.trans nothing)
    case erase => exact fun _ => loadFaults_eraseConfirm _
    case program => exact fun _ => loadFaults_programConfirm _
    case features => exact fun _ => loadFaults_setFeatures _ _ _
    all_goals intros; rfl

/-- A load of a page uses up its fault by one; nothing else does. -/
theorem loadFaults_write (chip : Chip) (bytes : List UInt8) (page : Nat) :
    (Link.write bytes chip).state.loadFaults page =
      if (chip.load? bytes).map Prod.snd = some page then
        (chip.loadFaults page).bind InjectedFault.afterLoad
      else chip.loadFaults page := by
  cases loads : chip.load? bytes with
  | none => exact congrFun (loadFaults_write_of_none loads) page
  | some place =>
    rw [state_write_of_load loads, loadPage_eq_of_fault]
    by_cases same : place.2 = page
    · subst same
      exact (assign_same _ _ _).trans (if_pos rfl).symm
    · have other : ¬ (some place).map Prod.snd = some page := mt Option.some.inj same
      rw [if_neg other]
      exact assign_other _ _ (Ne.symm same)

theorem fed_append (chip : Chip) (first second : List (List UInt8)) :
    chip.fed (first ++ second) = (chip.fed first).fed second := List.foldl_append

/-- By induction on what is written: each load takes its share, and the rest begins with what is
left. -/
theorem loadFaults_fed (chip : Chip) (traffic : List (List UInt8)) (page : Nat) :
    (chip.fed traffic).loadFaults page
      = InjectedFault.afterLoads (chip.loadFaults page) (chip.loads page traffic) := by
  induction traffic generalizing chip with
  | nil => rfl
  | cons bytes rest ih =>
    show ((Link.write bytes chip).state.fed rest).loadFaults page = _
    rw [ih, loadFaults_write, loads]
    split <;> rfl

end Load

/-- What a chip is set up for: a load, a program and an erase. -/
def setups (chip : Chip) : Option (Nat × Nat) × Option PendingProgram × Option Nat :=
  (chip.latched, chip.program, chip.eraseRow)

section Setups

variable (chip : Chip)

theorem setups_loadPage (column page : Nat) :
    (chip.loadPage column page).setups = chip.setups := by
  rw [loadPage_eq_of_fault]
  rfl

theorem setups_readStart : chip.readStart.1.setups = (none, chip.program, chip.eraseRow) := by
  unfold readStart
  split
  · rfl
  · split
    · exact setups_loadPage _ _ _
    · rfl

theorem setups_eraseConfirm : chip.eraseConfirm.setups = (chip.latched, chip.program, none) := by
  unfold eraseConfirm
  split
  · rfl
  · dsimp only
    split <;> rfl

theorem setups_storeProgram (pending : PendingProgram) :
    (chip.storeProgram pending).setups = chip.setups := by
  unfold storeProgram
  split
  · split <;> rfl
  · rfl

theorem setups_programConfirm :
    chip.programConfirm.state.setups = (chip.latched, none, chip.eraseRow) := by
  unfold programConfirm
  split
  · rfl
  · dsimp only
    split
    · rfl
    · rfl
    · split
      · rfl
      · exact setups_storeProgram _ _

theorem setups_setFeatures (feature mode : Option UInt8) :
    (chip.setFeatures feature mode).setups = chip.setups := by
  unfold setFeatures
  split
  · split <;> rfl
  · rfl

end Setups

/-- The chips hold the same and are set up for the same; their load faults may differ, and what
loads left in the register and in the status. -/
structure SameCourse (chip other : Chip) : Prop where
  flash : other.flash = chip.flash
  setups : other.setups = chip.setups

namespace SameCourse

variable {chip other : Chip}

theorem config (same : chip.SameCourse other) : other.config = chip.config :=
  congrArg Flash.config same.flash

theorem latched (same : chip.SameCourse other) : other.latched = chip.latched :=
  congrArg Prod.fst same.setups

theorem program (same : chip.SameCourse other) : other.program = chip.program :=
  congrArg (·.2.1) same.setups

theorem eraseRow (same : chip.SameCourse other) : other.eraseRow = chip.eraseRow :=
  congrArg (·.2.2) same.setups

theorem splitAddress (same : chip.SameCourse other) (cycles : List UInt8) :
    other.splitAddress cycles = chip.splitAddress cycles := by
  rw [Chip.splitAddress, Chip.splitAddress, same.config]

theorem eraseConfirm (same : chip.SameCourse other) :
    chip.eraseConfirm.SameCourse other.eraseConfirm where
  flash := by rw [flash_eraseConfirm, flash_eraseConfirm, same.eraseRow, same.flash, same.config]
  setups := by rw [setups_eraseConfirm, setups_eraseConfirm, same.latched, same.program]

theorem programConfirm (same : chip.SameCourse other) :
    chip.programConfirm.state.SameCourse other.programConfirm.state where
  flash := by rw [flash_programConfirm, flash_programConfirm, same.program, same.flash]
  setups := by rw [setups_programConfirm, setups_programConfirm, same.latched, same.eraseRow]

/-- One case for each command: none looks at the load faults, the register or the status. -/
theorem handle (same : chip.SameCourse other) (frame : Frame) :
    (chip.handle frame).state.SameCourse (other.handle frame).state := by
  refine handle_cases (motive := fun handle => (handle chip).state.SameCourse (handle other).state)
    frame ?reset ?_ ?_ ?_ ?_ ?latch ?load ?_ ?_ ?eraseSetup ?erase ?programSetup ?program ?features
    ?_
  case reset => exact fun _ => ⟨same.flash, rfl⟩
  case latch =>
    intro _ _
    refine ⟨same.flash, ?_⟩
    show (some (other.splitAddress _), other.program, other.eraseRow) = _
    rw [same.splitAddress, same.program, same.eraseRow]
    rfl
  case load =>
    intro _
    refine ⟨?_, ?_⟩
    · rw [flash_readStart, flash_readStart, same.flash]
    · rw [setups_readStart, setups_readStart, same.program, same.eraseRow]
  case eraseSetup =>
    intro _
    refine ⟨same.flash, ?_⟩
    show (other.latched, other.program, _) = _
    rw [same.latched, same.program]
    rfl
  case erase => exact fun _ => same.eraseConfirm
  case programSetup =>
    intro _
    refine ⟨same.flash, ?_⟩
    show (other.latched, some _, other.eraseRow) = _
    rw [same.splitAddress, same.latched, same.eraseRow]
    rfl
  case program => exact fun _ => same.programConfirm
  case features =>
    intro _
    refine ⟨?_, ?_⟩
    · rw [flash_setFeatures, flash_setFeatures, same.flash]
    · rw [setups_setFeatures, setups_setFeatures, same.setups]
  all_goals
    intros
    exact ⟨same.flash, same.setups⟩

theorem write (same : chip.SameCourse other) (bytes : List UInt8) :
    (Link.write bytes chip).state.SameCourse (Link.write bytes other).state := by
  cases decoded : Frame.decode bytes with
  | error e =>
    show (accept bytes chip).state.SameCourse (accept bytes other).state
    rw [accept, accept, decoded]
    exact same
  | ok frame =>
    obtain ⟨_, left⟩ := state_write_of_decoded decoded chip
    obtain ⟨_, leftOther⟩ := state_write_of_decoded decoded other
    have counted : chip.counted.SameCourse other.counted := ⟨same.flash, same.setups⟩
    rw [left, leftOther]
    exact ⟨(counted.handle frame).flash, (counted.handle frame).setups⟩

theorem load? (same : chip.SameCourse other) (bytes : List UInt8) :
    other.load? bytes = chip.load? bytes := by
  rw [Chip.load?, Chip.load?, same.latched, same.config]

theorem fed (same : chip.SameCourse other) (traffic : List (List UInt8)) :
    (chip.fed traffic).SameCourse (other.fed traffic) := by
  induction traffic generalizing chip other with
  | nil => exact same
  | cons bytes rest ih => exact ih (same.write bytes)

theorem loads (same : chip.SameCourse other) (page : Nat) (traffic : List (List UInt8)) :
    other.loads page traffic = chip.loads page traffic := by
  induction traffic generalizing chip other with
  | nil => rfl
  | cons bytes rest ih => rw [Chip.loads, Chip.loads, same.load?, ih (same.write bytes)]

end SameCourse

theorem sameCourse_loadFaults (chip : Chip) (faults : Nat → Option InjectedFault) :
    chip.SameCourse { chip with loadFaults := faults } := ⟨rfl, rfl⟩

section Injected

variable (start : Chip) (page : Nat) (fault : LoadFault) (count : Nat)

/-- A fault injected into a page misbehaves in its way as long as loads are left, and once if it was
injected for none. -/
theorem fault?_fed_injected (traffic : List (List UInt8)) :
    ((start.injectFault page fault (some count)).fed traffic).fault? page =
      if (start.injectFault page fault (some count)).loads page traffic < max 1 count then
        some fault
      else none := by
  have injected : (start.injectFault page fault (some count)).loadFaults page
      = some ⟨fault, some count⟩ := assign_same _ _ _
  rw [fault?, loadFaults_fed, injected, InjectedFault.afterLoads_counted]
  split <;> rfl

/-- All other pages load as if nothing had been injected. -/
theorem fault?_fed_elsewhere {loaded : Nat} (elsewhere : loaded ≠ page)
    (traffic : List (List UInt8)) :
    ((start.injectFault page fault (some count)).fed traffic).fault? loaded
      = (start.fed traffic).fault? loaded := by
  have kept : (start.injectFault page fault (some count)).loadFaults loaded
      = start.loadFaults loaded := assign_other _ _ elsewhere
  have same : start.SameCourse (start.injectFault page fault (some count)) :=
    sameCourse_loadFaults start _
  rw [fault?, fault?, loadFaults_fed, loadFaults_fed, kept, same.loads]

/-- Whatever is written to a chip after a fault was injected into `count` loads of a page: exactly
the first `count` loads of the page misbehave in its way, and all later ones are as they should be;
but a fault that is injected for no load makes one misbehave. Pages elsewhere load as if nothing had
been injected; and no fault, injected here or before, ever changes what the cells hold. -/
theorem loadFault_lasts :
    let chip := start.injectFault page fault (some count)
    (∀ earlier bytes column loaded, (chip.fed earlier).load? bytes = some (column, loaded) →
      (chip.fed earlier).LoadsAs column loaded
        (if loaded = page then
          if chip.loads page earlier < max 1 count then some fault else none
        else (start.fed earlier).fault? loaded)
        (chip.fed (earlier ++ [bytes]))) ∧
    ∀ faults traffic, (Chip.fed { start with loadFaults := faults } traffic).cells
      = (start.fed traffic).cells := by
  intro chip
  refine ⟨fun earlier bytes column loaded loads => ?_, fun faults traffic => ?_⟩
  · have misbehaves : (chip.fed earlier).fault? loaded =
        if loaded = page then
          if chip.loads page earlier < max 1 count then some fault else none
        else (start.fed earlier).fault? loaded := by
      split
      · next here => rw [here, fault?_fed_injected]
      · next elsewhere => exact fault?_fed_elsewhere start page fault count elsewhere earlier
    rw [← misbehaves, fed_append]
    exact loadsAs_write loads
  · exact congrArg Flash.cells ((sameCourse_loadFaults start faults).fed traffic).flash

end Injected

/-- Of three loads of a page, with one of another page in between, the first two misbehave. -/
theorem loadFault_lasts_twice :
    let chip := smallChip.injectFault 4 .bitFlip (some 2)
    let start := (Frame.simple Opcode.readStart).wire
    let latch (page : UInt8) := (Frame.withAddress Opcode.readMode [0, page]).wire
    let once := [latch 4, start]
    let again := once ++ [latch 5, start, latch 4, start]
    (chip.fed once).register = flipFirstBit (smallChip.cells 4) ∧
      (chip.fed again).register = flipFirstBit (smallChip.cells 4) ∧
      (chip.fed (again ++ [latch 4, start])).register = smallChip.cells 4 := by
  intro chip start latch once again
  have lasts := (loadFault_lasts smallChip 4 .bitFlip 2).1
  have first := lasts [latch 4] start 0 4 (by decide +kernel)
  have second := lasts (once ++ [latch 5, start, latch 4]) start 0 4 (by decide +kernel)
  have third := lasts (again ++ [latch 4]) start 0 4 (by decide +kernel)
  refine ⟨first.register.trans ?_, second.register.trans ?_, third.register.trans ?_⟩
  · decide +kernel
  · decide +kernel
  · decide +kernel

/-- A fault that is injected for no load is there for the first one. -/
theorem loadFault_outlasts_zero :
    let chip := smallChip.injectFault 4 .bitFlip (some 0)
    let start := (Frame.simple Opcode.readStart).wire
    let latch := (Frame.withAddress Opcode.readMode [0, 4]).wire
    (chip.fed [latch]).load? start = some (0, 4) ∧ chip.loads 4 [latch] = 0 ∧
      ¬ (chip.fed [latch]).LoadsAs 0 4 none (chip.fed [latch, start]) := by
  refine ⟨by decide +kernel, by decide +kernel, fun clean => ?_⟩
  exact absurd clean.register (by decide +kernel)

end Chip
end OnfiFlash
