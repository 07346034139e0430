import OnfiFlash.Proofs.DialogueRun
import OnfiFlash.Proofs.Flash
import OnfiFlash.Proofs.FrameCodec
import OnfiFlash.Proofs.FrameKinds

/-! What arbitrary command traffic leaves in place. A frame answers with as many bytes as it
requests or with none, so a chip with no response waiting has none waiting afterwards; and
whatever is sent, pages keep their size and the chip its layout. -/
namespace OnfiFlash

namespace Chip

@[simp] theorem length_resized (size : Nat) (filler : UInt8) (bytes : List UInt8) :
    (resized size filler bytes).length = size := by
  simp only [resized, List.length_append, List.length_take, List.length_replicate]
  omega

theorem resized_of_le {size : Nat} {bytes : List UInt8} (enough : size ≤ bytes.length)
    (filler : UInt8) : resized size filler bytes = bytes.take size := by
  simp only [resized, List.length_take_of_le enough, Nat.sub_self, List.replicate_zero,
    List.append_nil]

/-- A chip between two commands of a session: pages have their full size and no response
waits. -/
structure Sound (chip : Chip) : Prop where
  sized : chip.flash.Sized
  clear : chip.pending = []

theorem sound_ofConfig (c : Config) : (ofConfig c).Sound where
  sized page := by
    show (c.factoryPage page).length = c.rawPageSize
    unfold Config.factoryPage
    split
    · rw [Config.markedPage, List.length_set, Config.erasedPage, List.length_replicate]
    · exact List.length_replicate
  clear := rfl

theorem pending_loadPage (chip : Chip) (column page : Nat) :
    (chip.loadPage column page).pending = chip.pending := by
  unfold loadPage
  split
  · rfl
  · next injected _ => cases injected.fault <;> rfl

theorem pending_readStart (chip : Chip) : chip.readStart.1.pending = chip.pending := by
  unfold readStart
  split
  · rfl
  · split
    · exact pending_loadPage _ _ _
    · rfl

theorem pending_eraseConfirm (chip : Chip) : chip.eraseConfirm.pending = chip.pending := by
  unfold eraseConfirm
  split
  · rfl
  · simp only
    split <;> rfl

theorem pending_storeProgram (chip : Chip) (pending : PendingProgram) :
    (chip.storeProgram pending).pending = chip.pending := by
  unfold storeProgram
  split
  · split <;> rfl
  · rfl

theorem pending_programConfirm (chip : Chip) :
    chip.programConfirm.state.pending = chip.pending := by
  unfold programConfirm
  split
  · rfl
  · dsimp only
    split
    · rfl
    · rfl
    · split
      · rfl
      · exact pending_storeProgram _ _

theorem pending_setFeatures (chip : Chip) (feature mode : Option UInt8) :
    (chip.setFeatures feature mode).pending = chip.pending := by
  unfold setFeatures
  split
  · split <;> rfl
  · rfl

private theorem ite_cases {α β : Type} {motive : (α → β) → Prop} {c : Prop} [Decidable c]
    {first second : α → β} (holds : c → motive first) (fails : ¬ c → motive second) :
    motive fun value => if c then first value else second value := by
  by_cases decided : c
  · simpa only [decided, if_true] using holds decided
  · simpa only [decided, if_false] using fails decided

/-- What chips do with a frame, one case for each command: the frame alone decides which. -/
theorem handle_cases {motive : (Chip → Reply Chip (List UInt8)) → Prop} (frame : Frame)
    (reset : frame.opcode = Opcode.reset → motive fun chip =>
      ⟨.ok [], { chip.start with latched := none, program := none, eraseRow := none }, []⟩)
    (readId : frame.opcode = Opcode.readId → motive fun chip =>
      ⟨.ok (resized frame.readLength.toNat 0 (chip.identifier frame.address.head?)), chip, []⟩)
    (parameterPage : frame.opcode = Opcode.readParameterPage → motive fun chip =>
      ⟨.ok (resized frame.readLength.toNat 0 chip.config.parameterPage), chip, []⟩)
    (status : frame.opcode = Opcode.readStatus → motive fun chip =>
      ⟨.ok (List.replicate frame.readLength.toNat chip.status.bits),
        { chip with busy := chip.busy - 1 }, []⟩)
    (register : frame.opcode = Opcode.readMode → frame.address.isEmpty → motive fun chip =>
      ⟨.ok (chip.readRegister frame.readLength.toNat).2,
        (chip.readRegister frame.readLength.toNat).1, []⟩)
    (latch : frame.opcode = Opcode.readMode → ¬ frame.address.isEmpty → motive fun chip =>
      ⟨.ok [], { chip with latched := some (chip.splitAddress frame.address) }, []⟩)
    (load : frame.opcode = Opcode.readStart → motive fun chip =>
      ⟨.ok [], chip.readStart.1, chip.readStart.2⟩)
    (column : frame.opcode = Opcode.changeReadColumn → motive fun chip =>
      ⟨.ok [], { chip with column := addressValue frame.address }, []⟩)
    (fromColumn : frame.opcode = Opcode.changeReadColumnStart → motive fun chip =>
      ⟨.ok (chip.readRegister frame.readLength.toNat).2,
        (chip.readRegister frame.readLength.toNat).1, []⟩)
    (eraseSetup : frame.opcode = Opcode.eraseSetup → motive fun chip =>
      ⟨.ok [], { chip with eraseRow := some (Geometry.decodeRow frame.address) }, []⟩)
    (eraseConfirm : frame.opcode = Opcode.eraseConfirm → motive fun chip =>
      ⟨.ok [], chip.eraseConfirm, []⟩)
    (programSetup : frame.opcode = Opcode.programSetup → motive fun chip =>
      ⟨.ok [], { chip with program := some ⟨(chip.splitAddress frame.address).1,
        (chip.splitAddress frame.address).2, frame.data⟩ }, []⟩)
    (programConfirm : frame.opcode = Opcode.programConfirm → motive fun chip =>
      ⟨chip.programConfirm.result.map fun _ => [], chip.programConfirm.state,
        chip.programConfirm.notices⟩)
    (features : frame.opcode = Opcode.setFeatures → motive fun chip =>
      ⟨.ok [], chip.setFeatures frame.address.head? frame.data.head?, []⟩)
    (unknown : frame.opcode ∉ Opcode.known → ∀ notice, motive fun chip =>
      ⟨.error .protocol, chip, [notice]⟩) :
    motive fun chip => chip.handle frame :=
  ite_cases reset fun _ => ite_cases readId fun _ => ite_cases parameterPage fun _ =>
  ite_cases status fun _ =>
  ite_cases (fun mode => ite_cases (register mode) (latch mode)) fun _ =>
  ite_cases load fun _ => ite_cases column fun _ => ite_cases fromColumn fun _ =>
  ite_cases eraseSetup fun _ => ite_cases eraseConfirm fun _ =>
  ite_cases programSetup fun _ => ite_cases programConfirm fun _ =>
  ite_cases features fun _ => unknown (by simp [Opcode.known, *]) _

theorem pending_handle (chip : Chip) (frame : Frame) :
    (chip.handle frame).state.pending = chip.pending := by
  refine handle_cases (motive := fun handle => (handle chip).state.pending = chip.pending) frame
    ?_ ?_ ?_ ?_ ?_ ?_ ?load ?_ ?_ ?_ ?erase ?_ ?program ?features ?_
  case load => exact fun _ => pending_readStart chip
  case erase => exact fun _ => pending_eraseConfirm chip
  case program => exact fun _ => pending_programConfirm chip
  case features => exact fun _ => pending_setFeatures chip _ _
  all_goals intros; rfl

theorem length_handle {chip : Chip} {frame : Frame} {response : List UInt8} :
    (chip.handle frame).result = .ok response →
      response.length = frame.readLength.toNat ∨ response = [] := by
  refine handle_cases (motive := fun handle => (handle chip).result = .ok response →
      response.length = frame.readLength.toNat ∨ response = []) frame
    ?_ ?id ?page ?status ?register ?_ ?_ ?_ ?fromColumn ?_ ?_ ?_ ?program ?_ ?_
  case program =>
    intro _ answered
    cases confirmed : chip.programConfirm.result <;> simp [Except.map, confirmed] at answered
    exact .inr answered
  case register =>
    rintro _ _ ⟨⟩
    exact .inl (length_resized _ _ _)
  case id | page | fromColumn =>
    rintro _ ⟨⟩
    exact .inl (length_resized _ _ _)
  case status =>
    rintro _ ⟨⟩
    exact .inl List.length_replicate
  all_goals intros; simp_all

/-- A frame that asks for no more than its command answers with is answered in full or not at
all. -/
theorem length_handle_proper {chip : Chip} {frame : Frame} {response : List UInt8}
    (proper : frame.Proper) :
    (chip.handle frame).result = .ok response → response.length = frame.readLength.toNat := by
  have nothing (asks : frame.readLength.toNat = 0) :
      (.ok [] : Except Error (List UInt8)) = .ok response →
        response.length = frame.readLength.toNat := by
    rintro ⟨⟩
    exact asks.symm
  refine handle_cases (motive := fun handle => (handle chip).result = .ok response →
      response.length = frame.readLength.toNat) frame
    ?_ ?id ?page ?status ?register ?latch ?_ ?_ ?fromColumn ?_ ?_ ?_ ?program ?_ ?unknown
  case id | page | fromColumn =>
    rintro _ ⟨⟩
    exact length_resized _ _ _
  case status =>
    rintro _ ⟨⟩
    exact List.length_replicate
  case register =>
    rintro _ _ ⟨⟩
    exact length_resized _ _ _
  case latch =>
    intro mode present
    exact nothing (proper.latches mode fun absent => present (by rw [absent]; rfl))
  case program =>
    intro command
    have silent := nothing (proper.silent command (by decide))
    dsimp only
    cases chip.programConfirm.result with
    | error e => exact nofun
    | ok _ => exact silent
  case unknown => exact fun unfamiliar => absurd proper.known unfamiliar
  all_goals
    intro command
    exact nothing (proper.silent command (by decide))

theorem flash_loadPage (chip : Chip) (column page : Nat) :
    (chip.loadPage column page).flash = chip.flash := by
  unfold loadPage
  split
  · rfl
  · next injected _ => cases injected.fault <;> rfl

theorem flash_readStart (chip : Chip) : chip.readStart.1.flash = chip.flash := by
  unfold readStart
  split
  · rfl
  · split
    · exact flash_loadPage _ _ _
    · rfl

theorem flash_setFeatures (chip : Chip) (feature mode : Option UInt8) :
    (chip.setFeatures feature mode).flash = chip.flash := by
  unfold setFeatures
  split
  · split <;> rfl
  · rfl

/-- What a frame does to the array: nothing, one erase or one program. -/
theorem flash_handle (chip : Chip) (frame : Frame) :
    (chip.handle frame).state.flash = chip.flash ∨
    (∃ row, frame.opcode = Opcode.eraseConfirm ∧ chip.eraseRow = some row ∧
      (chip.handle frame).state.flash = chip.flash.erase (row / chip.config.pagesPerBlock)) ∨
    (∃ pending, frame.opcode = Opcode.programConfirm ∧ chip.program = some pending ∧
      (chip.handle frame).state.flash = chip.flash.program pending) := by
  refine handle_cases (motive := fun handle => (handle chip).state.flash = chip.flash ∨
      (∃ row, frame.opcode = Opcode.eraseConfirm ∧ chip.eraseRow = some row ∧
        (handle chip).state.flash = chip.flash.erase (row / chip.config.pagesPerBlock)) ∨
      (∃ pending, frame.opcode = Opcode.programConfirm ∧ chip.program = some pending ∧
        (handle chip).state.flash = chip.flash.program pending)) frame
    ?_ ?_ ?_ ?_ ?_ ?_ ?load ?_ ?_ ?_ ?erase ?_ ?program ?features ?_
  case load => exact fun _ => .inl (flash_readStart chip)
  case features => exact fun _ => .inl (flash_setFeatures chip _ _)
  case erase =>
    intro command
    rw [flash_eraseConfirm]
    cases chip.eraseRow with
    | none => exact .inl rfl
    | some row => exact .inr (.inl ⟨row, command, rfl, rfl⟩)
  case program =>
    intro command
    rw [flash_programConfirm]
    cases chip.program with
    | none => exact .inl rfl
    | some pending => exact .inr (.inr ⟨pending, command, rfl, rfl⟩)
  all_goals intros; exact .inl rfl

/-- What no traffic changes: the layout, and the size of pages. -/
structure Keeps (chip after : Chip) : Prop where
  layout : chip.config.SameLayout after.config
  sized : chip.flash.Sized → after.flash.Sized

theorem Keeps.of_flash {chip after : Chip} (same : after.flash = chip.flash) :
    chip.Keeps after where
  layout := by
    have config : after.config = chip.config := congrArg Flash.config same
    rw [config]
    exact .refl _
  sized sized := same ▸ sized

theorem Keeps.trans {chip second third : Chip} (first : chip.Keeps second)
    (next : second.Keeps third) : chip.Keeps third where
  layout := first.layout.trans next.layout
  sized sized := next.sized (first.sized sized)

theorem Keeps.of_erase {chip after : Chip} {block : Nat}
    (erased : after.flash = chip.flash.erase block) : chip.Keeps after where
  layout := by
    have config : after.config = (chip.flash.erase block).config := congrArg Flash.config erased
    rw [config]
    exact Flash.sameLayout_erase _ _
  sized sized := erased ▸ sized.erase _

theorem Keeps.of_program {chip after : Chip} {pending : PendingProgram}
    (programmed : after.flash = chip.flash.program pending) : chip.Keeps after where
  layout := by
    have config : after.config = (chip.flash.program pending).config :=
      congrArg Flash.config programmed
    rw [config]
    exact Flash.sameLayout_program chip.flash pending
  sized sized := programmed ▸ sized.program _

theorem keeps_handle (chip : Chip) (frame : Frame) : chip.Keeps (chip.handle frame).state := by
  rcases flash_handle chip frame with same | ⟨row, _, _, erased⟩ | ⟨pending, _, _, programmed⟩
  · exact .of_flash same
  · exact .of_erase erased
  · exact .of_program programmed

/-- The chip once it has accepted one more frame. -/
def counted (chip : Chip) : Chip := { chip with frames := chip.frames + 1 }

@[simp] theorem flash_counted (chip : Chip) : chip.counted.flash = chip.flash := rfl

@[simp] theorem pending_counted (chip : Chip) : chip.counted.pending = chip.pending := rfl

@[simp] theorem loadFaults_counted (chip : Chip) : chip.counted.loadFaults = chip.loadFaults := rfl

@[simp] theorem register_counted (chip : Chip) : chip.counted.register = chip.register := rfl

/-- What happens to a well-formed frame on a chip with no response waiting. -/
theorem execute_eq {chip : Chip} (clear : chip.pending = []) {frame : Frame}
    (wellFormed : frame.WellFormed) {response : List UInt8} {after : Chip} {notices : List Notice}
    (handled : chip.counted.handle frame = ⟨.ok response, after, notices⟩)
    (complete : response.length = frame.readLength.toNat) :
    Link.execute frame chip = ⟨.ok response, after, notices⟩ := by
  have idle : after.pending = [] := by
    have kept := pending_handle chip.counted frame
    rw [handled] at kept
    exact kept.trans clear
  unfold counted at handled
  have drained : { after with pending := [] } = after := by rw [← idle]
  simp only [Link.execute, Frame.encode_eq frame wellFormed, Link.write, accept,
    Frame.decode_wire frame wellFormed, handled, Reply.andThen]
  by_cases silent : frame.readLength = 0
  · have nothing : response = [] := by simpa [silent] using complete
    simp [silent, nothing, idle, drained]
  · simp [silent, Link.read, take, idle, ← complete, drained]

theorem execute_eq_error {chip : Chip} {frame : Frame} (wellFormed : frame.WellFormed) {e : Error}
    {after : Chip} {notices : List Notice}
    (handled : chip.counted.handle frame = ⟨.error e, after, notices⟩) :
    Link.execute frame chip = ⟨.error e, after, notices⟩ := by
  unfold counted at handled
  simp only [Link.execute, Frame.encode_eq frame wellFormed, Link.write, accept,
    Frame.decode_wire frame wellFormed, handled, Reply.andThen]

/-- Whatever a frame requests, nothing of its response is left over: a well-formed frame leaves the
chip as its command does, any other leaves it alone. -/
theorem state_execute (chip : Chip) (frame : Frame) (clear : chip.pending = []) :
    (Link.execute frame chip).state =
      if frame.WellFormed then (chip.counted.handle frame).state else chip := by
  by_cases wellFormed : frame.WellFormed
  · rw [if_pos wellFormed]
    cases handled : chip.counted.handle frame with
    | mk result after notices =>
      have idle : after.pending = [] := by
        have kept := pending_handle chip.counted frame
        rw [handled] at kept
        exact kept.trans clear
      cases result with
      | error e => rw [execute_eq_error wellFormed handled]
      | ok response =>
        by_cases complete : response.length = frame.readLength.toNat
        · rw [execute_eq clear wellFormed handled complete]
        · -- the frame requests bytes that its command does not answer with
          have nothing : response = [] :=
            (length_handle (congrArg Reply.result handled)).resolve_left complete
          have requested : frame.readLength ≠ 0 := by
            intro silent
            exact complete (by simp [nothing, silent])
          have positive : 0 < frame.readLength.toNat := by
            have different := mt UInt16.toNat_inj.mp requested
            exact Nat.pos_of_ne_zero (by simpa using different)
          have drained : { after with pending := [] } = after := by rw [← idle]
          unfold counted at handled
          simp only [Link.execute, Frame.encode_eq frame wellFormed, Link.write, accept,
            Frame.decode_wire frame wellFormed, handled, Reply.andThen, requested, if_false,
            Link.read, take, idle, nothing, List.append_nil, List.length_nil, positive, if_true]
          exact drained
  · simp only [Link.execute, Frame.encode_error frame wellFormed, if_neg wellFormed]

theorem keeps_execute (chip : Chip) (frame : Frame) (clear : chip.pending = []) :
    chip.Keeps (Link.execute frame chip).state ∧ (Link.execute frame chip).state.pending = [] := by
  rw [state_execute chip frame clear]
  split
  · exact ⟨.trans (.of_flash (flash_counted chip)) (keeps_handle _ frame),
      (pending_handle _ frame).trans clear⟩
  · exact ⟨.of_flash rfl, clear⟩

/-- Only confirmed erases and programs act on the array. -/
theorem flash_execute (chip : Chip) (frame : Frame) (clear : chip.pending = [])
    (noErase : frame.opcode ≠ Opcode.eraseConfirm)
    (noProgram : frame.opcode ≠ Opcode.programConfirm) :
    (Link.execute frame chip).state.flash = chip.flash := by
  rw [state_execute chip frame clear]
  split
  · rcases flash_handle chip.counted frame with same | ⟨_, erases, _⟩ | ⟨_, programs, _⟩
    · exact same
    · exact absurd erases noErase
    · exact absurd programs noProgram
  · rfl

end Chip

/-- What no traffic changes, no dialogue changes either; and it leaves no response behind. -/
theorem Dialogue.run_keeps (dialogue : Dialogue α) (chip : Chip) (clear : chip.pending = []) :
    chip.Keeps (dialogue.run chip).link ∧ (dialogue.run chip).link.pending = [] := by
  induction dialogue generalizing chip with
  | done value => exact ⟨.of_flash rfl, clear⟩
  | request frame next ih =>
    rw [run_request]
    obtain ⟨kept, idle⟩ := Chip.keeps_execute chip frame clear
    obtain ⟨keptAfter, idleAfter⟩ := ih (Link.execute frame chip).result _ idle
    exact ⟨kept.trans keptAfter, idleAfter⟩
  | remark said rest ih =>
    rw [run_remark]
    exact ih chip clear

end OnfiFlash
