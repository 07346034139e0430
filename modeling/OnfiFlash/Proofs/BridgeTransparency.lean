import OnfiFlash.Proofs.ByteStream
import OnfiFlash.Proofs.ChipCommands
import OnfiFlash.Proofs.InUse
import OnfiFlash.Proofs.Simulation

/-! A chip behind a USB bridge. A session asks a chip for just the bytes that it answers with, so
every frame leaves the bridge as empty as it was; hence a session cannot tell the bridge from the
chip itself. -/
namespace OnfiFlash

namespace Chip

/-- No response waits, and no program of a page fails on the link. -/
structure Responsive (chip : Chip) : Prop where
  clear : chip.pending = []
  connected : ∀ page, chip.programFaults page ≠ some .transportError

theorem programConfirm_ok {chip : Chip}
    (connected : ∀ page, chip.programFaults page ≠ some .transportError) :
    chip.programConfirm.result = .ok () := by
  cases setup : chip.program with
  | none => simp only [programConfirm, setup]
  | some program => rw [result_programConfirm setup, if_neg (connected program.page)]

theorem programFaults_handle (chip : Chip) (frame : Frame) :
    (chip.handle frame).state.programFaults = chip.programFaults := by
  show (chip.handle frame).state.flash.programFaults = chip.flash.programFaults
  rcases flash_handle chip frame with same | ⟨_, _, _, erased⟩ | ⟨_, _, _, programmed⟩
  · rw [same]
  · rw [erased, Flash.programFaults_erase]
  · rw [programmed, Flash.programFaults_program]

/-- A frame that a session sends is answered in full. -/
theorem handle_proper {chip : Chip} {frame : Frame} (proper : frame.Proper)
    (connected : ∀ page, chip.programFaults page ≠ some .transportError) :
    ∃ response, (chip.handle frame).result = .ok response ∧
      response.length = frame.readLength.toNat := by
  have answered : ∃ response, (chip.handle frame).result = .ok response := by
    refine handle_cases (motive := fun handle => ∃ response, (handle chip).result = .ok response)
      frame ?_ ?_ ?_ ?_ ?_ ?_ ?_ ?_ ?_ ?_ ?_ ?_ ?program ?_ ?unknown
    case program =>
      intro _
      dsimp only
      rw [programConfirm_ok connected]
      exact ⟨_, rfl⟩
    case unknown => exact fun unfamiliar => absurd proper.known unfamiliar
    all_goals
      intros
      exact ⟨_, rfl⟩
  obtain ⟨response, answered⟩ := answered
  exact ⟨response, answered, length_handle_proper proper answered⟩

/-- A well-formed frame that a session sends is answered, and the chip is ready for the next. -/
theorem Responsive.execute {chip : Chip} (responsive : chip.Responsive) {frame : Frame}
    (proper : frame.Proper) (wellFormed : frame.WellFormed) :
    ∃ response after notices, Link.execute frame chip = ⟨.ok response, after, notices⟩ ∧
      after.Responsive := by
  have connected : ∀ page, chip.counted.programFaults page ≠ some .transportError :=
    responsive.connected
  obtain ⟨response, answered, complete⟩ := handle_proper proper connected
  refine ⟨response, (chip.counted.handle frame).state, (chip.counted.handle frame).notices,
    execute_eq responsive.clear wellFormed ?_ complete, ?_, ?_⟩
  · rw [← answered]
  · rw [pending_handle]
    exact responsive.clear
  · rw [programFaults_handle]
    exact responsive.connected

end Chip

theorem Reply.andThen_congr {σ α β : Type} {reply : Reply σ α} {next other : α → σ → Reply σ β}
    {value : β} (succeeded : (reply.andThen next).result = .ok value)
    (same : ∀ earlier state, (next earlier state).result = .ok value →
      other earlier state = next earlier state) :
    reply.andThen other = reply.andThen next := by
  obtain ⟨earlier, found, later⟩ := reply.result_andThen_eq_ok next value succeeded
  simp only [andThen, found, same earlier reply.state later]

namespace Usb

def packetsOf : List UInt8 → List (List UInt8)
  | [] => []
  | response => [response]

theorem flatten_packetsOf (response : List UInt8) : (packetsOf response).flatten = response := by
  cases response <;> simp [packetsOf]

theorem packetsOf_nonempty (response : List UInt8) :
    ∀ packet ∈ packetsOf response, packet ≠ [] := by
  cases response <;> simp [packetsOf]

/-- The pipes take a response from the chip as any link does, as long as it is not too short. -/
theorem Pipes.response_eq {length : UInt16} {chip : Chip} {bytes : List UInt8}
    (taken : (if length = 0 then (⟨.ok [], chip, []⟩ : Reply Chip (List UInt8))
      else Link.read length.toNat chip).result = .ok bytes) :
    response length.toNat chip
      = if length = 0 then ⟨.ok [], chip, []⟩ else Link.read length.toNat chip := by
  by_cases silent : length = 0
  · rw [if_pos silent, silent]
    rfl
  · rw [if_neg silent] at taken ⊢
    have asks : length.toNat ≠ 0 := fun nothing => silent (UInt16.toNat_inj.mp nothing)
    have took : (Chip.take length.toNat chip).result = .ok bytes := taken
    rw [response, if_neg asks]
    dsimp only
    rw [took]
    exact congrArg (fun result => (⟨result, _, _⟩ : Reply Chip (List UInt8))) took.symm

/-- A frame that a chip answers has the same effect on the chip if it comes through the pipes; the
response arrives as one packet. -/
theorem Pipes.deliver_wire {pipes : Pipes} {chip after : Chip} {frame : Frame}
    {response : List UInt8} {notices : List Notice} (attached : pipes.chip = some chip)
    (wellFormed : frame.WellFormed)
    (executed : Link.execute frame chip = ⟨.ok response, after, notices⟩) :
    pipes.deliver frame.wire = { pipes with
      chip := some after
      heard := notices.reverse ++ pipes.heard
      inward := { pipes.inward with
        events := pipes.inward.events ++ (packetsOf response).map .data } } := by
  have exchanged : ((Chip.accept frame.wire chip).andThen fun _ chip =>
      Pipes.response frame.readLength.toNat chip) = ⟨.ok response, after, notices⟩ := by
    rw [Link.execute, Frame.encode_eq frame wellFormed] at executed
    rw [← executed]
    exact Reply.andThen_congr (congrArg Reply.result executed) fun _ chip taken =>
      response_eq taken
  unfold deliver
  simp only [attached, Frame.readLength_wire, exchanged]
  cases response with
  | nil => simp [packetsOf]
  | cons first rest => rfl

/-- The same for a transfer that nothing hinders. -/
theorem Pipes.waitOut_submitOut {pipes : Pipes} {chip after : Chip} {frame : Frame}
    {response : List UInt8} {notices : List Notice} (idle : pipes.outward = {})
    (attached : pipes.chip = some chip) (wellFormed : frame.WellFormed)
    (executed : Link.execute frame chip = ⟨.ok response, after, notices⟩) (milliseconds : Nat) :
    (pipes.submitOut frame.wire).waitOut milliseconds = (some (.ok ()), { pipes with
      chip := some after
      heard := notices.reverse ++ pipes.heard
      calls := .wait outEndpoint milliseconds :: .submitOut frame.wire :: pipes.calls
      inward := { pipes.inward with
        events := pipes.inward.events ++ (packetsOf response).map .data } }) := by
  -- an idle endpoint settles the transfer by handing the frame to the chip
  cases pipes
  cases idle
  exact congrArg (Prod.mk _) (Pipes.deliver_wire attached wellFormed executed)

namespace Bridge

variable {bridge : Bridge} {chip : Chip} {bytes : List UInt8}

/-- The bridge stands in front of the chip. These bytes have yet to be read; nothing else is on its
way in either direction, and nothing will happen on the bus that the chip does not bring about. -/
structure Fronts (bridge : Bridge) (chip : Chip) (bytes : List UInt8) : Prop where
  attached : bridge.pipes.chip = some chip
  outward : bridge.pipes.outward = {}
  offers : bridge.Offers bytes
  heard : bridge.pipes.heard = []

theorem Fronts.write (fronts : bridge.Fronts chip []) {frame : Frame} {response : List UInt8}
    {after : Chip} {notices : List Notice} (wellFormed : frame.WellFormed)
    (executed : Link.execute frame chip = ⟨.ok response, after, notices⟩) :
    ∃ written, Link.write frame.wire bridge = ⟨.ok (), written, notices⟩ ∧
      written.Fronts after response := by
  obtain ⟨attached, outward, offers, heard⟩ := fronts
  obtain ⟨stash, inward⟩ := offers.nothing
  refine ⟨{ bridge with pipes := { bridge.pipes with
    chip := some after
    inward := { events := (packetsOf response).map .data }
    calls := .wait outEndpoint bridge.timeout :: .submitOut frame.wire :: bridge.pipes.calls } },
    ?_, rfl, outward, ⟨packetsOf response, ⟨rfl, packetsOf_nonempty response⟩, ?_⟩, heard⟩
  · show reply (bridge.send frame.wire) _ = _
    rw [send, Pipes.waitOut_submitOut outward attached wellFormed executed]
    simp [reply, takeNotices, inward, heard]
  · simp only [stash, List.nil_append, flatten_packetsOf]

theorem Fronts.read (fronts : bridge.Fronts chip bytes) :
    ∃ after, Link.read bytes.length bridge = ⟨.ok bytes, after, []⟩ ∧ after.Fronts chip [] := by
  obtain ⟨attached, outward, offers, heard⟩ := fronts
  obtain ⟨after, received, read, offers⟩ := offers.receive (Nat.le_refl _)
  rw [List.take_length] at received
  rw [List.drop_length] at offers
  have unheard : after.pipes.heard = [] := by
    rw [read]
    exact heard
  refine ⟨after, ?_, ?_, ?_, offers, unheard⟩
  · have unchanged : after.takeNotices = ([], after) := by
      rw [takeNotices, unheard, List.reverse_nil, ← unheard]
    show reply (bridge.receive bytes.length) surplusWarning = _
    simp only [received, reply, unchanged, surplusWarning, offers.nothing.1, List.length_nil,
      List.append_nil]
  · rw [read]
    exact attached
  · rw [read]
    exact outward

/-- A frame that the chip answers is answered alike over the bridge. -/
theorem Fronts.execute (fronts : bridge.Fronts chip []) {frame : Frame} {response : List UInt8}
    {after : Chip} {notices : List Notice} (wellFormed : frame.WellFormed)
    (executed : Link.execute frame chip = ⟨.ok response, after, notices⟩) :
    ∃ bridgeAfter, Link.execute frame bridge = ⟨.ok response, bridgeAfter, notices⟩ ∧
      bridgeAfter.Fronts after [] := by
  have complete : response.length = frame.readLength.toNat :=
    Link.length_execute frame chip response (congrArg Reply.result executed)
  obtain ⟨written, wrote, carries⟩ := fronts.write wellFormed executed
  simp only [Link.execute, Frame.encode_eq frame wellFormed, wrote, Reply.andThen]
  by_cases silent : frame.readLength = 0
  · have nothing : response = [] := by simpa [silent] using complete
    rw [nothing] at carries ⊢
    exact ⟨written, by simp [silent], carries⟩
  · obtain ⟨last, taken, restored⟩ := carries.read
    refine ⟨last, ?_, restored⟩
    simp only [silent, if_false, ← complete, taken, List.append_nil]

/-- The bridge stands in front of a chip that can take the next frame. -/
def Serves (bridge : Bridge) (chip : Chip) : Prop := bridge.Fronts chip [] ∧ chip.Responsive

theorem Serves.agree (serves : bridge.Serves chip) {frame : Frame} (proper : frame.Proper) :
    Link.Agree frame bridge chip Serves := by
  by_cases wellFormed : frame.WellFormed
  · obtain ⟨response, after, notices, executed, responsive⟩ :=
      serves.2.execute proper wellFormed
    obtain ⟨bridgeAfter, bridged, fronts⟩ := serves.1.execute wellFormed executed
    constructor <;> simp only [bridged, executed]
    exact ⟨fronts, responsive⟩
  · -- neither link ever sees the frame
    constructor <;> simp only [Link.execute, Frame.encode_error frame wellFormed]
    exact serves

theorem serves_steady : Query.Steady Serves :=
  fun _ plain _ _ serves => serves.agree (.inl plain)

theorem serves_lockstep : Operation.Lockstep fun _ => Serves where
  steady _ := serves_steady
  leaves _ _ _ _ _ serves := serves
  loadPage := Operation.simulates_closed.loadPage
    (fun _ plain _ => Operation.simulates_execute (fun _ => serves_steady) plain)
    (fun _ _ _ _ serves => Dialogue.matches_done serves)
    (Operation.simulates_waitReady fun _ => serves_steady)
  readData start size? := Operation.simulates_closed.readData
    (fun _ reads => Operation.simulates_ofQuery fun _ _ _ serves =>
      Query.matches_execute (serves.agree (.inr reads)))
    (fun _ plain _ => Operation.simulates_execute (fun _ => serves_steady) plain) start size?
    fun _ _ _ => Operation.simulates_throw _

end Bridge
end Usb

/-- Opening a session over a bridge and calling it gives the answers, the session and the transcript
that it gives on the chip itself, and leaves the chip behind the bridge in the same state. -/
theorem Session.converse_bridged {bridge : Usb.Bridge} {chip : Chip}
    (fronts : bridge.Fronts chip []) (clear : chip.pending = [])
    (connected : ∀ page, chip.programFaults page ≠ some .transportError)
    (config : SessionConfig) (calls : List Call) :
    let bridged := (converse config calls).run bridge
    let direct := (converse config calls).run chip
    bridged.value = direct.value ∧ bridged.transcript = direct.transcript ∧
      bridged.link.pipes.chip = some direct.link := by
  intro bridged direct
  have serves : bridge.Serves chip := ⟨fronts, clear, connected⟩
  have matched := matches_converse Usb.Bridge.serves_lockstep config calls
    (fun _ => Usb.Bridge.serves_steady.reset config.polling bridge chip serves) (fun _ => serves)
  obtain ⟨_, still, -⟩ := matched.related
  exact ⟨matched.value, matched.transcript, still.attached⟩

/-- An image is written and read back over a bridge that is opened on a bus, in packets of five
bytes. -/
theorem Session.converse_bridged_small :
    let bus : Usb.Bus := { devices := [{ maxPacket := 5, chip := some smallChip }] }
    let calls := [.writeImage 1 (List.replicate 30 7), .readImage 1, .readPage 99, .eraseBlock 2]
    ∃ bridge, (Usb.Bridge.openNth bus {} 0).1 = .ok bridge ∧
      ((converse {} calls).run bridge).value.map Prod.fst = .ok
        [.ok (.blocks [2, 3]), .ok (.bytes (List.replicate 30 7 ++ List.replicate 6 0)),
          .error .addressOutOfRange, .ok (.status ⟨0xC0⟩)] ∧
      ((converse {} calls).run bridge).link.pipes.chip.map Chip.eraseLog = some [2, 3, 0, 2] := by
  intro bus calls
  have fronts : Usb.Bridge.Fronts
      { pipes := { maxPacket := 5, chip := some smallChip, calls := [.claim 1, .openDevice 0] }
        timeout := 5000 } smallChip [] := ⟨rfl, rfl, ⟨[], ⟨rfl, by decide⟩, rfl⟩, rfl⟩
  have connected : ∀ page, smallChip.programFaults page ≠ some .transportError :=
    fun _ => show none ≠ some ProgramFault.transportError by decide
  obtain ⟨value, -, chip⟩ := converse_bridged fronts rfl connected {} calls
  refine ⟨_, rfl, ?_, ?_⟩
  · rw [value]
    decide +kernel
  · rw [chip]
    decide +kernel

end OnfiFlash
