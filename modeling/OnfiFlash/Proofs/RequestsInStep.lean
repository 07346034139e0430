import OnfiFlash.Proofs.ChipTraffic
import OnfiFlash.Proofs.Discipline
import OnfiFlash.Proofs.InUse
import OnfiFlash.Proofs.LinkCalls

/-! Requests and responses in step. A chip queues the response to each frame, and a session takes it
out whole before it sends the next; so no read ever gets a byte of another frame's response,
whatever the chip is like and however the session's calls end. -/
namespace OnfiFlash

namespace Chip

/-- A frame that is written to a chip with no response waiting leaves just its own response. -/
theorem accept_wire {chip : Chip} (clear : chip.pending = []) {frame : Frame}
    (wellFormed : frame.WellFormed) (written : (Link.write frame.wire chip).result = .ok ()) :
    ∃ response, (chip.counted.handle frame).result = .ok response ∧
      (Link.write frame.wire chip).state.pending = response := by
  simp only [Link.write, accept, Frame.decode_wire frame wellFormed] at written ⊢
  cases handled : ({ chip with frames := chip.frames + 1 } : Chip).handle frame with
  | mk result after notices =>
    have idle : after.pending = [] := by
      have kept := pending_handle chip.counted frame
      rw [show chip.counted.handle frame = _ from handled] at kept
      exact kept.trans clear
    rw [handled] at written
    cases result with
    | error e => cases written
    | ok response =>
      refine ⟨response, congrArg Reply.result handled, ?_⟩
      simp only [idle, List.nil_append]

/-- All that waits is read at once. -/
theorem take_pending (chip : Chip) :
    (Link.read chip.pending.length chip).result = .ok chip.pending := by
  simp [Link.read, take]

/-- No response waits, and every read has got just the response of the chip to the frame that was
written right before, when no response waited either. -/
structure InStep (chip : Chip) (calls : List (Link.Call Chip)) : Prop where
  clear : chip.pending = []
  served : ∀ count source earlier, .read count source :: earlier <:+ calls →
    ∃ bytes before frame response rest, earlier = .write bytes before :: rest ∧
      before.pending = [] ∧ Frame.decode bytes = .ok frame ∧
      (before.counted.handle frame).result = .ok response ∧
      source = (Link.write bytes before).state ∧ source.pending = response ∧
      (Link.read count source).result = .ok response

theorem InStep.write {chip after : Chip} {calls : List (Link.Call Chip)}
    (inStep : chip.InStep calls) (bytes : List UInt8) (source : Chip) (clear : after.pending = []) :
    after.InStep (.write bytes source :: calls) where
  clear := clear
  served count source earlier suffix := by
    rcases List.suffix_cons_iff.mp suffix with same | suffix
    · cases same
    · exact inStep.served count source earlier suffix

theorem InStep.read {chip after : Chip} {calls : List (Link.Call Chip)} {frame : Frame}
    (inStep : chip.InStep calls) (regular : frame.Regular)
    (written : (Link.write frame.wire chip).result = .ok ()) (clear : after.pending = []) :
    after.InStep (.read frame.readLength.toNat (Link.write frame.wire chip).state
      :: .write frame.wire chip :: calls) where
  clear := clear
  served count source earlier suffix := by
    rcases List.suffix_cons_iff.mp suffix with same | suffix
    · cases same
      obtain ⟨response, handled, waiting⟩ :=
        accept_wire inStep.clear regular.wellFormed written
      refine ⟨_, chip, frame, response, calls, rfl, inStep.clear,
        Frame.decode_wire frame regular.wellFormed, handled, rfl, waiting, ?_⟩
      rw [← length_handle_proper regular.proper handled, ← waiting]
      exact take_pending _
    · exact (inStep.write frame.wire chip inStep.clear).served count source earlier suffix

/-- An exchange keeps in step. -/
theorem InStep.execute {tap : Tap Chip} (inStep : tap.link.InStep tap.calls) {frame : Frame}
    (regular : frame.Regular) :
    (Link.execute frame tap).state.link.InStep (Link.execute frame tap).state.calls := by
  have clear : (Link.execute frame tap).state.link.pending = [] := by
    rw [(Tap.agree frame tap tap.link rfl).related]
    exact (keeps_execute tap.link frame inStep.clear).2
  revert clear
  refine Tap.execute_cases (motive := fun _ after =>
    after.link.pending = [] → after.link.InStep after.calls) regular.wellFormed tap ?_ ?_ ?_
  · exact fun e refused clear => inStep.write _ _ clear
  · exact fun written silent clear => inStep.write _ _ clear
  · rintro _ rfl written asks clear
    exact inStep.read regular written clear

end Chip

/-- What keeps to the discipline of a session keeps in step. -/
theorem Dialogue.Obeys.inStep {α : Type} {dialogue : Dialogue α} {allowed : Frame → Prop}
    {polling : PollLimit} {post : α → Course → Prop}
    (obeys : dialogue.Obeys (.course allowed polling) post (.running none))
    (regular : ∀ frame, allowed frame → frame.Regular) (tap : Tap Chip)
    (inStep : tap.link.InStep tap.calls) :
    (dialogue.run tap).link.link.InStep (dialogue.run tap).link.calls := by
  have exchange : ∀ place frame (tap : Tap Chip),
      (Monitor.course allowed polling).allows place frame → tap.link.InStep tap.calls →
      (Link.execute frame tap).state.link.InStep (Link.execute frame tap).state.calls :=
    fun _ frame _ sent kept => kept.execute (regular frame sent.2)
  obtain ⟨_, _, kept⟩ := obeys.run exchange inStep
  exact kept

namespace Session

theorem Call.inStep (call : Call) (session : Session) (tap : Tap Chip)
    (inStep : tap.link.InStep tap.calls) :
    let ran := ((call.answering.runIn session).run tap).link
    ran.link.InStep ran.calls := by
  by_cases fits : call.Fits
  · exact (call.obeys fits session).inStep (fun _ sent => sent.regular session.valid) tap inStep
  · obtain ⟨e, refused⟩ := call.runIn_of_not_fits fits session
    rw [refused]
    exact inStep

/-- By induction on the calls: each leaves no response for the next to find. -/
theorem answers_inStep (calls : List Call) (session : Session) (tap : Tap Chip)
    (inStep : tap.link.InStep tap.calls) :
    let ran := ((answers calls session).run tap).link
    ran.link.InStep ran.calls := by
  induction calls generalizing session tap with
  | nil => exact inStep
  | cons call rest ih =>
    simp only [answers, Dialogue.run_bind, Dialogue.run_done]
    exact ih _ _ (call.inStep session tap inStep)

theorem converse_inStep (config : SessionConfig) (calls : List Call) (tap : Tap Chip)
    (inStep : tap.link.InStep tap.calls) :
    let ran := ((converse config calls).run tap).link
    ran.link.InStep ran.calls := by
  have opened := (identify_disciplined config).inStep (fun _ asks => asks.regular) tap inStep
  simp only [converse, Dialogue.run_bind]
  cases ((identify config).run.run tap).value with
  | error e => exact opened
  | ok session =>
    simp only [Dialogue.run_bind, Dialogue.run_done]
    exact answers_inStep calls session _ opened

/-- Opening a session and making one call after another, whatever comes of it, leaves no response
waiting on the chip, and every read on the way was answered from the frame written before it. -/
theorem requests_in_step {chip : Chip} (clear : chip.pending = []) :
    (∀ (session : Session) (calls : List Call),
      Chip.InStep ((answers calls session).run chip).link ((answers calls session).calls chip)) ∧
    ∀ (config : SessionConfig) (calls : List Call),
      Chip.InStep ((converse config calls).run chip).link ((converse config calls).calls chip) := by
  have start : chip.InStep [] := ⟨clear, fun _ _ _ suffix => by simp at suffix⟩
  have untapped {α : Type} (dialogue : Dialogue α)
      (kept : ((dialogue.run (⟨chip, []⟩ : Tap Chip)).link.link).InStep (dialogue.calls chip)) :
      Chip.InStep (dialogue.run chip).link (dialogue.calls chip) := by
    rw [← (dialogue.matches_tap ⟨chip, []⟩).related]
    exact kept
  constructor
  · intro session calls
    exact untapped _ (answers_inStep calls session ⟨chip, []⟩ start)
  · intro config calls
    exact untapped _ (converse_inStep config calls ⟨chip, []⟩ start)

/-- A session that fails to read a page beyond the device, then reads one of it and its status. -/
theorem requests_in_step_small :
    let calls := [.readPage 99, .readPage 5, .readStatus]
    (smallChip.pending = [] ∧ ((converse {} calls).calls smallChip).length = 22) ∧
      Chip.InStep ((converse {} calls).run smallChip).link
        ((converse {} calls).calls smallChip) := by
  intro calls
  exact ⟨⟨rfl, by decide +kernel⟩, (requests_in_step rfl).2 {} calls⟩

end Session
end OnfiFlash
