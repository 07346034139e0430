import OnfiFlash.Proofs.ChipCommands
import OnfiFlash.Proofs.Discipline

/-! How long a wait takes and how it ends. Over any link the count of the busy status reads and the
limit decide it; an emulated chip answers as many reads as busy as it is configured to, whatever
operation was started. -/
namespace OnfiFlash

namespace Chip

theorem busy_readStart (chip : Chip) : chip.readStart.1.busy = chip.config.busyPolls := by
  have started (page column : Nat) (begun : Chip) :
      (begun.loadPage column page).busy = begun.busy := by
    unfold loadPage
    split
    · rfl
    · next injected _ => cases injected.fault <;> rfl
  unfold readStart
  split
  · rfl
  · split
    · exact started _ _ _
    · rfl

theorem busy_setFeatures (chip : Chip) (feature mode : Option UInt8) :
    (chip.setFeatures feature mode).busy = chip.config.busyPolls := by
  unfold setFeatures
  split
  · split <;> rfl
  · rfl

/-- Whatever operation is started, the chip is busy for as long as it is configured to. -/
theorem busy_handle {chip : Chip} {frame : Frame} (starting : frame.opcode ∈ Opcode.starting)
    (released : ∀ page, chip.programFaults page ≠ some .stuck) :
    (chip.handle frame).state.busy = chip.config.busyPolls := by
  revert starting
  refine handle_cases (motive := fun handle => frame.opcode ∈ Opcode.starting →
      (handle chip).state.busy = chip.config.busyPolls) frame
    ?reset ?_ ?_ ?_ ?register ?latch ?load ?_ ?_ ?_ ?erase ?_ ?program ?features ?unknown
  case reset => exact fun _ _ => rfl
  case load => exact fun _ _ => busy_readStart chip
  case erase => exact fun _ _ => busy_eraseConfirm chip
  case features => exact fun _ _ => busy_setFeatures chip _ _
  case program =>
    intro _ _
    cases setup : chip.program with
    | none => simp only [programConfirm, setup, fail, start]
    | some pending =>
      dsimp only
      rw [busy_programConfirm setup, Flash.busyAfterProgram]
      exact if_neg (released pending.page)
  case unknown =>
    intro unfamiliar _ starting
    have familiar : Opcode.starting ⊆ Opcode.known := by simp [Opcode.starting, Opcode.known]
    exact absurd (familiar starting) unfamiliar
  case register | latch =>
    intro command _ starting
    rw [command] at starting
    exact absurd starting (by decide)
  all_goals
    intro command starting
    rw [command] at starting
    exact absurd starting (by decide)

/-- An operation that is started leaves nothing but its time to be waited for. -/
theorem waits_execute {chip : Chip} (clear : chip.pending = []) {frame : Frame}
    (starting : frame.opcode ∈ Opcode.starting)
    (released : ∀ page, chip.programFaults page ≠ some .stuck) {response : List UInt8}
    (executed : (Link.execute frame chip).result = .ok response) :
    (Link.execute frame chip).state.busy = chip.config.busyPolls ∧
      (Link.execute frame chip).state.pending = [] := by
  by_cases wellFormed : frame.WellFormed
  · rw [state_execute chip frame clear, if_pos wellFormed]
    exact ⟨busy_handle starting released, (pending_handle _ frame).trans clear⟩
  · rw [Link.execute, Frame.encode_error frame wellFormed] at executed
    cases executed

end Chip

namespace Query

open Link

section AnyLink

variable {σ : Type} [Link σ] [LawfulLink σ] {link : σ}

/-- A wait that reaches the first status read to find the device ready ends with it. -/
theorem ensures_pollReady_of_readyAfter {polling : PollLimit} (answers : AnswersStatus link)
    {busy : Nat} (inTime : busy < polling.polls) (ready : ReadyAfter busy link) :
    (pollReady polling).Ensures link fun result _ said =>
      result = .ok (shown (afterReads busy link)) ∧
      Dialogue.frames said = List.replicate (busy + 1) Exchange.statusFrame := by
  refine ensures_pollReady polling answers (fun reads _ found => ?_) fun unready _ _ _ => ?_
  · obtain rfl := found.unique ready
    exact ⟨rfl, frames_readsSaid _ _⟩
  · exact absurd (ready.ready.symm.trans (unready busy inTime)) (by decide)

/-- A wait that does not reach one makes all its reads and gives up. -/
theorem ensures_pollReady_of_busy {polling : PollLimit} (answers : AnswersStatus link)
    (late : ∀ busy < polling.polls, ¬ ReadyAfter busy link) :
    (pollReady polling).Ensures link fun result _ said =>
      result = .error polling.giveUp ∧
      Dialogue.frames said = List.replicate polling.polls Exchange.statusFrame := by
  refine ensures_pollReady polling answers (fun reads inTime found => ?_) fun _ _ sent _ => ?_
  · exact absurd found (late reads inTime)
  · exact ⟨rfl, sent⟩

end AnyLink

/-- A wait for an operation that was just started. -/
theorem ensures_pollReady_of_started {chip : Chip} (clear : chip.pending = []) {frame : Frame}
    (starting : frame.opcode ∈ Opcode.starting)
    (released : ∀ page, chip.programFaults page ≠ some .stuck) {response : List UInt8}
    (executed : (Link.execute frame chip).result = .ok response) {polling : PollLimit}
    (follows : polling.Follows chip.config.busyPolls) :
    (execute frame >>= fun _ => pollReady polling).Ensures chip fun result _ _ =>
      result = if polling.Permits chip.config.busyPolls
        then .ok ((Link.execute frame chip).state.polled chip.config.busyPolls).status
        else .error .timeout := by
  obtain ⟨busy, idle⟩ := Chip.waits_execute clear starting released executed
  rw [ensures_bind, ensures_execute]
  dsimp only
  rw [executed]
  rw [← busy] at follows ⊢
  refine (ensures_pollReady_permits idle follows).mono fun result _ _ ended => ?_
  split
  · next permitted =>
    rw [if_pos permitted] at ended
    exact ended.1
  · next denied =>
    rw [if_neg denied] at ended
    exact ended

/-- Over any link, a wait ends with the first status read that finds the device ready, if it is
among the reads that the limit allows, and otherwise gives up after all of these; what a read shows
besides the ready bit does not count. On a chip with no response waiting, where no program sticks,
a wait for an operation just started succeeds exactly when it may last as long as the operation. -/
theorem waits_bounded :
    (∀ (σ : Type) [Link σ] [LawfulLink σ] (link : σ), AnswersStatus link →
      (∀ polls : Nat,
        (∀ busy < max 1 polls, ReadyAfter busy link →
          (pollReady (.atMost polls)).Ensures link fun result _ said =>
            result = .ok (shown (afterReads busy link)) ∧
            Dialogue.frames said = List.replicate (busy + 1) Exchange.statusFrame) ∧
        ((∀ busy < max 1 polls, ¬ ReadyAfter busy link) →
          (pollReady (.atMost polls)).Ensures link fun result _ said =>
            result = .error .timeout ∧
            Dialogue.frames said = List.replicate (max 1 polls) Exchange.statusFrame)) ∧
      ∀ horizon, ∀ busy < horizon, ReadyAfter busy link →
        (pollReady (.unbounded horizon)).Ensures link fun result _ said =>
          result = .ok (shown (afterReads busy link)) ∧
          Dialogue.frames said = List.replicate (busy + 1) Exchange.statusFrame) ∧
    ∀ (chip : Chip) (frame : Frame) (response : List UInt8) (polling : PollLimit),
      chip.pending = [] → frame.opcode ∈ Opcode.starting →
      (∀ page, chip.programFaults page ≠ some .stuck) →
      (Link.execute frame chip).result = .ok response →
      polling.Follows chip.config.busyPolls →
        (execute frame >>= fun _ => pollReady polling).Ensures chip fun result _ _ =>
          result = if polling.Permits chip.config.busyPolls
            then .ok ((Link.execute frame chip).state.polled chip.config.busyPolls).status
            else .error .timeout := by
  refine ⟨fun σ _ _ link answers => ⟨fun polls => ⟨?_, ?_⟩, ?_⟩, ?_⟩
  · intro busy inTime ready
    exact ensures_pollReady_of_readyAfter answers inTime ready
  · intro late
    exact ensures_pollReady_of_busy answers late
  · intro horizon busy inTime ready
    exact ensures_pollReady_of_readyAfter answers inTime ready
  · intro chip frame response polling clear starting released executed follows
    exact ensures_pollReady_of_started clear starting released executed follows

/-- A chip that answers two status reads as busy after every operation. -/
def slowChip : Chip := .ofConfig { busyPolls := 2 }

/-- The slow chip is waited for by three status reads, and not by two. -/
theorem waits_bounded_slow :
    let started := (Link.execute (.simple Opcode.reset) slowChip).state
    AnswersStatus started ∧ ReadyAfter 2 started ∧ shown (afterReads 2 started) = ⟨0xC0⟩ ∧
    (pollReady (.atMost 3)).Ensures started (fun result _ said =>
      result = .ok ⟨0xC0⟩ ∧ Dialogue.frames said = List.replicate 3 Exchange.statusFrame) ∧
    (pollReady (.unbounded 3)).Ensures started (fun result _ said =>
      result = .ok ⟨0xC0⟩ ∧ Dialogue.frames said = List.replicate 3 Exchange.statusFrame) ∧
    (pollReady (.atMost 2)).Ensures started (fun result _ said =>
      result = .error .timeout ∧
        Dialogue.frames said = List.replicate 2 Exchange.statusFrame) ∧
    (reset (.atMost 3)).Ensures slowChip (fun result _ _ => result = .ok ⟨0xC0⟩) ∧
    (reset (.atMost 2)).Ensures slowChip (fun result _ _ => result = .error .timeout) := by
  intro started
  have clear : started.pending = [] := rfl
  have answers := Chip.answersStatus clear
  have ready : ReadyAfter 2 started := Chip.readyAfter clear
  have last : shown (afterReads 2 started) = ⟨0xC0⟩ := (Chip.shown_afterReads clear 2).trans rfl
  have late (busy : Nat) (early : busy < 2) : ¬ ReadyAfter busy started :=
    fun found => Nat.ne_of_lt early (found.unique ready)
  obtain ⟨anyLink, chips⟩ := waits_bounded
  obtain ⟨limited, unlimited⟩ := anyLink Chip started answers
  have resets (limit : Nat) := chips slowChip (.simple Opcode.reset) [] (.atMost limit)
    rfl (by decide) (fun _ => nofun) rfl (fun _ => nofun)
  refine ⟨answers, ready, last, ?_, ?_, (limited 2).2 late, resets 3, resets 2⟩
  · exact last ▸ (limited 3).1 2 (by decide) ready
  · exact last ▸ unlimited 3 2 (by decide) ready

/-- The slow chip with the answer to a status read left waiting from before. -/
def staleChip : Chip := (Link.write Exchange.statusFrame.wire slowChip).state

/-- A response left waiting is taken for the status: where one waits, a reset can succeed though it
may not last as long as the operation. -/
theorem waits_unbounded_stale :
    ¬ ∀ (chip : Chip) (polling : PollLimit),
      (∀ page, chip.programFaults page ≠ some .stuck) →
      polling.Follows chip.config.busyPolls →
        ((∃ status, ((reset polling).run.run chip).value = .ok status) ↔
          polling.Permits chip.config.busyPolls) := by
  intro bounded
  have succeeds : ((reset (.atMost 1)).run.run staleChip).value = .ok ⟨0xC0⟩ := rfl
  have reached := bounded staleChip (.atMost 1) (fun _ => nofun) (fun _ => nofun)
  have permitted := reached.mp ⟨_, succeeds⟩
  exact absurd permitted (by decide)

end Query
end OnfiFlash
