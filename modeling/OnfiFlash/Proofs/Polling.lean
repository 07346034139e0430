import OnfiFlash.Proofs.ChipTraffic
import OnfiFlash.Proofs.StatusReads

/-! Polling an emulated chip. Its status register shows the flags of its state and nothing else,
and every status read brings it one read closer to being ready; so whether a wait succeeds is a
comparison of two numbers. -/
namespace OnfiFlash

namespace Status

private theorem mask_and_mask (flag other : Flag) :
    (flag.mask &&& other.mask != 0) = (other == flag) := by
  cases flag <;> cases other <;> decide

private theorem has_or (bits : UInt8) (added flag : Flag) :
    (⟨bits ||| added.mask⟩ : Status).has flag = ((⟨bits⟩ : Status).has flag || flag == added) := by
  have distributed : (bits ||| added.mask) &&& flag.mask
      = (bits &&& flag.mask) ||| (added.mask &&& flag.mask) :=
    UInt8.toBitVec_inj.1 BitVec.and_or_distrib_right
  rw [← mask_and_mask, has, has, distributed, Bool.eq_iff_iff]
  simp only [bne_iff_ne, Bool.or_eq_true, ne_eq, UInt8.or_eq_zero_iff]
  exact Decidable.not_and_iff_not_or_not

private theorem has_foldl (flags : List Flag) (bits : UInt8) (flag : Flag) :
    (⟨flags.foldl (fun bits flag => bits ||| flag.mask) bits⟩ : Status).has flag
      = ((⟨bits⟩ : Status).has flag || flags.contains flag) := by
  induction flags generalizing bits with
  | nil => simp
  | cons added rest ih => rw [List.foldl_cons, ih, has_or, List.contains_cons, Bool.or_assoc]

/-- A register made of flags shows these flags and no others. -/
theorem has_ofFlags (flags : List Flag) (flag : Flag) :
    (ofFlags flags).has flag = flags.contains flag := by
  rw [ofFlags, has_foldl]
  simp [has]

end Status

namespace Chip

variable (chip : Chip)

@[simp] theorem isWriteEnabled_status :
    chip.status.isWriteEnabled = !chip.config.writeProtected := by
  rw [Status.isWriteEnabled, status, Status.has_ofFlags]
  cases chip.config.writeProtected <;> by_cases ready : chip.busy = 0 <;> simp [ready]

@[simp] theorem isReady_status : chip.status.isReady = (chip.busy == 0) := by
  rw [Status.isReady, status, Status.has_ofFlags]
  cases chip.config.writeProtected <;> by_cases ready : chip.busy = 0 <;> simp [ready]

theorem isError_status (ready : chip.busy = 0) : chip.status.isError = chip.failed := by
  rw [Status.isError, status, Status.has_ofFlags]
  cases chip.config.writeProtected <;> cases chip.failed <;> cases chip.refresh <;> simp [ready]

theorem isRefreshAdvised_status (ready : chip.busy = 0) :
    chip.status.isRefreshAdvised = chip.refresh := by
  rw [Status.isRefreshAdvised, status, Status.has_ofFlags]
  cases chip.config.writeProtected <;> cases chip.failed <;> cases chip.refresh <;> simp [ready]

def polled (reads : Nat) : Chip :=
  { chip with frames := chip.frames + reads, busy := chip.busy - reads }

@[simp] theorem flash_polled (reads : Nat) : (chip.polled reads).flash = chip.flash := by
  unfold flash
  rfl

@[simp] theorem pending_polled (reads : Nat) : (chip.polled reads).pending = chip.pending := rfl

theorem polled_polled (first second : Nat) :
    (chip.polled first).polled second = chip.polled (first + second) := by
  simp only [polled, Nat.add_assoc, Nat.sub_sub]

theorem isError_polled : (chip.polled chip.busy).status.isError = chip.failed :=
  isError_status _ (Nat.sub_self _)

theorem isRefreshAdvised_polled :
    (chip.polled chip.busy).status.isRefreshAdvised = chip.refresh :=
  isRefreshAdvised_status _ (Nat.sub_self _)

theorem execute_readStatus (clear : chip.pending = []) :
    Link.execute (.read Opcode.readStatus 1) chip
      = ⟨.ok [chip.status.bits], chip.polled 1, []⟩ :=
  execute_eq clear (by decide) rfl rfl

variable {chip}

theorem afterReads_eq (clear : chip.pending = []) (reads : Nat) :
    Link.afterReads reads chip = chip.polled reads := by
  induction reads generalizing chip with
  | zero => rfl
  | succ reads ih =>
    have once : (Link.execute Exchange.statusFrame chip).state = chip.polled 1 :=
      congrArg Reply.state (chip.execute_readStatus clear)
    have idle : (chip.polled 1).pending = [] := clear
    rw [Link.afterReads, once, ih idle, polled_polled, Nat.add_comm]

theorem shown_afterReads (clear : chip.pending = []) (reads : Nat) :
    Link.shown (Link.afterReads reads chip) = (chip.polled reads).status := by
  have answered : (Link.execute Exchange.statusFrame (chip.polled reads)).result
      = .ok [(chip.polled reads).status.bits] :=
    congrArg Reply.result ((chip.polled reads).execute_readStatus clear)
  simp only [afterReads_eq clear, Link.shown, answered]

theorem answersStatus (clear : chip.pending = []) : Link.AnswersStatus chip := by
  intro reads
  rw [afterReads_eq clear]
  exact ⟨_, congrArg Reply.result ((chip.polled reads).execute_readStatus clear)⟩

/-- The chip counts the reads that find it busy. -/
theorem readyAfter (clear : chip.pending = []) : Link.ReadyAfter chip.busy chip where
  ready := by
    rw [shown_afterReads clear, isReady_status, polled, Nat.sub_self]
    rfl
  before reads early := by
    rw [shown_afterReads clear, isReady_status]
    exact beq_false_of_ne (Nat.sub_ne_zero_of_lt early)

end Chip

namespace Query

variable {chip : Chip} {post : Except Error Status → Chip → List Dialogue.Entry → Prop}

theorem ensures_readStatus (clear : chip.pending = []) :
    readStatus.Ensures chip post ↔
      post (.ok chip.status) (chip.polled 1)
        [.exchanged (.read Opcode.readStatus 1) (.ok [chip.status.bits])] := by
  rw [readStatus, ensures_bind, ensures_execute, chip.execute_readStatus clear]
  exact Iff.rfl

/-- A wait succeeds at the first status read after the last busy one, if it gets that far. -/
theorem Ensures.pollReady (polling : PollLimit) (clear : chip.pending = [])
    (settled : chip.busy < polling.polls → ∀ said, Dialogue.progress said = [] →
      post (.ok (chip.polled chip.busy).status) (chip.polled (chip.busy + 1)) said)
    (unsettled : polling.polls ≤ chip.busy → ∀ said, Dialogue.progress said = [] →
      post (.error polling.giveUp) (chip.polled polling.polls) said) :
    (pollReady polling).Ensures chip post := by
  have ready := Chip.readyAfter clear
  refine ensures_pollReady polling (Chip.answersStatus clear) (fun busy inTime found => ?_)
    fun unready said _ quiet => ?_
  · obtain rfl := found.unique ready
    rw [Chip.shown_afterReads clear, Chip.afterReads_eq clear]
    exact settled inTime _ (Link.progress_readsSaid _ _)
  · rw [Chip.afterReads_eq clear]
    refine unsettled (Nat.le_of_not_lt fun early => ?_) said quiet
    exact absurd (ready.ready.symm.trans (unready chip.busy early)) (by decide)

/-- A wait that is followed to its end succeeds just if it is permitted to last as long as the chip
is busy. -/
theorem ensures_pollReady_permits {polling : PollLimit} (clear : chip.pending = [])
    (follows : polling.Follows chip.busy) :
    (pollReady polling).Ensures chip fun result after _ =>
      if polling.Permits chip.busy then
        result = .ok (chip.polled chip.busy).status ∧ after = chip.polled (chip.busy + 1)
      else
        result = .error .timeout := by
  refine .pollReady polling clear (fun inTime _ _ => ?_) fun late _ _ => ?_
  · rw [if_pos (follows.lt_polls_iff.mp inTime)]
    exact ⟨rfl, rfl⟩
  · have denied : ¬ polling.Permits chip.busy :=
      fun permitted => Nat.not_lt_of_le late (follows.lt_polls_iff.mpr permitted)
    rw [if_neg denied, follows.giveUp_eq late]

end Query
end OnfiFlash
