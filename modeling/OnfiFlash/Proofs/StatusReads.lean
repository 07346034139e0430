import OnfiFlash.Proofs.Exchanges

/-! Status reads one after the other. What they show depends on the link alone, so a wait is
described by how many of them find the device busy before the first that finds it ready: it makes
no read beyond that one, and none beyond its limit. -/
namespace OnfiFlash

namespace Dialogue

theorem frames_exchange {σ : Type} {frame : Frame} (wellFormed : frame.WellFormed)
    (reply : Reply σ (List UInt8)) : frames (exchange frame reply) = [frame] := by
  simp [frames, exchange, wellFormed, List.filterMap_map]

@[simp] theorem frames_append (first second : List Entry) :
    frames (first ++ second) = frames first ++ frames second := by
  simp [frames]

end Dialogue

namespace PollLimit

def polls : PollLimit → Nat
  | atMost polls => max 1 polls
  | unbounded horizon => horizon

/-- What a wait ends with when the device is still busy after them. -/
def giveUp : PollLimit → Error
  | atMost _ => .timeout
  | unbounded _ => .unsettled

/-- A device is waited for that answers so many status reads as busy. -/
def Permits : (polling : PollLimit) → (busy : Nat) → Prop
  | atMost polls, busy => busy < max 1 polls
  | unbounded _, _ => True

instance (polling : PollLimit) (busy : Nat) : Decidable (polling.Permits busy) :=
  match polling with
  | atMost polls => inferInstanceAs (Decidable (busy < max 1 polls))
  | unbounded _ => inferInstanceAs (Decidable True)

/-- A wait without a limit is followed until the device has answered so many status reads as busy
and one more. -/
def Follows (polling : PollLimit) (busy : Nat) : Prop :=
  ∀ horizon, polling = .unbounded horizon → busy < horizon

/-- As far as it is followed, a wait makes more reads than find the device busy just if it is
permitted to wait for it. -/
theorem Follows.lt_polls_iff {polling : PollLimit} {busy : Nat} (follows : polling.Follows busy) :
    busy < polling.polls ↔ polling.Permits busy := by
  cases polling with
  | atMost polls => exact Iff.rfl
  | unbounded horizon => exact iff_true_intro (follows horizon rfl)

/-- A wait that is followed to its end gives up for one reason only. -/
theorem Follows.giveUp_eq {polling : PollLimit} {busy : Nat} (follows : polling.Follows busy)
    (ended : polling.polls ≤ busy) : polling.giveUp = .timeout := by
  cases polling with
  | atMost polls => rfl
  | unbounded horizon => exact absurd (follows horizon rfl) (Nat.not_lt_of_le ended)

end PollLimit

variable {σ : Type} [Link σ]

namespace Link

def afterReads : (reads : Nat) → (link : σ) → σ
  | 0, link => link
  | reads + 1, link => afterReads reads (execute Exchange.statusFrame link).state

/-- What the next status read shows. -/
def shown (link : σ) : Status :=
  match (execute Exchange.statusFrame link).result with
  | .ok (bits :: _) => ⟨bits⟩
  | _ => ⟨0⟩

def readsSaid : (reads : Nat) → (link : σ) → List Dialogue.Entry
  | 0, _ => []
  | reads + 1, link =>
    Dialogue.exchange Exchange.statusFrame (execute Exchange.statusFrame link)
      ++ readsSaid reads (execute Exchange.statusFrame link).state

/-- No status read fails, however many there are. -/
def AnswersStatus (link : σ) : Prop :=
  ∀ reads, ∃ bytes, (execute Exchange.statusFrame (afterReads reads link)).result = .ok bytes

/-- Just so many status reads find the device busy before one finds it ready. -/
structure ReadyAfter (busy : Nat) (link : σ) : Prop where
  ready : (shown (afterReads busy link)).isReady = true
  before : ∀ reads < busy, (shown (afterReads reads link)).isReady = false

variable {link : σ}

theorem AnswersStatus.later (answers : AnswersStatus link) :
    AnswersStatus (execute Exchange.statusFrame link).state :=
  fun reads => answers (reads + 1)

/-- The answer is the one byte asked for. -/
theorem AnswersStatus.answer [LawfulLink σ] (answers : AnswersStatus link) :
    (execute Exchange.statusFrame link).result = .ok [(shown link).bits] := by
  obtain ⟨bytes, answered⟩ := answers 0
  replace answered : (execute Exchange.statusFrame link).result = .ok bytes := answered
  obtain ⟨bits, rfl⟩ := List.length_eq_one_iff.mp (length_execute _ _ _ answered)
  simp only [shown, answered]

theorem ReadyAfter.succ {reads : Nat} (busy : (shown link).isReady = false)
    (later : ReadyAfter reads (execute Exchange.statusFrame link).state) :
    ReadyAfter (reads + 1) link where
  ready := later.ready
  before
    | 0, _ => busy
    | earlier + 1, bound => later.before earlier (Nat.lt_of_succ_lt_succ bound)

theorem ReadyAfter.unique {busy other : Nat} (first : ReadyAfter busy link)
    (second : ReadyAfter other link) : busy = other := by
  refine Nat.le_antisymm (Nat.le_of_not_lt fun early => ?_) (Nat.le_of_not_lt fun early => ?_)
  · exact absurd (second.ready.symm.trans (first.before other early)) (by decide)
  · exact absurd (first.ready.symm.trans (second.before busy early)) (by decide)

@[simp] theorem frames_readsSaid (reads : Nat) (link : σ) :
    Dialogue.frames (readsSaid reads link) = List.replicate reads Exchange.statusFrame := by
  induction reads generalizing link with
  | zero => rfl
  | succ reads ih =>
    have fits : Exchange.statusFrame.WellFormed := Frame.wellFormed_read _ _
    rw [readsSaid, Dialogue.frames_append, Dialogue.frames_exchange fits, ih,
      List.replicate_succ, List.singleton_append]

@[simp] theorem progress_readsSaid (reads : Nat) (link : σ) :
    Dialogue.progress (readsSaid reads link) = [] := by
  induction reads generalizing link with
  | zero => rfl
  | succ reads ih => simp [readsSaid, ih]

end Link

namespace Query

open Link

variable [LawfulLink σ] {link : σ} {post : Except Error Status → σ → List Dialogue.Entry → Prop}

theorem ensures_readStatus_shown (answers : AnswersStatus link) :
    readStatus.Ensures link post ↔
      post (.ok (shown link)) (afterReads 1 link) (readsSaid 1 link) := by
  have answered : (Link.execute (.read Opcode.readStatus 1) link).result
      = .ok [(shown link).bits] := answers.answer
  rw [readStatus, ensures_bind, ensures_execute]
  dsimp only
  rw [answered]
  simp only [ensures_pure, readsSaid, afterReads, List.append_nil]
  exact Iff.rfl

/-- By induction on the polls: the first read ends the wait, or is one busy read more before what is
left of it. -/
theorem ensures_awaitReady {giveUp : Query Status} (polls : Nat) (answers : AnswersStatus link)
    (settled : ∀ busy < polls, ReadyAfter busy link →
      post (.ok (shown (afterReads busy link))) (afterReads (busy + 1) link)
        (readsSaid (busy + 1) link))
    (unsettled : (∀ reads < polls, (shown (afterReads reads link)).isReady = false) →
      giveUp.Ensures (afterReads polls link) fun result after later =>
        post result after (readsSaid polls link ++ later)) :
    (awaitReady giveUp polls).Ensures link post := by
  induction polls generalizing link post with
  | zero => exact unsettled nofun
  | succ polls ih =>
    rw [awaitReady, ensures_bind, ensures_readStatus_shown answers]
    dsimp only
    split
    · next ready =>
      have first : ReadyAfter 0 link := ⟨ready, nofun⟩
      rw [ensures_pure, List.append_nil]
      exact settled 0 (Nat.succ_pos _) first
    · next unready =>
      have busy : (shown link).isReady = false := Bool.eq_false_iff.mpr unready
      have more (reads : Nat) (later : List Dialogue.Entry) :
          readsSaid 1 link ++ (readsSaid reads (afterReads 1 link) ++ later)
            = readsSaid (reads + 1) link ++ later := by
        simp only [readsSaid, afterReads, List.append_nil, List.append_assoc]
      refine ih answers.later (fun reads bound later => ?_) fun still => ?_
      · have ended := settled (reads + 1) (Nat.succ_lt_succ bound) (later.succ busy)
        have joined := more (reads + 1) []
        rw [List.append_nil, List.append_nil] at joined
        rw [joined]
        exact ended
      · have given := unsettled fun
          | 0, _ => busy
          | earlier + 1, bound => still earlier (Nat.lt_of_succ_lt_succ bound)
        refine given.mono fun result after later reached => ?_
        rw [more]
        exact reached

theorem ensures_pollReady (polling : PollLimit) (answers : AnswersStatus link)
    (settled : ∀ busy < polling.polls, ReadyAfter busy link →
      post (.ok (shown (afterReads busy link))) (afterReads (busy + 1) link)
        (readsSaid (busy + 1) link))
    (unsettled : (∀ reads < polling.polls, (shown (afterReads reads link)).isReady = false) →
      ∀ said, Dialogue.frames said = List.replicate polling.polls Exchange.statusFrame →
        Dialogue.progress said = [] →
        post (.error polling.giveUp) (afterReads polling.polls link) said) :
    (pollReady polling).Ensures link post := by
  cases polling with
  | unbounded horizon =>
    refine ensures_awaitReady horizon answers settled fun busy => ?_
    rw [ensures_throw, List.append_nil]
    exact unsettled busy _ (frames_readsSaid _ _) (progress_readsSaid _ _)
  | atMost polls =>
    refine ensures_awaitReady (max 1 polls) answers settled fun busy => ?_
    rw [ensures_bind, ensures_note, ensures_throw]
    refine unsettled busy _ ?_ ?_
    · rw [Dialogue.frames_append, frames_readsSaid]
      exact List.append_nil _
    · rw [Dialogue.progress_append, progress_readsSaid]
      rfl

end Query
end OnfiFlash
