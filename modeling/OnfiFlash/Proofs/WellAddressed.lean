import OnfiFlash.Proofs.Discipline
import OnfiFlash.Proofs.InUse
import OnfiFlash.Proofs.LinkCalls

/-! What goes out over the link. Whatever comes back, be it an index page or a marker full of
nonsense, a session writes nothing but whole frames, and those that carry an address carry that of a
page which the device has. -/
namespace OnfiFlash

variable {σ α : Type}

/-- Whatever is written is read back as a frame like these. -/
def Link.Carries (allowed : Frame → Prop) (calls : List (Link.Call σ)) : Prop :=
  ∀ bytes link, .write bytes link ∈ calls →
    ∃ frame, Frame.decode bytes = .ok frame ∧ allowed frame

theorem Link.Carries.mono {allowed weaker : Frame → Prop} {calls : List (Link.Call σ)}
    (carries : Link.Carries allowed calls) (implies : ∀ frame, allowed frame → weaker frame) :
    Link.Carries weaker calls := by
  intro bytes link made
  obtain ⟨frame, decoded, sent⟩ := carries bytes link made
  exact ⟨frame, decoded, implies frame sent⟩

variable [Link σ]

namespace Tap

variable {allowed : Frame → Prop} {frame : Frame}

theorem carries_execute {tap : Tap σ} (carries : Link.Carries allowed tap.calls)
    (wellFormed : frame.WellFormed) (sent : allowed frame) :
    Link.Carries allowed (Link.execute frame tap).state.calls := by
  have written : Link.Carries allowed (.write frame.wire tap.link :: tap.calls) := by
    intro bytes link made
    rcases List.mem_cons.mp made with same | earlier
    · cases same
      exact ⟨frame, Frame.decode_wire frame wellFormed, sent⟩
    · exact carries bytes link earlier
  refine execute_cases (motive := fun _ after => Link.Carries allowed after.calls) wellFormed tap
    (fun _ _ => written) (fun _ _ => written) fun link _ _ _ bytes source made => ?_
  rcases List.mem_cons.mp made with same | earlier
  · cases same
  · exact written bytes source earlier

/-- A failure comes from a call. -/
theorem failed_execute {tap : Tap σ} (wellFormed : frame.WellFormed) {e : Error} :
    (Link.execute frame tap).result = .error e →
      ∃ call ∈ (Link.execute frame tap).state.calls, call.failure? = some e := by
  refine execute_cases (motive := fun answer after => answer = .error e →
    ∃ call ∈ after.calls, call.failure? = some e) wellFormed tap ?_ ?_ ?_
  · rintro _ refused ⟨⟩
    exact ⟨_, List.mem_cons_self, by simp only [Link.Call.failure?, refused]⟩
  · exact fun _ _ => nofun
  · intro link _ _ _ unanswered
    exact ⟨_, List.mem_cons_self, by simp only [Link.Call.failure?, unanswered]⟩

end Tap

namespace Course

/-- Only a failure of the link ends the exchanges with anything but a timeout. -/
theorem eq_error_of_after {polling : PollLimit} {busy : Option Nat} {frame : Frame}
    {answer : Except Error (List UInt8)} {e : Error} (other : e ≠ .timeout)
    (ended : after polling (.running busy) frame answer = .halted e) : answer = .error e := by
  cases answer with
  | error failure =>
    have same : (if failure.isRetryable then running none else halted failure) = halted e := ended
    split at same
    · cases same
    · cases same
      rfl
  | ok bytes =>
    have same : counting polling (counted busy frame bytes) = halted e := ended
    cases counted : counted busy frame bytes with
    | none =>
      rw [counted] at same
      cases same
    | some reads =>
      rw [counted, counting] at same
      split at same
      · cases same
        exact absurd rfl other
      · cases same

end Course

/-- Everything written so far was allowed; and if the exchanges had to end because a frame was too
large, a call has failed for it. -/
structure Tap.Bears (allowed : Frame → Prop) (place : Course) (tap : Tap σ) : Prop where
  carries : Link.Carries allowed tap.calls
  blamed : place = .halted .frameTooLarge →
    ∃ call ∈ tap.calls, call.failure? = some .frameTooLarge

/-- What keeps to the discipline of a session writes only allowed frames; and it fails for a frame
that is too large only if the link does. -/
theorem Dialogue.Obeys.carries {β : Type} {dialogue : Dialogue β} {result : β → Except Error α}
    {allowed : Frame → Prop} {polling : PollLimit}
    (obeys : dialogue.Obeys (.course allowed polling)
      (fun value place => place.Admits (result value)) (.running none))
    (wellFormed : ∀ frame, allowed frame → frame.WellFormed) (link : σ) :
    Link.Carries allowed (dialogue.calls link) ∧
      ((∀ call ∈ dialogue.calls link, call.failure? ≠ some .frameTooLarge) →
        result (dialogue.run link).value ≠ .error .frameTooLarge) := by
  have exchange : ∀ place frame (tap : Tap σ), (Monitor.course allowed polling).allows place frame →
      Tap.Bears allowed place tap → Tap.Bears allowed
        (.after polling place frame (Link.execute frame tap).result)
        (Link.execute frame tap).state := by
    rintro place frame tap ⟨⟨busy, rfl⟩, sent⟩ ⟨carries, -⟩
    have fits := wellFormed frame sent
    refine ⟨Tap.carries_execute carries fits sent, fun ended => ?_⟩
    exact Tap.failed_execute fits (Course.eq_error_of_after (by nofun) ended)
  have start : Tap.Bears allowed (.running none) (⟨link, []⟩ : Tap σ) :=
    ⟨fun _ _ made => by simp at made, nofun⟩
  obtain ⟨place, admitted, carries, blamed⟩ := obeys.run_tap exchange start
  refine ⟨carries, fun unfailed raised => ?_⟩
  cases place with
  | running busy =>
    cases busy with
    | none => exact admitted raised
    | some reads =>
      obtain ⟨e, same, -, other⟩ := admitted
      exact other (Except.error.inj (same.symm.trans raised))
  | halted e =>
    have same : e = .frameTooLarge := Except.error.inj (admitted.1.symm.trans raised)
    obtain ⟨call, made, failure⟩ := blamed (same ▸ rfl)
    exact unfailed call made failure

/-- Whatever the link, every write of a session's call is a whole frame, and its address is that of
a page of the device; and unless the link says so itself, a frame is too large only for a call that
asks for more bytes than a frame can request. Opening a session writes whole frames that address
nothing. -/
theorem Session.frames_aim (link : σ) :
    (∀ (session : Session) (call : Call),
      let dialogue := call.answering.runIn session
      Link.Carries (fun frame => frame.Aims session.geometry) (dialogue.calls link) ∧
        ((∀ made ∈ dialogue.calls link, made.failure? ≠ some .frameTooLarge) →
          (dialogue.run link).value.1 = .error .frameTooLarge →
          ∃ start size, call = .readData start (some size) ∧ 65535 < size)) ∧
    ∀ config : SessionConfig,
      let dialogue := (identify config).run
      Link.Carries (fun frame => frame.opcode ∉ Opcode.addressing) (dialogue.calls link) ∧
        ((∀ made ∈ dialogue.calls link, made.failure? ≠ some .frameTooLarge) →
          (dialogue.run link).value ≠ .error .frameTooLarge) := by
  constructor
  · intro session call dialogue
    by_cases fits : call.Fits
    · obtain ⟨carries, unfailed⟩ :=
        (call.obeys fits session).carries (fun _ sent => sent.wellFormed session.valid) link
      exact ⟨carries.mono fun _ sent => sent.aims, fun silent raised =>
        absurd raised (unfailed silent)⟩
    · obtain ⟨e, refused⟩ := call.runIn_of_not_fits fits session
      have unsent : dialogue.calls link = [] := by
        show Dialogue.calls (call.answering.runIn session) link = []
        rw [refused]
        rfl
      refine ⟨?_, fun _ _ => call.exists_of_not_fits fits⟩
      rw [unsent]
      exact fun _ _ made => by simp at made
  · intro config dialogue
    obtain ⟨carries, unfailed⟩ :=
      (identify_disciplined config).carries (fun _ asks => asks.wellFormed) link
    exact ⟨carries.mono fun _ asks => asks.addressesNothing, unfailed⟩

def Link.Call.written? : Link.Call σ → Option (List UInt8)
  | .write bytes _ => some bytes
  | .read _ _ => none

/-- A session that has a page in the register asks for one byte more than a frame can request; and a
block is written, which sends a frame with an address of each kind. -/
theorem Session.frames_aim_small :
    let reading : Session := { smallSession with state := .reading }
    let read := (Call.readData 0 (some 65536)).answering.runIn reading
    let store := (Call.writeBlock 2 [7]).answering.runIn smallSession
    (((∀ made ∈ read.calls smallChip, made.failure? ≠ some .frameTooLarge) ∧
        (read.run smallChip).value.1 = .error .frameTooLarge) ∧
      Link.Carries (fun frame => frame.Aims reading.geometry) (read.calls smallChip) ∧
        ∃ start size, Call.readData 0 (some 65536) = .readData start (some size) ∧
          65535 < size) ∧
    ∀ opcode ∈ [Opcode.eraseSetup, Opcode.programSetup, Opcode.readMode],
      ∃ bytes link frame, .write bytes link ∈ store.calls smallChip ∧
        Frame.decode bytes = .ok frame ∧ (frame.opcode = opcode ∧ frame.address ≠ []) ∧
        frame.Aims smallSession.geometry := by
  intro reading read store
  constructor
  · have unsent : read.calls smallChip = [] := List.eq_nil_of_length_eq_zero (by decide +kernel)
    have silent : ∀ made ∈ read.calls smallChip, made.failure? ≠ some .frameTooLarge := by
      rw [unsent]
      exact fun _ made => by simp at made
    have refused : (read.run smallChip).value.1 = .error .frameTooLarge := by decide +kernel
    obtain ⟨carries, tooLong⟩ := (frames_aim smallChip).1 reading (.readData 0 (some 65536))
    exact ⟨⟨silent, refused⟩, carries, tooLong silent refused⟩
  · have sent : ∀ opcode ∈ [Opcode.eraseSetup, Opcode.programSetup, Opcode.readMode],
        ∃ bytes ∈ (store.calls smallChip).filterMap Link.Call.written?,
          ∃ frame ∈ (Frame.decode bytes).toOption, frame.opcode = opcode ∧ frame.address ≠ [] := by
      decide +kernel
    obtain ⟨carries, -⟩ := (frames_aim smallChip).1 smallSession (.writeBlock 2 [7])
    intro opcode among
    obtain ⟨bytes, listed, frame, read, command, addressed⟩ := sent opcode among
    obtain ⟨call, made, written⟩ := List.mem_filterMap.mp listed
    cases call with
    | read count link => cases written
    | write other link =>
      obtain rfl := Option.some.inj written
      obtain ⟨found, decoded, aims⟩ := carries _ link made
      rw [decoded] at read
      obtain rfl := Option.some.inj read
      exact ⟨_, link, found, made, decoded, ⟨command, addressed⟩, aims⟩

end OnfiFlash
