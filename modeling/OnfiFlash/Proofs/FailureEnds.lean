import OnfiFlash.Link.Scripted
import OnfiFlash.Proofs.Discipline
import OnfiFlash.Proofs.InUse
import OnfiFlash.Proofs.LinkCalls

/-! Failures that end everything. When a call on the link fails, and when a wait has taken as many
status reads as it may, nothing more is asked of the link and the caller gets just that failure,
however deep in an operation it happens. The one exception is a link that reports a failure which
only a device can have, such as a page that cannot be read: that one may be handled. -/
namespace OnfiFlash

variable {σ α : Type} [Link σ]

namespace Link

/-- How many status reads have found the chip busy since an operation of it was started, if none of
them has found it ready and nothing else was sent. The latest call comes first. -/
def busyReads : List (Call σ) → Option Nat
  | [] => none
  | .write bytes link :: earlier =>
    match (write bytes link).result, Frame.decode bytes with
    | .ok _, .ok frame =>
      if frame.opcode ∈ Opcode.starting then some 0
      else if frame.opcode = Opcode.readStatus then busyReads earlier
      else none
    | _, _ => none
  | .read count link :: earlier =>
    match (read count link).result with
    | .ok (bits :: _) => Course.polled (busyReads earlier) ⟨bits⟩
    | _ => none

/-- The calls of an exchange end with the first failure, and with the first wait at its limit: it
comes with the latest call, and it is the result. -/
structure EndsAtFailure (polling : PollLimit) (calls : List (Call σ)) (result : Except Error α) :
    Prop where
  failed : ∀ call earlier e, call :: earlier <:+ calls → call.failure? = some e →
    e.isRetryable = false → calls = call :: earlier ∧ result = .error e
  exhausted : ∀ polls earlier, polling = .atMost polls → earlier <:+ calls →
    busyReads earlier = some (max 1 polls) → calls = earlier ∧ result = .error .timeout

/-- No call has failed for good, and no wait is at its limit. -/
structure Quiet (polling : PollLimit) (calls : List (Call σ)) : Prop where
  unfailed : ∀ call earlier e, call :: earlier <:+ calls → call.failure? = some e →
    e.isRetryable = true
  unspent : ∀ earlier reads, earlier <:+ calls → busyReads earlier = some reads →
    polling.spends reads = false

/-- The latest call is the first that fails for good, with this failure, or the last that a wait may
take. -/
structure Final (polling : PollLimit) (e : Error) (calls : List (Call σ)) : Prop where
  before : ∃ call earlier, calls = call :: earlier ∧ Quiet polling earlier ∧
    ∀ failure, call.failure? = some failure → failure.isRetryable = false → failure = e
  spent : ∀ reads, busyReads calls = some reads → polling.spends reads = true → e = .timeout

variable {polling : PollLimit} {calls : List (Call σ)}

theorem quiet_nil : Quiet polling ([] : List (Call σ)) where
  unfailed call earlier e suffix _ := by simp at suffix
  unspent earlier reads suffix counted := by
    rw [List.suffix_nil.mp suffix] at counted
    cases counted

theorem Quiet.cons (quiet : Quiet polling calls) {call : Call σ}
    (passing : ∀ e, call.failure? = some e → e.isRetryable = true)
    (unspent : ∀ reads, busyReads (call :: calls) = some reads → polling.spends reads = false) :
    Quiet polling (call :: calls) where
  unfailed other earlier e suffix failed := by
    rcases List.suffix_cons_iff.mp suffix with same | earlier
    · cases same
      exact passing e failed
    · exact quiet.unfailed other _ e earlier failed
  unspent earlier reads suffix counted := by
    rcases List.suffix_cons_iff.mp suffix with same | before
    · exact unspent reads (same ▸ counted)
    · exact quiet.unspent earlier reads before counted

theorem Quiet.endsAtFailure (quiet : Quiet polling calls) (result : Except Error α) :
    EndsAtFailure polling calls result where
  failed call earlier e suffix failed final :=
    absurd ((quiet.unfailed call earlier e suffix failed).symm.trans final) (by decide)
  exhausted polls earlier limit suffix counted := by
    subst limit
    have unspent := quiet.unspent earlier _ suffix counted
    simp [PollLimit.spends] at unspent

theorem Final.endsAtFailure {e : Error} (final : Final polling e calls) :
    EndsAtFailure polling calls (.error e : Except Error α) := by
  obtain ⟨⟨call, earlier, rfl, quiet, failed⟩, spent⟩ := final
  have before := quiet.endsAtFailure (.error e : Except Error α)
  constructor
  · intro other rest failure suffix failing lasting
    rcases List.suffix_cons_iff.mp suffix with same | suffix
    · cases same
      exact ⟨rfl, failed failure failing lasting ▸ rfl⟩
    · exact absurd ((quiet.unfailed other rest failure suffix failing).symm.trans lasting)
        (by decide)
  · intro polls rest limit suffix counted
    have spends : polling.spends (max 1 polls) = true := by
      rw [limit]
      exact beq_self_eq_true _
    rcases List.suffix_cons_iff.mp suffix with same | suffix
    · subst same
      exact ⟨rfl, spent _ counted spends ▸ rfl⟩
    · exact absurd ((quiet.unspent rest _ suffix counted).symm.trans spends) (by decide)

end Link

namespace Tap

open Link

/-- The record shows that the exchanges stand just there. -/
def Shows (polling : PollLimit) : Course → Tap σ → Prop
  | .running busy, tap => Quiet polling tap.calls ∧ busyReads tap.calls = busy
  | .halted e, tap => Final polling e tap.calls

variable {polling : PollLimit} {link : σ} {call : Call σ} {earlier : List (Call σ)} {frame : Frame}

theorem shows_failed (quiet : Quiet polling earlier) {e : Error} (failed : call.failure? = some e)
    (uncounted : busyReads (call :: earlier) = none) (busy : Option Nat) :
    Shows polling (.after polling (.running busy) frame (.error e)) ⟨link, call :: earlier⟩ := by
  show Shows polling (if e.isRetryable then .running none else .halted e) _
  have same : ∀ failure, call.failure? = some failure → failure = e :=
    fun failure found => Option.some.inj (found.symm.trans failed)
  have unspent : ∀ reads, busyReads (call :: earlier) = some reads → polling.spends reads = false :=
    fun reads counted => by rw [uncounted] at counted; cases counted
  cases passing : e.isRetryable with
  | true =>
    simp only [if_true]
    exact ⟨quiet.cons (fun failure found => same failure found ▸ passing) unspent, uncounted⟩
  | false =>
    simp only [Bool.false_eq_true, if_false]
    refine ⟨⟨call, earlier, rfl, quiet, fun failure found _ => same failure found⟩, ?_⟩
    intro reads counted spends
    exact absurd ((unspent reads counted).symm.trans spends) (by decide)

theorem shows_counting (quiet : Quiet polling earlier) (passed : call.failure? = none) :
    Shows polling (.counting polling (busyReads (call :: earlier))) ⟨link, call :: earlier⟩ := by
  have unfailed : ∀ (e : Error) (goal : Prop), call.failure? = some e → goal :=
    fun e goal failed => by rw [passed] at failed; cases failed
  cases counted : busyReads (call :: earlier) with
  | none =>
    refine ⟨quiet.cons (fun e => unfailed e _) fun reads awaited => ?_, counted⟩
    rw [counted] at awaited
    cases awaited
  | some reads =>
    cases spends : polling.spends reads with
    | true =>
      simp only [Course.counting, spends, if_true]
      exact ⟨⟨call, earlier, rfl, quiet, fun e => unfailed e _⟩, fun _ _ _ => rfl⟩
    | false =>
      simp only [Course.counting, spends, Bool.false_eq_true, if_false]
      refine ⟨quiet.cons (fun e => unfailed e _) fun others awaited => ?_, counted⟩
      rw [counted] at awaited
      exact Option.some.inj awaited ▸ spends

/-- What a successful write does to the count. -/
theorem busyReads_write (regular : frame.Regular) {calls : List (Call σ)}
    (written : (Link.write frame.wire link).result = .ok ()) :
    busyReads (.write frame.wire link :: calls) =
      if frame.opcode ∈ Opcode.starting then some 0
      else if frame.opcode = Opcode.readStatus then busyReads calls else none := by
  simp only [busyReads, written, Frame.decode_wire frame regular.wellFormed]

/-- A frame that asks for bytes starts nothing. -/
theorem not_starting (regular : frame.Regular) (asks : frame.readLength ≠ 0) :
    frame.opcode ∉ Opcode.starting := by
  intro starting
  have unanswered : ∀ opcode ∈ Opcode.starting, opcode ∉ Opcode.answering := by decide +kernel
  exact asks (UInt16.toNat_inj.mp (regular.proper.silent rfl (unanswered _ starting)))

/-- What the successful write of a frame that asks for bytes does to the count. -/
theorem busyReads_asking (regular : frame.Regular) (asks : frame.readLength ≠ 0)
    {calls : List (Call σ)} (written : (Link.write frame.wire link).result = .ok ()) :
    busyReads (.write frame.wire link :: calls) =
      if frame.opcode = Opcode.readStatus then busyReads calls else none := by
  rw [busyReads_write regular written, if_neg (not_starting regular asks)]

theorem quiet_asking (regular : frame.Regular) (asks : frame.readLength ≠ 0)
    (quiet : Quiet polling earlier) (written : (Link.write frame.wire link).result = .ok ()) :
    Quiet polling (.write frame.wire link :: earlier) := by
  apply quiet.cons
  · intro e failed
    simp only [Call.failure?, written] at failed
    cases failed
  · intro reads counted
    rw [busyReads_asking regular asks written] at counted
    split at counted
    · exact quiet.unspent earlier reads List.suffix_rfl counted
    · cases counted

/-- The course counts as the record does, after a frame that asks for nothing. -/
theorem counted_silent (regular : frame.Regular) (silent : frame.readLength = 0)
    (written : (Link.write frame.wire link).result = .ok ()) :
    Course.counted (busyReads earlier) frame []
      = busyReads (.write frame.wire link :: earlier) := by
  rw [busyReads_write regular written, Course.counted]
  split
  · rfl
  · split
    · next status => exact absurd silent (regular.polls status)
    · rfl

/-- The course counts as the record does, after a response. -/
theorem counted_answered (regular : frame.Regular) (asks : frame.readLength ≠ 0)
    (written : (Link.write frame.wire link).result = .ok ()) {count : Nat} {after : σ}
    {answer : List UInt8} (received : (Link.read count after).result = .ok answer) :
    Course.counted (busyReads earlier) frame answer
      = busyReads (.read count after :: .write frame.wire link :: earlier) := by
  unfold Course.counted
  rw [if_neg (not_starting regular asks), busyReads, received,
    busyReads_asking regular asks written]
  by_cases status : frame.opcode = Opcode.readStatus
  · simp only [if_pos status]
    cases answer <;> rfl
  · simp only [if_neg status]
    cases answer with
    | nil => rfl
    | cons bits rest => exact (Course.polled_none _).symm

/-- By what an exchange adds to the record it shows where the exchange leads. -/
theorem Shows.execute {busy : Option Nat} {tap : Tap σ} (shown : Shows polling (.running busy) tap)
    (regular : frame.Regular) :
    Shows polling (.after polling (.running busy) frame (Link.execute frame tap).result)
      (Link.execute frame tap).state := by
  obtain ⟨quiet, rfl⟩ := shown
  refine execute_cases (motive := fun answer tap =>
    Shows polling (.after polling (.running _) frame answer) tap) regular.wellFormed tap
    ?refused ?silent ?asked
  case refused =>
    intro e refused
    exact shows_failed quiet (by simp only [Call.failure?, refused])
      (by simp only [busyReads, refused]) _
  case silent =>
    intro written silent
    show Shows polling (.counting polling (Course.counted _ frame [])) _
    rw [counted_silent regular silent written]
    exact shows_counting quiet (by simp only [Call.failure?, written])
  case asked =>
    intro link _ written asks
    have asking := quiet_asking regular asks quiet written
    cases received : (Link.read frame.readLength.toNat link).result with
    | error e =>
      exact shows_failed asking (by simp only [Call.failure?, received])
        (by simp only [busyReads, received]) _
    | ok answer =>
      show Shows polling (.counting polling (Course.counted _ frame answer)) _
      rw [counted_answered regular asks written received]
      exact shows_counting asking (by simp only [Call.failure?, received])

end Tap

namespace Dialogue

variable {polling : PollLimit} {allowed : Frame → Prop}

/-- What keeps to the discipline of a session ends at the first failure. -/
theorem Obeys.endsAtFailure {β : Type} {dialogue : Dialogue β} {result : β → Except Error α}
    (obeys : dialogue.Obeys (.course allowed polling)
      (fun value place => place.Admits (result value)) (.running none))
    (regular : ∀ frame, allowed frame → frame.Regular) (link : σ) :
    Link.EndsAtFailure polling (dialogue.calls link) (result (dialogue.run link).value) := by
  have exchange : ∀ place frame (tap : Tap σ), (Monitor.course allowed polling).allows place frame →
      Tap.Shows polling place tap → Tap.Shows polling (.after polling place frame
        (Link.execute frame tap).result) (Link.execute frame tap).state := by
    rintro place frame tap ⟨⟨busy, rfl⟩, sent⟩ shown
    exact shown.execute (regular frame sent)
  have start : Tap.Shows polling (.running none) (⟨link, []⟩ : Tap σ) := ⟨Link.quiet_nil, rfl⟩
  obtain ⟨place, admitted, shown⟩ := obeys.run_tap exchange start
  unfold calls
  cases place with
  | running busy => exact shown.1.endsAtFailure _
  | halted e =>
    rw [admitted.1]
    exact shown.endsAtFailure

end Dialogue

/-- Whatever the link, opening a session and calling it ends at the first failure of the link and at
the first wait at its limit: nothing is tried after it, and nobody turns it into anything else. -/
theorem Session.ends_at_failure (link : σ) :
    (∀ config, Link.EndsAtFailure config.polling ((identify config).run.calls link)
      ((identify config).run.run link).value) ∧
    ∀ (session : Session) (call : Call),
      Link.EndsAtFailure session.config.polling ((call.answering.runIn session).calls link)
        ((call.answering.runIn session).run link).value.1 := by
  constructor
  · intro config
    exact (identify_disciplined config).endsAtFailure (fun _ asks => asks.regular) link
  · intro session call
    by_cases fits : call.Fits
    · exact (call.obeys fits session).endsAtFailure (fun _ sent => sent.regular session.valid) link
    · obtain ⟨e, refused⟩ := call.runIn_of_not_fits fits session
      rw [refused]
      exact Link.quiet_nil.endsAtFailure _

/-- A block is checked over a link that refuses to start the load of its page, and over one on which
the device stays busy. -/
theorem Session.ends_at_failure_scripted :
    let session : Session := { smallSession with config := { polling := .atMost 3 } }
    let check := (Call.isBadBlock 0).answering.runIn session
    let refusing : Script := { cues := [(⟨Opcode.readStart, true⟩, [.fail])] }
    let busy : Script := { cues := [(⟨Opcode.readStatus, false⟩, [.answer [0]])] }
    ((check.calls refusing).length = 2 ∧ (check.run refusing).value.1 = .error .transport) ∧
      (check.calls busy).length = 8 ∧ (check.run busy).value.1 = .error .timeout := by
  intro session check refusing busy
  have refused : (check.calls refusing).head?.bind Link.Call.failure? = some .transport := by
    decide +kernel
  refine ⟨⟨by decide +kernel, ?_⟩, by decide +kernel, ?_⟩
  · have stopped := (ends_at_failure refusing).2 session (.isBadBlock 0)
    cases made : check.calls refusing with
    | nil =>
      rw [made] at refused
      cases refused
    | cons call earlier =>
      rw [made] at refused
      exact (stopped.failed call earlier .transport (made ▸ List.suffix_rfl) refused rfl).2
  · have waited := (ends_at_failure busy).2 session (.isBadBlock 0)
    exact (waited.exhausted 3 _ rfl List.suffix_rfl (by decide +kernel)).2

end OnfiFlash
