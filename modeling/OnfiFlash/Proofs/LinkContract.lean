import OnfiFlash.Bridge.Connection
import OnfiFlash.Link.Scripted
import OnfiFlash.Proofs.ChipTraffic
import OnfiFlash.Proofs.Exchanges

/-! The contract of a link. A link does not know what its bytes are about: of itself it fails only
because they do not get through, or because the other side cannot make out a frame. Whatever else an
operation fails with is its own finding. -/
namespace OnfiFlash

/-- The errors with which a link may fail of itself. -/
inductive Error.OfLink : Error → Prop where
  | transport : OfLink .transport
  | protocol : OfLink .protocol

theorem Dialogue.of_mem_exchange {σ : Type} {frame : Frame} {reply : Reply σ (List UInt8)}
    {made : Exchange} (among : made ∈ exchanges (exchange frame reply)) :
    frame.WellFormed ∧ made = ⟨frame, reply.result⟩ := by
  by_cases wellFormed : frame.WellFormed
  · rw [exchanges_exchange wellFormed] at among
    exact ⟨wellFormed, List.mem_singleton.mp among⟩
  · simp [exchanges, exchange, wellFormed, List.filterMap_map] at among

namespace Link

variable {σ α : Type} [Link σ]

/-- The link keeps to its contract. -/
structure Conforming (σ : Type) [Link σ] : Prop where
  write : ∀ bytes (link : σ) e, (Link.write bytes link).result = .error e → e.OfLink
  read : ∀ count (link : σ) e, (Link.read count link).result = .error e → e.OfLink

/-- What a link owes for an error that is not its own: in these exchanges
it has not failed with it. -/
def Unraised (e : Error) (said : List Exchange) : Prop := ∀ frame, ⟨frame, .error e⟩ ∉ said

/-- A frame fails because of its form, or as the link does. -/
theorem execute_failed {frame : Frame} {link : σ} {e : Error}
    (failed : (execute frame link).result = .error e) :
    (¬ frame.WellFormed ∧ e = .frameTooLarge) ∨
      (∃ bytes, (write bytes link).result = .error e) ∨
      ∃ count, ∃ after : σ, (read count after).result = .error e := by
  unfold execute at failed
  by_cases wellFormed : frame.WellFormed
  · right
    rw [Frame.encode_eq frame wellFormed] at failed
    dsimp only at failed
    unfold Reply.andThen at failed
    split at failed
    · next refused =>
      cases failed
      exact .inl ⟨_, refused⟩
    · dsimp only at failed
      split at failed
      · cases failed
      · exact .inr ⟨_, _, failed⟩
  · rw [Frame.encode_error frame wellFormed] at failed
    cases failed
    exact .inl ⟨wellFormed, rfl⟩

theorem Conforming.execute (conforming : Conforming σ) {frame : Frame}
    (wellFormed : frame.WellFormed) {link : σ} {e : Error}
    (failed : (Link.execute frame link).result = .error e) : e.OfLink := by
  rcases execute_failed failed with ⟨malformed, -⟩ | ⟨bytes, refused⟩ | ⟨count, after, unread⟩
  · exact absurd wellFormed malformed
  · exact conforming.write bytes link e refused
  · exact conforming.read count after e unread

/-- By induction on the dialogue: a conforming link never raises an error that is not its own. -/
theorem Conforming.unraised (conforming : Conforming σ) {e : Error} (foreign : ¬ e.OfLink)
    (dialogue : Dialogue α) (link : σ) :
    Unraised e (Dialogue.exchanges (dialogue.run link).transcript) := by
  intro failing
  induction dialogue generalizing link with
  | done value => exact List.not_mem_nil
  | request frame next ih =>
    rw [Dialogue.run_request]
    dsimp only
    rw [Dialogue.exchanges_append, List.mem_append, not_or]
    constructor
    · intro among
      obtain ⟨wellFormed, same⟩ := Dialogue.of_mem_exchange among
      obtain ⟨rfl, failed⟩ := Exchange.mk.inj same
      exact foreign (conforming.execute wellFormed failed.symm)
    · exact ih _ _
  | remark said rest ih =>
    rw [Dialogue.run_remark]
    exact ih link

end Link

theorem Script.conforming : Link.Conforming Script where
  write bytes script e failed := by
    simp only [Link.write, Script.write] at failed
    split at failed <;> cases failed
    exact .transport
  read count script e failed := by
    simp only [Link.read, Script.read] at failed
    split at failed <;> cases failed
    exact .transport

/-- Whatever goes wrong on the bus, the link tells only that bytes did not get through. -/
theorem Usb.Bridge.conforming : Link.Conforming Usb.Bridge where
  write bytes bridge e failed := by
    simp only [Link.write, reply] at failed
    split at failed <;> cases failed
    exact .transport
  read count bridge e failed := by
    simp only [Link.read, reply] at failed
    split at failed <;> cases failed
    exact .transport

namespace Chip

theorem programConfirm_failed {chip : Chip} {e : Error}
    (failed : chip.programConfirm.result = .error e) : e = .transport := by
  unfold programConfirm at failed
  split at failed
  · cases failed
  · dsimp only at failed
    split at failed
    · cases failed
      rfl
    · cases failed
    · split at failed <;> cases failed

/-- A frame is refused only by an injected fault or for its command. -/
theorem handle_failed {chip : Chip} {frame : Frame} {e : Error} :
    (chip.handle frame).result = .error e → e.OfLink := by
  refine handle_cases (motive := fun handle => (handle chip).result = .error e → e.OfLink) frame
    ?_ ?_ ?_ ?_ ?_ ?_ ?_ ?_ ?_ ?_ ?_ ?_ ?program ?_ ?unknown
  case program =>
    intro _ failed
    cases confirmed : chip.programConfirm.result with
    | ok value => simp [Except.map, confirmed] at failed
    | error cause =>
      obtain rfl := programConfirm_failed confirmed
      simp only [Except.map, confirmed, Except.error.injEq] at failed
      exact failed ▸ .transport
  case unknown =>
    rintro _ _ ⟨⟩
    exact .protocol
  all_goals intros; simp_all

theorem conforming : Link.Conforming Chip where
  write bytes chip e failed := by
    simp only [Link.write, accept] at failed
    split at failed
    · next malformed =>
      cases failed
      by_cases isWire : Frame.IsWire bytes
      · obtain ⟨frame, decoded, -⟩ := Frame.exists_of_isWire isWire
        rw [decoded] at malformed
        cases malformed
      · rw [Frame.decode_error isWire] at malformed
        cases malformed
        exact .protocol
    · split at failed
      · next refused =>
        cases failed
        exact handle_failed refused
      · cases failed
  read count chip e failed := by
    simp only [Link.read, take] at failed
    split at failed <;> cases failed
    exact .transport

end Chip

/-- Every link that a bridge string can name keeps to the contract. -/
theorem Bridge.Connection.conforming : Link.Conforming Bridge.Connection where
  write bytes connection e failed := by
    cases connection with
    | usb bridge => exact Usb.Bridge.conforming.write bytes bridge e failed
    | emulator chip => exact Chip.conforming.write bytes chip e failed
  read count connection e failed := by
    cases connection with
    | usb bridge => exact Usb.Bridge.conforming.read count bridge e failed
    | emulator chip => exact Chip.conforming.read count chip e failed

end OnfiFlash
