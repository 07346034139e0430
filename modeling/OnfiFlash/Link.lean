import OnfiFlash.Frame
import OnfiFlash.Remark

/-! The byte link to the bridge. A link is a state machine: a write hands over the bytes of one
frame, a read asks for an exact number of bytes. Executing a frame writes it and, if it requests
any bytes, reads them back. -/
namespace OnfiFlash

/-- The answer of a link, its state afterwards and what it logged. -/
structure Reply (σ α : Type) where
  result : Except Error α
  state : σ
  notices : List Notice := []

/-- Go on after a reply that is no failure. Notices keep their order. -/
def Reply.andThen (reply : Reply σ α) (next : α → σ → Reply σ β) : Reply σ β :=
  match reply.result with
  | .error e => ⟨.error e, reply.state, reply.notices⟩
  | .ok value =>
    let later := next value reply.state
    ⟨later.result, later.state, reply.notices ++ later.notices⟩

theorem Reply.result_andThen_eq_ok (reply : Reply σ α) (next : α → σ → Reply σ β) (value : β)
    (succeeded : (reply.andThen next).result = .ok value) :
    ∃ earlier, reply.result = .ok earlier ∧ (next earlier reply.state).result = .ok value := by
  unfold Reply.andThen at succeeded
  split at succeeded
  · cases succeeded
  · next earlier found => exact ⟨earlier, found, succeeded⟩

/-- A byte link with states `σ`. -/
class Link (σ : Type) where
  /-- Hand over bytes as one write. -/
  write : List UInt8 → σ → Reply σ Unit
  /-- Take exactly this many bytes; fewer are an error. -/
  read : Nat → σ → Reply σ (List UInt8)

/-- A link whose reads are never short. -/
class LawfulLink (σ : Type) [Link σ] : Prop where
  length_read : ∀ (count : Nat) (state : σ) (bytes : List UInt8),
    (Link.read count state).result = .ok bytes → bytes.length = count

namespace Link

variable [Link σ]

/-- Send a frame and take its response. A frame that is not well formed never reaches the
link. -/
def execute (frame : Frame) (state : σ) : Reply σ (List UInt8) :=
  match frame.encode with
  | .error e => ⟨.error e, state, []⟩
  | .ok bytes => (write bytes state).andThen fun _ state =>
    if frame.readLength = 0 then ⟨.ok [], state, []⟩ else read frame.readLength.toNat state

/-- A response has exactly the requested length. -/
theorem length_execute [LawfulLink σ] (frame : Frame) (state : σ) (bytes : List UInt8)
    (answered : (execute frame state).result = .ok bytes) :
    bytes.length = frame.readLength.toNat := by
  unfold execute at answered
  split at answered
  · cases answered
  · obtain ⟨_, _, received⟩ := Reply.result_andThen_eq_ok _ _ _ answered
    split at received
    · next silent =>
      cases received
      simp [silent]
    · exact LawfulLink.length_read _ _ _ received

end Link
end OnfiFlash
