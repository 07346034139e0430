import OnfiFlash.Proofs.FrameCodec
import OnfiFlash.Proofs.Monitor
import OnfiFlash.Proofs.Simulation

/-! The calls that are made on a link. A tap stands in front of a link and keeps a record of them;
nobody can tell that it is there. -/
namespace OnfiFlash

/-- A call on a link, with the state that the link is in when the call is made. -/
inductive Link.Call (σ : Type) where
  | write (bytes : List UInt8) (link : σ)
  | read (count : Nat) (link : σ)

def Link.Call.failure? {σ : Type} [Link σ] : Link.Call σ → Option Error
  | .write bytes link => match (Link.write bytes link).result with
    | .error e => some e
    | .ok _ => none
  | .read count link => match (Link.read count link).result with
    | .error e => some e
    | .ok _ => none

/-- A link with a record of the calls made on it. -/
structure Tap (σ : Type) where
  link : σ
  /-- The calls so far, latest first. -/
  calls : List (Link.Call σ) := []

namespace Tap

variable {σ : Type} [Link σ]

def write (bytes : List UInt8) (tap : Tap σ) : Reply (Tap σ) Unit :=
  let reply := Link.write bytes tap.link
  ⟨reply.result, ⟨reply.state, .write bytes tap.link :: tap.calls⟩, reply.notices⟩

def read (count : Nat) (tap : Tap σ) : Reply (Tap σ) (List UInt8) :=
  let reply := Link.read count tap.link
  ⟨reply.result, ⟨reply.state, .read count tap.link :: tap.calls⟩, reply.notices⟩

instance : Link (Tap σ) where
  write := write
  read := read

/-- The calls by which a frame is executed: its bytes are written, and the response is read if the
write succeeds and the frame asks for one. -/
theorem execute_cases {motive : Except Error (List UInt8) → Tap σ → Prop} {frame : Frame}
    (wellFormed : frame.WellFormed) (tap : Tap σ)
    (refused : ∀ e, (Link.write frame.wire tap.link).result = .error e →
      motive (.error e)
        ⟨(Link.write frame.wire tap.link).state, .write frame.wire tap.link :: tap.calls⟩)
    (silent : (Link.write frame.wire tap.link).result = .ok () → frame.readLength = 0 →
      motive (.ok [])
        ⟨(Link.write frame.wire tap.link).state, .write frame.wire tap.link :: tap.calls⟩)
    (asked : ∀ link, link = (Link.write frame.wire tap.link).state →
      (Link.write frame.wire tap.link).result = .ok () → frame.readLength ≠ 0 →
      motive (Link.read frame.readLength.toNat link).result
        ⟨(Link.read frame.readLength.toNat link).state,
          .read frame.readLength.toNat link :: .write frame.wire tap.link :: tap.calls⟩) :
    motive (Link.execute frame tap).result (Link.execute frame tap).state := by
  simp only [Link.execute, Frame.encode_eq frame wellFormed, Link.write, write, Reply.andThen]
  cases written : (Link.write frame.wire tap.link).result with
  | error e => exact refused e written
  | ok _ =>
    by_cases unasked : frame.readLength = 0
    · simp only [unasked, if_true]
      exact silent written unasked
    · simp only [unasked, if_false]
      exact asked _ rfl written unasked

/-- A tap and the link behind it answer alike. -/
theorem agree (frame : Frame) (tap : Tap σ) (link : σ) (same : tap.link = link) :
    Link.Agree frame tap link fun tap link => tap.link = link := by
  subst same
  constructor <;>
    · simp only [Link.execute]
      cases frame.encode with
      | error e => rfl
      | ok bytes =>
        simp only [Link.write, write, Reply.andThen]
        cases (Link.write bytes tap.link).result with
        | error e => rfl
        | ok _ => by_cases silent : frame.readLength = 0 <;> simp [silent, Link.read, read]

end Tap

namespace Dialogue

variable {σ : Type} [Link σ]

/-- A dialogue over a tap goes as it does over the link behind it. -/
theorem matches_tap (dialogue : Dialogue α) (tap : Tap σ) :
    dialogue.Matches tap tap.link fun _ tap link => tap.link = link :=
  matches_of_agree Tap.agree dialogue rfl

/-- The calls that a dialogue makes on a link, latest first. -/
def calls (dialogue : Dialogue α) (link : σ) : List (Link.Call σ) :=
  (dialogue.run (⟨link, []⟩ : Tap σ)).link.calls

/-- What every exchange that the monitor allows keeps of a record is true of the record of a run. -/
theorem Obeys.run_tap {κ β : Type} {monitor : Monitor κ} {post : β → κ → Prop} {place : κ}
    {dialogue : Dialogue β} {holds : κ → Tap σ → Prop} (obeys : dialogue.Obeys monitor post place)
    (exchange : ∀ place frame tap, monitor.allows place frame → holds place tap →
      holds (monitor.after place frame (Link.execute frame tap).result)
        (Link.execute frame tap).state)
    {link : σ} (start : holds place ⟨link, []⟩) :
    ∃ last, post (dialogue.run link).value last ∧
      holds last (dialogue.run (⟨link, []⟩ : Tap σ)).link := by
  rw [← (dialogue.matches_tap ⟨link, []⟩).value]
  exact obeys.run exchange start

end Dialogue
end OnfiFlash
