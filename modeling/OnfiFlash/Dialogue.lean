import OnfiFlash.Link

/-! Dialogues with a chip, independent of the link that carries them. A dialogue is a tree: it
is done, or sends a frame and goes on with the answer, or makes a remark and goes on. Running it
over a link follows one path through the tree and keeps a transcript. -/
namespace OnfiFlash

/-- A finite exchange of frames that ends with a value. -/
inductive Dialogue (α : Type) where
  | done (value : α)
  | request (frame : Frame) (next : Except Error (List UInt8) → Dialogue α)
  | remark (said : Remark) (rest : Dialogue α)

namespace Dialogue

/-- Go on with `next` where a dialogue is done. -/
def bind : Dialogue α → (α → Dialogue β) → Dialogue β
  | done value, next => next value
  | request frame answered, next => request frame fun answer => (answered answer).bind next
  | remark said rest, next => remark said (rest.bind next)

instance : Monad Dialogue where
  pure := done
  bind := bind

inductive Entry where
  /-- A frame went out and this was the answer. -/
  | exchanged (frame : Frame) (answer : Except Error (List UInt8))
  /-- Something was said. -/
  | remarked (said : Remark)

structure Outcome (σ α : Type) where
  value : α
  link : σ
  transcript : List Entry

variable [Link σ]

/-- Run a dialogue, given the transcript so far with the latest entry first. -/
def runFrom : Dialogue α → σ → List Entry → Outcome σ α
  | done value, link, past => ⟨value, link, past.reverse⟩
  | request frame next, link, past =>
    let reply := Link.execute frame link
    let past :=
      if frame.WellFormed then .exchanged frame reply.result :: past else past
    let past := reply.notices.foldl (fun past notice => .remarked (.notice notice) :: past) past
    (next reply.result).runFrom reply.state past
  | remark said rest, link, past => rest.runFrom link (.remarked said :: past)

def run (dialogue : Dialogue α) (link : σ) : Outcome σ α :=
  dialogue.runFrom link []

def notices (transcript : List Entry) : List Notice :=
  transcript.filterMap fun entry => match entry with
    | .remarked (.notice notice) => some notice
    | _ => none

def progress (transcript : List Entry) : List Progress :=
  transcript.filterMap fun entry => match entry with
    | .remarked (.progress step) => some step
    | _ => none

def frames (transcript : List Entry) : List Frame :=
  transcript.filterMap fun entry => match entry with
    | .exchanged frame _ => some frame
    | _ => none

end Dialogue
end OnfiFlash
