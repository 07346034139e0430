import OnfiFlash.Link

/-! A link that answers from a script. For each kind of frame there is a list of cues; each
frame uses up the first of its list, but the last one stays. -/
namespace OnfiFlash

/-- What a script does with one frame. -/
inductive Cue where
  /-- The write fails. -/
  | fail
  /-- These bytes are queued, whatever their number. -/
  | answer (bytes : List UInt8)
deriving DecidableEq, Repr

/-- A kind of frame: its command, and whether it requests no bytes. -/
structure FrameKind where
  opcode : UInt8
  silent : Bool
deriving DecidableEq, Repr

structure Script where
  cues : List (FrameKind × List Cue) := []
  /-- Response bytes not read yet. -/
  pending : List UInt8 := []
  /-- The frames written, latest first. -/
  written : List (List UInt8) := []

namespace Script

/-- Use up the first cue of a list, but keep the last. -/
def useCue : List Cue → List Cue
  | [] => []
  | [last] => [last]
  | _ :: rest => rest

/-- The next cue of a kind of frame, and the lists afterwards. -/
def nextCue (kind : FrameKind) :
    List (FrameKind × List Cue) → Option Cue × List (FrameKind × List Cue)
  | [] => (none, [])
  | (other, cues) :: rest =>
    if other = kind then
      (cues.head?, (other, useCue cues) :: rest)
    else
      let (cue, rest) := nextCue kind rest
      (cue, (other, cues) :: rest)

/-- Follow the script for the bytes of one frame. Where the script says nothing, the bus reads
as ones. -/
def write (bytes : List UInt8) (script : Script) : Reply Script Unit :=
  let readLength := ofLittleEndian ((bytes.drop 4).take 2)
  let kind : FrameKind := ⟨bytes.headD 0, readLength == 0⟩
  let (cue, cues) := nextCue kind script.cues
  let script := { script with cues, written := bytes :: script.written }
  match cue with
  | some .fail => ⟨.error .transport, script, []⟩
  | some (.answer answer) => ⟨.ok (), { script with pending := script.pending ++ answer }, []⟩
  | none =>
    ⟨.ok (), { script with pending := script.pending ++ List.replicate readLength 0xFF }, []⟩

/-- Take bytes from the response queue; if there are too few, all are dropped. -/
def read (count : Nat) (script : Script) : Reply Script (List UInt8) :=
  if script.pending.length < count then
    ⟨.error .transport, { script with pending := [] }, []⟩
  else
    ⟨.ok (script.pending.take count), { script with pending := script.pending.drop count }, []⟩

instance : Link Script where
  write := write
  read := read

instance : LawfulLink Script where
  length_read count script bytes taken := by
    simp only [Link.read, read] at taken
    split at taken
    · cases taken
    · next enough =>
      cases taken
      exact List.length_take_of_le (Nat.le_of_not_lt enough)

end Script
end OnfiFlash
