import OnfiFlash.Chip.Step
import OnfiFlash.Usb.Error

/-! The pipes of a simulated USB interface, one in each direction. Transfers are submitted and
then waited for; each wait settles the oldest transfer by the next event of its direction. A chip
may sit behind the interface: it takes every frame sent, and its responses become events. -/
namespace OnfiFlash.Usb

/-- What happens to the oldest transfer of an endpoint. -/
inductive Event where
  /-- It completes, without data. -/
  | complete
  /-- The wait ends first; the transfer stays. -/
  | timeout
  /-- It completes without success. -/
  | fail (fault : TransferFault)
  /-- It completes with data. -/
  | data (bytes : List UInt8)
deriving DecidableEq, Repr

structure Endpoint (τ : Type) where
  /-- Transfers that have not completed, oldest first. -/
  pending : List τ := []
  /-- How many of them, from the oldest on, have been cancelled. -/
  cancelled : Nat := 0
  /-- What happens to the next transfers. -/
  events : List Event := []

namespace Endpoint

def submit (endpoint : Endpoint τ) (transfer : τ) : Endpoint τ :=
  { endpoint with pending := endpoint.pending ++ [transfer] }

def cancelAll (endpoint : Endpoint τ) : Endpoint τ :=
  { endpoint with cancelled := endpoint.pending.length }

/-- Wait for the oldest transfer. Nothing comes back if there is none or the wait ends first.
Cancelled transfers use no event; `silence` is the event when none is left. -/
def settle (endpoint : Endpoint τ) (silence : Event) : Option (τ × Event) × Endpoint τ :=
  match endpoint.pending with
  | [] => (none, endpoint)
  | transfer :: rest =>
    if 0 < endpoint.cancelled then
      (some (transfer, .fail .cancelled),
        { endpoint with pending := rest, cancelled := endpoint.cancelled - 1 })
    else
      let events := endpoint.events.tail
      match endpoint.events.headD silence with
      | .timeout => (none, { endpoint with events })
      | event => (some (transfer, event), { endpoint with pending := rest, events })

end Endpoint

inductive Call where
  | openDevice (position : Nat)
  | claim (interface : Nat)
  | submitOut (data : List UInt8)
  | submitIn (request : Nat)
  | wait (endpoint : UInt8) (milliseconds : Nat)
  | cancel (endpoint : UInt8) (pending : Nat)
deriving DecidableEq, Repr

def outEndpoint : UInt8 := 0x04

def inEndpoint : UInt8 := 0x83

def Call.text : Call → String
  | openDevice position => s!"open {position}"
  | claim interface => s!"claim {interface}"
  | submitOut data => "submit " ++ lowerHex 2 outEndpoint.toNat ++ " send " ++ toString data.length
  | submitIn request => "submit " ++ lowerHex 2 inEndpoint.toNat ++ " request " ++ toString request
  | wait endpoint milliseconds =>
    "wait " ++ lowerHex 2 endpoint.toNat ++ " " ++ toString milliseconds ++ "ms"
  | cancel endpoint pending =>
    "cancel " ++ lowerHex 2 endpoint.toNat ++ " pending " ++ toString pending

structure Pipes where
  outward : Endpoint (List UInt8) := {}
  inward : Endpoint Nat := {}
  maxPacket : Nat := 64
  chip : Option Chip := none
  /-- The calls made, latest first. -/
  calls : List Call := []
  /-- What the chip logged and nobody has taken note of, latest first. -/
  heard : List Notice := []

namespace Pipes

def called (pipes : Pipes) (call : Call) : Pipes := { pipes with calls := call :: pipes.calls }

def submitOut (pipes : Pipes) (data : List UInt8) : Pipes :=
  { pipes.called (.submitOut data) with outward := pipes.outward.submit data }

def submitIn (pipes : Pipes) (request : Nat) : Pipes :=
  { pipes.called (.submitIn request) with inward := pipes.inward.submit request }

/-- The bytes that a chip answers to a request for `length` of them: zeros if it has too few. -/
def response (length : Nat) (chip : Chip) : Reply Chip (List UInt8) :=
  if length = 0 then ⟨.ok [], chip, []⟩
  else
    let reply := Chip.take length chip
    ⟨.ok (reply.result.toOption.getD (List.replicate length 0)), reply.state, reply.notices⟩

/-- Hand a completed transfer to the chip. If it accepts the frame, the response becomes the last
event of the inward endpoint. -/
def deliver (pipes : Pipes) (data : List UInt8) : Pipes :=
  match pipes.chip with
  | none => pipes
  | some chip =>
    let length := ofLittleEndian ((data.drop 4).take 2)
    let reply := (Chip.accept data chip).andThen fun _ chip => response length chip
    let pipes := { pipes with
      chip := some reply.state
      heard := reply.notices.reverse ++ pipes.heard }
    match reply.result with
    | .error _ | .ok [] => pipes
    | .ok answer =>
      { pipes with
        inward := { pipes.inward with events := pipes.inward.events ++ [.data answer] } }

def waitOut (pipes : Pipes) (milliseconds : Nat) : Option (Except TransferFault Unit) × Pipes :=
  let (settled, outward) := pipes.outward.settle .complete
  let pipes := { pipes.called (.wait outEndpoint milliseconds) with outward }
  match settled with
  | none => (none, pipes)
  | some (_, .fail fault) => (some (.error fault), pipes)
  | some (data, _) => (some (.ok ()), pipes.deliver data)

/-- Wait for the oldest request for data. At most the requested bytes come back; what is over
stays as the next event. -/
def waitIn (pipes : Pipes) (milliseconds : Nat) :
    Option (Except TransferFault (List UInt8)) × Pipes :=
  let (settled, inward) := pipes.inward.settle .timeout
  let pipes := { pipes.called (.wait inEndpoint milliseconds) with inward }
  match settled with
  | none => (none, pipes)
  | some (_, .fail fault) => (some (.error fault), pipes)
  | some (request, .data bytes) =>
    match bytes.drop request with
    | [] => (some (.ok bytes), pipes)
    | excess =>
      (some (.ok (bytes.take request)),
        { pipes with inward := { inward with events := .data excess :: inward.events } })
  | some (_, _) => (some (.ok []), pipes)

def drainTimeout : Nat := 1000

/-- Wait for `count` transfers to the device. -/
def drainOut : (count : Nat) → Pipes → Pipes
  | 0, pipes => pipes
  | count + 1, pipes => drainOut count (pipes.waitOut drainTimeout).2

/-- Wait for `count` requests for data. -/
def drainIn : (count : Nat) → Pipes → Pipes
  | 0, pipes => pipes
  | count + 1, pipes => drainIn count (pipes.waitIn drainTimeout).2

/-- Cancel every transfer of both endpoints and wait for each to complete. -/
def drain (pipes : Pipes) : Pipes :=
  let outs := pipes.outward.pending.length
  let pipes := { pipes.called (.cancel outEndpoint outs) with outward := pipes.outward.cancelAll }
  let pipes := drainOut outs pipes
  let ins := pipes.inward.pending.length
  let pipes := { pipes.called (.cancel inEndpoint ins) with inward := pipes.inward.cancelAll }
  drainIn ins pipes

end Pipes
end OnfiFlash.Usb
