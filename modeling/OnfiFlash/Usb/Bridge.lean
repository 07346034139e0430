import OnfiFlash.Usb.Bus

/-! A USB bridge as a link. Each write is one transfer. Each read collects transfers until it has
the bytes it wants; requests are whole packets, and surplus bytes are kept for the next read. -/
namespace OnfiFlash.Usb

structure Bridge where
  pipes : Pipes
  /-- The time to wait for each transfer, in milliseconds. -/
  timeout : Nat
  /-- Bytes received beyond what the last read wanted. -/
  stash : List UInt8 := []

namespace Bridge

def send (data : List UInt8) (bridge : Bridge) : Except UsbError Unit × Bridge :=
  let (settled, pipes) := (bridge.pipes.submitOut data).waitOut bridge.timeout
  match settled with
  | none => (.error .timeout, { bridge with pipes := pipes.drain })
  | some (.error fault) => (.error (.transferFailed fault), { bridge with pipes })
  | some (.ok ()) => (.ok (), { bridge with pipes })

/-- The bytes to request when `missing` bytes are wanted: whole packets. -/
def requestSize (missing maxPacket : Nat) : Nat :=
  let packet := max 1 maxPacket
  (missing + packet - 1) / packet * packet

/-- Collect the bytes of a read of `want` bytes of which `missing` are missing. -/
def collect (want missing : Nat) (got : List UInt8) (bridge : Bridge) :
    Except UsbError (List UInt8) × Bridge :=
  if missing = 0 then
    (.ok got, bridge)
  else
    let request := requestSize missing bridge.pipes.maxPacket
    let (settled, pipes) := (bridge.pipes.submitIn request).waitIn bridge.timeout
    match settled with
    | none => (.error .timeout, { bridge with pipes := pipes.drain })
    | some (.error fault) => (.error (.transferFailed fault), { bridge with pipes })
    | some (.ok []) => (.error (.shortRead want (want - missing)), { bridge with pipes })
    | some (.ok (first :: rest)) =>
      let received := first :: rest
      let taken := received.take missing
      let bridge := { bridge with pipes, stash := bridge.stash ++ received.drop missing }
      collect want (missing - taken.length) (got ++ taken) bridge
termination_by missing
decreasing_by simp only [List.length_take, List.length_cons]; omega

/-- Read exactly `want` bytes, first those kept from earlier. -/
def receive (want : Nat) (bridge : Bridge) : Except UsbError (List UInt8) × Bridge :=
  let kept := bridge.stash.take want
  collect want (want - kept.length) kept { bridge with stash := bridge.stash.drop want }

def takeNotices (bridge : Bridge) : List Notice × Bridge :=
  (bridge.pipes.heard.reverse, { bridge with pipes := { bridge.pipes with heard := [] } })

/-- A USB operation as an answer of a link: the cause of a failure is only logged. -/
def reply (outcome : Except UsbError α × Bridge) (surplus : Bridge → List Notice) :
    Reply Bridge α :=
  let (heard, bridge) := outcome.2.takeNotices
  match outcome.1 with
  | .ok value => ⟨.ok value, bridge, heard ++ surplus bridge⟩
  | .error e => ⟨.error .transport, bridge, heard ++ [.error e.message]⟩

/-- The warning that more bytes came than were wanted. -/
def surplusWarning (bridge : Bridge) : List Notice :=
  match bridge.stash.length with
  | 0 => []
  | count => [.warning s!"bridge sent {count} bytes more than requested"]

instance : Link Bridge where
  write data bridge := reply (bridge.send data) fun _ => []
  read count bridge := reply (bridge.receive count) surplusWarning

theorem length_collect (want missing : Nat) (got : List UInt8) (bridge : Bridge)
    (bytes : List UInt8) (collected : (collect want missing got bridge).1 = .ok bytes) :
    bytes.length = got.length + missing := by
  fun_induction collect want missing got bridge with
  | case1 =>
    cases collected
    rfl
  | case2 => cases collected
  | case3 => cases collected
  | case4 => cases collected
  | case5 missing got bridge _ _ _ first rest received taken _ _ earlier =>
    have bound : taken.length ≤ missing := by simp only [taken, List.length_take]; omega
    rw [earlier collected, List.length_append]
    omega

theorem length_receive (want : Nat) (bridge : Bridge) (bytes : List UInt8)
    (received : (bridge.receive want).1 = .ok bytes) : bytes.length = want := by
  have collected := length_collect _ _ _ _ _ received
  have bound : (bridge.stash.take want).length ≤ want := by simp only [List.length_take]; omega
  omega

instance : LawfulLink Bridge where
  length_read count bridge bytes taken := by
    simp only [Link.read, reply] at taken
    split at taken
    · next value found =>
      cases taken
      exact length_receive count bridge bytes found
    · cases taken

/-- Close a bridge: nothing stays pending. -/
def close (bridge : Bridge) : Bridge := { bridge with pipes := bridge.pipes.drain }

/-- Open a bridge by its number among the bridges on a bus. Yields the calls made, latest first,
also on failure. -/
def openNth (bus : Bus) (config : Config) (number : Nat) : Except UsbError Bridge × List Call :=
  let (pipes, calls) := bus.openBridge config number
  (pipes.map fun pipes => { pipes, timeout := config.timeout }, calls)

end Bridge
end OnfiFlash.Usb
