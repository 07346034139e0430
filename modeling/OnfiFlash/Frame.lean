import OnfiFlash.Error
import OnfiFlash.Bytes.Buffer
import OnfiFlash.Bytes.LittleEndian

/-! The command frame: what the host sends for one command cycle. On the wire a frame is a
header of six bytes, the address cycles and the output data; the bridge answers with exactly
as many bytes as the header requests. -/
namespace OnfiFlash

/-- One request to the bridge. -/
structure Frame where
  /-- The byte latched as the command cycle. -/
  opcode : UInt8
  /-- The address cycles sent after the command. -/
  address : List UInt8 := []
  /-- The bytes clocked out after the address. -/
  data : List UInt8 := []
  /-- How many bytes are read back. -/
  readLength : UInt16 := 0
deriving DecidableEq, Repr

namespace Frame

def headerLength : Nat := 6

def maxAddressLength : Nat := 8

def maxDataLength : Nat := 65535

/-- A bare command. -/
def simple (opcode : UInt8) : Frame := ⟨opcode, [], [], 0⟩

def withAddress (opcode : UInt8) (address : List UInt8) : Frame := ⟨opcode, address, [], 0⟩

def read (opcode : UInt8) (readLength : UInt16) : Frame := ⟨opcode, [], [], readLength⟩

def write (opcode : UInt8) (address data : List UInt8) : Frame := ⟨opcode, address, data, 0⟩

/-- The same command, reading `readLength` bytes back. -/
def reading (frame : Frame) (readLength : UInt16) : Frame := { frame with readLength }

/-- A frame is well formed when its lengths fit their header fields. -/
def WellFormed (frame : Frame) : Prop :=
  frame.address.length ≤ maxAddressLength ∧ frame.data.length ≤ maxDataLength

instance (frame : Frame) : Decidable frame.WellFormed :=
  inferInstanceAs (Decidable (_ ∧ _))

def validate (frame : Frame) : Except Error Unit :=
  if frame.WellFormed then .ok () else .error .frameTooLarge

def encodedLength (frame : Frame) : Nat :=
  headerLength + frame.address.length + frame.data.length

/-- The header: command, address length, data length, read length. A length that does not
fit its field is cut to the field's width. -/
def header (frame : Frame) : List UInt8 :=
  frame.opcode :: UInt8.ofNat frame.address.length
    :: (littleEndian 2 frame.data.length ++ littleEndian 2 frame.readLength.toNat)

/-- The bytes of the frame on the wire, its form unchecked. -/
def wire (frame : Frame) : List UInt8 :=
  frame.header ++ frame.address ++ frame.data

/-- The bytes sent for a well-formed frame. -/
def encode (frame : Frame) : Except Error (List UInt8) := do
  frame.validate
  return frame.wire

/-- Write the frame to the front of a buffer, section by section. A frame that is not well formed
or finds too little room is refused before anything is written. Yields the number of bytes
written. -/
def store (frame : Frame) : Writing Error Nat := do
  frame.validate
  if (← get).length < frame.encodedLength then
    throw .frameTooLarge
  Writing.put 0 frame.header
  Writing.put headerLength frame.address
  Writing.put (headerLength + frame.address.length) frame.data
  return frame.encodedLength

/-- Write the frame to the front of `buffer`, which keeps its length. Yields the buffer and
the number of bytes written. -/
def encodeInto (frame : Frame) (buffer : List UInt8) : Except Error (List UInt8 × Nat) :=
  frame.store.into buffer

/-- Read back a frame. The bytes must be exactly one frame: the header's lengths account for
every byte after it, and there are at most eight address cycles. -/
def decode : List UInt8 → Except Error Frame
  | opcode :: addressLength :: d0 :: d1 :: r0 :: r1 :: body =>
    let addressLength := addressLength.toNat
    let dataLength := ofLittleEndian [d0, d1]
    if addressLength ≤ maxAddressLength ∧ body.length = addressLength + dataLength then
      .ok {
        opcode
        address := body.take addressLength
        data := body.drop addressLength
        readLength := UInt16.ofNat (ofLittleEndian [r0, r1]) }
    else
      .error .protocol
  | _ => .error .protocol

end Frame
end OnfiFlash
