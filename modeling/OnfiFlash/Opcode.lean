/-! Command bytes of an ONFI chip and the fixed operands that go with them. The bridge
forwards the command byte of a frame to the chip unchanged. -/
namespace OnfiFlash.Opcode

def readParameterPage : UInt8 := 0xEC
def readId : UInt8 := 0x90
def reset : UInt8 := 0xFF
def setFeatures : UInt8 := 0xEF
/-- Latches a page address or, without an address, reads from the page register. -/
def readMode : UInt8 := 0x00
def readStart : UInt8 := 0x30
def changeReadColumn : UInt8 := 0x05
def changeReadColumnStart : UInt8 := 0xE0
def eraseSetup : UInt8 := 0x60
def eraseConfirm : UInt8 := 0xD0
def programSetup : UInt8 := 0x80
def programConfirm : UInt8 := 0x10
def readStatus : UInt8 := 0x70

end OnfiFlash.Opcode

namespace OnfiFlash.Identification

/-- The READ ID address of the manufacturer and device identifiers. -/
def jedecAddress : UInt8 := 0x00
/-- The READ ID address of the signature. -/
def signatureAddress : UInt8 := 0x20
/-- The four bytes `ONFI`. -/
def signature : List UInt8 := [0x4F, 0x4E, 0x46, 0x49]
/-- The length of the identifier that also reports the state of the on-die ECC. -/
def jedecLength : Nat := 5

/-- The manufacturer and device identifiers of parts whose on-die ECC is switched on
when a session opens. -/
def eccParts : List (UInt8 × UInt8) := [(0x2C, 0xDA)]

def isEccPart : List UInt8 → Bool
  | manufacturer :: device :: _ => eccParts.contains (manufacturer, device)
  | _ => false

/-- The bit of the identifier's fifth byte that is set while on-die ECC is enabled. -/
def eccBit : UInt8 := 0x80

/-- Whether an identifier reports on-die ECC as enabled. -/
def reportsEcc (id : List UInt8) : Bool :=
  match id[4]? with
  | some state => state &&& eccBit != 0
  | none => false

def arrayModeFeature : UInt8 := 0x90
/-- The mode bit that enables on-die ECC. -/
def eccMode : UInt8 := 0x08
/-- How often enabling on-die ECC is requested before giving up. -/
def eccAttempts : Nat := 5

end OnfiFlash.Identification
