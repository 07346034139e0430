import OnfiFlash.Text.Hex

/-! The status register. Bits without a meaning of their own are kept. -/
namespace OnfiFlash

structure Status where
  bits : UInt8
deriving DecidableEq, Repr

namespace Status

/-- A bit of the register that has a meaning. -/
inductive Flag where
  /-- The write-protect pin is released: program and erase are allowed. -/
  | writeEnabled
  /-- The device accepts a new command. -/
  | ready
  /-- So many bits were corrected that the page should be refreshed. -/
  | refreshAdvised
  /-- The previous cached operation failed. -/
  | cachedError
  /-- The last operation failed. -/
  | error
deriving DecidableEq, Repr

def Flag.mask : Flag → UInt8
  | writeEnabled => 0x80
  | ready => 0x40
  | refreshAdvised => 0x08
  | cachedError => 0x02
  | error => 0x01

def Flag.label : Flag → String
  | writeEnabled => "WE"
  | ready => "RDY"
  | refreshAdvised => "REWRITE"
  | cachedError => "FAILC"
  | error => "FAIL"

/-- All flags, from the highest bit to the lowest. -/
def Flag.all : List Flag := [writeEnabled, ready, refreshAdvised, cachedError, error]

def has (status : Status) (flag : Flag) : Bool :=
  status.bits &&& flag.mask != 0

/-- The register with exactly the given flags set. -/
def ofFlags (flags : List Flag) : Status :=
  ⟨flags.foldl (fun bits flag => bits ||| flag.mask) 0⟩

/-- May a new command be sent? -/
def isReady (status : Status) : Bool := status.has .ready
def isError (status : Status) : Bool := status.has .error
/-- Are program and erase allowed? -/
def isWriteEnabled (status : Status) : Bool := status.has .writeEnabled
def isRefreshAdvised (status : Status) : Bool := status.has .refreshAdvised

/-- The register in hexadecimal, then the labels of the flags that are set, if any. -/
def text (status : Status) : String :=
  let value := "0x" ++ byteHex status.bits
  match (Flag.all.filter status.has).map Flag.label with
  | [] => value
  | labels => value ++ " [" ++ "|".intercalate labels ++ "]"

end Status
end OnfiFlash
