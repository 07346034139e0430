import OnfiFlash.Text.Hex

/-! Why a USB bridge cannot be opened or a transfer does not succeed. -/
namespace OnfiFlash.Usb

inductive TransferFault where
  | stalled
  | cancelled
  | disconnected
  | hardware
  | invalid
deriving DecidableEq, Repr

def TransferFault.text : TransferFault → String
  | stalled => "endpoint stalled"
  | cancelled => "transfer was cancelled"
  | disconnected => "device disconnected"
  | hardware => "hardware fault or protocol violation"
  | invalid => "invalid or unsupported argument"

inductive UsbError where
  /-- No matching device is connected. -/
  | deviceNotFound (vendorId productId : Nat)
  /-- Listing the devices or opening one failed. -/
  | openFailed (reason : String)
  /-- Claiming the interface or opening an endpoint failed. -/
  | claimFailed (reason : String)
  /-- A transfer completed without success. -/
  | transferFailed (fault : TransferFault)
  /-- A transfer did not complete in time. -/
  | timeout
  /-- The device ended its response early. -/
  | shortRead (expected actual : Nat)
deriving DecidableEq, Repr

namespace UsbError

def message : UsbError → String
  | deviceNotFound vendorId productId =>
    let vendor := lowerHex 4 vendorId
    let product := lowerHex 4 productId
    s!"bridge device not found (VID:{vendor} PID:{product})"
  | openFailed reason => s!"failed to open bridge: {reason}"
  | claimFailed reason => s!"failed to claim interface: {reason}"
  | transferFailed fault => "USB transfer failed: " ++ fault.text
  | timeout => "USB transfer timed out"
  | shortRead expected actual => s!"short read: expected {expected} bytes, got {actual}"

def name : UsbError → String
  | deviceNotFound _ _ => "DeviceNotFound"
  | openFailed _ => "OpenFailed"
  | claimFailed _ => "ClaimFailed"
  | transferFailed _ => "TransferFailed"
  | timeout => "Timeout"
  | shortRead _ _ => "ShortRead"

end UsbError
end OnfiFlash.Usb
