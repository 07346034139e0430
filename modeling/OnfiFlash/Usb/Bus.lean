import OnfiFlash.Usb.Pipes

/-! A simulated USB bus: devices that can be listed, opened and claimed. -/
namespace OnfiFlash.Usb

/-- Which devices are bridges, and how to talk to them. -/
structure Config where
  vendorId : Nat := 0x09FB
  productId : Nat := 0x6001
  /-- The interface to claim. -/
  interface : Nat := 1
  /-- The time to wait for each transfer, in milliseconds. -/
  timeout : Nat := 5000
deriving DecidableEq, Repr

structure Device where
  vendorId : Nat := 0x09FB
  productId : Nat := 0x6001
  /-- The name of the bus it is on. -/
  bus : String := "001"
  address : Nat := 1
  /-- The product it reports itself as. -/
  product : Option String := none
  /-- Why it cannot be opened. -/
  refusal : Option String := none
  interfaces : List Nat := [0, 1]
  endpoints : List UInt8 := [outEndpoint, inEndpoint]
  maxPacket : Nat := 64
  outEvents : List Event := []
  inEvents : List Event := []
  chip : Option Chip := none

/-- How a device is listed. -/
def Device.text (device : Device) : String :=
  let place := s!"bridge at bus " ++ device.bus ++ " address " ++ toString device.address
  match device.product with
  | some product => place ++ " (" ++ product ++ ")"
  | none => place

structure Bus where
  /-- Why the devices cannot be listed. -/
  refusal : Option String := none
  devices : List Device := []

namespace Bus

/-- The bridges on the bus, each with its position among all devices. -/
def bridges (bus : Bus) (config : Config) : Except UsbError (List (Device × Nat)) :=
  match bus.refusal with
  | some reason => .error (.openFailed reason)
  | none => .ok <| bus.devices.zipIdx.filter fun (device, _) =>
      device.vendorId = config.vendorId ∧ device.productId = config.productId

/-- Open a bridge by its number among the bridges and claim its interface. Yields the calls made,
latest first, also on failure. -/
def openBridge (bus : Bus) (config : Config) (number : Nat) :
    Except UsbError Pipes × List Call :=
  match bus.bridges config with
  | .error e => (.error e, [])
  | .ok bridges =>
    match bridges[number]? with
    | none => (.error (.deviceNotFound config.vendorId config.productId), [])
    | some (device, position) =>
      match device.refusal with
      | some reason => (.error (.openFailed reason), [])
      | none =>
        let opened := [.openDevice position]
        if !device.interfaces.contains config.interface then
          (.error (.claimFailed "interface not found"), opened)
        else
          let claimed := .claim config.interface :: opened
          if device.endpoints.contains outEndpoint && device.endpoints.contains inEndpoint then
            let pipes : Pipes :=
              { outward := { events := device.outEvents }
                inward := { events := device.inEvents }
                maxPacket := device.maxPacket
                chip := device.chip
                calls := claimed }
            (.ok pipes, claimed)
          else
            (.error (.claimFailed "endpoint not found"), claimed)

end Bus
end OnfiFlash.Usb
