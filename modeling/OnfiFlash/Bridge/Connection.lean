import OnfiFlash.Bridge.Spec
import OnfiFlash.Failure
import OnfiFlash.Settings
import OnfiFlash.Usb.Bridge

/-! Connections to a chip over the bridge that a bridge string names. -/
namespace OnfiFlash.Bridge

/-- An open bridge of either kind. -/
inductive Connection where
  | usb (bridge : Usb.Bridge)
  | emulator (chip : Chip)

namespace Connection

/-- An answer of a bridge as one of the connection. -/
def rewrap (wrap : σ → Connection) (reply : Reply σ α) : Reply Connection α :=
  ⟨reply.result, wrap reply.state, reply.notices⟩

instance : Link Connection where
  write bytes
    | usb bridge => rewrap usb (Link.write bytes bridge)
    | emulator chip => rewrap emulator (Link.write bytes chip)
  read count
    | usb bridge => rewrap usb (Link.read count bridge)
    | emulator chip => rewrap emulator (Link.read count chip)

instance : LawfulLink Connection where
  length_read count connection bytes taken := by
    cases connection with
    | usb bridge => exact LawfulLink.length_read count bridge bytes taken
    | emulator chip => exact LawfulLink.length_read count chip bytes taken

/-- The calls made to the bus until the connection is closed, in order. -/
def busCalls : Connection → List Usb.Call
  | usb bridge => bridge.close.pipes.calls.reverse
  | emulator _ => []

end Connection

/-- The USB bridge that a spec describes; the settings file fills its gaps. -/
def Spec.usbConfig (spec : Spec) (settings : UsbSettings) : Except SpecError Usb.Config := do
  let base : Usb.Config := {}
  spec.checkKeys .usb ["vid", "pid", "index", "interface", "timeout"]
  let timeout? ← spec.number? limit64 "timeout"
  let vendorId? ← spec.number? limit16 "vid"
  let productId? ← spec.number? limit16 "pid"
  let interface? ← spec.number? limit8 "interface"
  return {
    vendorId := (vendorId? <|> settings.vendorId).getD base.vendorId
    productId := (productId? <|> settings.productId).getD base.productId
    interface := (interface? <|> settings.interface).getD base.interface
    timeout := (timeout? <|> settings.timeout).getD base.timeout }

/-- The blocks of a list with plus signs between them. -/
def Spec.blockList (key value : String) : Except SpecError (List Nat) :=
  ((splitAll '+' value.toList).filter (!·.isEmpty)).mapM fun block =>
    readNumber limit32 key value (String.ofList block)

def Spec.chipConfig (spec : Spec) : Except SpecError Chip.Config := do
  let base : Chip.Config := {}
  spec.checkKeys .emulator ["blocks", "bad", "wp", "busy"]
  let blocks? ← spec.number? limit32 "blocks"
  let badBlocks ← match spec.parameter? "bad" with
    | some value => blockList "bad" value
    | none => pure base.badBlocks
  let writeProtected? ← spec.number? limit8 "wp"
  let busyPolls? ← spec.number? limit32 "busy"
  return { base with
    blocksPerUnit := blocks?.getD base.blocksPerUnit
    badBlocks
    writeProtected := (writeProtected?.map (· != 0)).getD base.writeProtected
    busyPolls := busyPolls?.getD base.busyPolls }

/-- A connection, or why there is none, and the calls made to the bus so far, in order. -/
structure Attempt where
  result : Except Failure Connection
  calls : List Usb.Call := []

/-- Why a USB bridge cannot be used, with advice. -/
def usbFailure (e : Usb.UsbError) : Failure :=
  .sentence <| "Failed to open USB bridge: " ++ e.message
    ++ "\nMake sure the device is connected and you have permissions."

def connectUsb (spec : Spec) (settings : UsbSettings) (bus : Usb.Bus) : Attempt :=
  let wanted := do
    let config ← spec.usbConfig settings
    let number? ← spec.number? limit64 "index"
    return (config, number?.getD 0)
  match wanted with
  | .error e => ⟨.error (.bridge e), []⟩
  | .ok (config, number) =>
    let (opened, calls) := Usb.Bridge.openNth bus config number
    ⟨(opened.mapError usbFailure).map .usb, calls.reverse⟩

def connect (text : String) (settings : Settings) (bus : Usb.Bus) : Attempt :=
  let named := do
    let spec ← Spec.parse text
    return (spec, ← spec.kind)
  match named with
  | .error e => ⟨.error (.bridge e), []⟩
  | .ok (spec, .usb) => connectUsb spec settings.usb bus
  | .ok (spec, .emulator) =>
    ⟨(spec.chipConfig.mapError Failure.bridge).map fun config => .emulator (.ofConfig config), []⟩

/-- The list of bridges there are, and of USB bridges that are connected. -/
def listing (settings : UsbSettings) (bus : Usb.Bus) : List String × List Notice :=
  let base : Usb.Config := {}
  let config := { base with
    vendorId := settings.vendorId.getD base.vendorId
    productId := settings.productId.getD base.productId }
  let kinds := Kind.all.map fun kind =>
    let aliases :=
      if kind.aliases.isEmpty then "" else " (alias: " ++ ", ".intercalate kind.aliases ++ ")"
    "  " ++ padRight 8 kind.name ++ " - " ++ kind.description ++ aliases
  let known := ["Supported bridges:", ""] ++ kinds ++ [""]
  match bus.bridges config with
  | .error e => (known, [.warning ("Could not enumerate USB devices: " ++ e.message)])
  | .ok [] =>
    let ids := lowerHex 4 config.vendorId ++ ":" ++ lowerHex 4 config.productId
    (known ++ [s!"No USB bridges ({ids}) connected"], [])
  | .ok bridges =>
    let connected := bridges.mapIdx fun i bridge => s!"  index={i}  " ++ bridge.1.text
    (known ++ "Connected USB bridges:" :: connected, [])

end OnfiFlash.Bridge
