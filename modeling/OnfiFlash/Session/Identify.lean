import OnfiFlash.Opcode
import OnfiFlash.Session.Basic
import OnfiFlash.Status
import OnfiFlash.Geometry.ParameterPage

/-! Identifying a device: polling, reset, identifiers, on-die ECC and the parameter page, which
together open a session. -/
namespace OnfiFlash
namespace Query

def readStatus : Query Status := do
  match ← execute (.read Opcode.readStatus 1) with
  | bits :: _ => return ⟨bits⟩
  | [] => throw .transport

/-- Poll up to `polls` times for the ready bit; then `giveUp`. -/
def awaitReady (giveUp : Query Status) : (polls : Nat) → Query Status
  | 0 => giveUp
  | polls + 1 => do
    let status ← readStatus
    if status.isReady then
      return status
    else
      awaitReady giveUp polls

def pollReady : PollLimit → Query Status
  | .atMost polls =>
    let polls := max 1 polls
    let giveUp : Query Status := do
      note (.error s!"device still busy after {polls} status polls")
      throw .timeout
    awaitReady giveUp polls
  | .unbounded horizon => awaitReady (throw .unsettled) horizon

def reset (polling : PollLimit) : Query Status := do
  let _ ← execute (.simple Opcode.reset)
  pollReady polling

def readId (address : UInt8) (length : Nat) : Query (List UInt8) :=
  execute ((Frame.withAddress Opcode.readId [address]).reading (UInt16.ofNat length))

/-- Set a feature and wait for the device. -/
def setFeatures (feature : UInt8) (parameters : List UInt8) (polling : PollLimit) :
    Query Status := do
  let _ ← execute (.write Opcode.setFeatures [feature] parameters)
  pollReady polling

/-- Request on-die ECC until the identifier reports it, at most `attempts` more times. Yields
the last identifier and whether it reports ECC. -/
def requestEcc (polling : PollLimit) : (attempts : Nat) → (id : List UInt8) →
    Query (List UInt8 × Bool)
  | attempts, id =>
    if Identification.reportsEcc id then
      return (id, true)
    else
      match attempts with
      | 0 => do
        let tried := Identification.eccAttempts
        note (.warning
          s!"on-die ECC still off after {tried} attempts, rewrite hints will not be reported")
        return (id, false)
      | attempts + 1 => do
        let _ ← setFeatures Identification.arrayModeFeature [Identification.eccMode, 0, 0, 0]
          polling
        let id ← readId Identification.jedecAddress Identification.jedecLength
        requestEcc polling attempts id

/-- Read the identifier and switch on the on-die ECC of parts known to have it; other parts are
left alone. Yields the last identifier and whether ECC ended up enabled. -/
def enableEcc (polling : PollLimit) : Query (List UInt8 × Bool) := do
  let id ← readId Identification.jedecAddress Identification.jedecLength
  if Identification.isEccPart id then
    requestEcc polling Identification.eccAttempts id
  else
    return (id, false)

def checkSignature : Query Unit := do
  let found ← readId Identification.signatureAddress Identification.signature.length
  if found ≠ Identification.signature then
    let shown := bytesHex found
    note (.error s!"READ ID returned {shown}, expected ONFI signature")
    throw .notOnfi

def refuse (flaw : Geometry.Flaw) : Query α := do
  note (.error flaw.text)
  throw .protocol

/-- The geometry that a parameter page states, unless the page is refused. -/
def parseGeometry (page : List UInt8) : Query Geometry :=
  match Geometry.parse page with
  | .ok geometry => return geometry
  | .error flaw => refuse flaw

def loadGeometry : Query Geometry := do
  let request := (Frame.withAddress Opcode.readParameterPage [0]).reading
    (UInt16.ofNat Geometry.parameterPageLength)
  parseGeometry (← execute request)

end Query

namespace Session

/-- The first two bytes of an identifier. -/
def jedecPair (id : List UInt8) : UInt8 × UInt8 := (id.getD 0 0, id.getD 1 0)

/-- A session with a device whose geometry is already known. -/
def ofGeometry (geometry : Geometry) (config : SessionConfig) : Query Session :=
  match found : geometry.flaw? with
  | some flaw => Query.refuse flaw
  | none => return { geometry, config, valid := found }

def identify (config : SessionConfig) : Query Session := do
  if config.resetFirst then
    let _ ← Query.reset config.polling
  if config.checkSignature then
    Query.checkSignature
  let (id, internalEcc) ←
    if config.enableEcc then
      Query.enableEcc config.polling
    else
      pure (← Query.readId Identification.jedecAddress 2, false)
  let geometry ← Query.loadGeometry
  let session ← ofGeometry geometry config
  return { session with jedecId := some (jedecPair id), internalEcc }

end Session
end OnfiFlash
