import OnfiFlash.BadBlock.Table
import OnfiFlash.Bytes.Limit
import OnfiFlash.Dialogue
import OnfiFlash.Geometry

/-! A session with an identified device, and the two kinds of step it is made of: queries need
only a link, operations also a session. An operation that fails keeps the session as it was
left. -/
namespace OnfiFlash

/-- How long to poll for the end of an operation. -/
inductive PollLimit where
  /-- Give up after this many polls, but not before the first. -/
  | atMost (polls : Nat)
  /-- Never give up; the wait is followed for `horizon` polls. -/
  | unbounded (horizon : Nat)
deriving DecidableEq, Repr

/-- An unbounded wait, followed far beyond the longest busy time of any chip. -/
def PollLimit.forever : PollLimit := .unbounded limit64

/-- The polls a wait is bounded to, if it is bounded. -/
def PollLimit.bound? : PollLimit → Option Nat
  | atMost polls => some polls
  | unbounded _ => none

structure SessionConfig where
  /-- Attempts to write a page before giving up. -/
  maxWriteRetries : Nat := 5
  polling : PollLimit := .atMost 100000
  /-- Require the ONFI signature. -/
  checkSignature : Bool := true
  /-- Reset the chip before identifying it. -/
  resetFirst : Bool := true
  /-- Switch on the on-die ECC of parts known to have it. -/
  enableEcc : Bool := true
deriving DecidableEq, Repr

/-- The command state of the chip as last driven by a session. -/
inductive ChipState where
  | idle
  /-- An address is latched and the second command cycle has not been sent. -/
  | addressLoaded
  /-- The page register holds a page. -/
  | reading
  | programming
  | erasing
deriving DecidableEq, Repr

def ChipState.name : ChipState → String
  | idle => "Idle"
  | addressLoaded => "AddressLoaded"
  | reading => "Reading"
  | programming => "Programming"
  | erasing => "Erasing"

/-- A session with an identified device. -/
structure Session where
  geometry : Geometry
  config : SessionConfig
  state : ChipState := .idle
  /-- The manufacturer and device identifiers, if they were read. -/
  jedecId : Option (UInt8 × UInt8) := none
  /-- Whether on-die ECC was confirmed as enabled. -/
  internalEcc : Bool := false
  /-- The result of a full scan, once there is one. -/
  badBlocks : Option BadBlockTable := none
  valid : geometry.Valid

/-- A step that needs no session. -/
abbrev Query (α : Type) : Type := ExceptT Error Dialogue α

namespace Query

def execute (frame : Frame) : Query (List UInt8) :=
  ExceptT.mk (.request frame .done)

def note (notice : Notice) : Query Unit :=
  ExceptT.mk (.remark (.notice notice) (.done (.ok ())))

end Query

/-- A step of a session. -/
abbrev Operation (α : Type) : Type := ExceptT Error (StateT Session Dialogue) α

namespace Operation

/-- A query as a step that leaves the session alone. -/
def ofQuery (query : Query α) : Operation α :=
  ExceptT.mk fun session => query.run.bind fun result => .done (result, session)

/-- Run an operation in a session: its result and the session afterwards. -/
def runIn (operation : Operation α) (session : Session) : Dialogue (Except Error α × Session) :=
  operation.run.run session

def execute (frame : Frame) : Operation (List UInt8) := ofQuery (Query.execute frame)

def note (notice : Notice) : Operation Unit := ofQuery (Query.note notice)

def progress (step : Progress) : Operation Unit :=
  ofQuery (ExceptT.mk (.remark (.progress step) (.done (.ok ()))))

def geometry : Operation Geometry := return (← get).geometry

/-- Stop with the error of a check that does not pass. -/
def require : Except Error α → Operation α
  | .ok value => pure value
  | .error e => throw e

def enter (state : ChipState) : Operation Unit :=
  modify fun session => { session with state }

end Operation
end OnfiFlash
