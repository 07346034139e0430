import OnfiFlash.Text.Diagnostic

/-! Why a flash operation fails, with the wording of each cause. -/
namespace OnfiFlash

inductive Error where
  /-- The link refused a write, or returned fewer bytes than requested. -/
  | transport
  /-- Status polling reached its bound before the device was ready. -/
  | timeout
  /-- A command frame does not fit the fields of its header. -/
  | frameTooLarge
  /-- A parameter page is too short or describes an impossible geometry. -/
  | protocol
  /-- READ ID did not return the ONFI signature. -/
  | notOnfi
  /-- The device reported the error bit after loading `page`. -/
  | read (page : Nat)
  /-- A program was attempted while the write-enable bit is clear. -/
  | writeProtected
  /-- The device advises to refresh `page`. -/
  | refreshAdvised (page : Nat)
  /-- Reading `page` back differs from what was programmed, first at `offset`. -/
  | verifyMismatch (page offset : Nat)
  /-- The retry budget for writing `page` is spent. -/
  | writeExhausted (page attempts : Nat)
  /-- Data was requested before a page was loaded. -/
  | noPageLoaded
  /-- The device reported the error bit after erasing a block that had to be erased. -/
  | eraseFailed (block : Nat)
  /-- A page or block lies beyond the device. -/
  | addressOutOfRange
  /-- No good block is left before the end of the device. -/
  | outOfSpace
  /-- A block list does not fit in the index page. -/
  | indexOverflow
  /-- Data does not fit in the target region. -/
  | imageTooLarge
  /-- An unbounded wait outlived the horizon it was followed to. -/
  | unsettled
deriving DecidableEq, Repr

namespace Error

def message : Error → String
  | transport => "transport read/write failed"
  | timeout => "device did not become ready"
  | frameTooLarge => "command frame exceeds header field limits"
  | protocol => "malformed or undersized parameter page"
  | notOnfi => "device did not report an ONFI signature"
  | read page => s!"device reported read error on page {page}"
  | writeProtected => "device is write protected"
  | refreshAdvised page => s!"device recommends rewriting page {page}"
  | verifyMismatch page offset =>
    s!"verify failed on page {page}: data mismatch at offset {offset}"
  | writeExhausted page attempts => s!"giving up on page {page} after {attempts} attempts"
  | noPageLoaded => "no page loaded for data read"
  | eraseFailed block => s!"erase of block {block} failed"
  | addressOutOfRange => "page or block out of range"
  | outOfSpace => "no good block left on device"
  | indexOverflow => "block list does not fit in the index page"
  | imageTooLarge => "data too large for target region"
  | unsettled => "device was still busy when polling stopped being followed"

def name : Error → String
  | transport => "Transport"
  | timeout => "Timeout"
  | frameTooLarge => "FrameTooLarge"
  | protocol => "Protocol"
  | notOnfi => "NotOnfi"
  | read _ => "Read"
  | writeProtected => "WriteProtected"
  | refreshAdvised _ => "RewriteRecommended"
  | verifyMismatch _ _ => "VerifyMismatch"
  | writeExhausted _ _ => "WriteExhausted"
  | noPageLoaded => "NoPageLoaded"
  | eraseFailed _ => "EraseFailed"
  | addressOutOfRange => "AddressOutOfRange"
  | outOfSpace => "OutOfSpace"
  | indexOverflow => "IndexOverflow"
  | imageTooLarge => "ImageTooLarge"
  | unsettled => "Unsettled"

/-- The details a cause carries, each with its name. -/
def details : Error → List (String × Nat)
  | read page | refreshAdvised page => [("page", page)]
  | verifyMismatch page offset => [("page", page), ("offset", offset)]
  | writeExhausted page attempts => [("page", page), ("attempts", attempts)]
  | eraseFailed block => [("block", block)]
  | _ => []

/-- The structural spelling printed by a failing command. -/
def diagnostic (error : Error) : String :=
  match error.details with
  | [] => error.name
  | details => Diagnostic.record error.name (details.map fun field => (field.1, toString field.2))

/-- Whether writing the page again may succeed after this failure. -/
def isRetryable : Error → Bool
  | read _ | refreshAdvised _ | verifyMismatch _ _ => true
  | _ => false

end Error
end OnfiFlash
