import OnfiFlash.Bridge.Spec
import OnfiFlash.Error
import OnfiFlash.Workdir

/-! Why a command fails, whatever its cause. -/
namespace OnfiFlash

inductive Failure where
  | flash (cause : Error)
  | bridge (cause : Bridge.SpecError)
  | file (cause : FileError)
  /-- A cause that has no form but its wording. -/
  | sentence (text : String)
deriving DecidableEq, Repr

namespace Failure

def message : Failure → String
  | flash cause => cause.message
  | bridge cause => cause.message
  | file cause => cause.message
  | sentence text => text

/-- The structural spelling printed by a failing command. -/
def diagnostic : Failure → String
  | flash cause => cause.diagnostic
  | bridge cause => cause.diagnostic
  | file cause => cause.diagnostic
  | sentence text => quoted text

end Failure
end OnfiFlash
