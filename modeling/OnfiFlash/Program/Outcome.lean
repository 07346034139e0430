import OnfiFlash.Remark
import OnfiFlash.Workdir

/-! What a run of a program leaves behind. -/
namespace OnfiFlash.Program

structure Outcome where
  /-- Zero for success, one for failure, two for a mistake on the command line. -/
  exitCode : Nat := 0
  /-- What is printed. -/
  output : String := ""
  notices : List Notice := []
  /-- What is said about a failure. -/
  complaint? : Option String := none
  files : Workdir

namespace Outcome

def success (output : String) (files : Workdir) : Outcome := { output, files }

/-- Failure before anything is done. -/
def failure (complaint : String) (files : Workdir) : Outcome :=
  { exitCode := 1, complaint? := some complaint, files }

/-- Lines as text that is printed. -/
def textOf (lines : List String) : String := String.join (lines.map fun line => line ++ "\n")

end Outcome
end OnfiFlash.Program
