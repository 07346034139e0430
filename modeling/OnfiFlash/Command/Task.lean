import OnfiFlash.Failure
import OnfiFlash.Session.Basic

/-! Tasks: operations of a session that also read and write files and print. A task that fails
keeps what it did before. -/
namespace OnfiFlash

structure Desk where
  session : Session
  files : Workdir

/-- An operation of a session with files. -/
abbrev Task (α : Type) : Type := ExceptT Failure (StateT Desk Dialogue) α

namespace Task

def perform (operation : Operation α) : Task α :=
  ExceptT.mk fun desk => (operation.runIn desk.session).bind fun (result, session) =>
    .done (result.mapError Failure.flash, { desk with session })

/-- Run a task: its result, and the session and the files afterwards. -/
def runAt (task : Task α) (desk : Desk) : Dialogue (Except Failure α × Desk) :=
  task.run.run desk

def printLine (line : String) : Task Unit :=
  ExceptT.mk fun desk => .remark (.printed (line ++ "\n")) (.done (.ok (), desk))

def printLines : List String → Task Unit
  | [] => pure ()
  | line :: rest => do
    printLine line
    printLines rest

def load (path : String) : Task (List UInt8) := do
  match (← get).files.load path with
  | .ok contents => return contents
  | .error e => throw (.file e)

def save (path : String) (contents : List UInt8) : Task Unit := do
  match (← get).files.save path contents with
  | .ok files => modify fun desk => { desk with files }
  | .error e => throw (.file e)

end Task
end OnfiFlash
