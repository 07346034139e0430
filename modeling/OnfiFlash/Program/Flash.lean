import OnfiFlash.Bridge.Connection
import OnfiFlash.CommandLine.Help
import OnfiFlash.Program.Outcome
import OnfiFlash.Session.Identify
import OnfiFlash.Settings.Load

/-! A run of the program from its arguments, the files around it and the devices on the bus. -/
namespace OnfiFlash.Program

open CommandLine

/-- Identify the device, then run a command in the session. -/
def conduct (config : SessionConfig) (command : Command Nat) (files : Workdir) :
    Dialogue (Except Failure Unit × Workdir) :=
  (Session.identify config).run.bind fun opened => match opened with
    | .error e => .done (.error (.flash e), files)
    | .ok session => (command.run.runAt ⟨session, files⟩).bind fun (result, desk) =>
        .done (result, desk.files)

def complaint (failure : Failure) : String := "Error: " ++ failure.diagnostic

/-- Run a command on the device that a bridge string leads to. -/
def runOnDevice (bridge : String) (config : SessionConfig) (command : Command Nat)
    (settings : Settings) (files : Workdir) (bus : Usb.Bus) : Outcome :=
  match (Bridge.connect bridge settings bus).result with
  | .error failure => .failure (complaint failure) files
  | .ok connection =>
    let outcome := (conduct config command files).run connection
    let (result, files) := outcome.value
    { exitCode := match result with
        | .ok () => 0
        | .error _ => 1
      output := Report.output outcome.transcript
      notices := Dialogue.notices outcome.transcript
      complaint? := match result with
        | .ok () => none
        | .error failure => some (complaint failure)
      files }

def answer (request : Request) (settings : Settings) (files : Workdir) (bus : Usb.Bus) : Outcome :=
  match request with
  | .listBridges =>
    let (lines, notices) := Bridge.listing settings.usb bus
    { output := Outcome.textOf lines, notices, files }
  | .onDevice bridge session command =>
    runOnDevice bridge (session.applyTo settings.sessionConfig)
      (command.map (·.getD settings.indexPage)) settings files bus

/-- What becomes of a command line that leads to no action. -/
def stopped (stop : Stop) (files : Workdir) : Outcome :=
  match stop with
  | .help verb? => .success (Outcome.textOf (helpText verb?)) files
  | .version => .success (Outcome.textOf [versionText]) files
  | mistake =>
    { exitCode := 2
      complaint? := some ("error: " ++ mistake.message ++ "\n\nUsage: " ++ programUsage)
      files }

/-- Run the program. The settings are loaded before anything else is done. -/
def run (arguments : List String) (files : Workdir) (bus : Usb.Bus) : Outcome :=
  match Invocation.parse arguments with
  | .error stop => stopped stop files
  | .ok invocation =>
    match Settings.load files invocation.config? with
    | .error e => .failure e.message files
    | .ok settings => answer invocation.request settings files bus

end OnfiFlash.Program
