import Haulage.Command.Arguments
import Haulage.Command.ExitCode
import Haulage.Command.Report
import Haulage.S3.Resolver
import Haulage.Settings.Load

/-! Running a command: the settings are loaded, the options checked against the destination, and only
then is anything done. -/
namespace Haulage

/-- How a run ended and what it wrote. Log lines are left out: they are written by whoever starts the
run, and nothing that it reports or does depends on them. -/
structure Ending where
  code : ExitCode
  console : Console
  deriving DecidableEq

namespace Command

/-- What a run works with apart from its arguments: what it finds around it, the service, and the number
of pages that a deletion may ask for. -/
structure Context (σ : Type) where
  environment : Environment
  service : S3.Service σ
  pages : Nat

variable {σ : Type}

private def failed (console : Console) : Ending := { code := .failure, console := console }

private def succeeded (console : Console) : Ending := { code := .success, console := console }

/-- How a run reports once its settings are loaded. -/
def Context.style (context : Context σ) (invocation : Invocation) (settings : Settings) : Style :=
  invocation.report.style settings.defaults context.environment.terminal

/-- Settings that cannot be loaded are reported in the mode that the options alone ask for. -/
def settingsFailure (report : ReportOptions) (terminal : Bool) (fault : Fault) : Console :=
  { Style.plain with json := report.json, terminal := terminal }.error fault.message

/-- Deletes at a destination and reports. -/
def cleanup (context : Context σ) (style : Style) (access : AccessOptions) (destination : String)
    (world : World σ) : Option (Ending × World σ) :=
  let connector :=
    S3.connector context.service context.environment access.method access.endpoint
  (deleteRecursive connector context.pages destination world).map fun (result, world) =>
    match result with
    | .ok outcome => (succeeded (style.deletion outcome), world)
    | .error fault => (failed (style.deletionFailure destination fault), world)

/-- Transfers a file and reports. -/
def transfer (context : Context σ) (style : Style) (access : AccessOptions)
    (source destination : String) (world : World σ) : Ending × World σ :=
  let connector :=
    S3.connector context.service context.environment access.method access.endpoint
  let (result, world) := transferFile connector source destination world
  match result with
  | .ok outcome => (succeeded (style.transfer outcome), world)
  | .error fault => (failed (style.transferFailure source fault), world)

/-- Runs a tool; none if a deletion needs more pages than it may ask for. -/
def run (context : Context σ) (tool : Tool) (invocation : Invocation) (world : World σ) :
    Option (Ending × World σ) :=
  match Settings.load (Settings.location? context.environment) world.files with
  | .error fault =>
    some (failed (settingsFailure invocation.report context.environment.terminal fault), world)
  | .ok settings =>
    let style := context.style invocation settings
    let access := invocation.access.withDefaults settings.defaults
    let destination := invocation.places.getLastD ""
    match access.validate destination with
    | .error fault => some (failed (.toErr (tool.rejection fault)), world)
    | .ok () =>
      match tool with
      | .cleanup => cleanup context style access destination world
      | .transfer =>
        some (transfer context style access (invocation.places.headD "") destination world)

end Command

end Haulage
