import Haulage.Access.Options
import Haulage.Output.Console
import Haulage.Settings.Basic

/-! The options of a command line together with the settings they take precedence over. -/
namespace Haulage

/-- Options on how to report. Log lines, which `debug` asks for more of, are no part of a report. -/
structure ReportOptions where
  json : Bool
  noColor : Bool
  quiet : Bool
  debug : Bool
  deriving DecidableEq

/-- A run is quiet if the option or the settings say so; colors can be switched off by option. -/
def ReportOptions.style (options : ReportOptions) (defaults : Defaults) (terminal : Bool := false) :
    Style where
  json := options.json
  color := if options.noColor then .never else .ofText defaults.color
  quiet := options.quiet || defaults.quiet
  terminal := terminal

/-- The settings supply the region if no option does. -/
def AccessOptions.withDefaults (options : AccessOptions) (defaults : Defaults) : AccessOptions :=
  { options with region := options.region.or defaults.region }

end Haulage
