/-! Settings of the tools: values that hold where the command line leaves a choice open. -/
namespace Haulage

/-- What applies when the matching option is not given. -/
structure Defaults where
  region : Option String
  color : String
  quiet : Bool
  deriving DecidableEq

/-- Settings with the version of the schema they are written for. -/
structure Settings where
  schemaVersion : Nat
  defaults : Defaults
  deriving DecidableEq

def Defaults.standard : Defaults := { region := none, color := "auto", quiet := false }

namespace Settings

/-- The newest schema that is understood. -/
def currentVersion : Nat := 1

def standard : Settings := { schemaVersion := currentVersion, defaults := .standard }

end Settings

end Haulage
