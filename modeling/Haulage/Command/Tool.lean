import Haulage.Fault

/-! The two commands and how each is called. -/
namespace Haulage

inductive Tool where
  | cleanup
  | transfer
  deriving DecidableEq

namespace Tool

def name : Tool → String
  | .cleanup => "cleanup"
  | .transfer => "transfer"

def ofName? (name : String) : Option Tool :=
  [cleanup, transfer].find? fun tool => tool.name == name

/-- Names of the arguments that are told by their place. -/
def places : Tool → List String
  | .cleanup => ["DESTINATION"]
  | .transfer => ["SOURCE", "DESTINATION"]

def usage (tool : Tool) : String :=
  "Usage: " ++ tool.name ++ " [OPTIONS]" ++
    String.join (tool.places.map fun place => " <" ++ place ++ ">")

/-- A rejected combination of options, with a reminder of how the command is called. -/
def rejection (tool : Tool) (fault : Fault) : String :=
  "error: " ++ fault.message ++ "\n\n" ++ tool.usage ++
    "\n\nFor more information, try '--help'.\n"

end Tool

end Haulage
