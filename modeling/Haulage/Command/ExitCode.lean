/-! How a run ends. -/
namespace Haulage

inductive ExitCode where
  | success
  | failure
  deriving DecidableEq

namespace ExitCode

def number : ExitCode → Nat
  | .success => 0
  | .failure => 1

def ofNumber? (number : Int) : Option ExitCode :=
  if number = 0 then some .success else if number = 1 then some .failure else none

def description : ExitCode → String
  | .success => "Operation completed successfully"
  | .failure => "Operation failed"

def text (code : ExitCode) : String :=
  code.description ++ " (" ++ toString code.number ++ ")"

end ExitCode

end Haulage
