/-! What a process finds around it: variables, the home directory of the account it runs for, and
whether it writes to a terminal. -/
namespace Haulage

structure Environment where
  value? : String → Option String
  accountHome : Option String
  /-- Whether the first stream is a terminal. -/
  terminal : Bool := false

namespace Environment

/-- A variable that is set and not empty. -/
def nonempty? (environment : Environment) (name : String) : Option String :=
  (environment.value? name).filter (· != "")

/-- The home directory; an empty variable counts as none. -/
def home? (environment : Environment) : Option String :=
  (environment.nonempty? "HOME").or environment.accountHome

end Environment

end Haulage
