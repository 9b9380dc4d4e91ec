import Haulage.Environment
import Haulage.Files.Route

/-! Where the settings are looked for. A variable names the directory; without it the user's
configuration directory has one for the tools. -/
namespace Haulage.Settings

open Files (PathText.join)

def directoryVariable : String := "OBJMOVE_CONFIG_DIR"

def fileName : String := "config.toml"

def toolDirectory : String := "objmove"

private def absolute (text : String) : Bool := text.toList.head? == some '/'

/-- The user's configuration directory: a relative one that is asked for does not count. -/
def userDirectory? (environment : Environment) : Option String :=
  ((environment.value? "XDG_CONFIG_HOME").filter absolute).or
    (environment.home?.map (PathText.join · ".config"))

/-- The path of the settings file, if there is a directory for it. -/
def location? (environment : Environment) : Option String :=
  match environment.nonempty? directoryVariable with
  | some directory => some (PathText.join directory fileName)
  | none => (userDirectory? environment).map fun directory =>
    PathText.join (PathText.join directory toolDirectory) fileName

end Haulage.Settings
