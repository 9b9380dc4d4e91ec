import Haulage.Text.Quoted
import Haulage.Toml.Value

/-! Why a text holds no settings. -/
namespace Haulage.Settings

/-- What a place in the schema holds. -/
inductive Expected where
  | version
  | text
  | switch
  | section

inductive Mismatch where
  | notADocument
  | missingVersion
  | wrongType (found : Toml.Value) (expected : Expected)
  | outOfRange (found : Int) (expected : Expected)

def Expected.name : Expected → String
  | .version => "u32"
  | .text => "a string"
  | .switch => "a boolean"
  | .section => "struct Defaults"

/-- A value as it is named when it stands in the wrong place: dates count as maps. -/
def nameOf : Toml.Value → String
  | .string text => "string " ++ Text.shown text
  | .integer value => "integer `" ++ toString value ++ "`"
  | .float value => "floating point `" ++ value.text ++ "`"
  | .boolean value => "boolean `" ++ (if value then "true" else "false") ++ "`"
  | .datetime _ => "map"
  | .array _ => "sequence"
  | .table _ => "map"
  | .beyond text => "number `" ++ text ++ "`"

def Mismatch.message : Mismatch → String
  | .notADocument => "syntax"
  | .missingVersion => "missing field `schema_version`"
  | .wrongType found expected => "invalid type: " ++ nameOf found ++ ", expected " ++ expected.name
  | .outOfRange found expected =>
    "invalid value: integer `" ++ toString found ++ "`, expected " ++ expected.name

end Haulage.Settings
