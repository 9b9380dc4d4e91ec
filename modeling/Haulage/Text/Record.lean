import Haulage.Text.Quoted

/-! Records shown on one line: the name, then the fields in braces in their own order. -/
namespace Haulage.Text

/-- A field as it is shown: a truth value, a text, or a value that may be absent. -/
inductive Shown where
  | boolean (value : Bool)
  | text (value : String)
  | absent
  | given (value : String)

namespace Shown

def ofOption : Option String → Shown
  | none => .absent
  | some value => .given value

def render : Shown → String
  | .boolean true => "true"
  | .boolean false => "false"
  | .text value => shown value
  | .absent => "None"
  | .given value => "Some(" ++ shown value ++ ")"

end Shown

/-- A record with at least one field. -/
def record (name : String) (fields : List (String × Shown)) : String :=
  name ++ " \x7b " ++
    ", ".intercalate (fields.map fun (label, value) => label ++ ": " ++ value.render) ++ " \x7d"

end Haulage.Text
