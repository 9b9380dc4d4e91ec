/-! A JSON document and its printed form: two blanks of indentation a level, one member or element
a line, and empty containers closed on the line that opens them. -/
namespace Haulage

/-- Members keep the order in which they are written. -/
inductive Json where
  | null
  | boolean (value : Bool)
  | integer (value : Int)
  | string (value : String)
  | array (elements : List Json)
  | object (members : List (String × Json))
  deriving Inhabited

namespace Json

def hexDigit (digit : Nat) : Char :=
  if digit < 10 then Char.ofNat ('0'.toNat + digit) else Char.ofNat ('a'.toNat + (digit - 10))

/-- One character inside quotes: named escapes where there is a name, a numbered one for the other
control characters, and every other character as it is. -/
def escaped (c : Char) : List Char :=
  if c = '"' then ['\\', '"']
  else if c = '\\' then ['\\', '\\']
  else if c = '\n' then ['\\', 'n']
  else if c = '\r' then ['\\', 'r']
  else if c = '\t' then ['\\', 't']
  else if c.toNat = 8 then ['\\', 'b']
  else if c.toNat = 12 then ['\\', 'f']
  else if c.toNat < 32 then
    ['\\', 'u', '0', '0', hexDigit (c.toNat / 16), hexDigit (c.toNat % 16)]
  else [c]

def quoted (text : String) : List Char :=
  '"' :: text.toList.flatMap escaped ++ ['"']

def newline (depth : Nat) : List Char :=
  '\n' :: List.replicate (2 * depth) ' '

mutual

/-- The printed form of a value that begins at the given depth. -/
def print (depth : Nat) : Json → List Char
  | .null => ['n', 'u', 'l', 'l']
  | .boolean true => ['t', 'r', 'u', 'e']
  | .boolean false => ['f', 'a', 'l', 's', 'e']
  | .integer value => (toString value).toList
  | .string value => quoted value
  | .array [] => ['[', ']']
  | .array (first :: rest) =>
    '[' :: newline (depth + 1) ++ print (depth + 1) first ++ printElements (depth + 1) rest ++
      newline depth ++ [']']
  | .object [] => ['\x7b', '\x7d']
  | .object ((name, first) :: rest) =>
    '\x7b' :: newline (depth + 1) ++ quoted name ++ [':', ' '] ++ print (depth + 1) first ++
      printMembers (depth + 1) rest ++ newline depth ++ ['\x7d']

def printElements (depth : Nat) : List Json → List Char
  | [] => []
  | element :: rest => ',' :: newline depth ++ print depth element ++ printElements depth rest

def printMembers (depth : Nat) : List (String × Json) → List Char
  | [] => []
  | (name, value) :: rest =>
    ',' :: newline depth ++ quoted name ++ [':', ' '] ++ print depth value ++
      printMembers depth rest

end

def pretty (value : Json) : String :=
  String.ofList (print 0 value)

end Json

end Haulage
