import Haulage.Toml.Quoted
import Haulage.Toml.Scalar
import Haulage.Toml.Table

/-! Reading a TOML document: a line holds a header, an assignment, or nothing but blanks and a
comment. Arrays and inline tables run over several lines and nest up to a fixed depth. -/
namespace Haulage.Toml

/-- The greatest number of arrays and inline tables around a value. -/
def nestingLimit : Nat := 80

/-- One line that says something. -/
inductive Statement where
  | table (path : List String) (name : String)
  | element (path : List String) (name : String)
  | assignment (path : List String) (name : String) (value : Value)

namespace Reader

private def blank (c : Char) : Bool := c == ' ' || c == '\t'

def skipBlanks (text : List Char) : List Char := text.dropWhile blank

/-- Passes over blanks, line breaks and comments. -/
def skipLines (comment : Bool) : List Char → Option (List Char)
  | [] => some []
  | '\n' :: rest => skipLines false rest
  | '\r' :: '\n' :: rest => skipLines false rest
  | c :: rest =>
    if comment then if Quoted.control c then none else skipLines true rest
    else if blank c then skipLines false rest
    else if c = '#' then skipLines true rest
    else some (c :: rest)

/-- The lines after this one, if only blanks and a comment are left on it. -/
def endLine (text : List Char) : Option (List Char) :=
  let text := skipBlanks text
  let rest := if text.head? = some '#' then text.dropWhile (fun c => !Quoted.control c) else text
  match rest with
  | [] => some []
  | '\n' :: rest => some rest
  | '\r' :: '\n' :: rest => some rest
  | _ => none

private def bareKey (c : Char) : Bool := c.isAlphanum || c == '_' || c == '-'

/-- A name, bare or in quotes. -/
def key (text : List Char) : Option (String × List Char) :=
  match text.takeWhile bareKey with
  | [] => (Quoted.line? text).map fun (name, rest) => (String.ofList name, rest)
  | name => some (String.ofList name, text.dropWhile bareKey)

/-- Names parted by points: those before the last, the last, and what follows the blanks after
it. -/
def keys : Nat → List Char → Option (List String × String × List Char)
  | 0, _ => none
  | fuel + 1, text => do
    let (name, rest) ← key (skipBlanks text)
    match skipBlanks rest with
    | '.' :: more => (keys fuel more).map fun (path, last, rest) => (name :: path, last, rest)
    | rest => some ([], name, rest)

/-- Elements up to the closing bracket, each read by the given reader. -/
def elements (item : List Char → Option (Value × List Char)) :
    Nat → List Char → Option (List Value × List Char)
  | 0, _ => none
  | fuel + 1, text => do
    match ← skipLines false text with
    | ']' :: rest => some ([], rest)
    | text =>
      let (element, rest) ← item text
      match ← skipLines false rest with
      | ',' :: rest => (elements item fuel rest).map fun (more, rest) => (element :: more, rest)
      | ']' :: rest => some ([element], rest)
      | _ => none

/-- A name with its value, the value read by the given reader. -/
def assignment (item : List Char → Option (Value × List Char)) (text : List Char) :
    Option (List String × String × Value × List Char) := do
  let (path, name, rest) ← keys (text.length + 1) text
  match rest with
  | '=' :: rest =>
    let (value, rest) ← item (skipBlanks rest)
    some (path, name, value, rest)
  | _ => none

/-- Assignments up to the closing brace, added to the members read so far. -/
def inlineTable (item : List Char → Option (Value × List Char)) :
    Nat → Members → List Char → Option (Members × List Char)
  | 0, _, _ => none
  | fuel + 1, members, text => do
    match ← skipLines false text with
    | '\x7d' :: rest => some (members, rest)
    | text =>
      let (path, name, value, rest) ← assignment item text
      let members ← members.assign path name value .headed
      match ← skipLines false rest with
      | ',' :: rest => inlineTable item fuel members rest
      | '\x7d' :: rest => some (members, rest)
      | _ => none

/-- A value at the front of a text, nested at most as deep as given, and what follows it. -/
def value : Nat → List Char → Option (Value × List Char)
  | 0, '[' :: _ => none
  | 0, '\x7b' :: _ => none
  | depth + 1, '[' :: rest =>
    (elements (value depth) (rest.length + 1) rest).map fun (elements, rest) =>
      (.array elements, rest)
  | depth + 1, '\x7b' :: rest =>
    (inlineTable (value depth) (rest.length + 1) [] rest).map fun (members, rest) =>
      (.table (Node.membersToValues members), rest)
  | _, text =>
    if text.head? = some '"' ∨ text.head? = some '\'' then
      (Quoted.text? text).map fun (text, rest) => (.string (String.ofList text), rest)
    else Scalar.read? text

/-- The statement at the front of a text, and the lines after it. -/
def statement (text : List Char) : Option (Statement × List Char) :=
  match text with
  | '[' :: '[' :: rest => do
    let (path, name, rest) ← keys (rest.length + 1) rest
    match rest with
    | ']' :: ']' :: rest => (endLine rest).map fun rest => (.element path name, rest)
    | _ => none
  | '[' :: rest => do
    let (path, name, rest) ← keys (rest.length + 1) rest
    match rest with
    | ']' :: rest => (endLine rest).map fun rest => (.table path name, rest)
    | _ => none
  | _ => do
    let (path, name, value, rest) ← assignment (value nestingLimit) text
    (endLine rest).map fun rest => (.assignment path name value, rest)

/-- The statements of a text. -/
def statements : Nat → List Char → Option (List Statement)
  | 0, _ => none
  | fuel + 1, text => do
    match ← skipLines false text with
    | [] => some []
    | text =>
      let (first, rest) ← statement text
      (statements fuel rest).map (first :: ·)

/-- Carries out a statement, given the table that is open. -/
def apply (state : List String × Members) (statement : Statement) :
    Option (List String × Members) :=
  let (header, members) := state
  match statement with
  | .table path name => (members.openTable path name).map fun members => (path ++ [name], members)
  | .element path name =>
    (members.openElement path name).map fun members => (path ++ [name], members)
  | .assignment path name value =>
    (members.assignUnder header path name value).map fun members => (header, members)

end Reader

/-- The document that a text is, none if it is not one. A leading byte order mark is no part of the
text. -/
def Document.ofText? (text : String) : Option Document := do
  let chars := text.toList
  let chars := if chars.head? = some '\ufeff' then chars.drop 1 else chars
  let statements ← Reader.statements (chars.length + 1) chars
  let (_, members) ← statements.foldlM Reader.apply ([], [])
  some (Node.membersToValues members)

end Haulage.Toml
