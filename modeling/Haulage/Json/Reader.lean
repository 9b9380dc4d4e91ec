import Haulage.Json.Value

/-! Reading a JSON document: one value, with blanks around it and nothing else. Arrays and objects
nest up to a fixed depth, and of numbers only whole ones are read. Each reader gives what stands at
the front of a text and what follows it. -/
namespace Haulage.Json

/-- The greatest number of arrays and objects around a value. -/
def nestingLimit : Nat := 128

namespace Reader

def blank (c : Char) : Bool := c == ' ' || c == '\t' || c == '\n' || c == '\r'

def skipBlanks (text : List Char) : List Char := text.dropWhile blank

def hexValue? (c : Char) : Option Nat :=
  if c.isDigit then some (c.toNat - '0'.toNat)
  else if 'a' ≤ c ∧ c ≤ 'f' then some (c.toNat - 'a'.toNat + 10)
  else if 'A' ≤ c ∧ c ≤ 'F' then some (c.toNat - 'A'.toNat + 10)
  else none

/-- A number of four hexadecimal digits. -/
def unit? : List Char → Option (Nat × List Char)
  | a :: b :: c :: d :: rest => do
    let values ← [a, b, c, d].mapM hexValue?
    some (values.foldl (fun unit value => 16 * unit + value) 0, rest)
  | _ => none

/-- A character by its number, or by two that stand for one above the first 65536. -/
def numbered? (text : List Char) : Option (Char × List Char) := do
  let (unit, rest) ← unit? text
  if unit < 0xd800 ∨ 0xe000 ≤ unit then some (Char.ofNat unit, rest)
  else
    match rest with
    | '\\' :: 'u' :: rest =>
      let (second, rest) ← unit? rest
      if unit < 0xdc00 ∧ 0xdc00 ≤ second ∧ second < 0xe000 then
        some (Char.ofNat (0x10000 + 0x400 * (unit - 0xd800) + (second - 0xdc00)), rest)
      else none
    | _ => none

/-- The character that is meant behind a backslash. -/
def escape? : List Char → Option (Char × List Char)
  | '"' :: rest => some ('"', rest)
  | '\\' :: rest => some ('\\', rest)
  | '/' :: rest => some ('/', rest)
  | 'b' :: rest => some ('\x08', rest)
  | 'f' :: rest => some ('\x0c', rest)
  | 'n' :: rest => some ('\n', rest)
  | 'r' :: rest => some ('\r', rest)
  | 't' :: rest => some ('\t', rest)
  | 'u' :: rest => numbered? rest
  | _ => none

/-- A character between quotes; control characters stand there only behind a backslash. -/
def character? : List Char → Option (Char × List Char)
  | [] => none
  | '\\' :: rest => escape? rest
  | c :: rest => if c = '"' ∨ c.toNat < 32 then none else some (c, rest)

/-- Characters up to the closing quote. -/
def characters : Nat → List Char → Option (List Char × List Char)
  | 0, _ => none
  | fuel + 1, text =>
    if text.head? = some '"' then some ([], text.tail)
    else do
      let (c, rest) ← character? text
      (characters fuel rest).map fun (more, rest) => (c :: more, rest)

def string? : List Char → Option (String × List Char)
  | '"' :: rest => (characters (rest.length + 1) rest).map fun (text, rest) =>
    (String.ofList text, rest)
  | _ => none

/-- A number as it is written, which is without zeros in front. -/
def natural? (text : List Char) : Option (Nat × List Char) :=
  let digits := text.takeWhile Char.isDigit
  let number := Nat.ofDigitChars 10 digits 0
  if Nat.toDigits 10 number = digits then some (number, text.dropWhile Char.isDigit) else none

def integer? : List Char → Option (Int × List Char)
  | '-' :: rest => (natural? rest).map fun (number, rest) => (-number, rest)
  | text => (natural? text).map fun (number, rest) => (number, rest)

/-- A value that is neither an array nor an object. -/
def scalar? : List Char → Option (Json × List Char)
  | 'n' :: 'u' :: 'l' :: 'l' :: rest => some (.null, rest)
  | 't' :: 'r' :: 'u' :: 'e' :: rest => some (.boolean true, rest)
  | 'f' :: 'a' :: 'l' :: 's' :: 'e' :: rest => some (.boolean false, rest)
  | '"' :: rest => (string? ('"' :: rest)).map fun (text, rest) => (.string text, rest)
  | text => (integer? text).map fun (number, rest) => (.integer number, rest)

variable {α : Type} (item : List Char → Option (α × List Char)) (close : Char)

/-- Items with commas between them up to the closing mark, each read by the given reader. -/
def items : Nat → List Char → Option (List α × List Char)
  | 0, _ => none
  | fuel + 1, text => do
    let (first, rest) ← item (skipBlanks text)
    let rest := skipBlanks rest
    if rest.head? = some close then some ([first], rest.tail)
    else if rest.head? = some ',' then
      (items fuel rest.tail).map fun (more, rest) => (first :: more, rest)
    else none

/-- The items behind an opening mark, if there are any. -/
def contents (text : List Char) : Option (List α × List Char) :=
  let front := skipBlanks text
  if front.head? = some close then some ([], front.tail)
  else items item close (text.length + 1) text

/-- A name with its value, the value read by the given reader. -/
def member (value : List Char → Option (Json × List Char)) (text : List Char) :
    Option ((String × Json) × List Char) := do
  let (name, rest) ← string? text
  let rest := skipBlanks rest
  if rest.head? = some ':' then
    (value (skipBlanks rest.tail)).map fun (value, rest) => ((name, value), rest)
  else none

/-- A value at the front of a text, nested at most as deep as given. -/
def value : Nat → List Char → Option (Json × List Char)
  | limit + 1, '[' :: rest => (contents (value limit) ']' rest).map fun (elements, rest) =>
    (.array elements, rest)
  | limit + 1, '\x7b' :: rest => (contents (member (value limit)) '\x7d' rest).map
    fun (members, rest) => (.object members, rest)
  | _, text => scalar? text

end Reader

/-- The value that a text is a document of. -/
def ofText? (text : String) : Option Json := do
  let (value, rest) ← Reader.value nestingLimit (Reader.skipBlanks text.toList)
  if Reader.skipBlanks rest = [] then some value else none

end Haulage.Json
