/-! Texts between quotes. Double quotes allow escapes, single ones take every character as it is,
and three of either kind let the text run over several lines. Each reader takes the characters after
the opening quotes and gives the text and what follows the closing ones. -/
namespace Haulage.Toml.Quoted

abbrev Reading := Option (List Char × List Char)

private def before (c : Char) : Reading → Reading :=
  Option.map fun (text, rest) => (c :: text, rest)

/-- Control characters other than the tabulator stand in no text. -/
def control (c : Char) : Bool :=
  (c.toNat < 32 && c != '\t') || c.toNat == 127

private def hexDigit? (c : Char) : Option Nat :=
  if c.isDigit then some (c.toNat - '0'.toNat)
  else if 'a' ≤ c ∧ c ≤ 'f' then some (c.toNat - 'a'.toNat + 10)
  else if 'A' ≤ c ∧ c ≤ 'F' then some (c.toNat - 'A'.toNat + 10)
  else none

private def numbered? (digits : List Char) : Option Char := do
  let values ← digits.mapM hexDigit?
  let code := values.foldl (fun code digit => 16 * code + digit) 0
  if code.isValidChar then some (Char.ofNat code) else none

private def named? : Char → Option Char
  | 'b' => some '\x08'
  | 't' => some '\t'
  | 'n' => some '\n'
  | 'f' => some '\x0c'
  | 'r' => some '\r'
  | 'e' => some '\x1b'
  | '"' => some '"'
  | '\\' => some '\\'
  | _ => none

/-- A text in double quotes. -/
def basic : List Char → Reading
  | [] => none
  | '"' :: rest => some ([], rest)
  | '\\' :: 'x' :: a :: b :: rest => (numbered? [a, b]).bind fun c => before c (basic rest)
  | '\\' :: 'u' :: a :: b :: c :: d :: rest =>
    (numbered? [a, b, c, d]).bind fun c => before c (basic rest)
  | '\\' :: 'U' :: a :: b :: c :: d :: e :: f :: g :: h :: rest =>
    (numbered? [a, b, c, d, e, f, g, h]).bind fun c => before c (basic rest)
  | '\\' :: name :: rest => (named? name).bind fun c => before c (basic rest)
  | c :: rest => if control c then none else before c (basic rest)

/-- A text in single quotes. -/
def literal : List Char → Reading
  | [] => none
  | '\'' :: rest => some ([], rest)
  | c :: rest => if control c then none else before c (literal rest)

/-- Whether only blanks stand before the end of the line. -/
def endsLine (text : List Char) : Bool :=
  match text.dropWhile (fun c => c == ' ' || c == '\t') with
  | '\n' :: _ | '\r' :: '\n' :: _ => true
  | _ => false

/-- A text in three double quotes. After a backslash that ends a line, blanks and line breaks are
passed over up to the next other character. -/
def basicLines (folding : Bool) : List Char → Reading
  | [] => none
  | '"' :: '"' :: '"' :: '"' :: '"' :: rest => some (['"', '"'], rest)
  | '"' :: '"' :: '"' :: '"' :: rest => some (['"'], rest)
  | '"' :: '"' :: '"' :: rest => some ([], rest)
  | '\\' :: 'x' :: a :: b :: rest =>
    (numbered? [a, b]).bind fun c => before c (basicLines false rest)
  | '\\' :: 'u' :: a :: b :: c :: d :: rest =>
    (numbered? [a, b, c, d]).bind fun c => before c (basicLines false rest)
  | '\\' :: 'U' :: a :: b :: c :: d :: e :: f :: g :: h :: rest =>
    (numbered? [a, b, c, d, e, f, g, h]).bind fun c => before c (basicLines false rest)
  | '\\' :: name :: rest =>
    if endsLine (name :: rest) then basicLines true (name :: rest)
    else (named? name).bind fun c => before c (basicLines false rest)
  | '\r' :: '\n' :: rest =>
    if folding then basicLines true rest else before '\n' (basicLines false rest)
  | c :: rest =>
    if folding && (c == ' ' || c == '\t' || c == '\n') then basicLines true rest
    else if control c && c != '\n' then none
    else before c (basicLines false rest)

/-- A text in three single quotes. -/
def literalLines : List Char → Reading
  | [] => none
  | '\'' :: '\'' :: '\'' :: '\'' :: '\'' :: rest => some (['\'', '\''], rest)
  | '\'' :: '\'' :: '\'' :: '\'' :: rest => some (['\''], rest)
  | '\'' :: '\'' :: '\'' :: rest => some ([], rest)
  | '\r' :: '\n' :: rest => before '\n' (literalLines rest)
  | c :: rest => if control c && c != '\n' then none else before c (literalLines rest)

/-- A line break right after the opening quotes is no part of the text. -/
def dropFirstBreak : List Char → List Char
  | '\n' :: rest => rest
  | '\r' :: '\n' :: rest => rest
  | text => text

/-- A text on one line, from its opening quote. -/
def line? : List Char → Reading
  | '"' :: rest => basic rest
  | '\'' :: rest => literal rest
  | _ => none

/-- A text of any kind, from its opening quotes. -/
def text? : List Char → Reading
  | '"' :: '"' :: '"' :: rest => basicLines false (dropFirstBreak rest)
  | '\'' :: '\'' :: '\'' :: rest => literalLines (dropFirstBreak rest)
  | text => line? text

end Haulage.Toml.Quoted
