import Haulage.Toml.Value

/-! Values written without quotes or brackets: truth values, numbers, dates and times. Underscores
may part the digits of a number, each between two digits. -/
namespace Haulage.Toml.Scalar

private def digitOf (base : Nat) (c : Char) : Option Nat :=
  let value :=
    if c.isDigit then c.toNat - '0'.toNat
    else if 'a' ≤ c ∧ c ≤ 'f' then c.toNat - 'a'.toNat + 10
    else if 'A' ≤ c ∧ c ≤ 'F' then c.toNat - 'A'.toNat + 10
    else base
  if value < base then some value else none

/-- Digits in groups: at least one in each, with a single underscore between two groups. -/
def digits? (base : Nat) (text : List Char) : Option (List Nat) := do
  let groups ← (text.splitOn '_').mapM fun group =>
    if group.isEmpty then none else group.mapM (digitOf base)
  some groups.flatten

private def valueOf (base : Nat) (digits : List Nat) : Nat :=
  digits.foldl (fun value digit => base * value + digit) 0

/-- Digits that begin with a zero only if they are a single one. -/
def plainDigits? (text : List Char) : Option (List Nat) := do
  let digits ← digits? 10 text
  if digits.head? = some 0 ∧ digits.length ≠ 1 then none else some digits

/-- The least whole number that an integer format holds, of 128 bits with a sign. -/
def leastWhole : Int := -0x80000000000000000000000000000000

/-- The greatest whole number that an integer format holds, of 128 bits without a sign. -/
def greatestWhole : Int := 0xffffffffffffffffffffffffffffffff

/-- A whole number, or the numeral itself if no format holds it. -/
def wholeNumber (token : List Char) (value : Int) : Value :=
  if leastWhole ≤ value ∧ value ≤ greatestWhole then .integer value
  else .beyond (String.ofList token)

/-- The sign, if there is one, and what it stands before. -/
def splitSign : List Char → Option Char × List Char
  | '+' :: rest => (some '+', rest)
  | '-' :: rest => (some '-', rest)
  | text => (none, text)

private def splitAt? (mark : Char → Bool) (text : List Char) : List Char × Option (List Char) :=
  let first := text.takeWhile fun c => !mark c
  match text.dropWhile fun c => !mark c with
  | _ :: rest => (first, some rest)
  | [] => (first, none)

private def exponent? (text : List Char) : Option Int := do
  let (sign, rest) := splitSign text
  let value := valueOf 10 (← digits? 10 rest)
  some (if sign = some '-' then -(value : Int) else value)

/-- A decimal number without its sign: a whole one, or one with places, an exponent, or both. -/
def decimal? (token : List Char) (negative : Bool) (text : List Char) : Option Value := do
  let (mantissa, exponent) := splitAt? (fun c => c == 'e' || c == 'E') text
  let (whole, places) := splitAt? (· == '.') mantissa
  let digits ← plainDigits? whole
  match places, exponent with
  | none, none =>
    let value : Int := valueOf 10 digits
    some (wholeNumber token (if negative then -value else value))
  | _, _ =>
    let fraction ← match places with
      | some text => digits? 10 text
      | none => some []
    let power ← match exponent with
      | some text => exponent? text
      | none => some 0
    let numeral : Numeral := {
      coefficient := valueOf 10 (digits ++ fraction)
      power := power - fraction.length }
    some <| match Binary64.ofNumeral? negative numeral with
      | some number => .float number
      | none => .beyond (String.ofList token)

def number? (token : List Char) : Option Value :=
  let (sign, text) := splitSign token
  let negative := sign = some '-'
  match sign, text with
  | _, ['i', 'n', 'f'] => some (.float (.infinite negative))
  | _, ['n', 'a', 'n'] => some (.float .nan)
  | none, '0' :: 'x' :: digits =>
    (digits? 16 digits).map fun digits => wholeNumber token (valueOf 16 digits)
  | none, '0' :: 'o' :: digits =>
    (digits? 8 digits).map fun digits => wholeNumber token (valueOf 8 digits)
  | none, '0' :: 'b' :: digits =>
    (digits? 2 digits).map fun digits => wholeNumber token (valueOf 2 digits)
  | _, _ => decimal? token negative text

/-- A number of exactly this many digits, and what follows it. -/
def fixed? (count : Nat) (text : List Char) : Option (Nat × List Char) :=
  let digits := text.take count
  if digits.length = count ∧ digits.all Char.isDigit then
    some (valueOf 10 (digits.map fun c => c.toNat - '0'.toNat), text.drop count)
  else none

private def mark? (mark : Char) : List Char → Option (List Char)
  | c :: rest => if c = mark then some rest else none
  | [] => none

def daysIn (year month : Nat) : Nat :=
  if month = 2 then
    if year % 4 = 0 ∧ (year % 100 ≠ 0 ∨ year % 400 = 0) then 29 else 28
  else if [4, 6, 9, 11].contains month then 30
  else 31

/-- A date at the front of a text, and what follows it. -/
def date? (text : List Char) : Option (List Char × List Char) := do
  let (year, rest) ← fixed? 4 text
  let (month, rest) ← fixed? 2 (← mark? '-' rest)
  let (day, rest) ← fixed? 2 (← mark? '-' rest)
  if 1 ≤ month ∧ month ≤ 12 ∧ 1 ≤ day ∧ day ≤ daysIn year month then
    some (text.take 10, rest)
  else none

private def fraction? : List Char → Option (List Char)
  | '.' :: rest =>
    if rest.head?.any Char.isDigit then some (rest.dropWhile Char.isDigit) else none
  | text => some text

/-- A time of day at the front of a text: what follows it. Seconds may be left out. -/
def time? (text : List Char) : Option (List Char) := do
  let (hour, rest) ← fixed? 2 text
  let (minute, rest) ← fixed? 2 (← mark? ':' rest)
  if 23 < hour ∨ 59 < minute then none
  else
    match rest with
    | ':' :: rest =>
      let (second, rest) ← fixed? 2 rest
      if 60 < second then none else fraction? rest
    | _ => some rest

/-- Whether the rest of a token is a distance from universal time, or nothing. -/
def offset (text : List Char) : Bool :=
  match text with
  | [] | ['Z'] | ['z'] => true
  | sign :: rest =>
    (sign == '+' || sign == '-') &&
      ((do
        let (hours, rest) ← fixed? 2 rest
        let (minutes, rest) ← fixed? 2 (← mark? ':' rest)
        some (rest.isEmpty && minutes ≤ 59 && 60 * hours + minutes ≤ 1440)).getD false)

private def timeAndOffset (text : List Char) : Bool :=
  (time? text).any offset

/-- A date, a date and a time, or a time of day. -/
def datetime? (token : List Char) : Option Value :=
  let valid :=
    match date? token with
    | some (_, []) => true
    | some (_, mark :: time) => (mark == 'T' || mark == 't') && timeAndOffset time
    | none => (time? token).any List.isEmpty
  if valid then some (.datetime (String.ofList token)) else none

private def part (c : Char) : Bool :=
  c.isAlphanum || c == '+' || c == '-' || c == '_' || c == '.' || c == ':'

/-- The value of a single run of characters. -/
def ofToken? (token : List Char) : Option Value :=
  match token with
  | ['t', 'r', 'u', 'e'] => some (.boolean true)
  | ['f', 'a', 'l', 's', 'e'] => some (.boolean false)
  | _ => (datetime? token).or (number? token)

/-- A value at the front of a text, and what follows it. A blank parts a date from its time. -/
def read? (text : List Char) : Option (Value × List Char) := do
  let token := text.takeWhile part
  let rest := text.dropWhile part
  match date? token, rest with
  | some (date, []), ' ' :: after =>
    let time := after.takeWhile part
    if time.head?.any Char.isDigit then
      if timeAndOffset time then
        some (.datetime (String.ofList (date ++ ' ' :: time)), after.dropWhile part)
      else none
    else some (← ofToken? token, rest)
  | _, _ => some (← ofToken? token, rest)

end Haulage.Toml.Scalar
