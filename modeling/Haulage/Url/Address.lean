/-! Numeric hosts. A version 4 address is up to four numbers in base eight, ten or sixteen, the last
of which fills the bytes that are left; a version 6 address is eight groups of hexadecimal digits,
one run of zero groups left out at most once, and it may end in a dotted version 4 address. -/
namespace Haulage.Url

private def hexDigit (c : Char) : Bool :=
  c.isDigit || ('a' ≤ c && c ≤ 'f') || ('A' ≤ c && c ≤ 'F')

private def octalDigit (c : Char) : Bool :=
  '0' ≤ c && c ≤ '7'

private def digitValue (c : Char) : Nat :=
  if c.isDigit then c.toNat - '0'.toNat
  else if c.isUpper then c.toNat - 'A'.toNat + 10
  else c.toNat - 'a'.toNat + 10

private def valueIn (base : Nat) (digits : List Char) : Nat :=
  digits.foldl (fun value digit => base * value + digitValue digit) 0

namespace Ipv4

/-- Reads a number whose base its first characters give; none if it is not a number. -/
def number? (text : List Char) : Option Nat :=
  match text with
  | [] => none
  | '0' :: 'x' :: digits | '0' :: 'X' :: digits =>
    if digits.all hexDigit then some (valueIn 16 digits) else none
  | '0' :: digit :: digits =>
    if (digit :: digits).all octalDigit then some (valueIn 8 (digit :: digits)) else none
  | digits => if digits.all Char.isDigit then some (valueIn 10 digits) else none

/-- The parts of a host between its points, without an empty last one. -/
def parts (host : List Char) : List (List Char) :=
  let all := host.splitOn '.'
  if all.getLast? = some [] then all.dropLast else all

/-- Whether a host is meant as a number: its last part is digits only or reads as a number. -/
def meant (host : List Char) : Bool :=
  (parts host).getLast?.any fun last =>
    (!last.isEmpty && last.all Char.isDigit) || (number? last).isSome

/-- Whether a host is an address. -/
def valid (host : List Char) : Bool :=
  match (parts host).mapM number? with
  | none => false
  | some numbers =>
    match numbers.getLast? with
    | none => false
    | some last =>
      decide (numbers.length ≤ 4) && numbers.dropLast.all (· ≤ 255) &&
        decide (last < Nat.pow 256 (5 - numbers.length))

end Ipv4

namespace Ipv6

private def octet (digits : List Char) : Bool :=
  !digits.isEmpty && digits.all Char.isDigit &&
    (digits.length == 1 || digits.head? != some '0') && decide (valueIn 10 digits ≤ 255)

/-- Four plain decimal numbers for two groups. -/
def dottedQuad (text : List Char) : Bool :=
  let numbers := text.splitOn '.'
  numbers.length == 4 && numbers.all octet

private def group (text : List Char) : List Char :=
  (text.take 4).takeWhile hexDigit

/-- Reads groups to the end, given how many came before and whether a run was left out. -/
def groups (count : Nat) (shortened : Bool) (text : List Char) : Bool :=
  match text with
  | [] => shortened || count == 8
  | ':' :: rest => decide (count < 8) && !shortened && groups (count + 1) true rest
  | first :: more =>
    let digits := group (first :: more)
    match rest : (first :: more).drop digits.length with
    | [] => decide (count < 8) && groups (count + 1) shortened []
    | ':' :: next => decide (count < 8) && !next.isEmpty && groups (count + 1) shortened next
    | '.' :: _ =>
      !digits.isEmpty && decide (count ≤ 6) && dottedQuad (first :: more) &&
        (shortened || count == 6)
    | _ => false
termination_by text.length
decreasing_by
  · simp
  · simp
  · have shorter := congrArg List.length rest
    simp only [List.length_drop, List.length_cons] at shorter ⊢
    omega

/-- Whether the text between brackets is an address. -/
def valid (text : List Char) : Bool :=
  match text with
  | [_] => false
  | ':' :: rest => rest.head? == some ':' && groups 1 true (rest.drop 1)
  | _ => groups 0 false text && decide (2 ≤ text.length)

end Ipv6

end Haulage.Url
