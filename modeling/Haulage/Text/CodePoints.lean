/-! Sets of characters written as ranges of hexadecimal code points, `low-high` or a single number,
in ascending order with a blank between them. -/
namespace Haulage

/-- The ranges of a set, both ends included. -/
structure CodePoints where
  ranges : List (Nat × Nat)

namespace CodePoints

private def hexValue (c : Char) : Nat :=
  if c.isDigit then c.toNat - '0'.toNat else c.toNat - 'a'.toNat + 10

/-- The number that lower-case hexadecimal digits denote. -/
def ofHex (digits : List Char) : Nat :=
  digits.foldl (fun value digit => 16 * value + hexValue digit) 0

private def rangeOf (text : List Char) : Nat × Nat :=
  let low := ofHex (text.takeWhile (· != '-'))
  match text.dropWhile (· != '-') with
  | _ :: high => (low, ofHex high)
  | [] => (low, low)

def ofLines (lines : List String) : CodePoints where
  ranges := lines.flatMap fun line => (line.toList.splitOn ' ').map rangeOf

def contains (set : CodePoints) (c : Char) : Bool :=
  set.ranges.any fun (low, high) => decide (low ≤ c.toNat ∧ c.toNat ≤ high)

end CodePoints

end Haulage
