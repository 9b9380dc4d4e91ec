/-! Quotients rounded to the nearest whole number, a half going to the even neighbour, and whole
numbers cut to a given count of leading bits by the same rule. -/
namespace Haulage.Decimal

/-- The whole number nearest to the quotient; of two equally near ones the even one. -/
def roundDiv (numerator denominator : Nat) : Nat :=
  let quotient := numerator / denominator
  let twice := 2 * (numerator % denominator)
  if twice < denominator then quotient
  else if denominator < twice then quotient + 1
  else quotient + quotient % 2

/-- The nearest number that is written with at most this many bits before trailing zeros. -/
def roundToBits (bits number : Nat) : Nat :=
  let unit := Nat.pow 2 ((number.log2 + 1) - bits)
  roundDiv number unit * unit

end Haulage.Decimal
