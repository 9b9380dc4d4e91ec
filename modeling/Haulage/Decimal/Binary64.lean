import Haulage.Decimal.Rounding

/-! Numbers of the 64-bit binary floating format in exact arithmetic: the one nearest to a decimal
numeral, and the shortest decimal numeral that only this number is nearest to. -/
namespace Haulage

/-- A finite number is `mantissa * 2 ^ exponent`; the mantissa has 53 bits unless the exponent is
the least one. -/
inductive Binary64 where
  | nan
  | infinite (negative : Bool)
  | finite (negative : Bool) (mantissa : Nat) (exponent : Int)
  deriving DecidableEq

/-- The decimal numeral `coefficient * 10 ^ power`. -/
structure Numeral where
  coefficient : Nat
  power : Int
  deriving DecidableEq

namespace Decimal

/-- A positive rational number. -/
structure Ratio where
  numerator : Nat
  denominator : Nat

namespace Ratio

/-- The number times a power of the base, which may be negative. -/
def scale (ratio : Ratio) (base : Nat) (power : Int) : Ratio :=
  if 0 ≤ power then { ratio with numerator := ratio.numerator * Nat.pow base power.toNat }
  else { ratio with denominator := ratio.denominator * Nat.pow base (-power).toNat }

def ofNumeral (numeral : Numeral) : Ratio :=
  scale { numerator := numeral.coefficient, denominator := 1 } 10 numeral.power

def less (left right : Ratio) : Bool :=
  left.numerator * right.denominator < right.numerator * left.denominator

def round (ratio : Ratio) : Nat := roundDiv ratio.numerator ratio.denominator

def floor (ratio : Ratio) : Nat := ratio.numerator / ratio.denominator

end Ratio

/-- The least mantissa of 53 bits. -/
def leastMantissa : Nat := 0x10000000000000

def leastExponent : Int := -1074

def greatestExponent : Int := 971

/-- The exponent at which a positive number has a mantissa of 53 bits, or the least one. -/
def exponentOf (ratio : Ratio) : Int :=
  let guess : Int := (ratio.numerator.log2 : Int) - ratio.denominator.log2 - 52
  let exact :=
    if (ratio.scale 2 (-guess)).less { numerator := leastMantissa, denominator := 1 } then guess - 1
    else guess
  max exact leastExponent

end Decimal

namespace Binary64

open Decimal

def zero (negative : Bool) : Binary64 := .finite negative 0 leastExponent

/-- The number nearest to a numeral, ties to the even mantissa; none when it lies beyond the
greatest finite number. Numerals far outside the range are settled without their power. -/
def ofNumeral? (negative : Bool) (numeral : Numeral) : Option Binary64 :=
  let magnitude : Int := (Nat.toDigits 10 numeral.coefficient).length + numeral.power
  if numeral.coefficient = 0 ∨ magnitude < -400 then some (zero negative)
  else if 400 < magnitude then none
  else
    let ratio := Ratio.ofNumeral numeral
    let exponent := exponentOf ratio
    let mantissa := (ratio.scale 2 (-exponent)).round
    let (mantissa, exponent) :=
      if mantissa = 2 * leastMantissa then (leastMantissa, exponent + 1) else (mantissa, exponent)
    if greatestExponent < exponent then none else some (.finite negative mantissa exponent)

/-- The numbers halfway to the two neighbours, in quarters of a unit in the last place. -/
private def bounds (mantissa : Nat) (exponent : Int) : Ratio × Ratio :=
  let quarters (count : Nat) : Ratio := Ratio.scale ⟨count, 4⟩ 2 exponent
  let below := if mantissa = leastMantissa ∧ leastExponent < exponent then 1 else 2
  (quarters (4 * mantissa - below), quarters (4 * mantissa + 2))

private def within (mantissa : Nat) (exponent : Int) (numeral : Numeral) : Bool :=
  let (low, high) := bounds mantissa exponent
  let ratio := Ratio.ofNumeral numeral
  if mantissa % 2 = 0 then !ratio.less low && !high.less ratio
  else low.less ratio && ratio.less high

/-- The numeral on the grid of a power of ten that reads back, the nearer one if two do. -/
private def onGrid (mantissa : Nat) (exponent power : Int) : Option Numeral :=
  let value := Ratio.scale ⟨mantissa, 1⟩ 2 exponent
  let scaled := value.scale 10 (-power)
  let nearest : Numeral := ⟨scaled.round, power⟩
  let lower : Numeral := ⟨scaled.floor, power⟩
  let upper : Numeral := ⟨scaled.floor + 1, power⟩
  [nearest, lower, upper].find? fun numeral =>
    numeral.coefficient != 0 && within mantissa exponent numeral

/-- The first grid, from coarse to fine, with a numeral that reads back. -/
private def onGrids (mantissa : Nat) (exponent : Int) : Nat → Int → Numeral
  | 0, power => ⟨(Ratio.scale ⟨mantissa, 1⟩ 2 exponent |>.scale 10 (-power)).round, power⟩
  | finer + 1, power =>
    (onGrid mantissa exponent power).getD (onGrids mantissa exponent finer (power - 1))

/-- The numeral with the fewest digits that reads back as this magnitude. -/
def shortest (mantissa : Nat) (exponent : Int) : Numeral :=
  if mantissa = 0 then ⟨0, 0⟩
  else
    let bits : Int := mantissa.log2 + exponent
    let leading := bits * 30103 / 100000 + 1
    onGrids mantissa exponent 20 leading

private def positional (numeral : Numeral) : List Char :=
  let digits := Nat.toDigits 10 numeral.coefficient
  if 0 ≤ numeral.power then
    digits ++ List.replicate numeral.power.toNat '0' ++ ['.', '0']
  else
    let places := (-numeral.power).toNat
    let padded := List.replicate (places + 1 - digits.length) '0' ++ digits
    padded.take (padded.length - places) ++ '.' :: padded.drop (padded.length - places)

/-- The number in full, without an exponent and with at least one decimal place. -/
def text : Binary64 → String
  | .nan => "NaN"
  | .infinite negative => if negative then "-inf" else "inf"
  | .finite negative mantissa exponent =>
    String.ofList <| (if negative then ['-'] else []) ++ positional (shortest mantissa exponent)

end Binary64

end Haulage
