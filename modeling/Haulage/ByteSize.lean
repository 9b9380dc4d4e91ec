import Haulage.Decimal.Rounding

/-! The size of a file in words: the largest binary unit that fits, whole when the number of units
is whole and with two decimal places otherwise. -/
namespace Haulage.ByteSize

/-- Units in ascending order, each 1024 of the one before. -/
def units : List String := ["KiB", "MiB", "GiB", "TiB", "PiB", "EiB"]

/-- The unit to write an amount in, with the number of bytes that make one of it. -/
def unitOf (bytes : Nat) : List String → String × Nat → String × Nat
  | [], current => current
  | next :: larger, (name, factor) =>
    if bytes < factor * 1024 then (name, factor)
    else unitOf bytes larger (next, factor * 1024)

private def twoPlaces (hundredths : Nat) : String :=
  let fraction := hundredths % 100
  toString (hundredths / 100) ++ (if fraction < 10 then ".0" else ".") ++ toString fraction

/-- Amounts are read with 53 significant bits before they are divided. -/
def human (size : Nat) : String :=
  let bytes := Decimal.roundToBits 53 size
  let (name, factor) := unitOf bytes units ("B", 1)
  let amount :=
    if bytes % factor = 0 then toString (bytes / factor)
    else twoPlaces (Decimal.roundDiv (bytes * 100) factor)
  amount ++ " " ++ name

end Haulage.ByteSize
