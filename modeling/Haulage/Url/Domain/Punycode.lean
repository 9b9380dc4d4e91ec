/-! Labels of domain names that spell characters beyond ASCII with letters, digits and hyphens. The
digits after the last hyphen say which characters are inserted and where, each as the distance from
the insertion before. -/
namespace Haulage.Url.Domain.Punycode

private def digitValue? (c : Char) : Option Nat :=
  if c.isDigit then some (c.toNat - '0'.toNat + 26)
  else if c.isLower then some (c.toNat - 'a'.toNat)
  else if c.isUpper then some (c.toNat - 'A'.toNat)
  else none

/-- The value from which on a digit is not the last of its number. -/
def threshold (position bias : Nat) : Nat :=
  max 1 (min 26 (position - bias))

private def reduce (delta steps : Nat) : Nat :=
  if delta ≤ 455 then steps * 36 + 36 * delta / (delta + 38)
  else reduce (delta / 35) (steps + 1)
termination_by delta
decreasing_by omega

/-- The bias for the next number, from the size of the last one. -/
def adapt (delta length : Nat) (first : Bool) : Nat :=
  let scaled := if first then delta / 700 else delta / 2
  reduce (scaled + scaled / length) 0

/-- Decoding between two digits: the text so far, and the number that is being read. -/
structure State where
  text : List Nat
  code : Nat
  bias : Nat
  start : Nat
  index : Nat
  weight : Nat
  position : Nat
  inserted : Bool

namespace State

def initial (text : List Nat) : State where
  text := text
  code := 128
  bias := 72
  start := 0
  index := 0
  weight := 1
  position := 36
  inserted := false

/-- Inserts the character that the finished number denotes. -/
def insert? (state : State) : Option State :=
  let length := state.text.length + 1
  let code := state.code + state.index / length
  let place := state.index % length
  if code.isValidChar then
    some {
      text := state.text.take place ++ code :: state.text.drop place
      code := code
      bias := adapt (state.index - state.start) length (!state.inserted)
      start := place + 1
      index := place + 1
      weight := 1
      position := 36
      inserted := true }
  else none

/-- The least number of more than 32 bits. -/
def wordLimit : Nat := 0x100000000

/-- Numbers of more than 32 bits are refused. -/
def read? (state : State) (c : Char) : Option State := do
  let digit ← digitValue? c
  let index := state.index + digit * state.weight
  if wordLimit ≤ index then none
  else
    let last := threshold state.position state.bias
    if digit < last then insert? { state with index := index }
    else
      let weight := state.weight * (36 - last)
      if wordLimit ≤ weight then none
      else some { state with index := index, weight := weight, position := state.position + 36 }

end State

/-- The label that the text after the label's mark spells. -/
def decode? (text : List Char) : Option (List Char) := do
  let tail := (text.reverse.takeWhile (· != '-')).reverse
  let plain := (text.take (text.length - tail.length)).dropLast
  let digits := if plain.isEmpty then text else tail
  let final ← digits.foldlM State.read? (State.initial (plain.map Char.toNat))
  if final.weight = 1 then some (final.text.map Char.ofNat) else none

end Haulage.Url.Domain.Punycode
