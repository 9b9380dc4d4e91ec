import Haulage.Url.Domain.Composition
import Haulage.Url.Domain.Direction
import Haulage.Url.Domain.Joining
import Haulage.Url.Domain.Mapping
import Haulage.Url.Domain.Punycode

/-! Domain names as typed. Reading a name folds case, drops invisible characters, resolves
compatibility forms and joins characters with their marks; the labels that result have to be fit to
stand in a name. -/
namespace Haulage.Url.Domain

private def ascii (c : Char) : Bool := decide (c.toNat < 128)

/-- ASCII characters that no name may hold once it is read. -/
def forbidden (c : Char) : Bool :=
  c.toNat ≤ 32 || c.toNat == 127 || ['%', '#', '/', ':', '<', '>', '?', '@', '[', '\\', ']', '^',
    '|'].contains c

private def standsForItself (c : Char) : Bool :=
  read? c == some [c]

/-- The label without its spelling: a marked one is decoded, and what it spells is as reading it would
leave it. -/
def decodeLabel? (label : List Char) : Option (List Char) :=
  match label with
  | 'x' :: 'n' :: '-' :: '-' :: spelled =>
    match Punycode.decode? spelled with
    | some decoded =>
      if decoded.all ascii || !decoded.all standsForItself || composed decoded != decoded then none
      else some decoded
    | none => none
  | _ => some label

private def wellFormed (label : List Char) : Bool :=
  !label.head?.any combiningMarks.contains && joinersInPlace [] label

private def directions (label : List Char) : List Direction :=
  label.map Direction.of

/-- The name as it is looked up, save that labels beyond ASCII keep their characters; none if the
text is not fit to be a name. -/
def normalize? (text : List Char) : Option (List Char) := do
  let name := composed (← text.mapM read?).flatten
  let labels ← (name.splitOn '.').mapM decodeLabel?
  let turned := labels.any fun label => (directions label).any Direction.turns
  if name.any forbidden || !labels.all wellFormed ||
      (turned && !labels.all fun label => Direction.consistent (directions label)) then none
  else some name

end Haulage.Url.Domain
