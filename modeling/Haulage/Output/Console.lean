import Haulage.Json.Value

/-! What a command writes. Plain runs report in lines, marked by kind and coloured on request; JSON
runs write one document. Errors are written in every mode and always to the second stream. -/
namespace Haulage

inductive ColorMode where
  | auto
  | always
  | never
  deriving DecidableEq

/-- Color names are compared without regard to ASCII case; an unknown one leaves the choice open. -/
def ColorMode.ofText (text : String) : ColorMode :=
  let lowered := text.toList.map Char.toLower
  if lowered = ['a', 'l', 'w', 'a', 'y', 's'] then .always
  else if lowered = ['n', 'e', 'v', 'e', 'r'] then .never
  else .auto

/-- How a run reports: as JSON or in lines, in which colors, and whether quietly. -/
structure Style where
  json : Bool
  color : ColorMode
  quiet : Bool
  /-- Whether the first stream is a terminal. -/
  terminal : Bool := false
  deriving DecidableEq

namespace Style

def plain : Style := { json := false, color := .auto, quiet := false }

/-- Where the choice of color is left open, a terminal decides it. Documents are never colored. -/
def colored (style : Style) : Bool :=
  !style.json &&
    match style.color with
    | .always => true
    | .never => false
    | .auto => style.terminal

def silencesLines (style : Style) : Bool :=
  style.quiet || style.json

end Style

/-- The text written to each of the two streams. -/
structure Console where
  out : String
  err : String
  deriving DecidableEq

namespace Console

def empty : Console := { out := "", err := "" }

/-- Earlier writing followed by later writing. -/
def append (earlier later : Console) : Console :=
  { out := earlier.out ++ later.out, err := earlier.err ++ later.err }

instance : Append Console := ⟨append⟩

def toOut (text : String) : Console := { empty with out := text }

def toErr (text : String) : Console := { empty with err := text }

/-- A document is written in every mode. -/
def document (value : Json) : Console := toOut (value.pretty ++ "\n")

end Console

namespace Style

private def escape (code : String) : String :=
  String.ofList ['\x1b', '['] ++ code ++ "m"

/-- A marked line; the mark alone is colored. -/
def marked (style : Style) (mark color message : String) : String :=
  (if style.colored then escape color ++ mark ++ escape "0" else mark) ++ " " ++ message ++ "\n"

def success (style : Style) (message : String) : Console :=
  if style.silencesLines then .empty else .toOut (style.marked "✓" "32" message)

def warning (style : Style) (message : String) : Console :=
  if style.silencesLines then .empty else .toErr (style.marked "⚠" "33" message)

def line (style : Style) (message : String) : Console :=
  if style.silencesLines then .empty else .toOut (message ++ "\n")

def error (style : Style) (message : String) : Console :=
  if style.json then
    .toErr ((Json.object [("error", .string message)]).pretty ++ "\n")
  else
    .toErr (style.marked "✗" "31" message)

end Style

end Haulage
