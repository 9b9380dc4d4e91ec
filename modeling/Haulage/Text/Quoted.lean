import Haulage.Text.GraphemeExtend
import Haulage.Text.Printable

/-! A text shown between quotes on one line, so that every character can be told from the others:
marks and invisible characters are written by name or number. -/
namespace Haulage.Text

private def numbered (c : Char) : List Char :=
  '\\' :: 'u' :: '\x7b' :: Nat.toDigits 16 c.toNat ++ ['\x7d']

/-- How one character is shown inside quotes. -/
def shownCharacter (c : Char) : List Char :=
  if c = '"' then ['\\', '"']
  else if c = '\\' then ['\\', '\\']
  else if c = '\n' then ['\\', 'n']
  else if c = '\r' then ['\\', 'r']
  else if c = '\t' then ['\\', 't']
  else if c.toNat = 0 then ['\\', '0']
  else if c.toNat < 32 ∨ c.toNat = 127 then numbered c
  else if c.toNat < 127 then [c]
  else if unprintable.contains c || graphemeExtend.contains c then numbered c
  else [c]

/-- The text between quotes. -/
def shown (text : String) : String :=
  String.ofList ('"' :: text.toList.flatMap shownCharacter ++ ['"'])

end Haulage.Text
