import SpotForecast.Text.Hidden

/-!
# Quoted texts

`quoted` writes a text between quotation marks for a developer to read: quotation marks and
backslashes have a backslash before them, line feeds, carriage returns, tabs and zeros have letters,
and other hidden characters have their number.
-/

namespace SpotForecast.Text

/-- A character inside a quoted text. -/
def quotedChar (c : Char) : List Char :=
  if c = '"' ∨ c = '\\' then ['\\', c]
  else if c = '\n' then ['\\', 'n']
  else if c = '\r' then ['\\', 'r']
  else if c = '\t' then ['\\', 't']
  else if c = '\x00' then ['\\', '0']
  else if isHidden c then ['\\', 'u', '\x7b'] ++ Nat.toDigits 16 c.toNat ++ ['\x7d']
  else [c]

/-- A text between quotation marks. -/
def quoted (text : String) : String :=
  String.ofList ('"' :: text.toList.flatMap quotedChar ++ ['"'])

end SpotForecast.Text
