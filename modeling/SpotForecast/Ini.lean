import SpotForecast.Text.Blank
import SpotForecast.Text.Radix

/-!
# INI files

A file of entries `name = value`, one to a line, under headers in brackets.  `Ini.parse` reads all
of it or nothing.

* Blanks around headers, names and values do not count.  A colon may stand for the equals sign.
* A line that starts with a semicolon or a number sign is a comment; a comment may start nowhere
  else.
* A value may stand between quotation marks, over several lines; what follows them up to the end of
  the line belongs to it.
* A backslash takes its meaning from the character after it, in headers and names too.
-/

namespace SpotForecast

/-- The entries under a header, in the order in which they are written. -/
abbrev Ini.Entries := List (String × String)

/-- What an INI file says: the entries before the first header, and those under each header. -/
structure Ini where
  general : Ini.Entries
  sections : List (String × Ini.Entries)
deriving DecidableEq, Repr

namespace Ini

/-- A file that says nothing. -/
def empty : Ini := ⟨[], []⟩

/-- A file with one more entry under its last header. -/
def add (name value : String) (file : Ini) : Ini :=
  match file.sections.getLast? with
  | none => { file with general := file.general ++ [(name, value)] }
  | some (header, entries) =>
    { file with sections := file.sections.dropLast ++ [(header, entries ++ [(name, value)])] }

/-- A file with one more header. -/
def openSection (header : String) (file : Ini) : Ini :=
  { file with sections := file.sections ++ [(header, [])] }

/-- Whether a text starts a line after the blanks at its start, and what follows them; `atStart`
says whether the blanks start a line. -/
def skipBlanks (atStart : Bool) : List Char → Bool × List Char
  | [] => (atStart, [])
  | c :: rest => if Text.isBlank c then skipBlanks (c == '\n') rest else (atStart, c :: rest)

/-- The end of a line. -/
def isLineEnd (c : Char) : Bool :=
  c == '\n' || c == '\r'

/-- The character that a letter after a backslash stands for. -/
def unescape (c : Char) : Char :=
  if c = '0' then '\x00'
  else if c = 'a' then '\x07'
  else if c = 'b' then '\x08'
  else if c = 't' then '\t'
  else if c = 'r' then '\r'
  else if c = 'n' then '\n'
  else c

/-- The character with a number of four hexadecimal digits, the first of which may be a plus sign.
-/
def numbered? : List Char → Option Char
  | '+' :: digits => Text.scalar? digits
  | digits => Text.scalar? digits

/-- Puts a character in front of the text that was read. -/
def withChar (c : Char) (r : List Char × List Char) : List Char × List Char :=
  (c :: r.1, r.2)

/-- The text up to a character of a class, and what follows from there on; `mayEnd` says whether the
file may end before it.  A backslash at the end of a line takes the line end away. -/
def spanUntil (stop : Char → Bool) (mayEnd : Bool) : List Char → Option (List Char × List Char)
  | [] => if mayEnd then some ([], []) else none
  | ['\\'] => none
  | '\\' :: 'x' :: a :: b :: c :: d :: rest => do
    let x ← numbered? [a, b, c, d]
    (spanUntil stop mayEnd rest).map (withChar x)
  | '\\' :: c :: rest =>
    if c = '\n' then spanUntil stop mayEnd rest
    else if c = 'x' then none
    else (spanUntil stop mayEnd rest).map (withChar (unescape c))
  | c :: rest =>
    if stop c then some ([], c :: rest) else (spanUntil stop mayEnd rest).map (withChar c)

/-- A text between quotation marks with the rest of its line, and what follows. -/
def quoted (mark : Char) (cs : List Char) : Option (List Char × List Char) := do
  let (inner, rest) ← spanUntil (· == mark) false cs
  let (after, rest) ← spanUntil isLineEnd true (rest.drop 1)
  pure (inner ++ after, rest)

/-- A value, and what follows. -/
def value (cs : List Char) : Option (List Char × List Char) :=
  match cs.dropWhile (fun c => Text.isBlank c && !isLineEnd c) with
  | '"' :: rest => quoted '"' rest
  | '\'' :: rest => quoted '\'' rest
  | rest => spanUntil isLineEnd true rest

/-- The text of what was read, without the blanks around it. -/
def trimmed (cs : List Char) : String :=
  String.ofList (Text.trim cs)

/-- The file after the rest of its text.  `name` is the name whose value comes next, if there is
one.  Every step takes a character. -/
def statements : Nat → Bool → String → Ini → List Char → Option Ini
  | 0, _, _, _, _ => none
  | fuel + 1, atStart, name, file, cs =>
    match skipBlanks atStart cs with
    | (_, []) => some file
    | (atStart, c :: rest) =>
      if c = ';' ∨ c = '#' then
        if atStart then
          statements fuel true name file ((rest.dropWhile (· != '\n')).drop 1)
        else none
      else if c = '[' then do
        let (header, rest) ← spanUntil (· == ']') false rest
        statements fuel false name (file.openSection (trimmed header)) (rest.drop 1)
      else if c = '=' ∨ c = ':' then
        if name = "" then none
        else do
          let (v, rest) ← value rest
          statements fuel false "" (file.add name (trimmed v)) rest
      else do
        let (name, rest) ← spanUntil (fun c => c == '=' || c == ':') false (c :: rest)
        statements fuel false (trimmed name) file rest

/-- What the text of a file says. -/
def parse (text : String) : Option Ini :=
  statements (text.length + 1) true "" empty text.toList

end Ini

end SpotForecast
