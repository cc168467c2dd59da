import SpotForecast.Decimal.Shortest
import SpotForecast.Json.Value

/-!
# Writing JSON

* `Json.compact` writes a value without any blank, `Json.pretty` with two blanks per level.
* Strings escape the quote, the backslash and the characters below the blank, nothing else.
* Integers are written as they are.  Doubles have the fewest digits that read back, a tie going to
  the even neighbour, and always a point or an exponent: positional notation where the first digit
  stands for `10 ^ -5` to `10 ^ 15`, otherwise one digit before the point and an exponent with its
  sign.
* A double that is no finite number is written as `null`.
-/

namespace SpotForecast.Json

/-- The lower-case hexadecimal digit of a number below sixteen. -/
def hexDigit (n : Nat) : Char :=
  Nat.digitChar n

/-- A character as it stands inside a string. -/
def escapeChar (c : Char) : List Char :=
  if c = '"' then ['\\', '"']
  else if c = '\\' then ['\\', '\\']
  else if c = '\x08' then ['\\', 'b']
  else if c = '\t' then ['\\', 't']
  else if c = '\n' then ['\\', 'n']
  else if c = '\x0c' then ['\\', 'f']
  else if c = '\r' then ['\\', 'r']
  else if c.toNat < 0x20 then
    ['\\', 'u', '0', '0', hexDigit (c.toNat / 16), hexDigit (c.toNat % 16)]
  else [c]

/-- A string in quotes. -/
def quote (cs : List Char) : List Char :=
  '"' :: cs.flatMap escapeChar ++ ['"']

/-- The least exponent of ten of a first digit that is written positionally. -/
def leastPositional : Int := -5

/-- The greatest exponent of ten of a first digit that is written positionally. -/
def greatestPositional : Int := 15

/-- A positive decimal as a JSON number with a point or an exponent. -/
def decimalText (d : Decimal.Scientific) : List Char :=
  let (digits, lead) := d.leading
  if leastPositional ≤ lead ∧ lead ≤ greatestPositional then
    if 0 ≤ d.exponent then d.positional ++ ['.', '0'] else d.positional
  else
    let mantissa := match digits with
      | [] => []
      | [first] => [first]
      | first :: rest => first :: '.' :: rest
    let sign := if lead < 0 then ['-'] else ['+']
    mantissa ++ 'e' :: sign ++ Decimal.digitsOf lead.natAbs

/-- A double as a JSON value. -/
def realText (x : Float) : List Char :=
  if x.isFinite then
    let sign := if Decimal.isNegative x then ['-'] else []
    if x == 0.0 then sign ++ ['0', '.', '0'] else sign ++ decimalText (Decimal.shortest .even x.abs)
  else "null".toList

/-- An integer in decimal. -/
def integerText (i : Int) : List Char :=
  if i < 0 then '-' :: Decimal.digitsOf i.natAbs else Decimal.digitsOf i.natAbs

/-- A number as a JSON value. -/
def Number.text : Number → List Char
  | .integer i => integerText i
  | .real x => realText x

mutual

/-- A value without blanks. -/
def compactChars : Json → List Char
  | .null => "null".toList
  | .bool true => "true".toList
  | .bool false => "false".toList
  | .number n => n.text
  | .string s => quote s.toList
  | .array items => '[' :: compactItems true items ++ [']']
  | .object members => '\x7b' :: compactMembers true members ++ ['\x7d']

/-- Items with commas between them; `first` says that none came before. -/
def compactItems (first : Bool) : List Json → List Char
  | [] => []
  | v :: rest => (if first then [] else [',']) ++ compactChars v ++ compactItems false rest

/-- Members with commas between them; `first` says that none came before. -/
def compactMembers (first : Bool) : List (String × Json) → List Char
  | [] => []
  | (k, v) :: rest =>
    (if first then [] else [',']) ++ quote k.toList ++ ':' :: compactChars v ++
      compactMembers false rest

end

/-- A value without blanks, as text. -/
def compact (v : Json) : String :=
  String.ofList (compactChars v)

/-- A line break and the indentation of a level. -/
def newLine (level : Nat) : List Char :=
  '\n' :: List.replicate (2 * level) ' '

mutual

/-- A value on lines of its own, at a level of indentation. -/
def prettyChars (level : Nat) : Json → List Char
  | .array [] => ['[', ']']
  | .array (item :: items) =>
    '[' :: prettyItems (level + 1) true (item :: items) ++ newLine level ++ [']']
  | .object [] => ['\x7b', '\x7d']
  | .object (member :: members) =>
    '\x7b' :: prettyMembers (level + 1) true (member :: members) ++ newLine level ++ ['\x7d']
  | v => compactChars v

/-- Items, each on its own line. -/
def prettyItems (level : Nat) (first : Bool) : List Json → List Char
  | [] => []
  | v :: rest =>
    (if first then [] else [',']) ++ newLine level ++ prettyChars level v ++
      prettyItems level false rest

/-- Members, each on its own line. -/
def prettyMembers (level : Nat) (first : Bool) : List (String × Json) → List Char
  | [] => []
  | (k, v) :: rest =>
    (if first then [] else [',']) ++ newLine level ++ quote k.toList ++ ':' :: ' ' ::
      prettyChars level v ++ prettyMembers level false rest

end

/-- A value over several lines, as text. -/
def pretty (v : Json) : String :=
  String.ofList (prettyChars 0 v)

end SpotForecast.Json
