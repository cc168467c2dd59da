import SpotForecast.Decimal.Reading
import SpotForecast.Decimal.Width
import SpotForecast.Text.Radix

/-!
# RON scalars

How names, numbers, strings and characters are written in object notation.

* A name is made of ASCII letters, digits and underscores.  After `r#` it may have points, plus and
  minus signs too.
* Integers may have underscores, and they may be hexadecimal, octal or binary; with a sign they have
  64 bits, and without one they are natural numbers of 64 bits.
* A number is a double if the characters of a double go on for longer than those of an integer, or
  if it is none of these integers.
* Strings have escapes, or they are raw and stand between number signs.
-/

namespace SpotForecast

/-- A value in object notation. -/
inductive Ron where
  /-- A unit, or an option that is not there. -/
  | unit
  | present (v : Ron)
  | bool (b : Bool)
  | integer (i : Int)
  | real (x : Float)
  | string (s : String)
  | list (items : List Ron)
  | map (members : List (Ron × Ron))

namespace Ron

/-- A character that a name may start with. -/
def isNameStart (c : Char) : Bool :=
  c.isAlpha || c == '_'

/-- A character of a name. -/
def isNameChar (c : Char) : Bool :=
  isNameStart c || Decimal.isDigit c

/-- A character of a raw name. -/
def isRawNameChar (c : Char) : Bool :=
  isNameChar c || c == '.' || c == '+' || c == '-'

/-- A name, and what follows; a name that a character of raw names follows is none. -/
def plainName (cs : List Char) : Option (List Char × List Char) :=
  let name := cs.takeWhile isNameChar
  if name.length < (cs.takeWhile isRawNameChar).length then none
  else some (name, cs.drop name.length)

/-- A name, and what follows. -/
def name? (cs : List Char) : Option (List Char × List Char) :=
  match cs with
  | ['r'] => none
  | 'r' :: '"' :: _ => none
  | 'r' :: '#' :: rest =>
    let name := rest.takeWhile isRawNameChar
    if name.isEmpty then none else some (name, rest.drop name.length)
  | c :: _ => if isNameStart c then plainName cs else none
  | [] => none

/-- What follows a word, if it stands at the start of a text and no name goes on behind it. -/
def afterWord? (word : List Char) (cs : List Char) : Option (List Char) :=
  let rest := cs.drop word.length
  if word.isPrefixOf cs && !rest.head?.any isNameChar then some rest else none

/-- A character of an integer. -/
def isIntegerChar (c : Char) : Bool :=
  Text.isHexDigit c || c == '_'

/-- A character of a double. -/
def isRealChar (c : Char) : Bool :=
  Decimal.isDigit c || c == 'e' || c == 'E' || c == '.' || c == '+' || c == '-' || c == '_'

/-- Whether a number without its sign is a double. -/
def isReal (cs : List Char) : Bool :=
  (cs.takeWhile isIntegerChar).length < (cs.takeWhile isRealChar).length

/-- A double, and what follows. -/
def real? (cs : List Char) : Option (Ron × List Char) :=
  let word := cs.takeWhile isRealChar
  if '_' ∈ word then none
  else match Decimal.read word with
    | .ok x => some (.real x, cs.drop word.length)
    | .error _ => none

/-- The base of an integer, and its digits with what follows them. -/
def base (cs : List Char) : Nat × List Char :=
  match cs with
  | '0' :: 'x' :: rest => (16, rest)
  | '0' :: 'o' :: rest => (8, rest)
  | '0' :: 'b' :: rest => (2, rest)
  | _ => (10, cs)

/-- A natural number, and what follows; it may have underscores, but not at its start. -/
def natural? (cs : List Char) : Option (Nat × List Char) :=
  let (b, rest) := base cs
  let word := rest.takeWhile isIntegerChar
  if word.head? = some '_' then none
  else (Text.number? b (word.filter (· != '_'))).map (fun n => (n, rest.drop word.length))

/-- An integer with a sign of 64 bits. -/
def signed? (negative : Bool) (cs : List Char) : Option (Ron × List Char) := do
  let (n, rest) ← natural? cs
  let i : Int := if negative then -n else n
  if Decimal.isSigned64 i then some (.integer i, rest) else none

/-- A natural number of 64 bits as an integer if it fits with a sign, and as a double otherwise. -/
def unsigned? (cs : List Char) : Option (Ron × List Char) := do
  let (n, rest) ← natural? cs
  if Decimal.isSigned64 n then some (.integer n, rest)
  else if n < Decimal.limit64 then some (.real (Float.ofNat n), rest)
  else none

/-- An integer, and what follows. -/
def integer? (cs : List Char) : Option (Ron × List Char) :=
  match cs with
  | '+' :: rest => signed? false rest
  | '-' :: rest => signed? true rest
  | _ => unsigned? cs

/-- A text without a sign at its start. -/
def withoutSign (cs : List Char) : List Char :=
  match cs with
  | '+' :: rest => rest
  | '-' :: rest => rest
  | _ => cs

/-- A number, and what follows. -/
def number? (cs : List Char) : Option (Ron × List Char) :=
  if isReal (withoutSign cs) then real? cs
  else match integer? cs with
    | some found => some found
    | none => real? cs

/-- The character that a letter after a backslash stands for. -/
def escape? (c : Char) : Option Char :=
  if c = '\'' ∨ c = '"' ∨ c = '\\' then some c
  else if c = 'n' then some '\n'
  else if c = 'r' then some '\r'
  else if c = 't' then some '\t'
  else if c = '0' then some '\x00'
  else none

/-- The character whose number stands in one to six hexadecimal digits before a brace, and what
follows the brace. -/
def bracedChar? (cs : List Char) : Option (Char × List Char) :=
  let digits := (cs.take 6).takeWhile (· != '\x7d')
  match cs.drop digits.length with
  | '\x7d' :: rest => (Text.scalar? digits).map (fun c => (c, rest))
  | _ => none

/-- The character that stands after a backslash, and what follows. -/
def escaped? (cs : List Char) : Option (Char × List Char) :=
  match cs with
  | 'x' :: rest => Text.numbered? 2 rest
  | 'u' :: '\x7b' :: rest => bracedChar? rest
  | c :: rest => (escape? c).map (fun x => (x, rest))
  | [] => none

/-- The text of a string up to its quotation mark, and what follows; `done` is what has been read,
the last character first.  Every step takes a character. -/
def string? : Nat → List Char → List Char → Option (String × List Char)
  | 0, _, _ => none
  | fuel + 1, done, cs =>
    match cs with
    | [] => none
    | '"' :: rest => some (String.ofList done.reverse, rest)
    | '\\' :: rest => do
      let (c, rest) ← escaped? rest
      string? fuel (c :: done) rest
    | c :: rest => string? fuel (c :: done) rest

/-- The text of a raw string up to its end, and what follows. -/
def rawText? (ending : List Char) : List Char → Option (List Char × List Char)
  | [] => none
  | c :: rest =>
    if ending.isPrefixOf (c :: rest) then some ([], (c :: rest).drop ending.length)
    else (rawText? ending rest).map (fun (text, rest) => (c :: text, rest))

/-- A raw string after its first letter, and what follows. -/
def rawString? (cs : List Char) : Option (String × List Char) :=
  let marks := cs.takeWhile (· == '#')
  match cs.drop marks.length with
  | '"' :: rest =>
    (rawText? ('"' :: marks) rest).map (fun (text, rest) => (String.ofList text, rest))
  | _ => none

/-- A character after its first quotation mark, and what follows the second one. -/
def char? (cs : List Char) : Option (String × List Char) := do
  let (c, rest) ← match cs with
    | '\\' :: rest => escaped? rest
    | c :: rest => if c = '\'' then none else some (c, rest)
    | [] => none
  match rest with
  | '\'' :: rest => some (String.singleton c, rest)
  | _ => none

end Ron

end SpotForecast
