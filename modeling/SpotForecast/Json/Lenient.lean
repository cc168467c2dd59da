import SpotForecast.Decimal.Reading
import SpotForecast.Json.Token
import SpotForecast.Json.Value
import SpotForecast.Text.Blank
import SpotForecast.Text.Radix
import SpotForecast.Text.Words

/-!
# JSON for people

`Json.lenient` reads JSON in the form in which people like to write it.

* There are comments, and every blank and line end of Unicode may stand between the parts.
* Keys may be names without quotation marks, strings may stand between single ones, and a comma may
  stand after the last item.
* Strings may go on after a backslash at the end of a line.  The names without quotation marks may
  have escapes of four digits, and like strings no surrogate that stands alone.
* Numbers may have a plus sign, a point at either end, or hexadecimal digits, and they may be
  infinite or not a number.  An integer has 64 bits with its sign; a hexadecimal one has no sign and
  32 bits.
-/

namespace SpotForecast.Json

/-- The end of a line. -/
def isLineBreak (c : Char) : Bool :=
  c == '\n' || c == '\r' || c == '\u2028' || c == '\u2029'

/-- A blank between the parts of a lenient text: a blank of Unicode other than the next line, or the
mark for the order of bytes. -/
def isLenientSpace (c : Char) : Bool :=
  (Text.isBlank c && c != '\u0085') || c == '\ufeff'

/-- Where the skipping of blanks and comments stands. -/
inductive GapState where
  | plain
  | line
  | block
deriving DecidableEq, Repr

/-- A text without the blanks and comments at its start; a comment between marks has to end. -/
def gap : GapState → List Char → Option (List Char)
  | .plain, '/' :: '/' :: rest => gap .line rest
  | .plain, '/' :: '*' :: rest => gap .block rest
  | .plain, c :: rest => if isLenientSpace c then gap .plain rest else some (c :: rest)
  | .line, c :: rest => if isLineBreak c then gap .plain rest else gap .line rest
  | .block, '*' :: '/' :: rest => gap .plain rest
  | .block, _ :: rest => gap .block rest
  | .block, [] => none
  | _, [] => some []

/-- The character that a letter after a backslash stands for. -/
def lenientEscape (c : Char) : Char :=
  if c = 'b' then '\x08'
  else if c = 'f' then '\x0c'
  else if c = 'n' then '\n'
  else if c = 'r' then '\r'
  else if c = 't' then '\t'
  else if c = 'v' then '\x0b'
  else if c = '0' then '\x00'
  else c

/-- What a string is made of up to its quotation mark, and what follows. -/
def lenientParts (mark : Char) : List Char → Option (List StringPart × List Char)
  | [] => none
  | '\\' :: '\r' :: '\n' :: rest => lenientParts mark rest
  | '\\' :: 'x' :: a :: b :: rest => do
    let x ← Text.scalar? [a, b]
    consPart (.char x) (lenientParts mark rest)
  | '\\' :: 'u' :: a :: b :: c :: d :: rest => do
    let n ← Text.number? 16 [a, b, c, d]
    consPart (.unit n) (lenientParts mark rest)
  | '\\' :: c :: rest =>
    if isLineBreak c then lenientParts mark rest
    else if c = 'x' ∨ c = 'u' ∨ (Decimal.isDigit c ∧ c ≠ '0') then none
    else consPart (.char (lenientEscape c)) (lenientParts mark rest)
  | c :: rest =>
    if c = mark then some ([], rest)
    else if c = '\\' ∨ isLineBreak c then none
    else consPart (.char c) (lenientParts mark rest)

/-- The text of what was read, and what follows. -/
def joined? (found : List StringPart × List Char) : Option (String × List Char) :=
  (joinParts found.1).map (fun cs => (String.ofList cs, found.2))

/-- The text of a string after its first quotation mark, and what follows. -/
def lenientString (mark : Char) (cs : List Char) : Option (String × List Char) :=
  (lenientParts mark cs).bind joined?

/-- A character that a name may start with. -/
def isNameStart (c : Char) : Bool :=
  c == '$' || c == '_' || Text.isWordLetter c

/-- A character of a name. -/
def isNamePart (c : Char) : Bool :=
  isNameStart c || Text.isJoined c || c == '\u200c' || c == '\u200d'

/-- What the rest of a name without quotation marks is made of, and what follows; `first` says that
nothing of it has been read yet. -/
def nameRest (first : Bool) : List Char → Option (List StringPart × List Char)
  | '\\' :: 'u' :: a :: b :: c :: d :: rest => do
    let n ← Text.number? 16 [a, b, c, d]
    consPart (.unit n) (nameRest false rest)
  | c :: rest =>
    if isNameStart c ∨ (!first ∧ isNamePart c) then consPart (.char c) (nameRest false rest)
    else if first then none
    else some ([], c :: rest)
  | [] => if first then none else some ([], [])

/-- A key, and what follows. -/
def lenientKey (cs : List Char) : Option (String × List Char) :=
  match cs with
  | '"' :: rest => lenientString '"' rest
  | '\'' :: rest => lenientString '\'' rest
  | _ => (nameRest true cs).bind joined?

/-- The digits before a point, without a superfluous zero, and what follows. -/
def lenientWhole (cs : List Char) : List Char × List Char :=
  match cs with
  | '0' :: rest => (['0'], rest)
  | _ => Decimal.spanDigits cs

/-- An exponent with its letter, and what follows; nothing if there is none. -/
def lenientExponent (cs : List Char) : List Char × List Char :=
  match cs with
  | c :: rest =>
    let (sign, digits) := match rest with
      | '-' :: digits => (['-'], digits)
      | '+' :: digits => ([], digits)
      | digits => ([], digits)
    let (power, after) := Decimal.spanDigits digits
    if (c = 'e' ∨ c = 'E') ∧ !power.isEmpty then ('e' :: sign ++ power, after) else ([], cs)
  | [] => ([], [])

/-- A decimal number with its sign, and what follows. -/
def lenientDecimal (sign cs : List Char) : Option (Number × List Char) :=
  let (whole, rest) := lenientWhole cs
  let (point, fraction, rest) := match rest with
    | '.' :: rest => (['.'], Decimal.spanDigits rest)
    | _ => ([], [], rest)
  let (exponent, rest) := lenientExponent rest
  if whole.isEmpty ∧ fraction.isEmpty then none
  else if point.isEmpty ∧ exponent.isEmpty then do
    let i ← Decimal.readInteger (sign ++ whole)
    if Decimal.isSigned64 i then some (.integer i, rest) else none
  else
    match Decimal.read (sign ++ whole ++ point ++ fraction ++ exponent) with
    | .ok x => if x.isFinite then some (.real x, rest) else none
    | .error _ => none

/-- The words for numbers that are not finite. -/
def numberWords : List (List Char × Float) :=
  [("Infinity".toList, Decimal.infinity), ("-Infinity".toList, -Decimal.infinity),
    ("NaN".toList, Decimal.notANumber), ("-NaN".toList, Decimal.notANumber)]

/-- A number, and what follows. -/
def lenientNumber (cs : List Char) : Option (Number × List Char) :=
  match numberWords.find? (fun w => w.1.isPrefixOf cs) with
  | some (word, x) => some (.real x, cs.drop word.length)
  | none =>
    match cs with
    | '0' :: c :: rest =>
      let digits := rest.takeWhile Text.isHexDigit
      if (c = 'x' ∨ c = 'X') ∧ !digits.isEmpty then do
        let n ← Text.number? 16 digits
        if n < Decimal.limit32 then some (.integer n, rest.drop digits.length) else none
      else lenientDecimal [] cs
    | '+' :: rest => lenientDecimal ['+'] rest
    | '-' :: rest => lenientDecimal ['-'] rest
    | _ => lenientDecimal [] cs

/-- The words of JSON and the values that they stand for. -/
def lenientWords : List (List Char × Json) :=
  [("null".toList, .null), ("true".toList, .bool true), ("false".toList, .bool false)]

/-- A word, a string or a number, and what follows. -/
def lenientScalar (cs : List Char) : Option (Json × List Char) :=
  match lenientWords.find? (fun w => w.1.isPrefixOf cs) with
  | some (word, v) => some (v, cs.drop word.length)
  | none =>
    match cs with
    | '"' :: rest => (lenientString '"' rest).map (fun (s, rest) => (.string s, rest))
    | '\'' :: rest => (lenientString '\'' rest).map (fun (s, rest) => (.string s, rest))
    | _ => (lenientNumber cs).map (fun (n, rest) => (.number n, rest))

mutual

/-- A value, and what follows.  Every step takes a character or goes on to one that does, so fuel
for two steps per character is never used up. -/
def lenientValue : Nat → List Char → Option (Json × List Char)
  | 0, _ => none
  | fuel + 1, cs =>
    match cs with
    | '[' :: rest => lenientItems fuel [] rest
    | '\x7b' :: rest => lenientMembers fuel [] rest
    | _ => lenientScalar cs

/-- The items of an array after those that were read, the last one first, and what follows. -/
def lenientItems : Nat → List Json → List Char → Option (Json × List Char)
  | 0, _, _ => none
  | fuel + 1, done, cs => do
    match ← gap .plain cs with
    | ']' :: rest => pure (.array done.reverse, rest)
    | cs => do
      let (v, rest) ← lenientValue fuel cs
      match ← gap .plain rest with
      | ',' :: rest => lenientItems fuel (v :: done) rest
      | ']' :: rest => pure (.array (v :: done).reverse, rest)
      | _ => none

/-- The members of an object after those that were read, the last one first, and what follows. -/
def lenientMembers : Nat → List (String × Json) → List Char → Option (Json × List Char)
  | 0, _, _ => none
  | fuel + 1, done, cs => do
    match ← gap .plain cs with
    | '\x7d' :: rest => pure (.object done.reverse, rest)
    | cs => do
      let (k, rest) ← lenientKey cs
      match ← gap .plain rest with
      | ':' :: rest => do
        let (v, rest) ← lenientValue fuel (← gap .plain rest)
        match ← gap .plain rest with
        | ',' :: rest => lenientMembers fuel ((k, v) :: done) rest
        | '\x7d' :: rest => pure (.object ((k, v) :: done).reverse, rest)
        | _ => none
      | _ => none

end

/-- The value of a lenient text, with the members of objects in the order of their keys. -/
def lenient (text : String) : Option Json := do
  let cs ← gap .plain text.toList
  let (v, rest) ← lenientValue (2 * cs.length + 2) cs
  match ← gap .plain rest with
  | [] => pure (sorted v)
  | _ => none

end SpotForecast.Json
